import BrowserCheck.Proofs.Run.Separated
import BrowserCheck.Proofs.Text.Occurrences
import Mathlib.Data.List.DropRight

set_option autoImplicit false

namespace BrowserCheck

open Json
open Text (Bytes First encode utf8)

namespace Text

def Trims (s inner : List Char) : Prop :=
  (∃ front back, s = front ++ (inner ++ back) ∧ ∀ c ∈ front ++ back, isBlank c = true) ∧
    (∀ c ∈ inner.head?, isBlank c = false) ∧ ∀ c ∈ inner.getLast?, isBlank c = false

lemma trims_trim (s : List Char) : Trims s (trim s) := by
  have hstart : s.takeWhile isBlank ++ trimStart s = s := List.takeWhile_append_dropWhile
  have hend : trim s ++ (trimStart s).rtakeWhile isBlank = trimStart s := List.rdropWhile_append_rtakeWhile
  refine ⟨⟨s.takeWhile isBlank, (trimStart s).rtakeWhile isBlank, ?_, fun c hc => ?_⟩, fun c hc => ?_, fun c hc => ?_⟩
  · rw [hend, hstart]
  · rcases List.mem_append.mp hc with hc | hc
    · exact List.mem_takeWhile_imp hc
    · exact List.mem_rtakeWhile_imp hc
  · have hhead : (trimStart s).head? = some c := by
      rw [← hend, List.head?_append, Option.mem_def.mp hc, Option.some_or]
    have hnot := List.head?_dropWhile_not isBlank s
    rw [← trimStart, hhead] at hnot
    exact hnot
  · have hne : trim s ≠ [] := by
      rintro he
      rw [he] at hc
      cases hc
    obtain rfl : (trim s).getLast hne = c := by
      rw [List.getLast?_eq_some_getLast hne] at hc
      exact Option.some.inj hc
    exact Bool.eq_false_iff.mpr (List.rdropWhile_last_not isBlank (trimStart s) hne)

end Text

namespace Channel

def Framed (c : Channel) (bytes : Bytes) : Prop :=
  ∃ before opened, bytes = before ++ (encode c.startMarker ++ opened) ∧
    First (encode c.startMarker) before opened ∧ encode c.endMarker <:+: opened

/-- What is left of some bytes, and the payload that was taken out of them. The span reaches from the first
start marker to the end marker that follows next. -/
inductive Removed (c : Channel) : Bytes → Bytes → Option Bytes → Prop
  | span (before payload after : Bytes) :
      First (encode c.startMarker) before (payload ++ (encode c.endMarker ++ after)) →
      First (encode c.endMarker) payload after →
      Removed c (before ++ (encode c.startMarker ++ (payload ++ (encode c.endMarker ++ after)))) (before ++ after)
        (some payload)
  | untouched (bytes : Bytes) : ¬c.Framed bytes → Removed c bytes bytes none

variable {c : Channel} {bytes left left' : Bytes} {payload payload' : Option Bytes}

lemma framed_span {before payload after : Bytes}
    (h : First (encode c.startMarker) before (payload ++ (encode c.endMarker ++ after))) :
    c.Framed (before ++ (encode c.startMarker ++ (payload ++ (encode c.endMarker ++ after)))) :=
  ⟨before, _, rfl, h, payload, after, List.append_assoc _ _ _⟩

lemma Removed.isSome_iff (h : c.Removed bytes left payload) : payload.isSome = true ↔ c.Framed bytes := by
  cases h with
  | span before payload after ho hc => simpa using framed_span ho
  | untouched bytes hn => simpa using hn

lemma Removed.unique (h : c.Removed bytes left payload) (h' : c.Removed bytes left' payload') :
    left = left' ∧ payload = payload' := by
  cases h with
  | untouched bytes hn =>
    cases h' with
    | span before payload after ho hc => exact absurd (framed_span ho) hn
    | untouched bytes hn' => exact ⟨rfl, rfl⟩
  | span before payload after ho hc =>
    generalize he : before ++ (encode c.startMarker ++ (payload ++ (encode c.endMarker ++ after))) = bytes at h'
    cases h' with
    | untouched bytes hn => exact absurd (he ▸ framed_span ho) hn
    | span before' payload' after' ho' hc' =>
      obtain ⟨rfl, hopened⟩ := ho.unique ho' he
      obtain ⟨rfl, rfl⟩ := hc.unique hc' hopened
      exact ⟨rfl, rfl⟩

lemma removed_of_takeSpan? {text rest inner : List Char} (h : c.takeSpan? text = some (rest, inner)) :
    c.Removed (utf8 text) (utf8 rest) (some (utf8 inner)) := by
  obtain ⟨⟨before, opened⟩, hs, h⟩ := Option.bind_eq_some_iff.mp h
  obtain ⟨⟨inner', after⟩, he, h⟩ := Option.bind_eq_some_iff.mp h
  cases h
  obtain ⟨rfl, hstart⟩ := Text.firstCloses_of_cutAt? hs
  obtain ⟨rfl, hend⟩ := Text.firstCloses_of_cutAt? he
  have ho := Text.first_utf8 c.startMarker_ne_nil hstart (inner ++ (c.endMarker.toList ++ after))
  have hc := Text.first_utf8 c.endMarker_ne_nil hend after
  simp only [Text.utf8_append, ← Text.encode_eq] at ho hc ⊢
  exact .span _ _ _ ho hc

lemma removed_of_no_span {text : List Char} (h : c.takeSpan? text = none) :
    c.Removed (utf8 text) (utf8 text) none := by
  refine .untouched _ ?_
  rintro ⟨before, opened, he, hfirst, hend⟩
  rw [Text.encode_eq] at he hfirst hend
  cases hs : Text.cutAt? c.startMarker.toList text with
  | none =>
    have hin : c.startMarker.toList <:+: text :=
      Text.infix_utf8 c.startMarker_ne_nil ⟨before, opened, (he.trans (List.append_assoc _ _ _).symm).symm⟩
    obtain ⟨p, hp⟩ := Text.cutAt?_isSome hin
    rw [hs] at hp
    cases hp
  | some p =>
    obtain ⟨rfl, hclose⟩ := Text.firstCloses_of_cutAt? hs
    -- the first marker in the bytes is the one that the search in the text has found
    have hfound := Text.first_utf8 c.startMarker_ne_nil hclose p.2
    rw [Text.utf8_append, Text.utf8_append] at he
    obtain ⟨-, rfl⟩ := hfound.unique hfirst he
    obtain ⟨q, hq⟩ := Text.cutAt?_isSome (Text.infix_utf8 c.endMarker_ne_nil hend)
    simp [takeSpan?, hs, hq] at h

end Channel

namespace Separated

open Channel (Removed Framed)

lemma split_removes {α : Type} (c : Channel) (d : Decoder α) (text : List Char) : ∃ payload : Option (List Char),
    c.Removed (utf8 text) (utf8 (split c d text).1) (payload.map utf8) ∧
      (split c d text).2 = payload.bind fun inner => (Written.read? inner).bind d := by
  rw [split]
  cases h : c.takeSpan? text with
  | none => exact ⟨none, Channel.removed_of_no_span h, rfl⟩
  | some p => exact ⟨some p.2, Channel.removed_of_takeSpan? h, rfl⟩

/-- The trace is taken out of the output and then the telemetry out of what is left, whatever the output holds. The
pieces are texts again, because no marker begins inside a character. A payload that cannot be read is taken out as
well. -/
theorem ofStdout_removes (stdout : String) : ∃ (left rest : String) (trace events : Option String),
    Channel.trace.Removed (encode stdout) (encode left) (trace.map encode) ∧
    Channel.spotlight.Removed (encode left) (encode rest) (events.map encode) ∧
    (trace.isSome = true ↔ Channel.trace.Framed (encode stdout)) ∧
    (events.isSome = true ↔ Channel.spotlight.Framed (encode left)) ∧
    Text.Trims rest.toList (ofStdout stdout).stdout.toList ∧
    (∀ t, (ofStdout stdout).trace = some t ↔ ∃ payload, trace = some payload ∧ traceOf? payload = some t) ∧
    (∀ es, (ofStdout stdout).spotlight = some es ↔ ∃ payload, events = some payload ∧ eventsOf? payload = some es) ∧
    ∀ (c : Channel) (bytes left left' : Bytes) (payload payload' : Option Bytes),
      c.Removed bytes left payload → c.Removed bytes left' payload' → left = left' ∧ payload = payload' := by
  obtain ⟨trace, htrace, htraceOf⟩ := split_removes .trace Trace.decode? stdout.toList
  set left := (split .trace Trace.decode? stdout.toList).1 with hleft
  obtain ⟨events, hevents, heventsOf⟩ := split_removes .spotlight (Written.list? Event.decode?) left
  set rest := (split .spotlight (Written.list? Event.decode?) left).1 with hrest
  have hmap (payload : Option (List Char)) : (payload.map String.ofList).map encode = payload.map utf8 := by
    cases payload with
    | none => rfl
    | some inner => exact congrArg some (Text.encode_ofList inner)
  have hremoved : Channel.trace.Removed (encode stdout) (encode (String.ofList left))
      ((trace.map String.ofList).map encode) := by
    rwa [hmap, Text.encode_ofList, Text.encode_eq]
  have hremoved' : Channel.spotlight.Removed (encode (String.ofList left)) (encode (String.ofList rest))
      ((events.map String.ofList).map encode) := by
    rwa [hmap, Text.encode_ofList, Text.encode_ofList]
  refine ⟨String.ofList left, String.ofList rest, trace.map String.ofList, events.map String.ofList, hremoved,
    hremoved', ?_, ?_, ?_, fun t => ?_, fun es => ?_, fun c bytes left left' payload payload' => Removed.unique⟩
  · simpa using hremoved.isSome_iff
  · simpa using hremoved'.isSome_iff
  · have hstdout : (ofStdout stdout).stdout.toList = Text.trim rest := by simp [ofStdout, hrest, hleft]
    rw [hstdout, String.toList_ofList]
    exact Text.trims_trim rest
  · have ht : (ofStdout stdout).trace = trace.bind fun inner => (Written.read? inner).bind Trace.decode? := htraceOf
    rw [ht]
    cases trace <;> simp [traceOf?]
  · have hs : (ofStdout stdout).spotlight =
        events.bind fun inner => (Written.read? inner).bind (Written.list? Event.decode?) := heventsOf
    rw [hs]
    cases events <;> simp [eventsOf?]

end Separated

end BrowserCheck
