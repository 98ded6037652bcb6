import BrowserCheck.Proofs.Json.Marker
import BrowserCheck.Proofs.Json.ReadBack
import BrowserCheck.Proofs.Json.Records
import BrowserCheck.Proofs.Run.Separated

set_option autoImplicit false

namespace BrowserCheck

open Json

namespace TraceStep

lemma decode?_slots {w : Written} {a₁ a₂ a₃ a₄ a₅ a₆ : Slot} {s : TraceStep}
    (hw : w.slots? .json ["index", "action", "details", "timestamp", "screenshot", "url"] =
      some [a₁, a₂, a₃, a₄, a₅, a₆])
    (h₁ : a₁.required Written.uint64? = some s.index) (h₂ : a₂.required Written.text? = some s.action)
    (h₃ : a₃.required Written.text? = some s.details) (h₄ : a₄.required Written.int64? = some s.timestamp)
    (h₅ : a₅.required Written.text? = some s.screenshot) (h₆ : a₆.required Written.text? = some s.url) :
    decode? w = some s := by
  rw [decode?, hw]
  simp only [Option.bind_eq_bind, Option.bind_some, h₁, h₂, h₃, h₄, h₅, h₆]
  rfl

def written (s : TraceStep) : List (String × Written) :=
  [("index", .number (.integer s.index.toNat)), ("action", .text s.action), ("details", .text s.details),
    ("timestamp", .number (.integer s.timestamp.toInt)), ("screenshot", .text s.screenshot), ("url", .text s.url)]

lemma ofValue_encode (s : TraceStep) : Written.ofValue s.encode = .object s.written := by
  rw [encode, Written.ofValue]
  rfl

lemma decode?_encode (s : TraceStep) : decode? (Written.ofValue s.encode) = some s := by
  have hindex : (Slot.given (.number (.integer s.index.toNat))).required Written.uint64? = some s.index := by
    rw [Slot.required_given, Written.uint64?_toNat]
  have htime : (Slot.given (.number (.integer s.timestamp.toInt))).required Written.int64? = some s.timestamp := by
    rw [Slot.required_given, Written.int64?_toInt]
  have hw := Written.slots?_object .json s.written (by simp [written])
  simp only [written, List.map] at hw
  rw [ofValue_encode]
  exact decode?_slots hw hindex rfl rfl htime rfl rfl

def texts (s : TraceStep) : List String := [s.action, s.details, s.screenshot, s.url]

lemma encode_fits (s : TraceStep) {room : Nat} (h : 0 < room) : s.encode.fits room := by
  have hi := s.index.toNat_lt
  have hl := s.timestamp.le_toInt
  have hu := s.timestamp.toInt_lt
  refine ⟨h, ⟨?_, ?_⟩, trivial, trivial, ⟨hl, ?_⟩, trivial, trivial, trivial⟩
  all_goals omega

lemma texts_encode (s : TraceStep) : s.encode.texts = ["index", "action", s.action, "details", s.details,
    "timestamp", "screenshot", s.screenshot, "url", s.url] := by
  simp [encode, Value.texts, fieldTexts, Value.ofNat, Value.ofInt]

end TraceStep

namespace Trace

def written (t : Trace) : List (String × Written) :=
  [("startTime", .number (.integer t.startTime.toInt)), ("endTime", .number (.integer t.endTime.toInt)),
    ("duration", .number (.integer t.duration.toInt)), ("success", .boolean t.success),
    ("error", Written.ofValue (.ofOption .text t.error)),
    ("steps", Written.ofValue (.array (t.steps.map TraceStep.encode)))]

lemma ofValue_encode (t : Trace) : Written.ofValue t.encode = .object t.written := by
  rw [encode, Written.ofValue]
  rfl

lemma decode?_encode (t : Trace) : decode? (Written.ofValue t.encode) = some t := by
  have he := Slot.optional_given (d := Written.text?) Value.text (fun _ => rfl) (by simp) t.error
  have hs := Written.list?_map TraceStep.decode?_encode t.steps
  have hw := Written.slots?_object .json t.written (by simp [written])
  simp only [written, List.map] at hw
  rw [ofValue_encode, written, decode?, hw]
  simp only [Option.bind_eq_bind, Option.bind_some, Slot.required_given, Slot.withDefault_given, he, hs,
    Written.int64?_toInt]
  rfl

def texts (t : Trace) : List String := t.error.toList ++ t.steps.flatMap TraceStep.texts

lemma fitItems_steps {room : Nat} (h : 0 < room) (steps : List TraceStep) :
    fitItems room (steps.map TraceStep.encode) := by
  induction steps with
  | nil => trivial
  | cons s steps ih => exact ⟨s.encode_fits h, ih⟩

lemma encode_fits_within (t : Trace) {room : Nat} (hroom : 2 < room) : t.encode.fits room := by
  have h (n : Int64) : (Number.integer n.toInt).fits := by
    have hl := n.le_toInt
    have hu := n.toInt_lt
    exact ⟨hl, by omega⟩
  have he : (Value.ofOption Value.text t.error).fits (room - 1) := by cases t.error <;> trivial
  exact ⟨by omega, h t.startTime, h t.endTime, h t.duration, trivial, he,
    ⟨by omega, fitItems_steps (by omega) t.steps⟩, trivial⟩

lemma encode_fits (t : Trace) : t.encode.fits Reader.depthLimit := t.encode_fits_within (by decide)

lemma texts_encode (t : Trace) : t.encode.texts = ["startTime", "endTime", "duration", "success", "error"] ++
    t.error.toList ++ "steps" :: t.steps.flatMap fun s => s.encode.texts := by
  have hs (steps : List TraceStep) :
      itemTexts (steps.map TraceStep.encode) = steps.flatMap fun s => s.encode.texts := by
    induction steps with
    | nil => rfl
    | cons s steps ih => rw [List.map_cons, itemTexts, ih, List.flatMap_cons]
  cases he : t.error <;> simp [encode, Value.texts, fieldTexts, Value.ofInt, Value.ofOption, hs, he]

def Ends (s : String) : Prop := Channel.trace.endMarker.toList <:+: s.toList

lemma not_ends {s : String} (h : s.length < 13) : ¬Ends s := by
  intro he
  have hl := List.IsInfix.length_le he
  rw [String.length_toList, String.length_toList, show Channel.trace.endMarker.length = 13 by decide] at hl
  omega

lemma inert_endMarker : Inert Channel.trace.endMarker.toList :=
  ⟨by decide, List.all_iff_forall_prop.mp (by decide)⟩

lemma ends_encode_iff (t : Trace) : (∃ s ∈ t.encode.texts, Ends s) ↔ ∃ s ∈ t.texts, Ends s := by
  -- the keys are too short to hold the marker
  have hkeys : ∀ k ∈ ["startTime", "endTime", "duration", "success", "error", "steps", "index", "action", "details",
      "timestamp", "screenshot", "url"], k.length < 13 := by decide
  constructor
  · rintro ⟨s, hs, he⟩
    have hn : ∀ k ∈ ["startTime", "endTime", "duration", "success", "error", "steps", "index", "action", "details",
        "timestamp", "screenshot", "url"], s ≠ k := by
      rintro k hk rfl
      exact not_ends (hkeys _ hk) he
    simp only [List.mem_cons, List.not_mem_nil, or_false, forall_eq_or_imp, forall_eq] at hn
    refine ⟨s, ?_, he⟩
    simp only [texts_encode, TraceStep.texts_encode, List.mem_append, List.mem_cons, List.mem_flatMap, hn,
      List.not_mem_nil, or_false, false_or] at hs
    simpa only [texts, TraceStep.texts, List.mem_append, List.mem_flatMap, List.mem_cons, List.not_mem_nil,
      or_false] using hs
  · rintro ⟨s, hs, he⟩
    refine ⟨s, ?_, he⟩
    simp only [texts, TraceStep.texts, List.mem_append, List.mem_flatMap, List.mem_cons, List.not_mem_nil,
      or_false] at hs
    simp only [texts_encode, TraceStep.texts_encode, List.mem_append, List.mem_cons, List.mem_flatMap,
      List.not_mem_nil, or_false]
    rcases hs with hs | ⟨step, hstep, hs⟩
    · exact .inl (.inr hs)
    · refine .inr (.inr ⟨step, hstep, ?_⟩)
      rcases hs with hs | hs | hs | hs <;> simp [hs]

lemma toText_encode (t : Trace) : t.encode.toText.toList = Writer.compact t.encode := by simp [Value.toText]

lemma infix_toText_iff (t : Trace) :
    Channel.trace.endMarker.toList <:+: t.encode.toText.toList ↔ ∃ s ∈ t.texts, Ends s := by
  rw [toText_encode, infix_compact_iff inert_endMarker t.encode_fits]
  exact t.ends_encode_iff

lemma closesAfter_toText {t : Trace} (h : ¬∃ s ∈ t.texts, Ends s) : Channel.trace.ClosesAfter t.encode.toText := by
  rw [← infix_toText_iff, toText_encode, encode, Writer.compact, ← List.cons_append] at h
  rw [Channel.ClosesAfter, toText_encode, encode, Writer.compact, ← List.cons_append]
  exact Text.firstCloses_concat (by decide) h

lemma cut_toText {t : Trace} (h : ∃ s ∈ t.texts, Ends s) : ∃ p rest : String,
    t.encode.toText = p ++ (Channel.trace.endMarker ++ rest) ∧ Channel.trace.ClosesAfter p ∧
      Written.read? p.toList = none := by
  obtain ⟨⟨p, rest⟩, hc⟩ := Text.cutAt?_isSome (t.infix_toText_iff.mpr h)
  obtain ⟨he, hf⟩ := Text.firstCloses_of_cutAt? hc
  have hread : Written.read? (p ++ (Channel.trace.endMarker.toList ++ rest)) = some (Written.ofValue t.encode) := by
    rw [← he, toText_encode]
    exact read?_compact t.encode_fits
  refine ⟨String.ofList p, String.ofList rest, ?_, by simpa [Channel.ClosesAfter] using hf, ?_⟩
  · rw [← String.toList_inj]
    simpa using he
  · rw [String.toList_ofList]
    exact read?_cut hread

lemma ofStdout_trace (s : String) :
    (Separated.ofStdout s).trace = (Separated.split Channel.trace decode? s.toList).2 := rfl

lemma exists_texts_iff (t : Trace) (p : String → Prop) : (∃ s ∈ t.texts, p s) ↔
    ∃ s, (t.error = some s ∨
      ∃ step ∈ t.steps, s = step.action ∨ s = step.details ∨ s = step.screenshot ∨ s = step.url) ∧ p s := by
  simp only [texts, TraceStep.texts, List.mem_append, Option.mem_toList, List.mem_flatMap, List.mem_cons,
    List.not_mem_nil, or_false]

lemma trace_of_printed {t : Trace} (ht : ¬∃ s ∈ t.texts, Ends s) {pre : String} (h : Channel.trace.OpensAfter pre)
    (post : String) :
    (Separated.ofStdout (pre ++ Channel.trace.wrap t.encode.toText ++ post)).trace = some t := by
  rw [ofStdout_trace, Separated.split_wrap decode? h (closesAfter_toText ht) post, toText_encode,
    read?_compact t.encode_fits]
  exact t.decode?_encode

lemma no_trace_of_printed {t : Trace} (ht : ∃ s ∈ t.texts, Ends s) {pre : String}
    (h : Channel.trace.OpensAfter pre) (post : String) :
    (Separated.ofStdout (pre ++ Channel.trace.wrap t.encode.toText ++ post)).trace = none := by
  obtain ⟨p, rest, he, hc, hread⟩ := cut_toText ht
  -- what is left of the payload behind the marker becomes part of the text after it
  have hs : pre ++ Channel.trace.wrap t.encode.toText ++ post =
      pre ++ Channel.trace.wrap p ++ (rest ++ Channel.trace.endMarker ++ post) := by
    simp only [Channel.wrap, he, String.append_assoc]
  rw [ofStdout_trace, hs, Separated.split_wrap decode? h hc, hread]
  rfl

/-- A printed trace is recovered as it was or not at all, and it is lost only where one of its own texts
holds the end marker. -/
theorem printed_trace_recovered (t : Trace) (pre post : String) (h : Channel.trace.OpensAfter pre) :
    ((Separated.ofStdout (pre ++ Channel.trace.wrap t.encode.toText ++ post)).trace = some t ∨
      (Separated.ofStdout (pre ++ Channel.trace.wrap t.encode.toText ++ post)).trace = none) ∧
    ((Separated.ofStdout (pre ++ Channel.trace.wrap t.encode.toText ++ post)).trace = none ↔
      ∃ s, (t.error = some s ∨
        ∃ step ∈ t.steps, s = step.action ∨ s = step.details ∨ s = step.screenshot ∨ s = step.url) ∧
        "__TRACE_END__".toList <:+: s.toList) := by
  have hiff := t.exists_texts_iff Ends
  by_cases ht : ∃ s ∈ t.texts, Ends s
  · have hnone := no_trace_of_printed ht h post
    exact ⟨.inr hnone, fun _ => hiff.mp ht, fun _ => hnone⟩
  · have hsome := trace_of_printed ht h post
    refine ⟨.inl hsome, fun hnone => ?_, fun hs => (ht (hiff.mpr hs)).elim⟩
    rw [hsome] at hnone
    contradiction

theorem printed_trace_recovered_marker_in_error :
    Channel.trace.OpensAfter "log__TRACE_" ∧
    (((Separated.ofStdout ("log__TRACE_" ++ Channel.trace.wrap
        (encode ⟨1, 2, 1, false, some "at __TRACE_END__\"", []⟩).toText ++ "x")).trace =
          some ⟨1, 2, 1, false, some "at __TRACE_END__\"", []⟩ ∨
      (Separated.ofStdout ("log__TRACE_" ++ Channel.trace.wrap
        (encode ⟨1, 2, 1, false, some "at __TRACE_END__\"", []⟩).toText ++ "x")).trace = none) ∧
    ((Separated.ofStdout ("log__TRACE_" ++ Channel.trace.wrap
        (encode ⟨1, 2, 1, false, some "at __TRACE_END__\"", []⟩).toText ++ "x")).trace = none ↔
      ∃ s, (some "at __TRACE_END__\"" = some s ∨ ∃ step ∈ ([] : List TraceStep), s = step.action ∨
        s = step.details ∨ s = step.screenshot ∨ s = step.url) ∧ "__TRACE_END__".toList <:+: s.toList)) :=
  ⟨by decide, printed_trace_recovered ⟨1, 2, 1, false, some "at __TRACE_END__\"", []⟩ "log__TRACE_" "x"
    (by decide)⟩

end Trace

end BrowserCheck
