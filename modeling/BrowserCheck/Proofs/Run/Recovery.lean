import BrowserCheck.Proofs.Json.Arrangement
import BrowserCheck.Proofs.Run.TraceText

set_option autoImplicit false

/-! The result of a run is decoded to what was encoded, with every list that is empty and every part that is absent.
Of an event this needs the keys of its data and the names of its headers in order, and so they are in every event that
is decoded. -/

namespace BrowserCheck

open Json

lemma TraceStep.recovers (s : TraceStep) : Recovers decode? s.encode s := by
  intro v hv hs
  obtain ⟨fields, rfl, h⟩ := Value.object_of_sort (by simp) hv hs
  exact decode?_slots (h.slots? _ _) (h.required rfl (.uint64 _)) (h.required rfl (.text _)) (h.required rfl (.text _))
    (h.required rfl (.int64 _)) (h.required rfl (.text _)) (h.required rfl (.text _))

lemma Trace.recovers (t : Trace) : Recovers decode? t.encode t := by
  intro v hv hs
  obtain ⟨fields, rfl, h⟩ := Value.object_of_sort (by simp) hv hs
  have hstart : (Written.slot fields "startTime").required Written.int64? = some t.startTime :=
    h.required rfl (.int64 _)
  have hend : (Written.slot fields "endTime").required Written.int64? = some t.endTime := h.required rfl (.int64 _)
  have hduration : (Written.slot fields "duration").required Written.int64? = some t.duration :=
    h.required rfl (.int64 _)
  have hsuccess : (Written.slot fields "success").required Written.boolean? = some t.success :=
    h.required rfl (.boolean _)
  have herror : (Written.slot fields "error").optional Written.text? = some t.error :=
    h.optional rfl rfl fun s _ => .text s
  have hsteps : (Written.slot fields "steps").withDefault [] (Written.list? TraceStep.decode?) = some t.steps :=
    h.withDefault [] rfl (.list fun s _ => s.recovers)
  rw [decode?, h.slots?]
  simp only [List.map, Option.bind_eq_bind, Option.bind_some, hstart, hend, hduration, hsuccess, herror, hsteps]
  rfl

namespace Event

def headerFields (hs : List (String × String)) : Fields := hs.map fun h => (h.1, .text h.2)

lemma headerFields_injective : Function.Injective headerFields := by
  apply List.map_injective_iff.mpr
  rintro ⟨n, v⟩ ⟨n', v'⟩ h
  simpa using h

lemma inOrder_headerFields {hs : List (String × String)} :
    (headerFields hs).InOrder ↔ (hs.map Prod.fst).Pairwise (· < ·) := by
  rw [Fields.InOrder, headerFields, List.map_map]
  rfl

lemma headerFields_putHeader (name value : String) (hs : List (String × String)) :
    headerFields (putHeader name value hs) = (headerFields hs).insert name (.text value) := by
  induction hs with
  | nil => rfl
  | cons h hs ih =>
    obtain ⟨n, v⟩ := h
    simp only [putHeader, headerFields, List.map_cons, Fields.insert] at ih ⊢
    split
    · rfl
    · split
      · rfl
      · rw [List.map_cons, ih]

structure InOrder (e : Event) : Prop where
  data : e.data.Ordered
  headers : ∀ hs, e.headers = some hs → (hs.map Prod.fst).Pairwise (· < ·)

lemma ordered_encodeHeaders {hs : List (String × String)} (h : (headerFields hs).InOrder) :
    (encodeHeaders hs).Ordered := by
  refine .object h fun f hf => ?_
  obtain ⟨g, -, rfl⟩ := List.mem_map.mp hf
  exact .text g.2

lemma decodeHeaders?_ofFields {fields : Fields} (h : ∀ f : String × Value, f ∈ fields → ∃ s, f.2 = .text s)
    (done : List (String × String)) : ((Written.ofValue.ofFields fields).foldlM
      (fun hs (f : String × Written) => f.2.text?.map fun v => putHeader f.1 v hs) done).map headerFields =
        some (Value.sort.sortFields (headerFields done) fields) := by
  induction fields generalizing done with
  | nil => rfl
  | cons f fields ih =>
    obtain ⟨⟨s, hs⟩, hfs⟩ := List.forall_mem_cons.mp h
    obtain ⟨k, v⟩ := f
    obtain rfl : v = .text s := hs
    have hrest := ih hfs (putHeader k s done)
    rw [headerFields_putHeader] at hrest
    exact hrest

lemma headers_recover {hs : List (String × String)} (h : (headerFields hs).InOrder) :
    Recovers decodeHeaders? (encodeHeaders hs) hs := by
  intro v hv hsort
  obtain ⟨fields, rfl, ha⟩ := Value.object_of_sort h.nodup hv hsort
  -- no header of another arrangement is anything but a text
  have htexts : ∀ f : String × Value, f ∈ fields → ∃ s, f.2 = .text s := by
    rintro ⟨k, v⟩ hf
    have hk := ha.alike k
    rw [Fields.get?_of_mem ha.nodup hf] at hk
    obtain ⟨w, hw, hs⟩ := Option.map_eq_some_iff.mp hk.symm
    obtain ⟨g, -, hg⟩ := List.mem_map.mp (Fields.mem_of_get? hw)
    obtain rfl : .text g.2 = w := congrArg Prod.snd hg
    exact ⟨g.2, Value.eq_of_sort trivial hs.symm⟩
  have hfold := decodeHeaders?_ofFields htexts []
  obtain ⟨hs', hd, he⟩ := Option.map_eq_some_iff.mp hfold
  rw [(ordered_encodeHeaders h).sort_eq, Value.sort_object] at hsort
  obtain rfl : hs' = hs := headerFields_injective (he.trans (Value.object.inj hsort))
  exact hd

lemma inOrder_of_decodeHeaders? {w : Written} {hs : List (String × String)} (h : decodeHeaders? w = some hs) :
    (headerFields hs).InOrder := by
  cases w with
  | object ws =>
    have hnil : (headerFields []).InOrder := List.Pairwise.nil
    rw [decodeHeaders?] at h
    -- the headers that are read so far are in order at every step
    generalize [] = done at h hnil
    induction ws generalizing done with
    | nil =>
      cases h
      exact hnil
    | cons w ws ih =>
      rw [List.foldlM_cons] at h
      obtain ⟨next, hn, h⟩ := Option.bind_eq_some_iff.mp h
      obtain ⟨s, -, rfl⟩ := Option.map_eq_some_iff.mp hn
      refine ih _ h ?_
      rw [headerFields_putHeader]
      exact hnil.insert w.1 (.text s)
  | _ => cases h

lemma exists_fields (e : Event) : ∃ fields : Fields, e.encode = .object fields ∧ (fields.map Prod.fst).Nodup ∧
    fields.get? "envelopeId" = e.envelopeId.map .text ∧ fields.get? "type" = some (.text e.type) ∧
    fields.get? "timestamp" = some (.ofInt e.timestamp.toInt) ∧ fields.get? "data" = some e.data ∧
    fields.get? "headers" = e.headers.map encodeHeaders := by
  obtain ⟨envelopeId, type, timestamp, data, headers⟩ := e
  refine ⟨_, rfl, ?_⟩
  cases envelopeId <;> cases headers <;> exact ⟨by simp, rfl, rfl, rfl, rfl, rfl⟩

def Rearranges (e' e : Event) : Prop := ∃ hs, Option.Rel List.Perm hs e.headers ∧ e' = { e with headers := hs }

lemma Rearranges.refl (e : Event) : e.Rearranges e := by
  refine ⟨e.headers, ?_, rfl⟩
  cases e.headers with
  | none => exact .none
  | some hs => exact .some (.refl hs)

lemma recovers {e : Event} (he : e.InOrder) : Recovers decode? e.encode e := by
  obtain ⟨written, hw, hn, hid, htype, htime, hdata, hheaders⟩ := e.exists_fields
  rw [hw]
  intro v hv hs
  obtain ⟨fields, rfl, h⟩ := Value.object_of_sort hn hv hs
  have h₁ := h.optional_of_get? (d := Written.text?) rfl hid fun s _ => .text s
  have h₂ := h.required htype (.text _)
  have h₃ := h.required htime (.int64 _)
  have h₄ := h.required hdata (.value he.data)
  have h₅ := h.optional_of_get? (d := decodeHeaders?) rfl hheaders fun hs hh =>
    headers_recover (inOrder_headerFields.mpr (he.headers hs hh))
  rw [decode?, h.slots?]
  simp only [List.map, Option.bind_eq_bind, Option.bind_some, h₁, h₂, h₃, h₄, h₅]
  rfl

lemma inOrder_of_decode? {w : Written} {e : Event} (h : decode? w = some e) : e.InOrder := by
  rw [decode?] at h
  obtain ⟨slots, -, h⟩ := Option.bind_eq_some_iff.mp h
  split at h
  · next envelopeId type timestamp data headers =>
    obtain ⟨id, -, h⟩ := Option.bind_eq_some_iff.mp h
    obtain ⟨t, -, h⟩ := Option.bind_eq_some_iff.mp h
    obtain ⟨time, -, h⟩ := Option.bind_eq_some_iff.mp h
    obtain ⟨d, hdata, h⟩ := Option.bind_eq_some_iff.mp h
    obtain ⟨hs, hheaders, h⟩ := Option.bind_eq_some_iff.mp h
    obtain rfl := Option.some.inj h
    obtain ⟨w, hw⟩ := Slot.exists_of_required hdata
    refine ⟨Written.ordered_of_value? hw, fun hs' he => ?_⟩
    obtain rfl : hs = some hs' := he
    obtain ⟨w, hw⟩ := Slot.exists_of_optional hheaders
    exact inOrder_headerFields.mp (inOrder_of_decodeHeaders? hw)
  · cases h

end Event

namespace RunResult

def InOrder (r : RunResult) : Prop := ∀ events, r.spotlight = some events → ∀ e ∈ events, e.InOrder

lemma recovers {r : RunResult} (hr : r.InOrder) : Recovers decode? r.encode r := by
  intro v hv hs
  obtain ⟨fields, rfl, h⟩ := Value.object_of_sort (by simp) hv hs
  have hexit : (Written.slot fields "exitCode").required Written.int32? = some r.exitCode := h.required rfl (.int32 _)
  have hout : (Written.slot fields "stdout").required Written.text? = some r.stdout := h.required rfl (.text _)
  have herr : (Written.slot fields "stderr").required Written.text? = some r.stderr := h.required rfl (.text _)
  have htrace : (Written.slot fields "trace").nullable Trace.decode? = some r.trace :=
    h.nullable rfl rfl fun t _ => t.recovers
  have hspotlight : (Written.slot fields "spotlight").nullable (Written.list? Event.decode?) = some r.spotlight :=
    h.nullable rfl rfl fun events he => .list fun e hm => Event.recovers (hr events he e hm)
  rw [decode?, h.slots?]
  simp only [List.map, Option.bind_eq_bind, Option.bind_some, hexit, hout, herr, htrace, hspotlight]
  rfl

def Rearranges (r' r : RunResult) : Prop :=
  ∃ events, Option.Rel (List.Forall₂ Event.Rearranges) events r.spotlight ∧ r' = { r with spotlight := events }

lemma Rearranges.refl (r : RunResult) : r.Rearranges r := by
  refine ⟨r.spotlight, ?_, rfl⟩
  cases r.spotlight with
  | none => exact .none
  | some events => exact .some (List.forall₂_same.mpr fun e _ => .refl e)

lemma inOrder_of_decode? {w : Written} {r : RunResult} (h : decode? w = some r) : r.InOrder := by
  intro events hevents e he
  rw [decode?] at h
  obtain ⟨slots, -, h⟩ := Option.bind_eq_some_iff.mp h
  split at h
  · simp only [Option.bind_eq_bind, Option.bind_eq_some_iff] at h
    obtain ⟨_, -, _, -, _, -, _, -, spotlight, hspotlight, ⟨⟩⟩ := h
    obtain rfl : spotlight = some events := hevents
    obtain ⟨w, hw⟩ := Slot.exists_of_nullable hspotlight
    obtain ⟨w, hw⟩ := Written.exists_of_list? hw e he
    exact Event.inOrder_of_decode? hw
  · cases h

lemma inOrder_ofOutput (o : RawOutput) : (ofOutput o).InOrder := by
  intro events h e he
  have hs : (Separated.split .spotlight (Written.list? Event.decode?)
      (Separated.split .trace Trace.decode? o.stdout.toList).1).2 = some events := h
  rw [Separated.split] at hs
  split at hs
  · obtain ⟨w, -, hw⟩ := Option.bind_eq_some_iff.mp hs
    obtain ⟨w, hw⟩ := Written.exists_of_list? hw e he
    exact Event.inOrder_of_decode? hw
  · cases hs

end RunResult

end BrowserCheck
