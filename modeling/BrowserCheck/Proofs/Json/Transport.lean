import BrowserCheck.Proofs.Json.Ordered
import BrowserCheck.Proofs.Json.ReadBack
import BrowserCheck.Proofs.Text.Encoding

set_option autoImplicit false

/-! A value that is sent as text. The other end reads it with its keys in order, whether or not it looks at what
follows the value. -/

namespace BrowserCheck.Json

open Reader

namespace Reader

lemma run_finished {w v : Written} {text : List Char} (h : (run ⟨[], .finished w⟩ text).bind finish? = some v) :
    w = v := by
  induction text with
  | nil => exact Option.some.inj h
  | cons c text ih =>
    have hs : step ⟨[], .finished w⟩ c = if isSpace c then some ⟨[], .finished w⟩ else none := rfl
    rw [run_cons, hs] at h
    split at h
    · exact ih h
    · cases h

lemma complete_of_run {numeral text : List Char} {d : Digits} {c : Char} {w : Written} (hd : d.next? c = none)
    (h : (run ⟨[], .number numeral d⟩ (c :: text)).bind finish? = some w) :
    d.complete = true ∧ numberOf numeral = w := by
  have hs : step ⟨[], .number numeral d⟩ c =
      if d.complete then step ⟨[], .finished (numberOf numeral)⟩ c else none := by
    simp only [step, hd]
    rfl
  rw [run_cons, hs] at h
  cases hc : d.complete with
  | true =>
    rw [hc, if_pos rfl, ← run_cons] at h
    exact ⟨rfl, run_finished h⟩
  | false =>
    rw [hc] at h
    cases h

lemma readFirst?_of_run {s : State} {text : List Char} {w : Written} (h : (run s text).bind finish? = some w) :
    readFirst? s text = some w := by
  induction text generalizing s with
  | nil => exact h
  | cons c text ih =>
    have hstep : (step s c).bind (readFirst? · text) = some w := by
      rw [run_cons] at h
      obtain ⟨t, ht, hf⟩ := Option.bind_eq_some_iff.mp h
      obtain ⟨s', hs, hr⟩ := Option.bind_eq_some_iff.mp ht
      rw [hs, Option.bind_some]
      exact ih (by rw [hr, Option.bind_some, hf])
    -- only outside all containers can the value end before the text does
    obtain ⟨stack, mode⟩ := s
    cases stack with
    | cons container stack => exact hstep
    | nil =>
      cases mode with
      | finished v => exact congrArg some (run_finished h)
      | number numeral d =>
        rw [readFirst?]
        cases hd : d.next? c with
        | some d' =>
          simp only [step, hd, Option.bind_some] at hstep
          simpa only [hd] using hstep
        | none =>
          obtain ⟨hc, rfl⟩ := complete_of_run hd h
          simp only [hd, hc, if_pos]
      | _ => exact hstep

end Reader

lemma Written.readBytes?_encode (s : String) : Written.readBytes? (Text.encode s) = Written.read? s.toList := by
  rw [readBytes?, Text.characters_encode, List.foldlM_map]
  rfl

lemma fitItems_map {α : Type} {encode : α → Value} {room : Nat} (h : ∀ a, (encode a).fits room) (as : List α) :
    fitItems room (as.map encode) := by
  induction as with
  | nil => trivial
  | cons a as ih => exact ⟨h a, ih⟩

section Sorting

lemma fitFields_insert {room : Nat} (key : String) {v : Value} (hv : v.fits room) {done : Fields}
    (h : fitFields room done) : fitFields room (done.insert key v) := by
  induction done with
  | nil => exact ⟨hv, trivial⟩
  | cons f done ih =>
    obtain ⟨k, w⟩ := f
    rw [Fields.insert]
    split_ifs
    · exact ⟨hv, h.2⟩
    · exact ⟨hv, h⟩
    · exact ⟨h.1, ih h.2⟩

mutual

lemma fits_sort : ∀ {room : Nat} (v : Value), v.fits room → v.sort.fits room
  | _, .null, _ => trivial
  | _, .boolean _, _ => trivial
  | _, .number _, h => h
  | _, .text _, _ => trivial
  | _, .array items, h => ⟨h.1, fitItems_sort items h.2⟩
  | _, .object fields, h => ⟨h.1, @fitFields_sort _ [] trivial fields h.2⟩

lemma fitItems_sort : ∀ {room : Nat} (items : List Value), fitItems room items →
    fitItems room (Value.sort.sortItems items)
  | _, [], _ => trivial
  | _, v :: rest, h => ⟨fits_sort v h.1, fitItems_sort rest h.2⟩

lemma fitFields_sort : ∀ {room : Nat} {done : Fields} (_ : fitFields room done) (fields : Fields),
    fitFields room fields → fitFields room (Value.sort.sortFields done fields)
  | _, _, hdone, [], _ => hdone
  | _, _, hdone, (k, v) :: rest, h => fitFields_sort (fitFields_insert k (fits_sort v h.1) hdone) rest h.2

end

end Sorting

namespace Value

variable {v : Value}

lemma read?_toText (hv : v.fits depthLimit) : Value.read? v.toText = some v.sort := by
  rw [Value.read?, toText, String.toList_ofList, read?_compact hv, Option.bind_some, Written.value?_ofValue]

lemma readFirst?_toText (hv : v.fits depthLimit) : Value.readFirst? v.toText = some v.sort := by
  have h := read?_compact hv
  rw [read?_eq] at h
  rw [Value.readFirst?, toText, String.toList_ofList, readFirst?_of_run h, Option.bind_some, Written.value?_ofValue]

lemma read?_toPretty_line (hv : v.fits depthLimit) : Value.read? (v.toPretty ++ "\n") = some v.sort := by
  have hr : Reader.run ⟨[], .value⟩ (Writer.pretty 0 v ++ ['\n']) =
      Reader.run (place (Written.ofValue v) []) ['\n'] := by
    have hend : endsNumber ['\n'] := ⟨'\n', [], rfl, by decide⟩
    rw [← Layout.write_indented 0 v]
    exact Layout.indented.run_write 0 depthLimit [] (by simp) (m := .value) trivial ['\n'] v hv fun _ => hend
  have ht : (v.toPretty ++ "\n").toList = Writer.pretty 0 v ++ ['\n'] := by
    rw [String.toList_append, toPretty, String.toList_ofList]
    rfl
  have hf : (Reader.run (place (Written.ofValue v) []) ['\n']).bind finish? = some (Written.ofValue v) := rfl
  rw [Value.read?, ht, read?_eq, start, hr, hf, Option.bind_some, Written.value?_ofValue]

end Value

end BrowserCheck.Json
