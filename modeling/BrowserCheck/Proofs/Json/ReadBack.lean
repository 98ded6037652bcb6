import BrowserCheck.Proofs.Json.Layout

set_option autoImplicit false

/-! The reader over whole documents. Inside a container it is in the same state after each item, but for
what it holds so far; this is what the induction over the value carries. -/

namespace BrowserCheck.Json

open Reader

namespace Reader

lemma endsNumber_gap {gap : List Char} (hg : ∀ c ∈ gap, isSpace c = true) {c : Char}
    (hc : c = ',' ∨ c = ']' ∨ c = '\x7d') (rest : List Char) : endsNumber (gap ++ c :: rest) := by
  cases gap with
  | nil =>
    refine ⟨c, rest, rfl, ?_⟩
    rcases hc with rfl | rfl | rfl <;> decide
  | cons d gap =>
    refine ⟨d, gap ++ c :: rest, rfl, ?_⟩
    have hd := hg d (by simp)
    simp only [isSpace, Bool.or_eq_true, beq_iff_eq] at hd
    rcases hd with ((rfl | rfl) | rfl) | rfl <;> decide

def keyed (fields : List (String × Written)) : List (Option String × Written) :=
  (fields.map fun f => (some f.1, f.2)).reverse

lemma keyed_concat (fields : List (String × Written)) (k : String) (w : Written) :
    keyed (fields ++ [(k, w)]) = (some k, w) :: keyed fields := by simp [keyed]

lemma named?_keyed (fields : List (String × Written)) : named? (keyed fields).reverse = some fields := by
  rw [keyed, List.reverse_reverse, named?, List.mapM_map]
  have hp := List.mapM_pure (m := Option) (l := fields) (f := id)
  rw [List.map_id] at hp
  exact hp

lemma close_array {stack : List Open} (hs : stack.length < depthLimit) (items : List Written) :
    close ']' (.array items :: stack) = some (place (.array items.reverse) stack) := by
  rw [close, if_pos rfl, arrayOf, if_neg (by omega)]

lemma close_object {stack : List Open} (hs : stack.length < depthLimit) (fields : List (String × Written)) :
    close '\x7d' (.object (keyed fields) none :: stack) = some (place (.object fields) stack) := by
  rw [close, if_pos rfl, objectOf, if_neg (by omega), named?_keyed]

end Reader

namespace Layout

variable (l : Layout)

def beforeItem (first : Bool) : Mode := if first then .firstItem else .after

def beforeField (first : Bool) : Mode := if first then .firstKey else .after

lemma run_separator (first : Bool) (stack : List Open) (items : List Written) (rest : List Char) :
    ∃ m : Mode, m.opens ∧ run ⟨.array items :: stack, beforeItem first⟩ ((if first then [] else [',']) ++ rest) =
      run ⟨.array items :: stack, m⟩ rest := by
  cases first with
  | true => exact ⟨.firstItem, trivial, rfl⟩
  | false => exact ⟨.value, trivial, rfl⟩

lemma run_fieldSeparator (first : Bool) (stack : List Open) (fields : List (Option String × Written))
    (rest : List Char) : ∃ m : Mode, (m = .firstKey ∨ m = .nextKey) ∧
      run ⟨.object fields none :: stack, beforeField first⟩ ((if first then [] else [',']) ++ rest) =
        run ⟨.object fields none :: stack, m⟩ rest := by
  cases first with
  | true => exact ⟨.firstKey, .inl rfl, rfl⟩
  | false => exact ⟨.nextKey, .inr rfl, rfl⟩

lemma between_opens {m : Mode} (hm : m.opens) (stack : List Open) : Between ⟨stack, m⟩ := by
  cases m with
  | value | firstItem => exact fun c => rfl
  | _ => exact hm.elim

lemma endsNumber_items (level : Nat) (items : List Value) {gap : List Char}
    (hg : ∀ c ∈ gap, isSpace c = true) (rest : List Char) :
    endsNumber (l.writeItems level false items ++ (gap ++ ']' :: rest)) := by
  cases items with
  | nil => exact endsNumber_gap hg (.inr (.inl rfl)) rest
  | cons v items => exact ⟨',', _, rfl, by decide⟩

lemma endsNumber_fields (level : Nat) (fields : List (String × Value)) {gap : List Char}
    (hg : ∀ c ∈ gap, isSpace c = true) (rest : List Char) :
    endsNumber (l.writeFields level false fields ++ (gap ++ '\x7d' :: rest)) := by
  cases fields with
  | nil => exact endsNumber_gap hg (.inr (.inr rfl)) rest
  | cons f fields => exact ⟨',', _, rfl, by decide⟩

mutual

lemma run_write (level room : Nat) (stack : List Open) (hroom : stack.length + room ≤ depthLimit) {m : Mode}
    (hm : m.opens) (rest : List Char) : ∀ v : Value, v.fits room → ((∃ x, v = .number x) → endsNumber rest) →
      run ⟨stack, m⟩ (l.write level v ++ rest) = run (place (Written.ofValue v) stack) rest
  | .null, _, _ => run_null hm stack rest
  | .boolean b, _, _ => run_word hm stack b rest
  | .number _, hx, hr => run_number hm stack hx (hr ⟨_, rfl⟩)
  | .text s, _, _ => run_text hm stack s rest
  | .array items, hv, _ => by
    obtain ⟨hpos, hi⟩ := hv
    have hb : step ⟨stack, m⟩ '[' = some ⟨.array [] :: stack, beforeItem true⟩ := by
      rw [step_begin hm stack (by decide) (by decide)]
      rfl
    have ht := run_writeItems (level + 1) (room - 1) stack (by omega) true []
      (l.closingGap_blank level items.isEmpty) rest items hi
    rw [write, List.cons_append, run_cons, hb, Option.bind_some, List.append_assoc, List.append_assoc, Written.ofValue]
    exact ht
  | .object fields, hv, _ => by
    obtain ⟨hpos, hi⟩ := hv
    have hb : step ⟨stack, m⟩ '\x7b' = some ⟨.object (keyed []) none :: stack, beforeField true⟩ := by
      rw [step_begin hm stack (by decide) (by decide)]
      rfl
    have ht := run_writeFields (level + 1) (room - 1) stack (by omega) true []
      (l.closingGap_blank level fields.isEmpty) rest fields hi
    rw [write, List.cons_append, run_cons, hb, Option.bind_some, List.append_assoc, List.append_assoc, Written.ofValue]
    exact ht

lemma run_writeItems (level room : Nat) (stack : List Open) (hroom : stack.length + 1 + room ≤ depthLimit)
    (first : Bool) (done : List Written) {gap : List Char} (hg : ∀ c ∈ gap, isSpace c = true)
    (rest : List Char) : ∀ items : List Value, fitItems room items →
      run ⟨.array done :: stack, beforeItem first⟩ (l.writeItems level first items ++ (gap ++ ']' :: rest)) =
        run (place (.array (done.reverse ++ Written.ofValue.ofValues items)) stack) rest
  | [], _ => by
    have hs : Between ⟨.array done :: stack, beforeItem first⟩ := by cases first <;> exact fun c => rfl
    have hc : step ⟨.array done :: stack, beforeItem first⟩ ']' = close ']' (.array done :: stack) := by
      cases first <;> rfl
    rw [writeItems, List.nil_append, run_gap hs hg, run_cons, hc, close_array (by omega) done, Option.bind_some,
      Written.ofValue.ofValues, List.append_nil]
  | v :: items, hv => by
    obtain ⟨hv, hi⟩ := hv
    obtain ⟨m, hm, hsep⟩ := run_separator first stack done
      (l.gap level ++ (l.write level v ++ (l.writeItems level false items ++ (gap ++ ']' :: rest))))
    have hhead := run_write level room (.array done :: stack) hroom hm
      (l.writeItems level false items ++ (gap ++ ']' :: rest)) v hv fun _ => l.endsNumber_items level items hg rest
    have htail := run_writeItems level room stack hroom false (Written.ofValue v :: done) hg rest items hi
    rw [writeItems, List.append_assoc, List.append_assoc, List.append_assoc, hsep,
      run_gap (between_opens hm _) (l.gap_blank level), hhead]
    refine Eq.trans htail ?_
    simp [Written.ofValue.ofValues]

lemma run_writeFields (level room : Nat) (stack : List Open) (hroom : stack.length + 1 + room ≤ depthLimit)
    (first : Bool) (done : List (String × Written)) {gap : List Char} (hg : ∀ c ∈ gap, isSpace c = true)
    (rest : List Char) : ∀ fields : List (String × Value), fitFields room fields →
      run ⟨.object (keyed done) none :: stack, beforeField first⟩
          (l.writeFields level first fields ++ (gap ++ '\x7d' :: rest)) =
        run (place (.object (done ++ Written.ofValue.ofFields fields)) stack) rest
  | [], _ => by
    have hs : Between ⟨.object (keyed done) none :: stack, beforeField first⟩ := by
      cases first <;> exact fun c => rfl
    have hc : step ⟨.object (keyed done) none :: stack, beforeField first⟩ '\x7d' =
        close '\x7d' (.object (keyed done) none :: stack) := by cases first <;> rfl
    rw [writeFields, List.nil_append, run_gap hs hg, run_cons, hc, close_object (by omega) done, Option.bind_some,
      Written.ofValue.ofFields, List.append_nil]
  | (k, v) :: fields, hv => by
    obtain ⟨hv, hi⟩ := hv
    obtain ⟨m, hm, hsep⟩ := run_fieldSeparator first stack (keyed done)
      (l.gap level ++ (Writer.quote k ++ ':' :: (l.colonGap ++ (l.write level v ++
        (l.writeFields level false fields ++ (gap ++ '\x7d' :: rest))))))
    have hb : Between ⟨.object (keyed done) none :: stack, m⟩ := by rcases hm with rfl | rfl <;> exact fun c => rfl
    have hcolon : step ⟨.object (keyed done) (some k) :: stack, .colon⟩ ':' =
        some ⟨.object (keyed done) (some k) :: stack, .value⟩ := rfl
    have hhead := run_write level room (.object (keyed done) (some k) :: stack) hroom (m := .value) trivial
      (l.writeFields level false fields ++ (gap ++ '\x7d' :: rest)) v hv fun _ =>
        l.endsNumber_fields level fields hg rest
    have htail := run_writeFields level room stack hroom false (done ++ [(k, Written.ofValue v)]) hg rest fields hi
    rw [keyed_concat] at htail
    rw [writeFields]
    simp only [List.append_assoc, List.cons_append]
    rw [hsep, run_gap hb (l.gap_blank level), run_key hm, run_cons, hcolon, Option.bind_some,
      run_gap (between_opens (m := .value) trivial _) l.colonGap_blank, hhead]
    refine Eq.trans htail ?_
    simp [Written.ofValue.ofFields]

end

lemma read?_write {v : Value} (hv : v.fits depthLimit) : Written.read? (l.write 0 v) = some (Written.ofValue v) := by
  by_cases hn : ∃ x, v = .number x
  · obtain ⟨x, rfl⟩ := hn
    cases x with
    | real x => exact hv.elim
    | integer n =>
      obtain ⟨numeral, d, hd, hrev, hrun⟩ := run_integer (m := .value) trivial [] n
      have hc : d.complete = true := by rcases hd with rfl | rfl <;> rfl
      rw [read?_eq, start, write, hrun, Option.bind_some]
      simp [finish?, hc, numberOf_toText hv hrev, Written.ofValue]
  · have hr := l.run_write 0 depthLimit [] (by simp) (m := .value) trivial [] v hv fun h => absurd h hn
    rw [List.append_nil] at hr
    rw [read?_eq, start, hr]
    rfl

end Layout

theorem read?_compact {v : Value} (hv : v.fits depthLimit) :
    Written.read? (Writer.compact v) = some (Written.ofValue v) := by
  rw [← Layout.write_oneLine 0 v]
  exact Layout.oneLine.read?_write hv

end BrowserCheck.Json
