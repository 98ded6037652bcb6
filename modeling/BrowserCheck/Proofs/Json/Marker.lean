import BrowserCheck.Proofs.Json.Layout
import BrowserCheck.Proofs.Text.Search
import Mathlib.Data.Bool.AllAny

set_option autoImplicit false

/-! Markers in written documents. Writing neither makes nor hides a marker: a document holds one exactly
where one of its texts does. A document that is cut off where a marker begins is no document. -/

namespace BrowserCheck.Text

variable {m : List Char}

lemma prefix_of_append_cons {a b : List Char} {c : Char} (hc : c ∉ m) (h : m <+: a ++ c :: b) : m <+: a := by
  rcases Nat.le_total m.length a.length with hl | hl
  · exact List.prefix_of_prefix_length_le h (List.prefix_append a _) hl
  · obtain ⟨t, rfl⟩ := List.prefix_of_prefix_length_le (List.prefix_append a (c :: b)) h hl
    rw [List.prefix_append_right_inj] at h
    cases t with
    | nil => simp
    | cons d t =>
      obtain ⟨rfl, -⟩ := List.cons_prefix_cons.mp h
      simp at hc

lemma infix_append_cons {a b : List Char} {c : Char} (hc : c ∉ m) (h : m <:+: a ++ c :: b) :
    m <:+: a ∨ m <:+: b := by
  induction a with
  | nil =>
    rcases List.infix_cons_iff.mp h with h | h
    · exact .inl (prefix_of_append_cons (a := []) hc h).isInfix
    · exact .inr h
  | cons d a ih =>
    rcases List.infix_cons_iff.mp h with h | h
    · exact .inl (prefix_of_append_cons (a := d :: a) hc h).isInfix
    · exact (ih h).imp List.infix_cons id

lemma infix_of_foreign {a b : List Char} (hm : m ≠ []) (ha : ∀ c ∈ a, c ∉ m) (h : m <:+: a ++ b) : m <:+: b := by
  induction a with
  | nil => exact h
  | cons c a ih =>
    rcases infix_append_cons (a := []) (ha c (by simp)) h with h | h
    · exact absurd (List.infix_nil.mp h) hm
    · exact ih (fun d hd => ha d (by simp [hd])) h

lemma firstCloses_concat {a : List Char} {c : Char} (hc : c ∉ m) (h : ¬m <:+: a ++ [c]) :
    FirstCloses m (a ++ [c]) := by
  intro k hk ho
  have hle : k ≤ a.length := by simpa using Nat.lt_succ_iff.mp (by simpa using hk)
  rw [List.append_assoc, List.drop_append_of_le_length hle] at ho
  have hp : m <:+: a.drop k := (prefix_of_append_cons hc ho).isInfix
  exact h ((hp.trans (List.drop_suffix k a).isInfix).trans (List.prefix_append a [c]).isInfix)

end BrowserCheck.Text

namespace BrowserCheck.Json

open Text (infix_append_cons infix_of_foreign)

def isInert (c : Char) : Prop := c = '_' ∨ c.isUpper = true

instance (c : Char) : Decidable (isInert c) := inferInstanceAs (Decidable (_ ∨ _))

structure Inert (m : List Char) : Prop where
  ne_nil : m ≠ []
  inert : ∀ c ∈ m, isInert c

variable {m : List Char}

lemma Inert.notMem (hm : Inert m) {c : Char} (hc : ¬isInert c) : c ∉ m := fun h => hc (hm.inert c h)

lemma isInert.range {c : Char} (h : isInert c) : 65 ≤ c.toNat ∧ c.toNat ≤ 95 := by
  rcases h with rfl | hu
  · decide
  · obtain ⟨hl, hu⟩ := of_decide_eq_true hu
    have h1 : 65 ≤ c.toNat := UInt32.le_iff_toNat_le.mp hl
    have h2 : c.toNat ≤ 90 := UInt32.le_iff_toNat_le.mp hu
    omega

lemma not_isInert_digit {c : Char} (hd : c.isDigit = true) : ¬isInert c := by
  intro h
  simp only [Char.isDigit, Bool.and_eq_true, decide_eq_true_eq] at hd
  have h1 : c.toNat ≤ 57 := UInt32.le_iff_toNat_le.mp hd.2
  have h2 := h.range
  omega

lemma not_infix_of_foreign (hm : Inert m) {s : List Char} (hs : ∀ c ∈ s, ¬isInert c) : ¬m <:+: s := by
  intro h
  obtain ⟨c, t, rfl⟩ := List.exists_cons_of_ne_nil hm.ne_nil
  have hc : c ∈ s := h.subset (by simp)
  exact hs c hc (hm.inert c (by simp))

namespace Writer

lemma not_isInert_hexDigit : ∀ n < 16, ¬isInert (Text.hexDigit n) := by decide

lemma escapeChar_cases (c : Char) : escapeChar c = [c] ∨
    ¬isInert c ∧ ∃ tail, escapeChar c = '\\' :: tail ∧ ∀ d ∈ '\\' :: tail, ¬isInert d := by
  unfold escapeChar
  split
  case h_8 =>
    split
    · next hc =>
      have h1 := not_isInert_hexDigit (c.toNat / 16) (by omega)
      have h2 := not_isInert_hexDigit (c.toNat % 16) (by omega)
      refine .inr ⟨fun h => ?_, ['u', '0', '0', Text.hexDigit (c.toNat / 16), Text.hexDigit (c.toNat % 16)], rfl, ?_⟩
      · have hr := h.range
        omega
      · intro d hd
        simp only [List.mem_cons, List.not_mem_nil, or_false] at hd
        rcases hd with rfl | rfl | rfl | rfl | rfl | rfl
        · decide
        · decide
        · decide
        · decide
        · exact h1
        · exact h2
    · exact .inl rfl
  all_goals exact .inr ⟨by decide, _, rfl, List.all_iff_forall_prop.mp (by decide)⟩

lemma escapeChar_inert {c : Char} (hc : isInert c) : escapeChar c = [c] :=
  (escapeChar_cases c).resolve_right fun h => h.1 hc

lemma prefix_of_escaped (hm : ∀ c ∈ m, isInert c) {s : List Char} (h : m <+: s.flatMap escapeChar) : m <+: s := by
  induction s generalizing m with
  | nil => exact h
  | cons c s ih =>
    cases m with
    | nil => simp
    | cons x m =>
      rcases escapeChar_cases c with he | ⟨-, tail, he, hf⟩
      · rw [List.flatMap_cons, he, List.singleton_append, List.cons_prefix_cons] at h
        exact List.cons_prefix_cons.mpr ⟨h.1, ih (fun d hd => hm d (by simp [hd])) h.2⟩
      · rw [List.flatMap_cons, he, List.cons_append, List.cons_prefix_cons] at h
        exact absurd (hm x (by simp)) (h.1 ▸ hf '\\' (by simp))

lemma infix_of_escaped (hm : Inert m) {s : List Char} (h : m <:+: s.flatMap escapeChar) : m <:+: s := by
  induction s with
  | nil => exact h
  | cons c s ih =>
    rcases escapeChar_cases c with he | ⟨-, tail, he, hf⟩
    · have hc : (c :: s).flatMap escapeChar = c :: s.flatMap escapeChar := by
        rw [List.flatMap_cons, he, List.singleton_append]
      rw [hc] at h
      rcases List.infix_cons_iff.mp h with h | h
      · rw [← hc] at h
        exact (prefix_of_escaped hm.inert h).isInfix
      · exact List.infix_cons (ih h)
    · rw [List.flatMap_cons, he] at h
      exact List.infix_cons (ih (infix_of_foreign hm.ne_nil (fun d hd => hm.notMem (hf d hd)) h))

lemma infix_escaped (hm : Inert m) {s : List Char} (h : m <:+: s) : m <:+: s.flatMap escapeChar := by
  obtain ⟨a, b, rfl⟩ := h
  have he : m.flatMap escapeChar = m := by
    rw [List.flatMap_congr fun c hc => escapeChar_inert (hm.inert c hc)]
    simp
  rw [List.flatMap_append, List.flatMap_append, he]
  exact List.infix_append _ _ _

lemma infix_quote_iff (hm : Inert m) (s : String) : m <:+: quote s ↔ m <:+: s.toList := by
  have hq : '"' ∉ m := hm.notMem (by decide)
  constructor
  · intro h
    have hbody := infix_of_foreign (a := ['"']) hm.ne_nil (by simpa using hq) h
    rcases infix_append_cons hq hbody with h | h
    · exact infix_of_escaped hm h
    · exact absurd (List.infix_nil.mp h) hm.ne_nil
  · intro h
    exact List.infix_cons ((infix_escaped hm h).trans (List.prefix_append _ _).isInfix)

lemma not_infix_toText (hm : Inert m) {x : Number} (hx : x.fits) : ¬m <:+: x.toText := by
  apply not_infix_of_foreign hm
  intro c hc
  cases x with
  | real x => exact hx.elim
  | integer n =>
    rcases Number.toText_cases n with ⟨k, -, ht⟩ | ⟨k, -, -, ht⟩
    · exact not_isInert_digit (Text.isDigit_of_mem_digits (ht ▸ hc))
    · rcases List.mem_cons.mp (ht ▸ hc) with rfl | hc
      · decide
      · exact not_isInert_digit (Text.isDigit_of_mem_digits hc)

end Writer

mutual

def Value.texts : Value → List String
  | .null => []
  | .boolean _ => []
  | .number _ => []
  | .text s => [s]
  | .array items => itemTexts items
  | .object fields => fieldTexts fields

def itemTexts : List Value → List String
  | [] => []
  | v :: rest => v.texts ++ itemTexts rest

def fieldTexts : List (String × Value) → List String
  | [] => []
  | (k, v) :: rest => k :: (v.texts ++ fieldTexts rest)

end

open Writer

lemma compactItems_false (items : List Value) :
    compactItems false items = [] ∧ items = [] ∨ compactItems false items = ',' :: compactItems true items := by
  cases items with
  | nil => exact .inl ⟨rfl, rfl⟩
  | cons v rest => exact .inr (by simp [compactItems])

lemma compactFields_false (fields : List (String × Value)) :
    compactFields false fields = [] ∧ fields = [] ∨ compactFields false fields = ',' :: compactFields true fields := by
  cases fields with
  | nil => exact .inl ⟨rfl, rfl⟩
  | cons f rest => exact .inr (by simp [compactFields])

mutual

lemma text_with (hm : Inert m) (room : Nat) :
    ∀ v : Value, v.fits room → m <:+: compact v → ∃ s ∈ v.texts, m <:+: s.toList
  | .null, _, h => absurd h (not_infix_of_foreign hm (List.all_iff_forall_prop.mp (by decide)))
  | .boolean b, _, h => absurd h (not_infix_of_foreign hm (List.all_iff_forall_prop.mp (by cases b <;> decide)))
  | .number _, hv, h => absurd h (not_infix_toText hm hv)
  | .text s, _, h => ⟨s, by simp [Value.texts], (infix_quote_iff hm s).mp h⟩
  | .array items, hv, h => by
    have hb := infix_of_foreign (a := ['[']) hm.ne_nil (by simpa using hm.notMem (by decide)) h
    rcases infix_append_cons (hm.notMem (by decide)) hb with h | h
    · exact text_with_items hm (room - 1) items hv.2 h
    · exact absurd (List.infix_nil.mp h) hm.ne_nil
  | .object fields, hv, h => by
    have hb := infix_of_foreign (a := ['\x7b']) hm.ne_nil (by simpa using hm.notMem (by decide)) h
    rcases infix_append_cons (hm.notMem (by decide)) hb with h | h
    · exact text_with_fields hm (room - 1) fields hv.2 h
    · exact absurd (List.infix_nil.mp h) hm.ne_nil

lemma text_with_items (hm : Inert m) (room : Nat) : ∀ items : List Value, fitItems room items →
    m <:+: compactItems true items → ∃ s ∈ itemTexts items, m <:+: s.toList
  | [], _, h => absurd (List.infix_nil.mp h) hm.ne_nil
  | v :: rest, hv, h => by
    rw [compactItems, if_pos rfl, List.nil_append] at h
    have hcases : m <:+: compact v ∨ m <:+: compactItems true rest := by
      rcases compactItems_false rest with ⟨he, -⟩ | he
      · exact .inl (by simpa [he] using h)
      · rw [he] at h
        exact infix_append_cons (hm.notMem (by decide)) h
    rcases hcases with h | h
    · obtain ⟨s, hs, h⟩ := text_with hm room v hv.1 h
      exact ⟨s, by simp [itemTexts, hs], h⟩
    · obtain ⟨s, hs, h⟩ := text_with_items hm room rest hv.2 h
      exact ⟨s, by simp [itemTexts, hs], h⟩

lemma text_with_fields (hm : Inert m) (room : Nat) : ∀ fields : List (String × Value), fitFields room fields →
    m <:+: compactFields true fields → ∃ s ∈ fieldTexts fields, m <:+: s.toList
  | [], _, h => absurd (List.infix_nil.mp h) hm.ne_nil
  | (k, v) :: rest, hv, h => by
    rw [compactFields, if_pos rfl, List.nil_append, List.append_assoc] at h
    have hcases : m <:+: quote k ∨ m <:+: compact v ∨ m <:+: compactFields true rest := by
      rcases infix_append_cons (hm.notMem (by decide)) h with h | h
      · exact .inl h
      · rcases compactFields_false rest with ⟨he, -⟩ | he
        · exact .inr (.inl (by simpa [he] using h))
        · rw [he] at h
          exact .inr (infix_append_cons (hm.notMem (by decide)) h)
    rcases hcases with h | h | h
    · exact ⟨k, by simp [fieldTexts], (infix_quote_iff hm k).mp h⟩
    · obtain ⟨s, hs, h⟩ := text_with hm room v hv.1 h
      exact ⟨s, by simp [fieldTexts, hs], h⟩
    · obtain ⟨s, hs, h⟩ := text_with_fields hm room rest hv.2 h
      exact ⟨s, by simp [fieldTexts, hs], h⟩

end

mutual

lemma infix_of_text (hm : Inert m) {s : String} (hs : m <:+: s.toList) : ∀ v : Value, s ∈ v.texts → m <:+: compact v
  | .null, h | .boolean _, h | .number _, h => absurd h (by simp [Value.texts])
  | .text t, h => by
    rw [Value.texts, List.mem_singleton] at h
    exact (infix_quote_iff hm t).mpr (h ▸ hs)
  | .array items, h =>
    List.infix_cons ((infix_of_text_items hm hs true items h).trans (List.prefix_append _ _).isInfix)
  | .object fields, h =>
    List.infix_cons ((infix_of_text_fields hm hs true fields h).trans (List.prefix_append _ _).isInfix)

lemma infix_of_text_items (hm : Inert m) {s : String} (hs : m <:+: s.toList) (first : Bool) :
    ∀ items : List Value, s ∈ itemTexts items → m <:+: compactItems first items
  | [], h => absurd h (by simp [itemTexts])
  | v :: rest, h => by
    rw [compactItems, List.append_assoc]
    apply List.infix_append_of_infix_right
    rcases List.mem_append.mp h with h | h
    · exact List.infix_append_of_infix_left (infix_of_text hm hs v h)
    · exact List.infix_append_of_infix_right (infix_of_text_items hm hs false rest h)

lemma infix_of_text_fields (hm : Inert m) {s : String} (hs : m <:+: s.toList) (first : Bool) :
    ∀ fields : List (String × Value), s ∈ fieldTexts fields → m <:+: compactFields first fields
  | [], h => absurd h (by simp [fieldTexts])
  | (k, v) :: rest, h => by
    rw [compactFields, List.append_assoc, List.append_assoc]
    apply List.infix_append_of_infix_right
    rcases List.mem_cons.mp h with rfl | h
    · exact List.infix_append_of_infix_left ((infix_quote_iff hm _).mpr hs)
    · apply List.infix_append_of_infix_right
      rcases List.mem_append.mp h with h | h
      · exact List.infix_cons (List.infix_append_of_infix_left (infix_of_text hm hs v h))
      · exact List.infix_cons (List.infix_append_of_infix_right (infix_of_text_fields hm hs false rest h))

end

theorem infix_compact_iff (hm : Inert m) {room : Nat} {v : Value} (hv : v.fits room) :
    m <:+: compact v ↔ ∃ s ∈ v.texts, m <:+: s.toList :=
  ⟨text_with hm room v hv, fun ⟨_, hs, h⟩ => infix_of_text hm h v hs⟩

namespace Reader

def Spelling (s : State) : Prop := ∀ left w, s.mode = .word left w → '_' ∉ left

lemma spelling_place (w : Written) (stack : List Open) : Spelling (place w stack) := by
  intro left v h
  rcases stack with _ | ⟨⟨items⟩ | ⟨fields, key⟩, stack⟩ <;> cases h

lemma spelling_close {c : Char} {stack : List Open} {t : State} (h : close c stack = some t) : Spelling t := by
  rcases stack with _ | ⟨⟨items⟩ | ⟨fields, key⟩, stack⟩
  · cases h
  · obtain ⟨-, h⟩ := Option.ite_none_right_eq_some.mp h
    cases h
    exact spelling_place _ _
  · obtain ⟨-, h⟩ := Option.ite_none_right_eq_some.mp h
    cases h
    exact spelling_place _ _

lemma spelling_of_mode {s : State} (h : ∀ left w, s.mode ≠ .word left w) : Spelling s :=
  fun left w he => absurd he (h left w)

lemma spelling_begin? {c : Char} {stack : List Open} {t : State} (h : begin? stack c = some t) : Spelling t := by
  have hw : ∀ left w, '_' ∉ left → Spelling ⟨stack, .word left w⟩ := by
    intro left w hn left' w' he
    cases he
    exact hn
  unfold begin? at h
  split at h
  · cases h; exact spelling_of_mode (by simp)
  split at h
  · cases h; exact spelling_of_mode (by simp)
  split at h
  · cases h; exact spelling_of_mode (by simp)
  split at h
  · cases h; exact hw _ _ (by decide)
  split at h
  · cases h; exact hw _ _ (by decide)
  split at h
  · cases h; exact hw _ _ (by decide)
  split at h
  · cases h; exact spelling_of_mode (by simp)
  · obtain ⟨d, -, rfl⟩ := Option.map_eq_some_iff.mp h
    exact spelling_of_mode (by simp)

lemma spelling_between {s t : State} {c : Char} (hs : Spelling s) (h : stepBetween s c = some t) : Spelling t := by
  unfold stepBetween at h
  split at h
  · cases h; exact hs
  split at h
  · exact spelling_begin? h
  · split at h
    · exact spelling_close h
    · exact spelling_begin? h
  · split at h
    · cases h; exact spelling_of_mode (by simp)
    · exact spelling_close h
  · split at h
    · cases h; exact spelling_of_mode (by simp)
    · cases h
  · split at h
    · cases h; exact spelling_of_mode (by simp)
    · cases h
  · split at h
    · split at h <;> cases h <;> exact spelling_of_mode (by simp)
    · exact spelling_close h
  · cases h

lemma spelling_string {stack : List Open} {isKey : Bool} {e : Escape} {p : Partial} {c : Char} {t : State}
    (h : stepString stack isKey e p c = some t) : Spelling t := by
  unfold stepString at h
  split at h
  · split at h
    · unfold closeString at h
      split at h
      · split at h <;> cases h
        exact spelling_of_mode (by simp)
      · split at h <;> cases h <;> exact spelling_place _ _
    · split at h
      · cases h; exact spelling_of_mode (by simp)
      · split at h <;> cases h
        exact spelling_of_mode (by simp)
  · split at h
    · cases h; exact spelling_of_mode (by simp)
    · obtain ⟨d, -, rfl⟩ := Option.map_eq_some_iff.mp h
      exact spelling_of_mode (by simp)
  · obtain ⟨d, -, rfl⟩ := Option.map_eq_some_iff.mp h
    split <;> exact spelling_of_mode (by simp)

lemma spelling_step {s t : State} {c : Char} (hs : Spelling s) (h : step s c = some t) : Spelling t := by
  unfold step at h
  split at h
  · exact spelling_string h
  · split at h
    · cases h; exact spelling_of_mode (by simp)
    · split at h
      · exact spelling_between (spelling_place _ _) h
      · cases h
  · next x left w hmode =>
    have hn := hs _ _ hmode
    split at h
    · split at h <;> cases h
      · exact spelling_place _ _
      · intro left' w' he
        cases he
        exact fun hm => hn (List.mem_cons_of_mem _ hm)
    · cases h
  · exact spelling_between hs h

lemma spelling_run {s t : State} {text : List Char} (hs : Spelling s) (h : run s text = some t) : Spelling t := by
  induction text generalizing s with
  | nil => cases h; exact hs
  | cons c text ih =>
    rw [run_cons] at h
    obtain ⟨u, hu, h⟩ := Option.bind_eq_some_iff.mp h
    exact ih (spelling_step hs hu) h

lemma close_underscore (stack : List Open) : close '_' stack = none := by
  rcases stack with _ | ⟨⟨items⟩ | ⟨fields, key⟩, stack⟩ <;> rfl

lemma between_underscore (s : State) : stepBetween s '_' = none := by
  obtain ⟨stack, mode⟩ := s
  cases mode with
  | firstKey | after => exact close_underscore stack
  | _ => rfl

lemma step_underscore {s t : State} (hs : Spelling s) (h : step s '_' = some t) :
    ∃ isKey p, s.mode = .string isKey .plain p := by
  obtain ⟨stack, mode⟩ := s
  cases mode with
  | string isKey e p =>
    cases e with
    | plain => exact ⟨isKey, p, rfl⟩
    | backslash | unit => cases h
  | number numeral d =>
    have hd : d.next? '_' = none := by cases d <;> rfl
    simp only [step, hd, between_underscore, ite_self] at h
    cases h
  | word left w =>
    cases left with
    | nil => cases h
    | cons x left =>
      have hx : '_' ≠ x := by
        rintro rfl
        exact hs _ _ rfl (by simp)
      simp only [step, if_neg hx] at h
      cases h
  | value | firstItem | firstKey | nextKey | colon | after | finished =>
    exact absurd h (by simp [step, between_underscore])

end Reader

open Reader

theorem read?_cut {p rest : List Char} {w : Written} (h : Written.read? (p ++ '_' :: rest) = some w) :
    Written.read? p = none := by
  rw [read?_eq, run_append] at h
  obtain ⟨t, ht, -⟩ := Option.bind_eq_some_iff.mp h
  obtain ⟨s, hs, ht⟩ := Option.bind_eq_some_iff.mp ht
  rw [run_cons] at ht
  obtain ⟨u, hu, -⟩ := Option.bind_eq_some_iff.mp ht
  obtain ⟨isKey, partial', hmode⟩ := step_underscore (spelling_run (spelling_of_mode (by simp [start])) hs) hu
  rw [read?_eq, hs, Option.bind_some, finish?, hmode]
  rcases s.stack with _ | ⟨o, stack⟩ <;> rfl

end BrowserCheck.Json
