import BrowserCheck.Text.Basic
import Mathlib.Tactic.Common
import Mathlib.Data.List.Infix

set_option autoImplicit false

namespace BrowserCheck.Text

/-- The first occurrence of the marker in `a ++ marker` is the one behind `a`. A text that ends like the
beginning of the marker may fail this although it does not hold the marker. -/
def FirstCloses (marker a : List Char) : Prop := ∀ k < a.length, ¬marker <+: (a ++ marker).drop k

instance (marker a : List Char) : Decidable (FirstCloses marker a) :=
  inferInstanceAs (Decidable (∀ k < a.length, ¬marker <+: (a ++ marker).drop k))

variable {marker a rest s : List Char}

@[simp] lemma firstCloses_nil : FirstCloses marker [] := fun _ hk => absurd hk (Nat.not_lt_zero _)

lemma firstCloses_cons {c : Char} :
    FirstCloses marker (c :: a) ↔ ¬marker <+: c :: (a ++ marker) ∧ FirstCloses marker a := by
  constructor
  · intro h
    exact ⟨h 0 (by simp), fun k hk => h (k + 1) (by simpa using hk)⟩
  · rintro ⟨h0, ht⟩ k hk
    cases k with
    | zero => exact h0
    | succ k => exact ht k (by simpa using hk)

lemma prefix_append_iff : marker <+: a ++ (marker ++ rest) ↔ marker <+: a ++ marker := by
  rw [← List.append_assoc]
  constructor
  · intro h
    exact List.prefix_of_prefix_length_le h (List.prefix_append _ _) (by simp)
  · intro h
    exact h.trans (List.prefix_append _ _)

lemma isPrefixOf?_eq_none {x y : List Char} (h : ¬x <+: y) : x.isPrefixOf? y = none := by
  cases hx : x.isPrefixOf? y with
  | none => rfl
  | some t => exact absurd ⟨t, List.append_eq_of_isPrefixOf?_eq_some hx⟩ h

lemma cutAt?_of_prefix (hm : marker ≠ []) (rest : List Char) :
    cutAt? marker (marker ++ rest) = some ([], rest) := by
  cases marker with
  | nil => exact absurd rfl hm
  | cons c marker =>
    have hp : (c :: marker).isPrefixOf? (c :: (marker ++ rest)) = some rest := by simp
    rw [List.cons_append, cutAt?, hp]

lemma cutAt?_of_firstCloses (hm : marker ≠ []) (h : FirstCloses marker a) (rest : List Char) :
    cutAt? marker (a ++ (marker ++ rest)) = some (a, rest) := by
  induction a with
  | nil => exact cutAt?_of_prefix hm rest
  | cons c a ih =>
    obtain ⟨h0, ht⟩ := firstCloses_cons.mp h
    have hp : ¬marker <+: c :: (a ++ (marker ++ rest)) := by
      rw [← List.cons_append, prefix_append_iff]
      exact h0
    rw [List.cons_append, cutAt?, isPrefixOf?_eq_none hp, ih ht]
    rfl

lemma firstCloses_of_cutAt? (h : cutAt? marker s = some (a, rest)) :
    s = a ++ (marker ++ rest) ∧ FirstCloses marker a := by
  induction s generalizing a with
  | nil =>
    cases marker with
    | nil =>
      obtain ⟨rfl, rfl⟩ : [] = a ∧ [] = rest := by simpa [cutAt?] using h
      simp
    | cons c marker => simp [cutAt?] at h
  | cons c s ih =>
    rw [cutAt?] at h
    cases hp : marker.isPrefixOf? (c :: s) with
    | some after =>
      rw [hp] at h
      obtain ⟨rfl, rfl⟩ : [] = a ∧ after = rest := by simpa using h
      exact ⟨(List.append_eq_of_isPrefixOf?_eq_some hp).symm, firstCloses_nil⟩
    | none =>
      rw [hp] at h
      obtain ⟨⟨a', rest'⟩, hc, he⟩ := Option.map_eq_some_iff.mp h
      obtain ⟨rfl, rfl⟩ : c :: a' = a ∧ rest' = rest := by simpa using he
      obtain ⟨rfl, hf⟩ := ih hc
      refine ⟨rfl, firstCloses_cons.mpr ⟨?_, hf⟩⟩
      rintro ⟨t, ht⟩
      have hs : marker.isPrefixOf? (c :: (a' ++ (marker ++ rest'))) = some (t ++ rest') := by
        rw [List.isPrefixOf?_eq_some_iff_append_eq, ← List.append_assoc, ht]
        simp
      rw [hs] at hp
      cases hp

lemma cutAt?_isSome (h : marker <:+: s) : ∃ p, cutAt? marker s = some p := by
  induction s with
  | nil => exact ⟨([], []), by simp [cutAt?, List.infix_nil.mp h]⟩
  | cons c s ih =>
    rw [cutAt?]
    cases hp : marker.isPrefixOf? (c :: s) with
    | some after => exact ⟨_, rfl⟩
    | none =>
      rcases List.infix_cons_iff.mp h with ⟨t, ht⟩ | ht
      · rw [List.isPrefixOf?_eq_some_iff_append_eq.mpr ht] at hp
        cases hp
      · obtain ⟨p, hc⟩ := ih ht
        exact ⟨(c :: p.1, p.2), by rw [hc]; rfl⟩

lemma splitAt_ne_nil (mark : Char) (s : List Char) : splitAt mark s ≠ [] := by
  cases s with
  | nil => simp [splitAt]
  | cons c s =>
    rw [splitAt]
    split
    · simp
    · split <;> simp

lemma splitAt_mark (mark : Char) (s t : List Char) :
    splitAt mark (s ++ mark :: t) = splitAt mark s ++ splitAt mark t := by
  induction s with
  | nil => exact if_pos rfl
  | cons c s ih =>
    rw [List.cons_append, splitAt, splitAt, ih]
    by_cases hc : c = mark
    · rw [if_pos hc, if_pos hc, List.cons_append]
    · obtain ⟨part, parts, hs⟩ := List.exists_cons_of_ne_nil (splitAt_ne_nil mark s)
      rw [if_neg hc, if_neg hc, hs]
      rfl

lemma splitAt_of_notMem {mark : Char} {s : List Char} (h : mark ∉ s) : splitAt mark s = [s] := by
  induction s with
  | nil => rfl
  | cons c s ih =>
    simp only [List.mem_cons, not_or] at h
    rw [splitAt, if_neg (Ne.symm h.1), ih h.2]

lemma splitAt_append {mark : Char} {s t part : List Char} {others : List (List Char)} (h : mark ∉ s)
    (ht : splitAt mark t = part :: others) : splitAt mark (s ++ t) = (s ++ part) :: others := by
  induction s with
  | nil => exact ht
  | cons c s ih =>
    simp only [List.mem_cons, not_or] at h
    rw [List.cons_append, splitAt, if_neg (Ne.symm h.1), ih h.2]
    rfl

lemma eq_append_of_splitAt {mark : Char} {t part : List Char} {others : List (List Char)}
    (h : splitAt mark t = part :: others) :
    ∃ rest, t = part ++ rest ∧ (rest = [] ∨ rest.head? = some mark) := by
  induction t generalizing part others with
  | nil =>
    obtain ⟨rfl, -⟩ := List.cons.inj h
    exact ⟨[], rfl, .inl rfl⟩
  | cons c t ih =>
    rw [splitAt] at h
    by_cases hc : c = mark
    · rw [if_pos hc] at h
      obtain ⟨rfl, -⟩ := List.cons.inj h
      exact ⟨c :: t, rfl, .inr (congrArg some hc)⟩
    · obtain ⟨first, parts, hs⟩ := List.exists_cons_of_ne_nil (splitAt_ne_nil mark t)
      rw [if_neg hc, hs] at h
      obtain ⟨rfl, -⟩ := List.cons.inj h
      obtain ⟨rest, rfl, hrest⟩ := ih hs
      exact ⟨rest, rfl, hrest⟩

end BrowserCheck.Text
