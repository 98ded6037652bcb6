import BrowserCheck.Text.Basic
import Mathlib.Tactic.Common
import Mathlib.Data.List.Basic

set_option autoImplicit false

namespace BrowserCheck.Text

@[simp] lemma unlines_nil : unlines [] = [] := rfl

@[simp] lemma unlines_cons (l : List Char) (ls : List (List Char)) :
    unlines (l :: ls) = l ++ '\n' :: unlines ls := by simp [unlines]

@[simp] lemma unlines_append (ls ls' : List (List Char)) :
    unlines (ls ++ ls') = unlines ls ++ unlines ls' := by simp [unlines]

lemma dropReturn_of_notMem {l : List Char} (h : '\r' ∉ l) : dropReturn l = l := by
  cases l with
  | nil => rfl
  | cons c l =>
    have hc : c ≠ '\r' := by rintro rfl; simp at h
    simp [dropReturn, hc]

lemma linesFrom_line {l : List Char} (acc rest : List Char) (h : '\n' ∉ l) :
    linesFrom acc (l ++ '\n' :: rest) = (dropReturn (l.reverse ++ acc)).reverse :: linesFrom [] rest := by
  induction l generalizing acc with
  | nil => simp [linesFrom]
  | cons c l ih =>
    simp only [List.mem_cons, not_or] at h
    simp [linesFrom, Ne.symm h.1, ih (c :: acc) h.2]

lemma lines_unlines {ls : List (List Char)} (h : ∀ l ∈ ls, '\n' ∉ l ∧ '\r' ∉ l) :
    lines (unlines ls) = ls := by
  induction ls with
  | nil => rfl
  | cons l ls ih =>
    obtain ⟨hn, hr⟩ := h l (by simp)
    have ht := ih fun l hl => h l (by simp [hl])
    have hd : dropReturn l.reverse = l.reverse := dropReturn_of_notMem fun hm => hr (List.mem_reverse.mp hm)
    rw [lines, unlines_cons, linesFrom_line [] _ hn, List.append_nil, hd, List.reverse_reverse]
    exact congrArg (l :: ·) ht

lemma linesFrom_end {l : List Char} (acc : List Char) (h : '\n' ∉ l) (hne : l ≠ [] ∨ acc ≠ []) :
    linesFrom acc l = [acc.reverse ++ l] := by
  induction l generalizing acc with
  | nil =>
    have ha : acc ≠ [] := hne.resolve_left fun hn => hn rfl
    simp [linesFrom, ha]
  | cons c l ih =>
    simp only [List.mem_cons, not_or] at h
    rw [linesFrom, if_neg (Ne.symm h.1), ih (c :: acc) h.2 (.inr (List.cons_ne_nil _ _))]
    simp

lemma lines_intercalate {ls : List (List Char)} (h : ∀ l ∈ ls, '\n' ∉ l ∧ '\r' ∉ l)
    (hlast : ∀ l ∈ ls.getLast?, l ≠ []) : lines (['\n'].intercalate ls) = ls := by
  induction ls with
  | nil => rfl
  | cons l ls ih =>
    obtain ⟨hn, hr⟩ := h l List.mem_cons_self
    cases ls with
    | nil =>
      rw [List.intercalate_singleton, lines, linesFrom_end [] hn (.inl (hlast l rfl))]
      rfl
    | cons l' ls =>
      have ht := ih (fun k hk => h k (List.mem_cons_of_mem _ hk)) hlast
      have hd : dropReturn l.reverse = l.reverse := dropReturn_of_notMem fun hm => hr (List.mem_reverse.mp hm)
      rw [List.intercalate_cons_cons, List.append_assoc, List.singleton_append, lines, linesFrom_line [] _ hn,
        List.append_nil, hd, List.reverse_reverse]
      exact congrArg (l :: ·) ht

lemma intercalate_concat_nil (ls : List (List Char)) : ['\n'].intercalate (ls ++ [[]]) = unlines ls := by
  induction ls with
  | nil => rfl
  | cons l ls ih =>
    have hne : ls ++ [[]] ≠ [] := List.append_ne_nil_of_right_ne_nil ls (List.cons_ne_nil _ _)
    rw [List.cons_append, List.intercalate_cons_of_ne_nil hne, ih, unlines_cons, List.append_assoc,
      List.singleton_append]

lemma splitOn_unlines {ls : List (List Char)} (h : ∀ l ∈ ls, '\n' ∉ l) :
    (unlines ls).splitOn '\n' = ls ++ [[]] := by
  rw [← intercalate_concat_nil]
  apply List.splitOn_intercalate
  · intro l hl
    rcases List.mem_append.mp hl with hl | hl
    · exact h l hl
    · rw [List.mem_singleton.mp hl]
      exact List.not_mem_nil
  · exact List.append_ne_nil_of_right_ne_nil ls (List.cons_ne_nil _ _)

/-- A text with blanks before each of its lines, the empty ones apart. Lines are what newlines stand
between, and carriage returns belong to them. -/
def indentedBy (width : Nat) (s : List Char) : List Char :=
  ['\n'].intercalate ((s.splitOn '\n').map fun l => if l = [] then [] else List.replicate width ' ' ++ l)

lemma indentedBy_unlines (width : Nat) {ls : List (List Char)} (h : ∀ l ∈ ls, '\n' ∉ l) :
    indentedBy width (unlines ls) =
      unlines (ls.map fun l => if l = [] then [] else List.replicate width ' ' ++ l) := by
  rw [indentedBy, splitOn_unlines h, List.map_append]
  exact intercalate_concat_nil _

end BrowserCheck.Text
