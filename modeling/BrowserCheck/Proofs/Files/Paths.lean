import BrowserCheck.Files.Tree
import BrowserCheck.Proofs.Text.Search
import Mathlib.Data.List.Basic

set_option autoImplicit false

namespace BrowserCheck.Files

open Text (splitAt splitAt_ne_nil splitAt_mark splitAt_of_notMem)

def isAbsolute (path : String) : Prop := path.toList.head? = some '/'

instance (path : String) : Decidable (isAbsolute path) := inferInstanceAs (Decidable (_ = _))

variable {dir path : String}

lemma exists_join (hdir : dir ≠ "") (hpath : ¬isAbsolute path) :
    ∃ front, (join dir path).toList = front ++ '/' :: path.toList ∧
      (dir.toList = front ∨ dir.toList = front ++ ['/']) := by
  have hhead : path.toList.head? ≠ some '/' := hpath
  rw [join, if_neg hhead]
  split
  next h =>
    have hlast : dir.toList.getLast? = some '/' := h.resolve_left fun he => hdir (String.isEmpty_iff.mp he)
    obtain ⟨front, hfront⟩ := List.getLast?_eq_some_iff.mp hlast
    exact ⟨front, by simp [String.toList_append, hfront], .inr hfront⟩
  next => exact ⟨dir.toList, by simp [String.toList_append], .inl rfl⟩

lemma join_empty (path : String) : join "" path = path := by
  rw [join]
  split
  · rfl
  · rw [if_pos (.inl rfl), String.empty_append]

lemma join_right_cancel {x y : String} (hx : ¬isAbsolute x) (hy : ¬isAbsolute y) (h : join dir x = join dir y) :
    x = y := by
  have hx' : x.toList.head? ≠ some '/' := hx
  have hy' : y.toList.head? ≠ some '/' := hy
  rw [join, join, if_neg hx', if_neg hy'] at h
  split at h
  all_goals
    apply String.toList_injective
    simpa [String.toList_append] using congrArg String.toList h

lemma toList_subset_join (hpath : ¬isAbsolute path) : dir.toList ⊆ (join dir path).toList := by
  by_cases hdir : dir = ""
  · simp [hdir]
  obtain ⟨front, hjoin, hfront | hfront⟩ := exists_join hdir hpath
  all_goals
    rw [hjoin, hfront]
    simp

lemma mem_join (hpath : ¬isAbsolute path) {c : Char} (hc : c ≠ '/') (h : c ∈ (join dir path).toList) :
    c ∈ dir.toList ∨ c ∈ path.toList := by
  by_cases hdir : dir = ""
  · rw [hdir, join_empty] at h
    exact .inr h
  obtain ⟨front, hjoin, hfront | hfront⟩ := exists_join hdir hpath
  all_goals
    rw [hjoin] at h
    rw [hfront]
    simp_all

namespace Tree

lemma start_of_absolute (h : isAbsolute path) (cwd : Place) : start cwd path = ["/"] := if_pos h

lemma start_of_relative (h : ¬isAbsolute path) (cwd : Place) : start cwd path = cwd := if_neg h

lemma isAbsolute_join (hpath : ¬isAbsolute path) : isAbsolute (join dir path) ↔ isAbsolute dir := by
  by_cases hdir : dir = ""
  · rw [hdir, join_empty]
    exact ⟨fun h => absurd h hpath, fun h => absurd h (by decide)⟩
  obtain ⟨c, s, hs⟩ := List.exists_cons_of_ne_nil (mt String.toList_eq_nil_iff.mp hdir)
  obtain ⟨front, hjoin, hfront | hfront⟩ := exists_join hdir hpath
  · rw [isAbsolute, isAbsolute, hjoin, ← hfront, hs]
    rfl
  · rw [isAbsolute, isAbsolute, hjoin, hfront]
    cases front <;> rfl

lemma start_join (cwd : Place) (hpath : ¬isAbsolute path) : start cwd (join dir path) = start cwd dir :=
  if_congr (isAbsolute_join hpath) rfl rfl

lemma parts_slash {front : List Char} (h : path.toList = front ++ ['/']) :
    parts path = parts (String.ofList front) := by
  have hidle : isIdle [] = true := rfl
  rw [parts, parts, h, splitAt_mark, String.toList_ofList]
  simp [splitAt, hidle]

lemma parts_join (hpath : ¬isAbsolute path) : parts (join dir path) = parts dir ++ parts path := by
  by_cases hdir : dir = ""
  · rw [hdir, join_empty]
    rfl
  obtain ⟨front, hjoin, hfront⟩ := exists_join hdir hpath
  have hparts : parts dir = parts (String.ofList front) := by
    rcases hfront with hfront | hfront
    · rw [← hfront, String.ofList_toList]
    · exact parts_slash hfront
  rw [hparts, parts, parts, parts, hjoin, splitAt_mark, String.toList_ofList, List.filter_append, List.map_append]

lemma endsInDirectory_join (hpath : ¬isAbsolute path) : endsInDirectory (join dir path) = endsInDirectory path := by
  by_cases hdir : dir = ""
  · rw [hdir, join_empty]
  obtain ⟨front, hjoin, -⟩ := exists_join hdir hpath
  have hlast := Option.ne_none_iff_exists'.mp (mt List.getLast?_eq_none_iff.mp (splitAt_ne_nil '/' path.toList))
  obtain ⟨part, hpart⟩ := hlast
  rw [endsInDirectory, endsInDirectory, hjoin, splitAt_mark, List.getLast?_append, hpart]
  rfl

lemma dot_notMem_parts (path : String) : "." ∉ parts path := by
  intro h
  obtain ⟨part, hpart, hdot⟩ := List.mem_map.mp h
  have hchars : part = ['.'] := by simpa using congrArg String.toList hdot
  subst hchars
  exact absurd (List.mem_filter.mp hpart).2 (by decide)

lemma endsInDirectory_of_endsInDot (h : endsInDot path = true) : endsInDirectory path = true := by
  rw [endsInDot] at h
  rw [endsInDirectory, ← List.head?_reverse]
  cases hparts : (splitAt '/' path.toList).reverse with
  | nil => simp [hparts] at h
  | cons last before =>
    rw [hparts, List.dropWhile_cons] at h
    split_ifs at h with hempty
    · simp [isIdle, hempty]
    · simp_all [isIdle]

lemma parts_ne_nil (h : endsInDirectory path = false) : parts path ≠ [] := by
  have hlast := Option.ne_none_iff_exists'.mp (mt List.getLast?_eq_none_iff.mp (splitAt_ne_nil '/' path.toList))
  obtain ⟨part, hpart⟩ := hlast
  rw [endsInDirectory, hpart] at h
  intro hnil
  rw [parts, List.map_eq_nil_iff, List.filter_eq_nil_iff] at hnil
  have hidle := hnil part (List.mem_of_getLast? hpart)
  simp_all

def placeOf (cwd : Place) (path : String) : Place := (parts path).foldl step (start cwd path)

lemma foldl_step {parts : List String} (h : ".." ∉ parts) (p : Place) : parts.foldl step p = p ++ parts := by
  induction parts generalizing p with
  | nil => rw [List.foldl_nil, List.append_nil]
  | cons part parts ih =>
    simp only [List.mem_cons, not_or] at h
    have hstep : step p part = p ++ [part] := if_neg (Ne.symm h.1)
    rw [List.foldl_cons, hstep, ih h.2, List.append_assoc, List.singleton_append]

lemma placeOf_join (cwd : Place) (hpath : ¬isAbsolute path) :
    placeOf cwd (join dir path) = (parts path).foldl step (placeOf cwd dir) := by
  rw [placeOf, parts_join hpath, start_join cwd hpath, List.foldl_append, placeOf]

lemma placeOf_join_of_notMem (cwd : Place) (hpath : ¬isAbsolute path) (hclimb : ".." ∉ parts path) :
    placeOf cwd (join dir path) = placeOf cwd dir ++ parts path := by
  rw [placeOf_join cwd hpath, foldl_step hclimb]

lemma parts_dropSlashes (s : List Char) : parts (String.ofList (s.dropWhile (· == '/'))) = parts (String.ofList s) := by
  induction s with
  | nil => rfl
  | cons c s ih =>
    by_cases hc : c = '/'
    · subst hc
      have hslash : ('/' :: s).dropWhile (· == '/') = s.dropWhile (· == '/') := rfl
      have hidle : isIdle [] = true := rfl
      rw [hslash, ih, parts, parts, String.toList_ofList, String.toList_ofList, splitAt, if_pos rfl]
      simp [hidle]
    · rw [List.dropWhile_cons_of_neg (by simpa using hc)]

end Tree

structure IsComponent (name : String) : Prop where
  named : name ≠ ""
  notDot : name ≠ "."
  notAbove : name ≠ ".."
  noSlash : '/' ∉ name.toList

namespace IsComponent

variable {name : String} (h : IsComponent name)

include h

lemma not_absolute : ¬isAbsolute name := fun ha => h.noSlash (List.mem_of_mem_head? ha)

lemma isIdle_eq : isIdle name.toList = false := by
  have hnil : name.toList ≠ [] := mt String.toList_eq_nil_iff.mp h.named
  have hdot : name.toList ≠ ['.'] := fun he => h.notDot (String.toList_injective he)
  simp [isIdle, hnil, hdot]

lemma parts_eq : Tree.parts name = [name] := by
  simp [Tree.parts, splitAt_of_notMem h.noSlash, h.isIdle_eq]

lemma endsInDirectory_join (dir : String) : Tree.endsInDirectory (join dir name) = false := by
  rw [Tree.endsInDirectory_join h.not_absolute, Tree.endsInDirectory, splitAt_of_notMem h.noSlash]
  exact h.isIdle_eq

lemma join_ne_empty (dir : String) : join dir name ≠ "" := by
  intro he
  have hend := h.endsInDirectory_join dir
  rw [he] at hend
  cases hend

end IsComponent

end BrowserCheck.Files
