import BrowserCheck.Proofs.Files.Trees
import BrowserCheck.Proofs.Text.Search
import BrowserCheck.Sandbox.Directory

set_option autoImplicit false

namespace BrowserCheck.Sandbox.Directory

open Files
open Text (splitAt splitAt_append splitAt_ne_nil eq_append_of_splitAt)

variable {dir path rest : String}

def unslashed (path : String) : String := String.ofList (dropSlashes path.toList)

lemma not_absolute_unslashed (path : String) : ¬isAbsolute (unslashed path) := by
  rw [isAbsolute, unslashed, String.toList_ofList, dropSlashes]
  intro hhead
  have hslash := List.head?_dropWhile_not (· == '/') path.toList
  rw [hhead] at hslash
  cases hslash

lemma parts_unslashed (path : String) : Tree.parts (unslashed path) = Tree.parts path := by
  rw [unslashed, dropSlashes, Tree.parts_dropSlashes, String.ofList_toList]

lemma unslashed_of_relative (h : ¬isAbsolute path) : unslashed path = path := by
  have hstays : dropSlashes path.toList = path.toList := by
    rw [isAbsolute] at h
    rw [dropSlashes]
    cases hs : path.toList with
    | nil => rfl
    | cons c s =>
      rw [hs] at h
      exact List.dropWhile_cons_of_neg (by simpa using h)
  rw [unslashed, hstays, String.ofList_toList]

def Climbs (path : String) : Prop := ∃ rest, path = "/workspace.." ++ rest ∧ (rest = "" ∨ isAbsolute rest)

lemma not_climbs (h : ¬"/workspace..".toList <+: path.toList) : ¬Climbs path := by
  rintro ⟨rest, rfl, -⟩
  rw [String.toList_append] at h
  exact h (List.prefix_append _ _)

lemma hostPath_workspace (dir rest : String) : hostPath dir ("/workspace" ++ rest) = join dir (unslashed rest) := by
  have hbegins : workspace.toList.isPrefixOf? ("/workspace" ++ rest).toList = some rest.toList := by
    rw [List.isPrefixOf?_eq_some_iff_append_eq, String.toList_append]
    rfl
  rw [hostPath, hbegins]
  rfl

lemma hostPath_other (h : ∀ rest, path ≠ "/workspace" ++ rest) : hostPath dir path = join dir (unslashed path) := by
  have hbegins : ¬workspace.toList <+: path.toList := by
    rintro ⟨s, hs⟩
    apply h (String.ofList s)
    apply String.toList_injective
    have hrest : (String.ofList s).toList = s := String.toList_ofList
    rw [String.toList_append, hrest]
    exact hs.symm
  rw [hostPath, Text.isPrefixOf?_eq_none hbegins]
  rfl

lemma notMem_parts_rest (h : ".." ∉ Tree.parts ("/workspace" ++ rest)) (hc : ¬Climbs ("/workspace" ++ rest)) :
    ".." ∉ Tree.parts rest := by
  obtain ⟨part, others, hs⟩ := List.exists_cons_of_ne_nil (splitAt_ne_nil '/' rest.toList)
  have hname : splitAt '/' ("workspace".toList ++ rest.toList) = ("workspace".toList ++ part) :: others :=
    splitAt_append (by decide) hs
  have hpath : splitAt '/' ("/workspace" ++ rest).toList = [] :: ("workspace".toList ++ part) :: others := by
    rw [String.toList_append]
    change splitAt '/' ('/' :: ("workspace".toList ++ rest.toList)) = _
    rw [splitAt, if_pos rfl, hname]
  simp only [Tree.parts, hs, hpath, List.mem_map, List.mem_filter, List.mem_cons] at h ⊢
  -- the first part of the rest is read together with the name before it, so that its dots alone are no part of the path
  rintro ⟨climb, ⟨rfl | hmem, hidle⟩, hdots⟩
  · apply hc
    obtain ⟨after, hrest, hend⟩ := eq_append_of_splitAt hs
    have hrest' : rest = ".." ++ String.ofList after := by
      rw [← hdots, ← String.ofList_append, ← hrest, String.ofList_toList]
    refine ⟨String.ofList after, ?_, hend.imp (fun he => congrArg String.ofList he) fun he => ?_⟩
    · rw [hrest', ← String.append_assoc]
      rfl
    · rwa [isAbsolute, String.toList_ofList]
  · exact h ⟨climb, ⟨.inr (.inr hmem), hidle⟩, hdots⟩

lemma exists_below (h : ".." ∉ Tree.parts path) (hc : ¬Climbs path) (dir : String) :
    ∃ below, ¬isAbsolute below ∧ ".." ∉ Tree.parts below ∧ hostPath dir path = join dir below := by
  by_cases hworkspace : ∃ rest, path = "/workspace" ++ rest
  · obtain ⟨rest, rfl⟩ := hworkspace
    refine ⟨unslashed rest, not_absolute_unslashed rest, ?_, hostPath_workspace dir rest⟩
    rw [parts_unslashed]
    exact notMem_parts_rest h hc
  · rw [not_exists] at hworkspace
    refine ⟨unslashed path, not_absolute_unslashed path, ?_, hostPath_other hworkspace⟩
    rwa [parts_unslashed]

lemma placeOf_hostPath (h : ".." ∉ Tree.parts path) (hc : ¬Climbs path) (cwd : Place) (dir : String) :
    Tree.placeOf cwd dir <+: Tree.placeOf cwd (hostPath dir path) := by
  obtain ⟨below, hbelow, hclimb, hhost⟩ := exists_below h hc dir
  rw [hhost, Tree.placeOf_join_of_notMem cwd hbelow hclimb]
  exact List.prefix_append _ _

theorem hostPath_maps (dir path : String) :
    (∀ rest, path = "/workspace" ++ rest → hostPath dir path = join dir (unslashed rest)) ∧
    ((∀ rest, path ≠ "/workspace" ++ rest) → hostPath dir path = join dir (unslashed path)) ∧
    (∀ rest, path = "/workspace" ++ rest → rest ≠ "" → ¬isAbsolute rest →
      hostPath dir path ≠ join dir (unslashed path)) ∧
    (".." ∉ Tree.parts path → ¬Climbs path → ∀ cwd, Tree.placeOf cwd dir <+: Tree.placeOf cwd (hostPath dir path) ∧
      ∀ (t : Tree) q, t.locate cwd (hostPath dir path) = .ok q → Tree.placeOf cwd dir <+: q) := by
  refine ⟨?_, hostPath_other, ?_, fun h hc cwd => ⟨placeOf_hostPath h hc cwd dir, fun t q hq => ?_⟩⟩
  · rintro rest rfl
    exact hostPath_workspace dir rest
  · rintro rest rfl - habs hsame
    rw [hostPath_workspace] at hsame
    have hrest := join_right_cancel (not_absolute_unslashed _) (not_absolute_unslashed _) hsame
    have hwhole : unslashed ("/workspace" ++ rest) = "workspace" ++ rest := by
      apply String.toList_injective
      rw [unslashed, String.toList_ofList, String.toList_append, String.toList_append]
      rfl
    have hname : "workspace".length = 9 := rfl
    have hlength := congrArg String.length hrest
    rw [unslashed_of_relative habs, hwhole, String.length_append, hname] at hlength
    omega
  · rw [Tree.locate_eq_placeOf hq]
    exact placeOf_hostPath h hc cwd dir

theorem hostPath_maps_nested :
    hostPath "/srv/dev" "/workspace//a/./b..c" = "/srv/dev/a/./b..c" ∧
    hostPath "/srv/dev" "//workspace/a" = join "/srv/dev" (unslashed "//workspace/a") ∧
    ".." ∉ Tree.parts "/workspace//a/./b..c" ∧ ¬Climbs "/workspace//a/./b..c" ∧
    Tree.placeOf [] "/srv/dev" <+: Tree.placeOf [] (hostPath "/srv/dev" "/workspace//a/./b..c") := by
  have hother : ∀ rest, "//workspace/a" ≠ "/workspace" ++ rest := by
    intro rest h
    have hhead := congrArg String.toList h
    rw [String.toList_append] at hhead
    simp at hhead
  have hclimbs : ¬Climbs "/workspace//a/./b..c" := not_climbs (by decide)
  have hparts : ".." ∉ Tree.parts "/workspace//a/./b..c" := by decide
  refine ⟨(hostPath_maps "/srv/dev" "/workspace//a/./b..c").1 "//a/./b..c" (by decide), ?_, hparts, hclimbs, ?_⟩
  · exact (hostPath_maps "/srv/dev" "//workspace/a").2.1 hother
  · exact ((hostPath_maps "/srv/dev" "/workspace//a/./b..c").2.2.2 hparts hclimbs []).1

/-- The name of the workspace is taken off a longer name, and the dots that stay behind lead out of the sandbox. -/
theorem workspace_read_as_text :
    hostPath "root/dev" "/workspacefoo" = "root/dev/foo" ∧
    hostPath "root/dev" "/workspacefoo" ≠ join "root/dev" (unslashed "/workspacefoo") ∧
    ".." ∉ Tree.parts "/workspace../x" ∧ hostPath "root/dev" "/workspace../x" = "root/dev/../x" ∧
    Tree.placeOf [] (hostPath "root/dev" "/workspace../x") = ["root", "x"] ∧
    ¬Tree.placeOf [] "root/dev" <+: Tree.placeOf [] (hostPath "root/dev" "/workspace../x") := by
  decide

end BrowserCheck.Sandbox.Directory
