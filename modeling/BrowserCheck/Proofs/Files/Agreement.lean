import BrowserCheck.Proofs.Dialogue
import BrowserCheck.Proofs.Files.Disks

set_option autoImplicit false

namespace BrowserCheck.Files

open Text (Bytes)
open BrowserCheck.Files.Tree (isGiven parts endsInDirectory endsInDot start step)

variable {d : Disk} {t : Tree} {p q cwd : Place} {path : String} {b : Bytes} {links n : Nat}

namespace Disk

def entryOf (d : Disk) : Node → Option Entry
  | .file n => some (.file (d.contents n))
  | .directory => some .directory
  | .link _ => none

/-- Without links and second names, a disk is a tree. -/
structure IsTree (d : Disk) (t : Tree) : Prop where
  entries : ∀ p, t.get? p = (d.node? p).bind d.entryOf
  noLink : ∀ p target, d.node? p ≠ some (.link target)
  apart : ∀ p q n, d.node? p = some (.file n) → d.node? q = some (.file n) → p = q

namespace IsTree

variable (h : d.IsTree t)

include h

lemma get?_of_file (hn : d.node? p = some (.file n)) : t.get? p = some (.file (d.contents n)) := by
  rw [h.entries, hn]
  rfl

lemma get?_of_directory (hn : d.node? p = some .directory) : t.get? p = some .directory := by
  rw [h.entries, hn]
  rfl

lemma get?_of_none (hn : d.node? p = none) : t.get? p = none := by
  rw [h.entries, hn]
  rfl

lemma walk_single {part : String} (hdot : part ≠ ".") : d.walk links p [part] = .ok (step p part, links) := by
  rw [walk_eq, along, if_neg hdot]
  split
  · rfl
  next hlink => exact absurd hlink (h.noLink _ _)
  · rfl
  · rfl

lemma walk_cons {part : String} (hdot : part ≠ ".") {rest : List String} (hrest : rest ≠ []) :
    d.walk links p (part :: rest) = (t.enter p part).bind fun q => d.walk links q rest := by
  have hne : rest.isEmpty = false := by simpa using hrest
  rw [walk_eq, along, if_neg hdot, Tree.enter]
  cases hn : d.node? (step p part) with
  | none =>
    rw [h.get?_of_none hn]
    simp [hne, Except.bind]
  | some node =>
    cases node with
    | file n =>
      rw [h.get?_of_file hn]
      simp [hne, Except.bind]
    | directory =>
      rw [h.get?_of_directory hn]
      rfl
    | link target => exact absurd hn (h.noLink _ _)

lemma walk_eq_enter {ps : List String} (hdot : "." ∉ ps) (hps : ps ≠ []) :
    d.walk links p ps = (ps.dropLast.foldlM t.enter p).map fun q => (step q (ps.getLast hps), links) := by
  induction ps generalizing p with
  | nil => exact absurd rfl hps
  | cons part rest ih =>
    simp only [List.mem_cons, not_or] at hdot
    by_cases hrest : rest = []
    · subst hrest
      rw [h.walk_single (Ne.symm hdot.1)]
      rfl
    · rw [h.walk_cons (Ne.symm hdot.1) hrest, List.dropLast_cons_of_ne_nil hrest, List.foldlM_cons,
        List.getLast_cons hrest]
      cases t.enter p part with
      | error e => rfl
      | ok q => exact ih hdot.2 hrest

lemma locate_eq (hpath : path ≠ "") (cwd : Place) : d.locate cwd path = t.locate cwd path := by
  rw [locate, Tree.locate]
  split
  · rfl
  by_cases hparts : parts path = []
  · simp [hparts, walk_eq, along, hpath, Except.map]
  · simp only [h.walk_eq_enter (Tree.dot_notMem_parts path) hparts, List.getLast?_eq_some_getLast hparts]
    cases (parts path).dropLast.foldlM t.enter (start cwd path) <;> rfl

lemma lookup_eq (cwd : Place) (path : String) : t.lookup cwd path =
    match d.lookup cwd path with
    | .ok (.file n) => .ok (.file (d.contents n))
    | .ok _ => .ok .directory
    | .error e => .error e := by
  by_cases hpath : path = ""
  · subst hpath
    rfl
  cases hl : d.locate cwd path with
  | error e =>
    rw [lookup, if_neg (mt String.isEmpty_iff.mp hpath), Tree.lookup, ← h.locate_eq hpath, hl]
    rfl
  | ok p =>
    rw [lookup_of_locate hpath hl, Tree.lookup, ← h.locate_eq hpath, hl]
    cases hn : d.node? p with
    | none =>
      simp only [bind, Except.bind, h.get?_of_none hn]
    | some node =>
      cases node with
      | file n =>
        simp only [bind, Except.bind, h.get?_of_file hn]
        split <;> rfl
      | directory => simp only [bind, Except.bind, h.get?_of_directory hn]
      | link target => exact absurd hn (h.noLink p target)

lemma readFile_eq (cwd : Place) (path : String) : d.readFile cwd path = t.readFile cwd path := by
  rw [readFile, Tree.readFile, h.lookup_eq]
  rcases d.lookup cwd path with e | n | _ | target
  all_goals rfl

lemma fill (hn : d.node? p = some (.file n)) (b : Bytes) : (d.fill n b).IsTree (t.put p (.file b)) := by
  have hput : t.get? p ≠ some .directory := by simp [h.get?_of_file hn]
  refine ⟨fun q => ?_, h.noLink, h.apart⟩
  rw [Tree.get?_put hput]
  split_ifs with hq
  · subst hq
    change _ = (d.node? q).bind _
    simp [hn, entryOf, Disk.fill]
  · change _ = (d.node? q).bind _
    rw [h.entries]
    cases hq' : d.node? q with
    | none => rfl
    | some node =>
      cases node with
      | file m =>
        have hne : m ≠ n := by
          rintro rfl
          exact hq (h.apart q p m hq' hn)
        simp [entryOf, Disk.fill, hne]
      | _ => rfl

lemma addFile (hfree : d.node? p = none) (b : Bytes) : (d.addFile p b).IsTree (t.put p (.file b)) := by
  have hput : t.get? p ≠ some .directory := by simp [h.get?_of_none hfree]
  have hold {q : Place} {m : Nat} (hm : d.node? q = some (.file m)) : m ≠ d.next := Nat.ne_of_lt (lt_next hm)
  refine ⟨fun q => ?_, fun q target hq => h.noLink q target ((keeps_addFile hfree b).links q target hq),
    fun q r m hq hr => ?_⟩
  · rw [Tree.get?_put hput, node?_addFile hfree]
    split_ifs with hq
    · simp [entryOf, Disk.addFile, add, keep]
    · rw [h.entries]
      cases hq' : d.node? q with
      | none => rfl
      | some node =>
        cases node with
        | file m => simp [entryOf, Disk.addFile, add, keep, hold hq']
        | _ => rfl
  · rw [node?_addFile hfree] at hq hr
    split_ifs at hq hr with hqp hrp
    · exact hqp.trans hrp.symm
    · cases hq
      exact absurd rfl (hold hr)
    · cases hr
      exact absurd rfl (hold hq)
    · exact h.apart q r m hq hr

lemma addDirectory (hfree : d.node? p = none) : (d.addDirectory p).IsTree (t.put p .directory) := by
  have hput : t.get? p ≠ some .directory := by simp [h.get?_of_none hfree]
  refine ⟨fun q => ?_, fun q target hq => h.noLink q target ((Grows.addDirectory hfree).keeps.links q target hq),
    fun q r m hq hr => ?_⟩
  · rw [Tree.get?_put hput, node?_addDirectory hfree]
    split_ifs
    · rfl
    · rw [h.entries]
      rfl
  · rw [node?_addDirectory hfree] at hq hr
    split_ifs at hq hr with hqp hrp
    · exact hqp.trans hrp.symm
    · cases hq
    · cases hr
    · exact h.apart q r m hq hr

end IsTree

def Agrees (r : Changed) (r' : Tree.Changed) : Prop := r.1 = r'.1 ∧ r.2.IsTree r'.2

namespace IsTree

variable (h : d.IsTree t)

include h

lemma writeFile (cwd : Place) (path : String) (b : Bytes) :
    Agrees (d.commit (d.writeFile cwd path b)) (t.commit (t.writeFile cwd path b)) := by
  by_cases hpath : path = ""
  · subst hpath
    exact ⟨rfl, h⟩
  have hsame := h.locate_eq hpath cwd
  cases hl : d.locate cwd path with
  | error e =>
    rw [Disk.writeFile, if_neg (mt String.isEmpty_iff.mp hpath), Tree.writeFile, ← hsame, hl]
    exact ⟨rfl, h⟩
  | ok p =>
    rw [writeFile_of_locate hpath hl, Tree.writeFile, ← hsame, hl]
    cases hn : d.node? p with
    | none =>
      simp only [bind, Except.bind, h.get?_of_none hn]
      split
      · exact ⟨rfl, h⟩
      · split
        · exact ⟨rfl, h⟩
        · exact ⟨rfl, h.addFile hn b⟩
    | some node =>
      cases node with
      | file n =>
        simp only [bind, Except.bind, h.get?_of_file hn]
        split
        · exact ⟨rfl, h⟩
        · split
          · exact ⟨rfl, h⟩
          · exact ⟨rfl, h.fill hn b⟩
      | directory =>
        simp only [bind, Except.bind, h.get?_of_directory hn]
        exact ⟨rfl, h⟩
      | link target => exact absurd hn (h.noLink p target)

end IsTree

lemma IsTree.makeAlong {ps : List String} (h : d.IsTree t) (hdot : "." ∉ ps) :
    Agrees (d.makeAlong links p ps) (t.makeAlong p ps) := by
  induction ps generalizing d t p with
  | nil => exact ⟨rfl, h⟩
  | cons part rest ih =>
    simp only [List.mem_cons, not_or] at hdot
    rw [Disk.makeAlong, h.walk_single (Ne.symm hdot.1), Tree.makeAlong]
    cases hn : d.node? (step p part) with
    | none =>
      simp only [hn, h.get?_of_none hn, if_true]
      exact ih (h.addDirectory hn) hdot.2
    | some node =>
      cases node with
      | file n =>
        simp only [hn, h.get?_of_file hn]
        exact ⟨rfl, h⟩
      | directory =>
        simp only [hn, h.get?_of_directory hn]
        exact ih h hdot.2
      | link target => exact absurd hn (h.noLink _ target)

lemma IsTree.makeBeforeDot (h : d.IsTree t) (cwd : Place) (path : String) :
    Agrees (d.makeBeforeDot cwd path) (t.makeBeforeDot cwd path) := by
  rw [Disk.makeBeforeDot, Tree.makeBeforeDot, h.lookup_eq]
  have hdot : "." ∉ (parts path).dropLast := fun hm =>
    Tree.dot_notMem_parts path (List.mem_of_mem_dropLast hm)
  obtain ⟨hsame, hafter⟩ := @IsTree.makeAlong d t (start cwd path) linkLimit _ h hdot
  rcases d.lookup cwd path with e | n | _ | target
  · cases e
    case notFound =>
      revert hsame hafter
      rcases d.makeAlong linkLimit (start cwd path) (parts path).dropLast with ⟨r, d'⟩
      rcases t.makeAlong (start cwd path) (parts path).dropLast with ⟨r', t'⟩
      rintro rfl hafter
      cases r with
      | error e => exact ⟨rfl, hafter⟩
      | ok _ =>
        refine ⟨?_, hafter⟩
        simp only [hafter.lookup_eq]
        rcases d'.lookup cwd path with e | n | _ | target
        all_goals rfl
    all_goals exact ⟨rfl, h⟩
  all_goals exact ⟨rfl, h⟩

lemma IsTree.makeDirectories (h : d.IsTree t) (cwd : Place) (path : String) :
    Agrees (d.makeDirectories cwd path) (t.makeDirectories cwd path) := by
  rw [Disk.makeDirectories, Tree.makeDirectories]
  split
  · exact ⟨rfl, h⟩
  split
  · exact h.makeBeforeDot cwd path
  · exact h.makeAlong (Tree.dot_notMem_parts path)

lemma IsTree.answer (h : d.IsTree t) (op : Operation) :
    (Disk.answer op d).1 = (Tree.answer op t).1 ∧ (Disk.answer op d).2.IsTree (Tree.answer op t).2 := by
  cases op with
  | read path => exact ⟨h.readFile_eq [] path, h⟩
  | write path contents => exact h.writeFile [] path contents
  | makeDirectories path => exact h.makeDirectories [] path

lemma isTree_empty : empty.IsTree .empty := by
  have hnode (p : Place) : empty.node? p = if isGiven p then some .directory else none := rfl
  refine ⟨fun p => ?_, fun p target hp => ?_, fun p q n hp => ?_⟩
  · rw [hnode, Tree.get?]
    split <;> rfl
  · rw [hnode] at hp
    split at hp <;> cases hp
  · rw [hnode] at hp
    split at hp <;> cases hp

/-- A program hears the same from a disk without links and second names as from the tree that it is. -/
theorem IsTree.run {α : Type} (h : d.IsTree t) (access : Access α) :
    access.exchanges Disk.answer d = access.exchanges Tree.answer t ∧
      (access.run Disk.answer d).1 = (access.run Tree.answer t).1 ∧
      (access.run Disk.answer d).2.IsTree (access.run Tree.answer t).2 := by
  induction access generalizing d t with
  | done a => exact ⟨rfl, rfl, h⟩
  | ask op next ih =>
    obtain ⟨hanswer, hafter⟩ := h.answer op
    simp only [Dialogue.exchanges, Dialogue.run, hanswer]
    obtain ⟨hexchanges, hrest⟩ := ih _ hafter
    exact ⟨congrArg _ hexchanges, hrest⟩

end Disk

end BrowserCheck.Files
