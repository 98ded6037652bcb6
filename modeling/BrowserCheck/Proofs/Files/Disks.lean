import BrowserCheck.Files.Disk
import BrowserCheck.Proofs.Files.Trees

set_option autoImplicit false

namespace BrowserCheck.Files.Disk

open Text (Bytes)
open BrowserCheck.Files.Tree (isGiven parts endsInDirectory endsInDot start step)

variable {d d' : Disk} {p q cwd : Place} {path : String} {b : Bytes} {links left n : Nat} {node : Node}

lemma mem_of_node? (h : d.node? p = some (.file n)) : (p, .file n) ∈ d.nodes := by
  rw [node?] at h
  split at h
  · cases h
  · obtain ⟨before, after, hnodes, -⟩ := List.lookup_eq_some_iff.mp h
    simp [hnodes]

lemma lt_next (h : d.node? p = some (.file n)) : n < d.next := d.numbered p n (mem_of_node? h)

lemma node?_add (hfree : d.node? p = none) (hnode : ∀ n, node = .file n → n < d.next) (q : Place) :
    (d.add p node hnode).node? q = if q = p then some node else d.node? q := by
  rw [node?, add, node?, List.lookup_cons]
  by_cases hq : q = p
  · subst hq
    rw [node?] at hfree
    split at hfree
    · cases hfree
    next hgiven => simp [hgiven]
  · simp [hq, beq_eq_false_iff_ne.mpr hq]

lemma node?_addDirectory (hfree : d.node? p = none) (q : Place) :
    (d.addDirectory p).node? q = if q = p then some .directory else d.node? q :=
  node?_add hfree _ q

lemma node?_addFile (hfree : d.node? p = none) (b : Bytes) (q : Place) :
    (d.addFile p b).node? q = if q = p then some (.file d.next) else d.node? q :=
  @node?_add (d.keep b) p _ hfree _ q

structure Keeps (d d' : Disk) : Prop where
  nodes : ∀ p node, d.node? p = some node → d'.node? p = some node
  links : ∀ p target, d'.node? p = some (.link target) → d.node? p = some (.link target)

lemma Keeps.refl (d : Disk) : d.Keeps d := ⟨fun _ _ => id, fun _ _ => id⟩

lemma Keeps.trans {d'' : Disk} (h : d.Keeps d') (h' : d'.Keeps d'') : d.Keeps d'' :=
  ⟨fun p node hp => h'.nodes p node (h.nodes p node hp), fun p target hp => h.links p target (h'.links p target hp)⟩

lemma keeps_of_added (hfree : d.node? p = none) (hlink : ∀ target, node ≠ .link target)
    (h : ∀ q, d'.node? q = if q = p then some node else d.node? q) : d.Keeps d' := by
  constructor
  · intro q old hq
    rw [h, if_neg, hq]
    rintro rfl
    cases hfree.symm.trans hq
  · intro q target hq
    rw [h] at hq
    split_ifs at hq
    · exact absurd (Option.some.inj hq) (hlink target)
    · exact hq

lemma keeps_addFile (hfree : d.node? p = none) (b : Bytes) : d.Keeps (d.addFile p b) :=
  keeps_of_added hfree (by nofun) (node?_addFile hfree b)

section Walking

lemma along_kept (hk : d.Keeps d') {follow follow' : Place → List String → Except OsError (Place × Nat)}
    (hfollow : ∀ p ps r, follow p ps = .ok r → follow' p ps = .ok r) {ps : List String} {r : Place × Nat}
    (h : d.along follow links p ps = .ok r) : d'.along follow' links p ps = .ok r := by
  induction ps generalizing p with
  | nil => exact h
  | cons part rest ih =>
    rw [along] at h ⊢
    generalize (if part = "." then p else step p part) = q at h ⊢
    cases hn : d.node? q with
    | some node =>
      simp only [hn, hk.nodes _ _ hn] at h ⊢
      cases node with
      | directory => exact ih h
      | link target => exact hfollow _ _ _ h
      | file n => exact h
    | none =>
      simp only [hn] at h
      split_ifs at h with hrest
      obtain rfl := List.isEmpty_iff.mp hrest
      cases hn' : d'.node? q with
      | none => exact h
      | some node =>
        cases node with
        | link target => cases hn.symm.trans (hk.links q target hn')
        | directory => exact h
        | file n => exact h

def following (d : Disk) : Nat → Place → List String → Except OsError (Place × Nat)
  | 0 => fun _ _ => .error .loops
  | links + 1 => d.walk links

lemma walk_eq (d : Disk) (links : Nat) : d.walk links = d.along (d.following links) links := by
  cases links <;> rfl

lemma walk_kept (hk : d.Keeps d') {ps : List String} {r : Place × Nat} (h : d.walk links p ps = .ok r) :
    d'.walk links p ps = .ok r := by
  induction links generalizing p ps r with
  | zero => exact along_kept hk (fun _ _ _ => id) h
  | succ links ih => exact along_kept hk (fun _ _ _ => ih) h

lemma along_append {follow : Place → List String → Except OsError (Place × Nat)} {a b : List String}
    (hself : d.walk links = d.along follow links) (hq : d.node? q = some .directory)
    (hfollow : ∀ p a, follow p a = .ok (q, left) → follow p (a ++ b) = d.walk left q b)
    (h : d.along follow links p a = .ok (q, left)) : d.along follow links p (a ++ b) = d.walk left q b := by
  induction a generalizing p with
  | nil =>
    cases h
    rw [hself]
    rfl
  | cons part rest ih =>
    rw [along] at h
    rw [List.cons_append, along]
    generalize (if part = "." then p else step p part) = r at h ⊢
    -- the way ends at a directory, so neither a file nor a gap is met on it
    have hend (hr : r = q) : d.node? r = some .directory := hr ▸ hq
    cases hn : d.node? r with
    | none =>
      rw [hn] at h hend
      dsimp only at h
      split_ifs at h
      cases h
      cases hend rfl
    | some node =>
      rw [hn] at h hend
      cases node with
      | directory => exact ih h
      | link target =>
        dsimp only
        rw [← List.append_assoc]
        exact hfollow _ _ h
      | file n =>
        dsimp only at h
        split_ifs at h
        cases h
        cases hend rfl

lemma walk_append {a : List String} (hq : d.node? q = some .directory) (h : d.walk links p a = .ok (q, left))
    (b : List String) : d.walk links p (a ++ b) = d.walk left q b := by
  induction links generalizing p a with
  | zero => exact along_append rfl hq nofun h
  | succ links ih => exact along_append rfl hq (fun _ _ => ih) h

end Walking

lemma locate_kept (hk : d.Keeps d') (h : d.locate cwd path = .ok p) : d'.locate cwd path = .ok p := by
  rw [locate] at h ⊢
  split_ifs at h ⊢
  cases hw : d.walk linkLimit (start cwd path) (parts path) with
  | error e =>
    rw [hw] at h
    cases h
  | ok r =>
    rw [hw] at h
    rw [walk_kept hk hw, h]

lemma lookup_of_locate (hpath : path ≠ "") (hl : d.locate cwd path = .ok p) : d.lookup cwd path =
    match d.node? p with
    | some (.file n) => if endsInDirectory path then .error .notDirectory else .ok (.file n)
    | some .directory => .ok .directory
    | _ => .error .notFound := by
  rw [lookup, if_neg (mt String.isEmpty_iff.mp hpath), hl]
  rfl

lemma exists_place (h : d.lookup cwd path = .ok node) :
    path ≠ "" ∧ ∃ p, d.locate cwd path = .ok p ∧ d.node? p = some node := by
  have hpath : path ≠ "" := by
    rintro rfl
    cases h
  cases hl : d.locate cwd path with
  | error e =>
    rw [lookup, if_neg (mt String.isEmpty_iff.mp hpath), hl] at h
    cases h
  | ok p =>
    rw [lookup_of_locate hpath hl] at h
    refine ⟨hpath, p, rfl, ?_⟩
    split at h
    next hn =>
      split_ifs at h
      rw [hn, Except.ok.inj h]
    next hn => rw [hn, Except.ok.inj h]
    next => cases h

lemma lookup_kept (hk : d.Keeps d') (h : d.lookup cwd path = .ok node) : d'.lookup cwd path = .ok node := by
  obtain ⟨hpath, p, hl, hn⟩ := exists_place h
  rw [lookup_of_locate hpath hl, hn] at h
  rw [lookup_of_locate hpath (locate_kept hk hl), hk.nodes p node hn, h]

lemma file?_eq_some_iff : d.file? cwd path = some n ↔ d.lookup cwd path = .ok (.file n) := by
  rw [file?]
  split
  next h => simp [h]
  next h => exact iff_of_false nofun (h n)

lemma file?_kept (hk : d.Keeps d') (h : d.file? cwd path = some n) : d'.file? cwd path = some n :=
  file?_eq_some_iff.mpr (lookup_kept hk (file?_eq_some_iff.mp h))

lemma readFile_of_file? (h : d.file? cwd path = some n) : d.readFile cwd path = .ok (d.contents n) := by
  rw [readFile, file?_eq_some_iff.mp h]
  rfl

inductive Writes (d : Disk) (cwd : Place) (path : String) (b : Bytes) : Disk → Prop
  | onFile {p : Place} {n : Nat} (located : d.locate cwd path = .ok p) (found : d.node? p = some (.file n)) :
      Writes d cwd path b (d.fill n b)
  | onGap {p : Place} (located : d.locate cwd path = .ok p) (free : d.node? p = none) :
      Writes d cwd path b (d.addFile p b)

lemma writeFile_of_locate (hpath : path ≠ "") (hl : d.locate cwd path = .ok p) (b : Bytes) :
    d.writeFile cwd path b =
      match d.node? p with
      | some (.file n) =>
        if endsInDot path then .error .notDirectory
        else if endsInDirectory path then .error .isDirectory
        else .ok (d.fill n b)
      | some _ => .error .isDirectory
      | none =>
        if endsInDot path then .error .notFound
        else if endsInDirectory path then .error .isDirectory
        else .ok (d.addFile p b) := by
  rw [writeFile, if_neg (mt String.isEmpty_iff.mp hpath), hl]
  rfl

lemma writes_of_writeFile (h : d.writeFile cwd path b = .ok d') :
    path ≠ "" ∧ endsInDirectory path = false ∧ d.Writes cwd path b d' := by
  have hpath : path ≠ "" := by
    rintro rfl
    cases h
  cases hl : d.locate cwd path with
  | error e =>
    rw [writeFile, if_neg (mt String.isEmpty_iff.mp hpath), hl] at h
    cases h
  | ok p =>
    rw [writeFile_of_locate hpath hl] at h
    refine ⟨hpath, ?_⟩
    split at h
    next found =>
      split_ifs at h with hdot hend
      cases h
      exact ⟨Bool.eq_false_iff.mpr hend, .onFile hl found⟩
    next => cases h
    next free =>
      split_ifs at h with hdot hend
      cases h
      exact ⟨Bool.eq_false_iff.mpr hend, .onGap hl free⟩

namespace Writes

lemma keeps (h : d.Writes cwd path b d') : d.Keeps d' := by
  cases h with
  | onFile => exact ⟨fun _ _ => id, fun _ _ => id⟩
  | onGap located free => exact keeps_addFile free b

lemma file (h : d.Writes cwd path b d') (hpath : path ≠ "") (hend : endsInDirectory path = false) :
    ∃ n, d'.file? cwd path = some n ∧ d'.contents = Function.update d.contents n b := by
  have hkeeps := h.keeps
  have hfile {p : Place} {n : Nat} (located : d.locate cwd path = .ok p) (hn : d'.node? p = some (.file n)) :
      d'.file? cwd path = some n := by
    rw [file?_eq_some_iff, lookup_of_locate hpath (locate_kept hkeeps located), hn]
    simp [hend]
  cases h with
  | @onFile p n located found =>
    refine ⟨n, hfile located found, funext fun m => ?_⟩
    simp [fill, Function.update_apply]
  | @onGap p located free =>
    refine ⟨d.next, hfile located ?_, funext fun m => ?_⟩
    · rw [node?_addFile free, if_pos rfl]
    · simp [addFile, add, keep, Function.update_apply]

lemma nodes (h : d.Writes cwd path b d') (hq : d'.node? q ≠ d.node? q) :
    d.node? q = none ∧ d'.locate cwd path = .ok q := by
  have hkeeps := h.keeps
  cases h with
  | onFile => exact absurd rfl hq
  | @onGap p located free =>
    rw [node?_addFile free] at hq
    split_ifs at hq with he
    · subst he
      exact ⟨free, locate_kept hkeeps located⟩
    · exact absurd rfl hq

end Writes

structure Grows (d d' : Disk) : Prop where
  keeps : d.Keeps d'
  contents : d'.contents = d.contents
  directories : ∀ p, d'.node? p ≠ d.node? p → d.node? p = none ∧ d'.node? p = some .directory

namespace Grows

lemma refl (d : Disk) : d.Grows d := ⟨.refl d, rfl, fun _ h => absurd rfl h⟩

lemma trans {d'' : Disk} (h : d.Grows d') (h' : d'.Grows d'') : d.Grows d'' := by
  refine ⟨h.keeps.trans h'.keeps, h'.contents.trans h.contents, fun p hp => ?_⟩
  by_cases hsame : d'.node? p = d.node? p
  · rw [← hsame] at hp ⊢
    exact h'.directories p hp
  · obtain ⟨hnone, hdirectory⟩ := h.directories p hsame
    exact ⟨hnone, h'.keeps.nodes p _ hdirectory⟩

lemma addDirectory (hfree : d.node? p = none) : d.Grows (d.addDirectory p) := by
  refine ⟨keeps_of_added hfree (by nofun) (node?_addDirectory hfree), rfl, fun q hq => ?_⟩
  rw [node?_addDirectory hfree] at hq ⊢
  split_ifs at hq ⊢ with he
  · exact he ▸ ⟨hfree, rfl⟩
  · exact absurd rfl hq

lemma makeAlong (ps : List String) : d.Grows (d.makeAlong links p ps).2 := by
  induction ps generalizing d links p with
  | nil => exact refl d
  | cons part rest ih =>
    rw [Disk.makeAlong]
    split
    · exact refl d
    · split
      · exact ih
      · exact refl d
      next hfree =>
        split
        · exact (addDirectory hfree).trans ih
        · exact refl d

lemma makeDirectories (cwd : Place) (path : String) : d.Grows (d.makeDirectories cwd path).2 := by
  rw [Disk.makeDirectories]
  split
  · exact refl d
  · split
    · rw [makeBeforeDot]
      split
      · exact refl d
      · have h := @makeAlong d (start cwd path) linkLimit (parts path).dropLast
        generalize d.makeAlong linkLimit (start cwd path) (parts path).dropLast = r at h ⊢
        obtain ⟨_ | _, d'⟩ := r <;> exact h
      · exact refl d
    · exact makeAlong _

end Grows

lemma walk_single {name : String} (hname : IsComponent name)
    (hlink : ∀ target, d.node? (p ++ [name]) ≠ some (.link target)) :
    d.walk links p [name] = .ok (p ++ [name], links) := by
  have hstep : step p name = p ++ [name] := if_neg hname.notAbove
  rw [walk_eq, along, if_neg hname.notDot, hstep]
  split
  · rfl
  next h => exact absurd h (hlink _)
  · rfl
  · rfl

lemma locate_join {dir name : String} (hname : IsComponent name) (hnul : '\x00' ∉ name.toList)
    (hl : d.locate cwd dir = .ok p) (hp : d.node? p = some .directory)
    (hlink : ∀ target, d.node? (p ++ [name]) ≠ some (.link target)) :
    d.locate cwd (join dir name) = .ok (p ++ [name]) := by
  rw [locate] at hl ⊢
  split_ifs at hl with hdir
  cases hw : d.walk linkLimit (start cwd dir) (parts dir) with
  | error e =>
    rw [hw] at hl
    cases hl
  | ok r =>
    obtain ⟨q, left⟩ := r
    rw [hw] at hl
    obtain rfl : q = p := Except.ok.inj hl
    have hjoin : '\x00' ∉ (join dir name).toList := fun h =>
      (mem_join hname.not_absolute (by decide) h).elim (mt List.contains_iff_mem.mpr hdir) hnul
    rw [if_neg (mt List.contains_iff_mem.mp hjoin), Tree.start_join cwd hname.not_absolute,
      Tree.parts_join hname.not_absolute, hname.parts_eq, walk_append hp hw, walk_single hname hlink]
    rfl

/-- None of these names in the directory is a link, and no two of them are of one file. -/
structure Plain (d : Disk) (place : Place) (names : List String) : Prop where
  noLink : ∀ name ∈ names, ∀ target, d.node? (place ++ [name]) ≠ some (.link target)
  apart : ∀ name ∈ names, ∀ name' ∈ names, ∀ n, d.node? (place ++ [name]) = some (.file n) →
    d.node? (place ++ [name']) = some (.file n) → name = name'

namespace Plain

variable {place : Place} {names : List String}

lemma writes (hp : d.Plain place names) (h : d.Writes cwd path b d') : d'.Plain place names := by
  cases h with
  | onFile => exact ⟨hp.noLink, hp.apart⟩
  | @onGap p located free =>
    refine ⟨fun name hname target hn => ?_, fun name hname name' hname' n hn hn' => ?_⟩
    · exact hp.noLink name hname target ((keeps_addFile free b).links _ _ hn)
    · rw [node?_addFile free] at hn hn'
      split_ifs at hn hn' with he he'
      · exact List.singleton_inj.mp (List.append_cancel_left (he.trans he'.symm))
      · cases hn
        exact absurd (lt_next hn') (Nat.lt_irrefl _)
      · cases hn'
        exact absurd (lt_next hn) (Nat.lt_irrefl _)
      · exact hp.apart name hname name' hname' n hn hn'

end Plain

end BrowserCheck.Files.Disk
