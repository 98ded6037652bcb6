import BrowserCheck.Files.Operation
import BrowserCheck.Proofs.Files.Paths
import Mathlib.Logic.Function.Basic

set_option autoImplicit false

/-! What a change of a tree leaves as it was. Making directories changes no file, and writing a file changes that file
only, which is then found by its path. -/

namespace BrowserCheck.Files

namespace Operation

def Succeeded : (op : Operation) → op.Answer → Prop
  | .read _, r => ∃ contents, r = .ok contents
  | .write _ _, r => r = .ok ()
  | .makeDirectories _, r => r = .ok ()

instance : (op : Operation) → (r : op.Answer) → Decidable (op.Succeeded r)
  | .read _, .ok contents => .isTrue ⟨contents, rfl⟩
  | .read _, .error _ => .isFalse nofun
  | .write _ _, .ok () => .isTrue rfl
  | .write _ _, .error _ => .isFalse nofun
  | .makeDirectories _, .ok () => .isTrue rfl
  | .makeDirectories _, .error _ => .isFalse nofun

end Operation

namespace Tree

open Text (Bytes)

variable {t t' : Tree} {p q r : Place} {cwd : Place} {path : String} {contents : Bytes} {e : Entry}

lemma lookup_putEntry (entries : List (Place × Entry)) (p q : Place) (e : Entry) :
    (putEntry p e entries).lookup q = if q = p then some e else entries.lookup q := by
  induction entries with
  | nil =>
    rw [putEntry, List.lookup_cons, List.lookup_nil]
    by_cases h : q = p
    · simp [h]
    · simp [h, beq_eq_false_iff_ne.mpr h]
  | cons entry entries ih =>
    obtain ⟨k, old⟩ := entry
    rw [putEntry]
    by_cases hk : k = p
    · subst hk
      by_cases h : q = k <;> simp [List.lookup_cons, h, beq_eq_false_iff_ne.mpr]
    · rw [if_neg hk, List.lookup_cons, List.lookup_cons, ih]
      by_cases h : q = k
      · subst h
        simp [hk]
      · simp [beq_eq_false_iff_ne.mpr h]

lemma get?_put (h : t.get? p ≠ some .directory) (q : Place) (e : Entry) :
    (t.put p e).get? q = if q = p then some e else t.get? q := by
  have hp : isGiven p = false := by
    rw [Bool.eq_false_iff]
    intro hg
    exact h (by rw [get?, hg, if_pos rfl])
  by_cases hq : isGiven q = true
  · have hne : q ≠ p := by
      rintro rfl
      simp [hp] at hq
    rw [if_neg hne, get?, get?, if_pos hq, if_pos hq]
  · rw [get?, get?, if_neg hq, if_neg hq, put, lookup_putEntry]

lemma get?_put_self (h : t.get? p ≠ some .directory) : (t.put p e).get? p = some e := by
  rw [get?_put h, if_pos rfl]

lemma get?_put_other (h : t.get? p ≠ some .directory) (hq : q ≠ p) : (t.put p e).get? q = t.get? q := by
  rw [get?_put h, if_neg hq]

def Leads (t : Tree) (p : Place) (parts : List String) (q : Place) : Prop := parts.foldlM t.enter p = .ok q

@[simp] lemma leads_nil : t.Leads p [] q ↔ p = q := by
  rw [Leads, List.foldlM_nil]
  exact Except.ok.injEq p q ▸ Iff.rfl

lemma enter_eq_ok_iff {part : String} : t.enter p part = .ok q ↔ q = step p part ∧ t.get? q = some .directory := by
  rw [enter]
  constructor
  · intro h
    split at h
    next hd =>
      cases h
      exact ⟨rfl, hd⟩
    all_goals cases h
  · rintro ⟨rfl, hd⟩
    rw [hd]

lemma leads_cons {part : String} {parts : List String} : t.Leads p (part :: parts) r ↔
    t.get? (step p part) = some .directory ∧ t.Leads (step p part) parts r := by
  rw [Leads, List.foldlM_cons]
  constructor
  · intro h
    cases he : t.enter p part with
    | error e =>
      rw [he] at h
      cases h
    | ok q =>
      obtain ⟨rfl, hd⟩ := enter_eq_ok_iff.mp he
      rw [he] at h
      exact ⟨hd, h⟩
  · rintro ⟨hd, h⟩
    rw [enter_eq_ok_iff.mpr ⟨rfl, hd⟩]
    exact h

lemma leads_append {parts parts' : List String} : t.Leads p (parts ++ parts') r ↔
    ∃ q, t.Leads p parts q ∧ t.Leads q parts' r := by
  induction parts generalizing p with
  | nil => simp
  | cons part parts ih => simp only [List.cons_append, leads_cons, ih, ← exists_and_left, and_assoc]

lemma Leads.eq_foldl {parts : List String} (h : t.Leads p parts q) : q = parts.foldl step p := by
  induction parts generalizing p with
  | nil => exact (leads_nil.mp h).symm
  | cons part parts ih => exact ih (leads_cons.mp h).2

def Keeps (t t' : Tree) : Prop := ∀ p, t.get? p = some .directory → t'.get? p = some .directory

lemma Keeps.refl (t : Tree) : t.Keeps t := fun _ h => h

lemma Keeps.trans {t'' : Tree} (h : t.Keeps t') (h' : t'.Keeps t'') : t.Keeps t'' := fun p hp => h' p (h p hp)

lemma keeps_put (h : t.get? p ≠ some .directory) : t.Keeps (t.put p e) := by
  intro q hq
  rwa [get?_put_other h]
  rintro rfl
  exact h hq

lemma Leads.kept {parts : List String} (h : t.Leads p parts q) (hk : t.Keeps t') : t'.Leads p parts q := by
  induction parts generalizing p with
  | nil => exact leads_nil.mpr (leads_nil.mp h)
  | cons part parts ih => exact leads_cons.mpr ⟨hk _ (leads_cons.mp h).1, ih (leads_cons.mp h).2⟩

lemma locate_eq_ok_iff (h : parts path ≠ []) : t.locate cwd path = .ok q ↔ '\x00' ∉ path.toList ∧
    ∃ p, t.Leads (start cwd path) (parts path).dropLast p ∧ q = step p ((parts path).getLast h) := by
  rw [locate]
  simp only [List.getLast?_eq_some_getLast h]
  by_cases hz : '\x00' ∈ path.toList
  · rw [if_pos (List.contains_iff_mem.mpr hz)]
    simp [hz]
  · rw [if_neg (mt List.contains_iff_mem.mp hz)]
    simp only [hz, not_false_eq_true, true_and, Leads]
    cases (parts path).dropLast.foldlM t.enter (start cwd path) with
    | error e => simp [bind, Except.bind]
    | ok p => simp [bind, Except.bind, pure, Except.pure, eq_comm]

lemma locate_eq_foldl (h : parts path ≠ []) (hl : t.locate cwd path = .ok q) :
    q = (parts path).foldl step (start cwd path) := by
  obtain ⟨-, p, hp, rfl⟩ := (locate_eq_ok_iff h).mp hl
  conv_rhs => rw [← List.dropLast_append_getLast h]
  rw [List.foldl_append, ← hp.eq_foldl]
  rfl

lemma locate_eq_placeOf (hl : t.locate cwd path = .ok q) : q = placeOf cwd path := by
  by_cases h : parts path = []
  · rw [locate] at hl
    simp only [h, List.getLast?_nil] at hl
    split_ifs at hl
    rw [placeOf, h]
    exact (Except.ok.inj hl).symm
  · exact locate_eq_foldl h hl

lemma locate_of_absolute (h : isAbsolute path) (cwd cwd' : Place) : t.locate cwd path = t.locate cwd' path := by
  rw [locate, locate, start_of_absolute h, start_of_absolute h]

lemma eq_nil_of_locate (hr : ¬isAbsolute path) (hclimb : ".." ∉ parts path) (h : parts path ≠ [])
    (hl : t.locate [] path = .ok q) (hl' : t'.locate p path = .ok q) : p = [] := by
  have hthere := locate_eq_foldl h hl
  have hhere := locate_eq_foldl h hl'
  rw [start_of_relative hr, foldl_step hclimb] at hthere hhere
  have hlength := congrArg List.length (hthere.symm.trans hhere)
  simpa using hlength

lemma lookup_of_directory (hl : t.locate cwd path = .ok p) (hd : t.get? p = some .directory) :
    t.lookup cwd path = .ok .directory := by
  simp only [lookup, hl, bind, Except.bind, hd]

lemma locate_join {dir : String} (hdir : parts dir ≠ []) (hpath : ¬isAbsolute path) (hparts : parts path ≠ [])
    (h : t.locate cwd (join dir path) = .ok q) : ∃ p, t.locate cwd dir = .ok p ∧ t.get? p = some .directory := by
  have hjoin := @parts_join dir path hpath
  obtain ⟨hz, r, hr, -⟩ := (locate_eq_ok_iff (by simp [hjoin, hparts])).mp h
  rw [hjoin, List.dropLast_append_of_ne_nil hparts, start_join cwd hpath] at hr
  obtain ⟨p, hp, -⟩ := leads_append.mp hr
  -- the directory itself is entered on the way, by its last part
  have hlast := List.dropLast_append_getLast hdir
  rw [← hlast] at hp
  obtain ⟨o, ho, hp⟩ := leads_append.mp hp
  obtain ⟨hd, hp⟩ := leads_cons.mp hp
  obtain rfl := leads_nil.mp hp
  exact ⟨_, (locate_eq_ok_iff hdir).mpr ⟨fun hm => hz (toList_subset_join hpath hm), o, ho, rfl⟩, hd⟩

lemma locate_kept (h : parts path ≠ []) (hl : t.locate cwd path = .ok q) (hk : t.Keeps t') :
    t'.locate cwd path = .ok q := by
  obtain ⟨hz, p, hp, hq⟩ := (locate_eq_ok_iff h).mp hl
  exact (locate_eq_ok_iff h).mpr ⟨hz, p, hp.kept hk, hq⟩

lemma writeFile_eq_ok (h : t.writeFile cwd path contents = .ok t') : ∃ p, t.locate cwd path = .ok p ∧
    t.get? p ≠ some .directory ∧ endsInDirectory path = false ∧ t' = t.put p (.file contents) := by
  rw [writeFile] at h
  cases hl : t.locate cwd path with
  | error e =>
    rw [hl] at h
    cases h
  | ok p =>
    refine ⟨p, rfl, ?_⟩
    cases hp : t.get? p with
    | none =>
      simp only [hl, bind, Except.bind, hp] at h
      split_ifs at h with hdot hd
      exact ⟨nofun, by simpa using hd, (Except.ok.inj h).symm⟩
    | some e =>
      cases e with
      | directory =>
        simp only [hl, bind, Except.bind, hp] at h
        cases h
      | file old =>
        simp only [hl, bind, Except.bind, hp] at h
        split_ifs at h with hdot hd
        exact ⟨nofun, by simpa using hd, (Except.ok.inj h).symm⟩

lemma keeps_writeFile (h : t.writeFile cwd path contents = .ok t') : t.Keeps t' := by
  obtain ⟨p, -, hp, -, rfl⟩ := writeFile_eq_ok h
  exact keeps_put hp

lemma readFile_of_locate (hl : t.locate cwd path = .ok p) (hf : t.get? p = some (.file contents))
    (hd : endsInDirectory path = false) : t.readFile cwd path = .ok contents := by
  have hlookup : t.lookup cwd path = .ok (.file contents) := by
    simp only [lookup, hl, bind, Except.bind, hf, hd, Bool.false_eq_true, if_false]
  rw [readFile, hlookup]
  rfl

lemma readFile_writeFile (h : t.writeFile cwd path contents = .ok t') : t'.readFile cwd path = .ok contents := by
  obtain ⟨p, hl, hp, hd, rfl⟩ := writeFile_eq_ok h
  exact readFile_of_locate (locate_kept (parts_ne_nil hd) hl (keeps_put hp)) (get?_put_self hp) hd

def SameFiles (t t' : Tree) : Prop := ∀ p b, t'.get? p = some (.file b) ↔ t.get? p = some (.file b)

lemma SameFiles.refl (t : Tree) : t.SameFiles t := fun _ _ => Iff.rfl

lemma SameFiles.trans {t'' : Tree} (h : t.SameFiles t') (h' : t'.SameFiles t'') : t.SameFiles t'' :=
  fun p b => (h' p b).trans (h p b)

lemma sameFiles_put_directory (h : t.get? p = none) : t.SameFiles (t.put p .directory) := by
  intro q b
  have hp : t.get? p ≠ some .directory := by simp [h]
  by_cases hq : q = p
  · subst hq
    rw [get?_put_self hp, h]
    simp
  · rw [get?_put_other hp hq]

section Making

-- a property that no new directory ends
variable {P : Tree → Prop} (hput : ∀ t p, t.get? p = none → P t → P (t.put p .directory))

include hput

lemma makeAlong_induction (parts : List String) (h : P t) : P (t.makeAlong p parts).2 := by
  induction parts generalizing t p with
  | nil => exact h
  | cons part parts ih =>
    rw [makeAlong]
    split
    next => exact ih h
    next => exact h
    next hn => exact ih (hput t _ hn h)

lemma makeDirectories_induction (cwd : Place) (path : String) (h : P t) : P (t.makeDirectories cwd path).2 := by
  rw [makeDirectories]
  split_ifs
  · exact h
  · rw [makeBeforeDot]
    split
    next => exact h
    next =>
      have hbefore := makeAlong_induction hput (parts path).dropLast (p := start cwd path) h
      split
      next he =>
        rw [he] at hbefore
        exact hbefore
      next => exact hbefore
    next => exact h
  · exact makeAlong_induction hput (parts path) h

end Making

lemma sameFiles_makeDirectories (cwd : Place) (path : String) : t.SameFiles (t.makeDirectories cwd path).2 :=
  makeDirectories_induction (fun _ _ hn h => h.trans (sameFiles_put_directory hn)) cwd path (.refl t)

def file? (t : Tree) (p : Place) : Option Bytes :=
  match t.get? p with
  | some (.file contents) => some contents
  | _ => none

lemma file?_eq_some_iff : t.file? p = some contents ↔ t.get? p = some (.file contents) := by
  rw [file?]
  split
  next held h => simp [h]
  next h => exact ⟨nofun, fun hp => absurd hp (h contents)⟩

lemma SameFiles.file?_eq (h : t.SameFiles t') : t'.file? = t.file? := by
  funext p
  apply Option.ext
  intro b
  rw [file?_eq_some_iff, file?_eq_some_iff]
  exact h p b

lemma keeps_put_directory (h : t.get? p = none) : t.Keeps (t.put p .directory) := keeps_put (by simp [h])

lemma keeps_makeAlong (parts : List String) : t.Keeps (t.makeAlong p parts).2 :=
  makeAlong_induction (fun _ _ hn h => h.trans (keeps_put_directory hn)) parts (.refl t)

lemma keeps_makeDirectories (cwd : Place) (path : String) : t.Keeps (t.makeDirectories cwd path).2 :=
  makeDirectories_induction (fun _ _ hn h => h.trans (keeps_put_directory hn)) cwd path (.refl t)

lemma leads_of_makeAlong {parts : List String} (h : t.makeAlong p parts = (.ok (), t')) : ∃ q, t'.Leads p parts q := by
  induction parts generalizing t p with
  | nil => exact ⟨p, leads_nil.mpr rfl⟩
  | cons part parts ih =>
    rw [makeAlong] at h
    have hthere : ∀ t₁ : Tree, t₁.get? (step p part) = some .directory →
        t₁.makeAlong (step p part) parts = (.ok (), t') → ∃ q, t'.Leads p (part :: parts) q := by
      intro t₁ hd hmade
      obtain ⟨q, hq⟩ := ih hmade
      have hkept := keeps_makeAlong (t := t₁) (p := step p part) parts
      rw [hmade] at hkept
      exact ⟨q, leads_cons.mpr ⟨hkept _ hd, hq⟩⟩
    split at h
    next hd => exact hthere t hd h
    next => cases h
    next hn => exact hthere _ (get?_put_self (by simp [hn])) h

lemma makeAlong_of_leads {parts : List String} (h : t.Leads p parts q) : t.makeAlong p parts = (.ok (), t) := by
  induction parts generalizing p with
  | nil => rfl
  | cons part parts ih =>
    obtain ⟨hd, hrest⟩ := leads_cons.mp h
    rw [makeAlong]
    simp only [hd]
    exact ih hrest

lemma makeDirectories_again {t₁ t₂ : Tree} (hdot : endsInDot path = false)
    (h : t.makeDirectories cwd path = (.ok (), t₁)) (hk : t₁.Keeps t₂) :
    t₂.makeDirectories cwd path = (.ok (), t₂) := by
  simp only [makeDirectories, hdot, Bool.false_eq_true, if_false] at h ⊢
  split_ifs at h ⊢
  · cases h
  · obtain ⟨q, hq⟩ := leads_of_makeAlong h
    exact makeAlong_of_leads (hq.kept hk)

lemma writeBelow_cases (t : Tree) (cwd : Place) (path : String) (contents : Bytes) :
    ∃ t₁, t.SameFiles t₁ ∧ t.Keeps t₁ ∧ ((∃ e, t.writeBelow cwd path contents = (.error e, t₁)) ∨
      ∃ t₂, t₁.writeFile cwd path contents = .ok t₂ ∧ t.writeBelow cwd path contents = (.ok (), t₂)) := by
  have hsame := sameFiles_makeDirectories (t := t) cwd ((parent? path).getD "")
  have hkept := keeps_makeDirectories (t := t) cwd ((parent? path).getD "")
  rw [writeBelow]
  generalize t.makeDirectories cwd ((parent? path).getD "") = made at hsame hkept
  obtain ⟨r, t₁⟩ := made
  refine ⟨t₁, hsame, hkept, ?_⟩
  cases r with
  | error e => exact .inl ⟨e, rfl⟩
  | ok _ =>
    cases hw : t₁.writeFile cwd path contents with
    | error e => exact .inl ⟨e, congrArg t₁.commit hw⟩
    | ok t₂ => exact .inr ⟨t₂, rfl, congrArg t₁.commit hw⟩

lemma keeps_writeBelow (t : Tree) (cwd : Place) (path : String) (contents : Bytes) :
    t.Keeps (t.writeBelow cwd path contents).2 := by
  obtain ⟨t₁, -, hkept, ⟨e, h⟩ | ⟨t₂, hw, h⟩⟩ := writeBelow_cases t cwd path contents
  · rwa [h]
  · rw [h]
    exact hkept.trans (keeps_writeFile hw)

lemma writeBelow_error {e : OsError} (h : t.writeBelow cwd path contents = (.error e, t')) : t.SameFiles t' := by
  obtain ⟨t₁, hsame, -, ⟨e', h'⟩ | ⟨t₂, -, h'⟩⟩ := writeBelow_cases t cwd path contents
  · rw [h] at h'
    cases h'
    exact hsame
  · rw [h] at h'
    cases h'

lemma writeBelow_eq_ok (h : t.writeBelow cwd path contents = (.ok (), t')) : ∃ p, t'.locate cwd path = .ok p ∧
    t'.get? p = some (.file contents) ∧ endsInDirectory path = false ∧
    ∀ q, q ≠ p → ∀ b, t'.get? q = some (.file b) ↔ t.get? q = some (.file b) := by
  obtain ⟨t₁, hsame, -, ⟨e, h'⟩ | ⟨t₂, hw, h'⟩⟩ := writeBelow_cases t cwd path contents
  · rw [h] at h'
    cases h'
  · obtain ⟨p, hl, hp, hd, rfl⟩ := writeFile_eq_ok hw
    obtain rfl : t' = t₁.put p (.file contents) := congrArg Prod.snd (h.symm.trans h')
    refine ⟨p, locate_kept (parts_ne_nil hd) hl (keeps_put hp), get?_put_self hp, hd, fun q hq b => ?_⟩
    rw [get?_put_other hp hq]
    exact hsame q b

lemma file?_writeFile (h : t.writeFile cwd path contents = .ok t') :
    t'.file? = Function.update t.file? (placeOf cwd path) (some contents) := by
  obtain ⟨p, hl, hp, -, rfl⟩ := writeFile_eq_ok h
  obtain rfl := locate_eq_placeOf hl
  funext q
  by_cases hq : q = placeOf cwd path
  · subst hq
    rw [Function.update_self, file?_eq_some_iff]
    exact get?_put_self hp
  · rw [Function.update_of_ne hq, file?, file?, get?_put_other hp hq]

lemma file?_writeBelow (h : t.writeBelow cwd path contents = (.ok (), t')) :
    t'.file? = Function.update t.file? (placeOf cwd path) (some contents) := by
  obtain ⟨t₁, hsame, -, ⟨e, h'⟩ | ⟨t₂, hw, h'⟩⟩ := writeBelow_cases t cwd path contents
  · rw [h] at h'
    cases h'
  · obtain rfl : t' = t₂ := congrArg Prod.snd (h.symm.trans h')
    rw [file?_writeFile hw, hsame.file?_eq]

lemma readFile_writeBelow (h : t.writeBelow cwd path contents = (.ok (), t')) :
    t'.readFile cwd path = .ok contents := by
  obtain ⟨p, hl, hp, hd, -⟩ := writeBelow_eq_ok h
  exact readFile_of_locate hl hp hd

end Tree

end BrowserCheck.Files
