import BrowserCheck.Proofs.Sandbox.HostDirectory

set_option autoImplicit false

namespace BrowserCheck

open Files
open Text (splitAt splitAt_mark splitAt_of_notMem)

namespace Files.IsComponent

variable {name : String} (h : IsComponent name)

include h

lemma endsInDot_join (dir : String) : Tree.endsInDot (join dir name) = false := by
  refine Bool.eq_false_iff.mpr fun hdot => ?_
  have hend := Tree.endsInDirectory_of_endsInDot hdot
  rw [h.endsInDirectory_join] at hend
  cases hend

lemma placeOf_join (dir : String) : Tree.placeOf [] (join dir name) = Tree.placeOf [] dir ++ [name] := by
  rw [Tree.placeOf_join_of_notMem [] h.not_absolute, h.parts_eq]
  simpa [h.parts_eq] using Ne.symm h.notAbove

end Files.IsComponent

namespace Sandbox.Directory

/-- A call on one of the sandboxes. Each keeps its own directory, whichever are acquired after it. -/
inductive Deed where
  | acquire (name : String)
  | write (name path contents : String)
deriving DecidableEq, Repr

structure Writing where
  name : String
  place : Place
  contents : Text.Bytes
deriving DecidableEq, Repr

abbrev Contents := Place → Option Text.Bytes

def store (f : Contents) (w : Writing) : Contents := Function.update f w.place (some w.contents)

def base (d : Directory) (name : String) : Place := Tree.placeOf [] (join d.root name)

def placeIn (d : Directory) (name path : String) : Place := Tree.placeOf [] (hostPath (join d.root name) path)

def perform (d : Directory) : Deed → World → Outcome Unit × World
  | .acquire name, w => let (r, w) := d.acquire name w; (r.map fun _ => (), w)
  | .write name path contents, w => d.answer (.write path contents) { w with current := some (join d.root name) }

def written (d : Directory) (w : World) : Deed → List Writing
  | .acquire _ => []
  | .write name path contents =>
    if (d.perform (.write name path contents) w).1.isOk then [⟨name, d.placeIn name path, Text.encode contents⟩] else []

def run (d : Directory) : List Deed → World → World
  | [], w => w
  | deed :: deeds, w => d.run deeds (d.perform deed w).2

def writings (d : Directory) : List Deed → World → List Writing
  | [], _ => []
  | deed :: deeds, w => d.written w deed ++ d.writings deeds (d.perform deed w).2

def Plain : Deed → Prop
  | .acquire name => IsComponent name
  | .write name path _ => IsComponent name ∧ ".." ∉ Tree.parts path ∧ ¬Climbs path

variable {d : Directory} {name other path contents : String} {w w₁ : World} {handle : Handle} {q : Place}

lemma tree_acquire (d : Directory) (name : String) (w : World) :
    (d.acquire name w).2.tree = (w.tree.makeDirectories [] (join d.root name)).2 := by
  rw [acquire]
  split
  next he => rw [he]
  next he => rw [he]

lemma perform_acquire (d : Directory) (name : String) (w : World) :
    (d.perform (.acquire name) w).2 = (d.acquire name w).2 := rfl

lemma perform_write (d : Directory) (name path contents : String) (w : World) :
    let changed := w.tree.writeBelow [] (hostPath (join d.root name) path) (Text.encode contents)
    d.perform (.write name path contents) w =
      (changed.1.mapError fun e => .io e.message, ⟨changed.2, some (join d.root name)⟩) := by
  rw [perform]
  exact answer_write rfl path contents

lemma file?_acquire (d : Directory) (name : String) (w : World) : (d.acquire name w).2.tree.file? = w.tree.file? := by
  rw [tree_acquire]
  exact (Tree.sameFiles_makeDirectories [] (join d.root name)).file?_eq

lemma written_of_ok (h : (d.perform (.write name path contents) w).1.isOk = true) :
    d.written w (.write name path contents) = [⟨name, d.placeIn name path, Text.encode contents⟩] := by
  rw [written, if_pos h]

lemma written_of_not_ok (h : (d.perform (.write name path contents) w).1.isOk = false) :
    d.written w (.write name path contents) = [] := by
  rw [written, if_neg (by simp [h])]

lemma write_cases (d : Directory) (name path contents : String) (w : World) :
    (d.written w (.write name path contents) = [] ∧
      (d.perform (.write name path contents) w).2.tree.file? = w.tree.file?) ∨
    d.written w (.write name path contents) = [⟨name, d.placeIn name path, Text.encode contents⟩] ∧
      (d.perform (.write name path contents) w).2.tree.file? =
        Function.update w.tree.file? (d.placeIn name path) (some (Text.encode contents)) ∧
      (d.perform (.write name path contents) w).2.tree.readFile [] (hostPath (join d.root name) path) =
        .ok (Text.encode contents) := by
  have hperform := perform_write d name path contents w
  generalize hchanged : w.tree.writeBelow [] (hostPath (join d.root name) path) (Text.encode contents) = changed
    at hperform
  obtain ⟨r, t⟩ := changed
  dsimp only at hperform
  have hisOk : (d.perform (.write name path contents) w).1.isOk = r.isOk := by
    rw [hperform]
    cases r <;> rfl
  cases r with
  | error e =>
    refine .inl ⟨written_of_not_ok hisOk, ?_⟩
    rw [hperform]
    exact (Tree.writeBelow_error hchanged).file?_eq
  | ok u =>
    refine .inr ⟨written_of_ok hisOk, ?_⟩
    rw [hperform, placeIn]
    exact ⟨Tree.file?_writeBelow hchanged, Tree.readFile_writeBelow hchanged⟩

lemma file?_perform (d : Directory) (deed : Deed) (w : World) :
    (d.perform deed w).2.tree.file? = (d.written w deed).foldl store w.tree.file? := by
  cases deed with
  | acquire name => exact file?_acquire d name w
  | write name path contents =>
    rcases write_cases d name path contents w with ⟨hwritten, hfiles⟩ | ⟨hwritten, hfiles, -⟩
    · rw [hwritten, hfiles, List.foldl_nil]
    · rw [hwritten, hfiles, List.foldl_cons, List.foldl_nil, store]

lemma of_mem_written {x : Writing} (h : x ∈ d.written w (.write name path contents)) :
    x.name = name ∧ x.place = d.placeIn name path := by
  rcases write_cases d name path contents w with ⟨hwritten, -⟩ | ⟨hwritten, -⟩
  · rw [hwritten] at h
    cases h
  · rw [hwritten, List.mem_singleton] at h
    exact ⟨by rw [h], by rw [h]⟩

lemma file?_run (d : Directory) (deeds : List Deed) (w : World) :
    (d.run deeds w).tree.file? = (d.writings deeds w).foldl store w.tree.file? := by
  induction deeds generalizing w with
  | nil => rfl
  | cons deed deeds ih => rw [run, writings, ih, file?_perform, List.foldl_append]

lemma keeps_perform (d : Directory) (deed : Deed) (w : World) : w.tree.Keeps (d.perform deed w).2.tree := by
  cases deed with
  | acquire name =>
    rw [perform_acquire, tree_acquire]
    exact Tree.keeps_makeDirectories [] (join d.root name)
  | write name path contents =>
    rw [perform_write]
    dsimp only
    exact Tree.keeps_writeBelow w.tree [] (hostPath (join d.root name) path) (Text.encode contents)

lemma keeps_run (d : Directory) (deeds : List Deed) (w : World) : w.tree.Keeps (d.run deeds w).tree := by
  induction deeds generalizing w with
  | nil => exact .refl w.tree
  | cons deed deeds ih => exact (keeps_perform d deed w).trans (ih _)

lemma acquire_again (hname : IsComponent name) (hacquired : d.acquire name w = (.ok handle, w₁)) {w' : World}
    (hk : w₁.tree.Keeps w'.tree) : d.acquire name w' = (.ok handle, ⟨w'.tree, some (join d.root name)⟩) := by
  rw [acquire] at hacquired ⊢
  split at hacquired
  next t hmade =>
    cases hacquired
    rw [Tree.makeDirectories_again (hname.endsInDot_join d.root) hmade hk]
  next => cases hacquired

lemma base_prefix (hclimb : ".." ∉ Tree.parts path) (hc : ¬Climbs path) : d.base name <+: d.placeIn name path := by
  rw [base, placeIn]
  exact placeOf_hostPath hclimb hc [] (join d.root name)

lemma base_eq (hname : IsComponent name) : d.base name = Tree.placeOf [] d.root ++ [name] := hname.placeOf_join d.root

lemma base_disjoint (hname : IsComponent name) (hother : IsComponent other) (hq : d.base name <+: q)
    (hq' : d.base other <+: q) : name = other := by
  rw [base_eq hname] at hq
  rw [base_eq hother] at hq'
  have hbase := List.prefix_of_prefix_length_le hq hq' (by simp)
  have hends := (List.append_cancel_left (hbase.eq_of_length (by simp)))
  exact List.singleton_inj.mp hends

structure Writing.Inside (d : Directory) (x : Writing) : Prop where
  component : IsComponent x.name
  below : d.base x.name <+: x.place

lemma inside_of_plain {deeds : List Deed} (h : ∀ deed ∈ deeds, Plain deed) (w : World) :
    ∀ x ∈ d.writings deeds w, x.Inside d := by
  induction deeds generalizing w with
  | nil => nofun
  | cons deed deeds ih =>
    intro x hx
    rw [writings, List.mem_append] at hx
    rcases hx with hx | hx
    · cases deed with
      | acquire name => cases hx
      | write name path contents =>
        obtain ⟨hname, hclimb, hc⟩ : Plain (.write name path contents) := h _ List.mem_cons_self
        obtain ⟨hown, hplace⟩ := of_mem_written hx
        constructor
        · rwa [hown]
        · rw [hown, hplace]
          exact base_prefix hclimb hc
    · exact ih (fun deed hd => h deed (List.mem_cons_of_mem _ hd)) _ x hx

lemma foldl_store_inside {writings : List Writing} (h : ∀ x ∈ writings, x.Inside d) (hname : IsComponent name)
    (hq : d.base name <+: q) {f g : Contents} (hfg : f q = g q) :
    writings.foldl store f q = (writings.filter fun x => x.name = name).foldl store g q := by
  -- the contents before may differ elsewhere, as the writes of others are left out on the right
  induction writings generalizing f g with
  | nil => exact hfg
  | cons x writings ih =>
    have hx := h x List.mem_cons_self
    have hrest : ∀ y ∈ writings, y.Inside d := fun y hy => h y (List.mem_cons_of_mem _ hy)
    by_cases hown : x.name = name
    · rw [List.filter_cons_of_pos (by simpa using hown), List.foldl_cons, List.foldl_cons]
      apply ih hrest
      simp [store, Function.update_apply, hfg]
    · rw [List.filter_cons_of_neg (by simpa using hown), List.foldl_cons]
      apply ih hrest
      have hne : q ≠ x.place := by
        rintro rfl
        exact hown (base_disjoint hx.component hname hx.below hq)
      rw [store, Function.update_of_ne hne, hfg]

/-- A file that is written lies in its own sandbox and holds what was written, and every other file is as before. A
sandbox can be acquired again at any time, and nothing changes by it. Over a whole run, the files of a sandbox are
changed by its own writes, in order, and by nothing else. -/
theorem sandboxes_isolated (d : Directory) :
    (∀ name path contents w, IsComponent name → ".." ∉ Tree.parts path → ¬Climbs path →
      (d.perform (.write name path contents) w).1.isOk = true →
      d.base name <+: d.placeIn name path ∧
      (d.perform (.write name path contents) w).2.tree.file? =
        Function.update w.tree.file? (d.placeIn name path) (some (Text.encode contents)) ∧
      (d.perform (.write name path contents) w).2.tree.readFile [] (hostPath (join d.root name) path) =
        .ok (Text.encode contents) ∧
      ∀ other q, IsComponent other → other ≠ name → d.base other <+: q →
        (d.perform (.write name path contents) w).2.tree.file? q = w.tree.file? q) ∧
    (∀ name w, (d.acquire name w).2.tree.file? = w.tree.file?) ∧
    (∀ name deeds w w₁ handle, IsComponent name → d.acquire name w = (.ok handle, w₁) →
      d.acquire name (d.run deeds w₁) = (.ok handle, ⟨(d.run deeds w₁).tree, some (join d.root name)⟩)) ∧
    ∀ deeds w name q, (∀ deed ∈ deeds, Plain deed) → IsComponent name → d.base name <+: q →
      (d.run deeds w).tree.file? q =
        ((d.writings deeds w).filter fun x => x.name = name).foldl store w.tree.file? q := by
  refine ⟨fun name path contents w hname hclimb hc hok => ?_, file?_acquire d,
    fun name deeds w w₁ handle hname hacquired => acquire_again hname hacquired (keeps_run d deeds w₁),
    fun deeds w name q hplain hname hq => ?_⟩
  · have hbelow : d.base name <+: d.placeIn name path := base_prefix hclimb hc
    rcases write_cases d name path contents w with ⟨hwritten, -⟩ | ⟨-, hfiles, hread⟩
    · cases (written_of_ok hok).symm.trans hwritten
    refine ⟨hbelow, hfiles, hread, fun other q hother hne hq => ?_⟩
    have hq' : q ≠ d.placeIn name path := by
      intro he
      rw [he] at hq
      exact hne (base_disjoint hother hname hq hbelow)
    rw [hfiles, Function.update_of_ne hq']
  · rw [file?_run]
    exact foldl_store_inside (inside_of_plain hplain w) hname hq rfl

theorem sandboxes_isolated_prefixed_names : let d : Directory := ⟨"srv//", "/home", []⟩
    let deeds := [.acquire "a", .acquire "ab", .write "ab" "/workspace/n/x" "2", .write "a" "//n/./x" "1",
      .write "a" "/workspace/n" "3"]
    let w := d.run deeds ⟨.empty, none⟩
    IsComponent "a" ∧ IsComponent "ab" ∧ (∀ deed ∈ deeds, Plain deed) ∧ d.base "a" <+: ["srv", "a", "n", "x"] ∧
    d.base "ab" <+: ["srv", "ab", "n", "x"] ∧
    (d.perform (.write "a" "/workspace//n/x" "4") w).1.isOk = true ∧
    (d.perform (.write "a" "/workspace//n/x" "4") w).2.tree.file? ["srv", "ab", "n", "x"] =
      w.tree.file? ["srv", "ab", "n", "x"] ∧
    w.tree.file? ["srv", "a", "n", "x"] = some (Text.encode "1") ∧
    ∃ handle w₁, d.acquire "a" ⟨.empty, none⟩ = (.ok handle, w₁) ∧
      d.acquire "a" (d.run deeds w₁) = (.ok handle, ⟨(d.run deeds w₁).tree, some (join d.root "a")⟩) := by
  intro d deeds w
  have ha : IsComponent "a" := ⟨by decide, by decide, by decide, by decide⟩
  have hab : IsComponent "ab" := ⟨by decide, by decide, by decide, by decide⟩
  have hplain : ∀ deed ∈ deeds, Plain deed := by
    simp only [deeds, List.forall_mem_cons, Plain]
    exact ⟨ha, hab, ⟨hab, by decide, not_climbs (by decide)⟩, ⟨ha, by decide, not_climbs (by decide)⟩,
      ⟨ha, by decide, not_climbs (by decide)⟩, nofun⟩
  have hq : d.base "a" <+: ["srv", "a", "n", "x"] := by decide
  have hq' : d.base "ab" <+: ["srv", "ab", "n", "x"] := by decide
  have hok : (d.perform (.write "a" "/workspace//n/x" "4") w).1.isOk = true := by decide +kernel
  have hacquired : Directory.acquire ⟨"srv//", "/home", []⟩ "a" ⟨.empty, none⟩ =
    ((.ok ⟨"a", hostPath "srv//a"⟩ : Outcome Handle),
      ⟨⟨[(["srv"], .directory), (["srv", "a"], .directory)]⟩, some "srv//a"⟩) := by rfl
  obtain ⟨hwrite, -, hagain, hrun⟩ := sandboxes_isolated d
  obtain ⟨-, -, -, hother⟩ := hwrite "a" "/workspace//n/x" "4" w ha (by decide) (not_climbs (by decide)) hok
  refine ⟨ha, hab, hplain, hq, hq', hok, hother "ab" _ hab (by decide) hq', ?_, _, _, hacquired,
    hagain "a" deeds _ _ _ ha hacquired⟩
  rw [hrun deeds ⟨.empty, none⟩ "a" _ hplain ha hq]
  decide +kernel

/-- Dots that are joined to the name of the workspace are no part of their own, but they lead out of the sandbox. -/
theorem file_of_another_sandbox_overwritten : let d : Directory := ⟨"root", "/home", []⟩
    let w := d.run [.acquire "b", .write "b" "/workspace/x" "mine", .acquire "a"] ⟨.empty, none⟩
    IsComponent "a" ∧ IsComponent "b" ∧ ".." ∉ Tree.parts "/workspace../b/x" ∧
    d.base "b" <+: ["root", "b", "x"] ∧ w.tree.file? ["root", "b", "x"] = some (Text.encode "mine") ∧
    (d.perform (.write "a" "/workspace../b/x" "theirs") w).1.isOk = true ∧
    (d.perform (.write "a" "/workspace../b/x" "theirs") w).2.tree.file? ["root", "b", "x"] =
      some (Text.encode "theirs") := by
  refine ⟨⟨by decide, by decide, by decide, by decide⟩, ⟨by decide, by decide, by decide, by decide⟩, by decide,
    by decide, ?_⟩
  decide +kernel

end Sandbox.Directory

end BrowserCheck
