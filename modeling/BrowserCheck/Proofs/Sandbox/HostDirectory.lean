import BrowserCheck.Proofs.Sandbox.Workspace
import BrowserCheck.Proofs.Shell.Quoting
import BrowserCheck.Sandbox.Directory
import BrowserCheck.Sandbox.Gateway

set_option autoImplicit false

/-! A program that was written into a directory of the host, and the path under which it is run. The path is meant from
where the service works and the command reads it from the sandbox's directory, so that the two agree for an absolute
root and not for a relative one. -/

namespace BrowserCheck

open Files

namespace Sandbox.Directory

variable {d : Directory} {name path contents : String} {w w' w₀ w₁ : World} {h : Handle}

lemma exists_hostPath (dir path : String) : ∃ below, ¬isAbsolute below ∧ hostPath dir path = join dir below := by
  refine ⟨unslashed (String.ofList ((workspace.toList.isPrefixOf? path.toList).getD path.toList)),
    not_absolute_unslashed _, ?_⟩
  rw [hostPath, unslashed, String.toList_ofList]

lemma acquire_eq_ok (hacquired : d.answer (.acquire name) w₀ = ((.ok h : Outcome Handle), w₁)) :
    h.resolve = hostPath (join d.root name) ∧ w₁.current = some (join d.root name) := by
  change d.acquire name w₀ = _ at hacquired
  rw [acquire] at hacquired
  split at hacquired
  · cases hacquired
    exact ⟨rfl, rfl⟩
  · cases hacquired

lemma answer_write {dir : String} (hcurrent : w.current = some dir) (path contents : String) :
    let changed := w.tree.writeBelow [] (hostPath dir path) (Text.encode contents)
    d.answer (.write path contents) w =
      ((changed.1.mapError fun e => .io e.message : Outcome Unit), { w with tree := changed.2 }) := by
  rw [answer, hcurrent]
  dsimp only [writeIn]
  generalize w.tree.writeBelow [] (hostPath dir path) (Text.encode contents) = changed
  rw [← hcurrent]
  rfl

lemma write_eq_ok {dir : String} (hcurrent : w.current = some dir)
    (hwritten : d.answer (.write path contents) w = ((.ok () : Outcome Unit), w')) : w'.current = some dir ∧
      w.tree.writeBelow [] (hostPath dir path) (Text.encode contents) = (.ok (), w'.tree) := by
  rw [answer_write hcurrent] at hwritten
  generalize w.tree.writeBelow [] (hostPath dir path) (Text.encode contents) = changed at hwritten ⊢
  obtain ⟨r, t⟩ := changed
  cases r with
  | error e => cases hwritten
  | ok u =>
    cases hwritten
    exact ⟨hcurrent, rfl⟩

def shellAt (d : Directory) (w : World) (p : Place) : Shell.State := ⟨w.tree, d.home, p, [], 0, none⟩

def answered (w : World) (r : Shell.Result) : Outcome RawOutput × World :=
  (.ok (rawOutput r), { w with tree := r.state.tree })

lemma answer_node {dir argument : String} {p : Place} {node : Shell.Builtin} (hcurrent : w.current = some dir)
    (hnode : d.programs.lookup "node" = some node) (hargument : '\x00' ∉ argument.toList)
    (hlookup : w.tree.lookup [] dir = .ok .directory) (hlocate : w.tree.locate [] dir = .ok p) :
    d.answer (.exec ("node " ++ shellQuote argument)) w = answered w (node [argument] [] (d.shellAt w p)).settled := by
  have hquoted : '\x00' ∉ ("node " ++ shellQuote argument).toList := by
    rw [String.toList_append, List.mem_append]
    rintro (hm | hm)
    · revert hm
      decide
    · exact Shell.notMem_shellQuote (by decide) (by decide) hargument hm
  rw [answer, hcurrent]
  dsimp only [execIn]
  rw [if_neg (mt List.contains_iff_mem.mp hquoted), hlookup, hlocate]
  dsimp only
  rw [Shell.run_node hnode argument rfl, answered, hcurrent]
  rfl

/-- With an absolute root, the path that is run is the path that was written, and the program named first gets that path
alone. With a relative root the path leads from the sandbox's directory to another place, unless it climbs. -/
theorem written_program_found (hname : IsComponent name)
    (hacquired : d.answer (.acquire name) w₀ = ((.ok h : Outcome Handle), w₁)) (hsince : w.current = w₁.current)
    (hwritten : d.answer (.write path contents) w = ((.ok () : Outcome Unit), w')) :
    ∃ p q, w'.tree.lookup [] (join d.root name) = .ok .directory ∧ w'.tree.locate [] (join d.root name) = .ok p ∧
      w'.tree.get? q = some (.file (Text.encode contents)) ∧
      (∀ q', q' ≠ q → ∀ b, w'.tree.get? q' = some (.file b) ↔ w.tree.get? q' = some (.file b)) ∧
      (∀ (g : Gateway) (node : Shell.Builtin), g.programPath = path → d.programs.lookup "node" = some node →
        d.answer (.exec (g.nodeCommand h)) w' = answered w' (node [h.resolve path] [] (d.shellAt w' p)).settled) ∧
      (isAbsolute d.root → w'.tree.locate p (h.resolve path) = .ok q ∧
        w'.tree.readFile p (h.resolve path) = .ok (Text.encode contents)) ∧
      (¬isAbsolute d.root → ".." ∉ Tree.parts (h.resolve path) → w'.tree.locate p (h.resolve path) ≠ .ok q) := by
  obtain ⟨hresolve, hcurrent⟩ := acquire_eq_ok hacquired
  obtain ⟨hcurrent', hwritten⟩ := write_eq_ok (hsince.trans hcurrent) hwritten
  obtain ⟨below, hbelow, hhost⟩ := exists_hostPath (join d.root name) path
  obtain ⟨q, hq, hfile, hends, hothers⟩ := Tree.writeBelow_eq_ok hwritten
  have hdir : Tree.parts (join d.root name) = Tree.parts d.root ++ [name] := by
    rw [Tree.parts_join hname.not_absolute, hname.parts_eq]
  have hparts : Tree.parts below ≠ [] := Tree.parts_ne_nil (by rwa [hhost, Tree.endsInDirectory_join hbelow] at hends)
  have hstart : isAbsolute (hostPath (join d.root name) path) ↔ isAbsolute d.root := by
    rw [hhost, Tree.isAbsolute_join hbelow, Tree.isAbsolute_join hname.not_absolute]
  have hall : Tree.parts (hostPath (join d.root name) path) ≠ [] := Tree.parts_ne_nil hends
  obtain ⟨p, hp, hd⟩ := Tree.locate_join (by simp [hdir]) hbelow hparts (hhost ▸ hq)
  have hlookup := Tree.lookup_of_directory hp hd
  have hnul : '\x00' ∉ (hostPath (join d.root name) path).toList := ((Tree.locate_eq_ok_iff hall).mp hq).1
  rw [hresolve]
  refine ⟨p, q, hlookup, hp, hfile, hothers, fun g node hg hnode => ?_, fun ha => ?_, fun hr hclimb hsame => ?_⟩
  · rw [Gateway.nodeCommand, hg, hresolve]
    exact answer_node hcurrent' hnode hnul hlookup hp
  · have hfound : w'.tree.locate p (hostPath (join d.root name) path) = .ok q :=
      (Tree.locate_of_absolute (hstart.mpr ha) p []).trans hq
    exact ⟨hfound, Tree.readFile_of_locate hfound hfile hends⟩
  · -- only from the working directory would the path lead there, but the sandbox's own directory lies below it
    have hnil := Tree.eq_nil_of_locate (mt hstart.mp hr) hclimb hall hq hsame
    have hdown : ".." ∉ Tree.parts (join d.root name) := fun hm => hclimb (by
      rw [hhost, Tree.parts_join hbelow]
      exact List.mem_append_left _ hm)
    have hsandbox := Tree.locate_eq_foldl (by simp [hdir]) hp
    rw [Tree.foldl_step hdown, hnil, hdir] at hsandbox
    simp at hsandbox

theorem written_program_found_absolute : ∃ (h : Handle) (w₁ w' : World) (p q : Place),
    h.resolve "/workspace/index.mjs" = "/srv/dev/index.mjs" ∧
    Directory.answer ⟨"/srv", "/home", []⟩ (.acquire "dev") ⟨.empty, none⟩ = ((.ok h : Outcome Handle), w₁) ∧
    Directory.answer ⟨"/srv", "/home", []⟩ (.write "/workspace/index.mjs" "x") w₁ = ((.ok () : Outcome Unit), w') ∧
    w'.tree.locate p (h.resolve "/workspace/index.mjs") = .ok q ∧
    w'.tree.readFile p (h.resolve "/workspace/index.mjs") = .ok (Text.encode "x") := by
  have hacquired : Directory.answer ⟨"/srv", "/home", []⟩ (.acquire "dev") ⟨.empty, none⟩ =
    ((.ok ⟨"dev", hostPath "/srv/dev"⟩ : Outcome Handle),
      ⟨⟨[(["/", "srv"], .directory), (["/", "srv", "dev"], .directory)]⟩, some "/srv/dev"⟩) := by rfl
  have hwritten : Directory.answer ⟨"/srv", "/home", []⟩ (.write "/workspace/index.mjs" "x")
      ⟨⟨[(["/", "srv"], .directory), (["/", "srv", "dev"], .directory)]⟩, some "/srv/dev"⟩ =
    ((.ok () : Outcome Unit),
      ⟨⟨[(["/", "srv"], .directory), (["/", "srv", "dev"], .directory),
        (["/", "srv", "dev", "index.mjs"], .file (Text.encode "x"))]⟩, some "/srv/dev"⟩) := by rfl
  obtain ⟨p, q, -, -, -, -, -, hfound, -⟩ :=
    written_program_found ⟨by decide, by decide, by decide, by decide⟩ hacquired rfl hwritten
  exact ⟨_, _, _, p, q, by rfl, hacquired, hwritten, hfound (by decide)⟩

/-- Here the program named first prints the file it is given: it does not find the one that was written. -/
theorem relative_root_program_missed : ∃ (h : Handle) (w₁ w₂ : World),
    Directory.answer ⟨"root", "/home", [("node", Shell.Builtin.cat)]⟩ (.acquire "dev") ⟨.empty, none⟩ =
      ((.ok h : Outcome Handle), w₁) ∧
    Directory.answer ⟨"root", "/home", [("node", Shell.Builtin.cat)]⟩ (.write "/workspace/index.mjs" "x") w₁ =
      ((.ok () : Outcome Unit), w₂) ∧
    h.resolve "/workspace/index.mjs" = "root/dev/index.mjs" ∧
    w₂.tree.readFile [] "root/dev/index.mjs" = .ok (Text.encode "x") ∧
    (Directory.answer ⟨"root", "/home", [("node", Shell.Builtin.cat)]⟩ (.exec (Gateway.standard.nodeCommand h)) w₂).1 =
      (.ok ⟨"", "cat: root/dev/index.mjs: No such file or directory\n", 1⟩ : Outcome RawOutput) := by
  refine ⟨⟨"dev", hostPath "root/dev"⟩, ⟨⟨[(["root"], .directory), (["root", "dev"], .directory)]⟩, some "root/dev"⟩,
    ⟨⟨[(["root"], .directory), (["root", "dev"], .directory), (["root", "dev", "index.mjs"],
      .file (Text.encode "x"))]⟩, some "root/dev"⟩, by rfl, by rfl, by rfl, by rfl, ?_⟩
  rw [Gateway.nodeCommand, answer_node rfl rfl (by decide) (by rfl) (p := ["root", "dev"]) (by rfl), answered]
  refine congrArg Except.ok ?_
  decide +kernel

end Sandbox.Directory

end BrowserCheck
