import BrowserCheck.Proofs.Dialogue
import BrowserCheck.Proofs.Files.Trees
import BrowserCheck.Proofs.Settings.Document
import BrowserCheck.Proofs.Text.Encoding

set_option autoImplicit false

namespace BrowserCheck

open Files

namespace Settings

variable (temp : String) {s : Settings} {text path : String} {t t' : Tree}

lemma save_of_exceeds (h : s.Exceeds) (path : String) :
    save path s = .done (.error "out-of-range value for u64 type") := by
  rw [save, write?_eq_none_iff.mpr h]

def writeOnce (path text : String) : Except OsError Unit → Access (Except String Unit)
  | .ok () => .ask (.write path (Text.encode text)) fun written => .done (Except.mapError OsError.message written)
  | .error e => .done (.error e.message)

lemma save_of_write? (h : s.write? = some text) (path : String) :
    save path s = .ask (.makeDirectories ((parent? path).getD "")) (writeOnce path text) := by
  rw [save, h]
  refine congrArg (Dialogue.ask _) (funext fun made => ?_)
  cases made with
  | ok u => rfl
  | error e => rfl

lemma run_save (h : s.write? = some text) (hall : ∀ e ∈ (save path s).exchanges Tree.answer t, e.1.Succeeded e.2) :
    ∃ t', t.writeBelow [] path (Text.encode text) = (.ok (), t') ∧
      (save path s).run Tree.answer t = (.ok (), t') := by
  rw [save_of_write? h] at hall ⊢
  rw [Tree.writeBelow]
  have hmade : (t.makeDirectories [] ((parent? path).getD "")).1 = .ok () := hall ⟨_, _⟩ List.mem_cons_self
  have hrest : ∀ e ∈ (writeOnce path text (t.makeDirectories [] ((parent? path).getD "")).1).exchanges Tree.answer
      (t.makeDirectories [] ((parent? path).getD "")).2, e.1.Succeeded e.2 :=
    fun e he => hall e (List.mem_cons_of_mem _ he)
  change ∃ t', _ ∧ (writeOnce path text (t.makeDirectories [] ((parent? path).getD "")).1).run Tree.answer
    (t.makeDirectories [] ((parent? path).getD "")).2 = _
  generalize t.makeDirectories [] ((parent? path).getD "") = made at hmade hrest ⊢
  obtain ⟨r, t₁⟩ := made
  obtain rfl : r = .ok () := hmade
  have hwritten : (t₁.commit (t₁.writeFile [] path (Text.encode text))).1 = .ok () := hrest ⟨_, _⟩ List.mem_cons_self
  change ∃ t', t₁.commit (t₁.writeFile [] path (Text.encode text)) = _ ∧
    ((t₁.commit (t₁.writeFile [] path (Text.encode text))).1.mapError OsError.message,
      (t₁.commit (t₁.writeFile [] path (Text.encode text))).2) = _
  generalize t₁.commit (t₁.writeFile [] path (Text.encode text)) = changed at hwritten ⊢
  obtain ⟨r, t₂⟩ := changed
  obtain rfl : r = .ok () := hwritten
  exact ⟨t₂, rfl, rfl⟩

lemma run_load (hfile : t.readFile [] path = .ok (Text.encode text)) (hread : read? temp text = some s) :
    (load temp path).run Tree.answer t = (.ok s, t) := by
  have htext : (Access.readText path).run Tree.answer t = (.ok text, t) := by
    change ((t.readFile [] path).bind _, t) = _
    rw [hfile]
    simp only [Except.bind, Text.decode?_encode]
  rw [load, Dialogue.run_bind, htext]
  simp only [hread]
  rfl

/-- What is saved is what is loaded, with no other file changed. Only a number that no file of settings can hold keeps
settings from being saved, and then nothing is done at all. -/
theorem saved_settings_load (temp : String) (s : Settings) (path : String) (t : Tree) :
    (s.Exceeds → (save path s).exchanges Tree.answer t = [] ∧
      (save path s).run Tree.answer t = (.error "out-of-range value for u64 type", t)) ∧
    ((∀ e ∈ (save path s).exchanges Tree.answer t, e.1.Succeeded e.2) →
      ((∃ e, ((save path s).run Tree.answer t).1 = .error e) ↔ s.Exceeds) ∧
      (¬s.Exceeds → ∃ t', (save path s).run Tree.answer t = (.ok (), t') ∧
        (load temp path).run Tree.answer t' = (.ok s, t') ∧
        ∃ p, t'.locate [] path = .ok p ∧
          ∀ q, q ≠ p → ∀ b, t'.get? q = some (.file b) ↔ t.get? q = some (.file b))) := by
  refine ⟨fun h => ?_, fun hall => ?_⟩
  · rw [save_of_exceeds h]
    exact ⟨rfl, rfl⟩
  cases hwrite : s.write? with
  | none =>
    have h := write?_eq_none_iff.mp hwrite
    refine ⟨iff_of_true ?_ h, fun hn => absurd h hn⟩
    rw [save_of_exceeds h]
    exact ⟨_, rfl⟩
  | some text =>
    have h : ¬s.Exceeds := by
      rw [← write?_eq_none_iff, hwrite]
      nofun
    obtain ⟨t', hbelow, hrun⟩ := run_save hwrite hall
    obtain ⟨p, hp, hfile, hends, hothers⟩ := Tree.writeBelow_eq_ok hbelow
    refine ⟨iff_of_false ?_ h, fun _ => ⟨t', hrun, ?_, p, hp, hothers⟩⟩
    · rw [hrun]
      nofun
    · exact run_load temp (Tree.readFile_of_locate hp hfile hends) (read?_of_write? temp hwrite)

def hostile : Settings :=
  { standard "/tmp" with
    listen := ""
    sandbox.name := "\"'\\\r\n\u2028"
    sandbox.workspaceDirectory := "C:\\'''\\\"\"\"\n"
    sandbox.runArguments := ["it's \"quoted\"", "\x00\x1b\x7f\\u0041", "\n\"\"\"\"", "[a] # = 'é'\t\uFEFF"]
    sandbox.backoff.initialDelayMs := 9223372036854775807
    program.telemetry.sentryBundles := [] }

theorem saved_settings_load_hostile : ∃ t', (save "conf/momos.toml" hostile).run Tree.answer .empty = (.ok (), t') ∧
    (load "/var/tmp" "conf/momos.toml").run Tree.answer t' = (.ok hostile, t') ∧
    (save "conf/momos.toml" { hostile with program.telemetry.bufferCapacity := 9223372036854775808 }).run
      Tree.answer t' = (.error "out-of-range value for u64 type", t') := by
  have hfits : ¬hostile.Exceeds := by
    unfold Exceeds
    decide +kernel
  obtain ⟨text, htext⟩ := Option.ne_none_iff_exists'.mp (mt write?_eq_none_iff.mp hfits)
  have hall : ∀ e ∈ (save "conf/momos.toml" hostile).exchanges Tree.answer .empty, e.1.Succeeded e.2 := by
    rw [save_of_write? htext]
    exact List.forall_mem_cons.mpr ⟨rfl, List.forall_mem_cons.mpr ⟨rfl, List.forall_mem_nil _⟩⟩
  obtain ⟨t', hrun, hload, -⟩ := ((saved_settings_load "/var/tmp" hostile "conf/momos.toml" .empty).2 hall).2 hfits
  have hexceeds : Exceeds { hostile with program.telemetry.bufferCapacity := 9223372036854775808 } :=
    .inr (by decide +kernel)
  exact ⟨t', hrun, hload, ((saved_settings_load "/var/tmp" _ "conf/momos.toml" t').1 hexceeds).2⟩

end Settings

end BrowserCheck
