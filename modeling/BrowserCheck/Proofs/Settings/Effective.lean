import BrowserCheck.Proofs.Settings.Leaves
import BrowserCheck.Proofs.Settings.Saving
import BrowserCheck.Settings.Overrides

set_option autoImplicit false

namespace BrowserCheck

open Files Json
open Text (AnyCase)

variable {temp : String} {lookup : String → Option String}

namespace Variable

variable {α : Type} {x : Variable α} {a b c : α}

inductive Sets (x : Variable α) (lookup : String → Option String) (a : α) : α → Prop
  | set {v : String} {b : α} (hset : lookup x.key = some v) (h : x.Reads v b) : Sets x lookup a b
  | kept (hunset : lookup x.key = none) : Sets x lookup a a

lemma sets_of_set {v : String} (hset : lookup x.key = some v) : x.Sets lookup a b ↔ x.Reads v b := by
  refine ⟨fun h => ?_, .set hset⟩
  cases h with
  | set hset' h =>
    cases hset.symm.trans hset'
    exact h
  | kept hunset => cases hset.symm.trans hunset

lemma sets_of_unset (hunset : lookup x.key = none) : x.Sets lookup a b ↔ b = a := by
  constructor
  · intro h
    cases h with
    | set hset => cases hunset.symm.trans hset
    | kept _ => rfl
  · rintro rfl
    exact .kept hunset

lemma Sets.unique (h : x.Sets lookup a b) (h' : x.Sets lookup a c) : b = c := by
  cases h with
  | set hset h => exact x.unique h ((sets_of_set hset).mp h')
  | kept hunset => exact ((sets_of_unset hunset).mp h').symm

lemma Sets.again (h : x.Sets lookup a b) : x.Sets lookup b b := by
  cases h with
  | set hset h => exact .set hset h
  | kept hunset => exact .kept hunset

lemma exists_sets_iff (a : α) : (∃ b, x.Sets lookup a b) ↔ ∀ v, lookup x.key = some v → ∃ b, x.Reads v b := by
  cases h : lookup x.key with
  | none => exact iff_of_true ⟨a, .kept h⟩ nofun
  | some v =>
    simp only [sets_of_set h, Option.some.injEq]
    exact ⟨fun hb _ hv => hv ▸ hb, fun hb => hb v rfl⟩

lemma exists_sets_text (lookup : String → Option String) (key a : String) : ∃ b, (text key).Sets lookup a b := by
  rw [exists_sets_iff]
  exact fun v _ => ⟨v, rfl⟩

end Variable

namespace Leaf

def Follows (leaf : Leaf Settings) (lookup : String → Option String) (s s' : Settings) : Prop :=
  match leaf.environment with
  | some x => x.Sets lookup (leaf.get s) (leaf.get s')
  | none => leaf.get s' = leaf.get s

def Unset (leaf : Leaf Settings) (lookup : String → Option String) : Prop :=
  ∀ x, leaf.environment = some x → lookup x.key = none

inductive Effective (temp : String) (leaf : Leaf Settings) (w : Written) (lookup : String → Option String) :
    leaf.Value → Prop
  | set {x : Variable leaf.Value} {v : String} {a : leaf.Value} (hx : leaf.environment = some x)
      (hset : lookup x.key = some v) (h : x.Reads v a) : Effective temp leaf w lookup a
  | given {e : Written} {a : leaf.Value} (hunset : leaf.Unset lookup) (hat : w.at? leaf.path = some e)
      (h : leaf.decode e = some a) : Effective temp leaf w lookup a
  | standard (hunset : leaf.Unset lookup) (hat : w.at? leaf.path = none) :
      Effective temp leaf w lookup (leaf.get (Settings.standard temp))

variable {leaf : Leaf Settings} {w : Written} {s s' : Settings}

lemma follows_of_variable {x : Variable leaf.Value} (hx : leaf.environment = some x) :
    leaf.Follows lookup s s' ↔ x.Sets lookup (leaf.get s) (leaf.get s') := by
  rw [Follows, hx]

lemma Follows.again (h : leaf.Follows lookup s s') : leaf.Follows lookup s' s' := by
  cases hx : leaf.environment with
  | some x =>
    rw [follows_of_variable hx] at h ⊢
    exact h.again
  | none => rw [Follows, hx]

lemma Follows.unique {s'' : Settings} (h : leaf.Follows lookup s s') (h' : leaf.Follows lookup s s'') :
    leaf.get s' = leaf.get s'' := by
  cases hx : leaf.environment with
  | some x =>
    rw [follows_of_variable hx] at h h'
    exact h.unique h'
  | none =>
    rw [Follows, hx] at h h'
    exact h.trans h'.symm

lemma effective_of_set {x : Variable leaf.Value} {v : String} {a : leaf.Value} (hx : leaf.environment = some x)
    (hset : lookup x.key = some v) : leaf.Effective temp w lookup a ↔ x.Reads v a := by
  refine ⟨fun h => ?_, .set hx hset⟩
  cases h with
  | set hx' hset' h =>
    cases hx.symm.trans hx'
    cases hset.symm.trans hset'
    exact h
  | given hunset => cases (hunset x hx).symm.trans hset
  | standard hunset => cases (hunset x hx).symm.trans hset

lemma effective_of_unset {a : leaf.Value} (hunset : leaf.Unset lookup)
    (h : leaf.TakenFrom (Settings.standard temp) w s) :
    leaf.Effective temp w lookup a ↔ a = leaf.get s := by
  rw [TakenFrom] at h
  generalize hat : w.at? leaf.path = entry, leaf.get s = b at h ⊢
  constructor
  · intro ha
    cases ha with
    | set hx hset => cases (hunset _ hx).symm.trans hset
    | given _ hat' ha =>
      cases hat.symm.trans hat'
      cases h with
      | given hb => exact Option.some.inj (ha.symm.trans hb)
    | standard _ hat' =>
      cases hat.symm.trans hat'
      cases h
      rfl
  · rintro rfl
    cases h with
    | given h => exact .given hunset hat h
    | standard => exact .standard hunset hat

lemma effective_iff (hfile : leaf.TakenFrom (Settings.standard temp) w s) (hfollows : leaf.Follows lookup s s')
    (a : leaf.Value) : leaf.Effective temp w lookup a ↔ a = leaf.get s' := by
  cases hx : leaf.environment with
  | none =>
    have hunset : leaf.Unset lookup := fun x hx' => nomatch hx.symm.trans hx'
    rw [Follows, hx] at hfollows
    rw [effective_of_unset hunset hfile, hfollows]
  | some x =>
    rw [follows_of_variable hx] at hfollows
    generalize hget : leaf.get s' = b at hfollows
    cases hfollows with
    | set hset hb =>
      rw [effective_of_set hx hset]
      exact ⟨fun ha => x.unique ha hb, fun ha => ha ▸ hb⟩
    | kept hnone =>
      have hunset : leaf.Unset lookup := fun x' hx' => Option.some.inj (hx.symm.trans hx') ▸ hnone
      exact effective_of_unset hunset hfile

end Leaf

namespace Settings

variable {s s' : Settings}

def Unreadable (lookup : String → Option String) : Prop :=
  (∃ v, lookup "MOMOS_SANDBOX_PROVIDER" = some v ∧ ∀ word ∈ ["docker", "local"], ¬AnyCase word.toList v.toList) ∨
  ∃ key ∈ ["MOMOS_TELEMETRY_ENABLED", "MOMOS_AGENT_WEB_FETCH"], ∃ v, lookup key = some v ∧
    ∀ word ∈ ["1", "true", "yes", "on", "0", "false", "no", "off"], ¬AnyCase word.toList v.toList

lemma lowercase_mem_iff {v : String} {words : List String} (small : ∀ word ∈ words, Text.IsSmall word.toList) :
    lowercase v ∈ words ↔ ∃ word ∈ words, AnyCase word.toList v.toList := by
  have heach : ∀ word ∈ words, (AnyCase word.toList v.toList ↔ lowercase v = word) := by
    intro word hword
    rw [Text.anyCase_iff (small word hword), lowercase, ← String.toList_inj, String.toList_ofList]
  constructor
  · exact fun h => ⟨_, h, (heach _ h).mpr rfl⟩
  · rintro ⟨word, hword, h⟩
    exact (heach word hword).mp h ▸ hword

lemma reads_provider_iff {key v : String} {p : Provider} :
    (Variable.provider key).Reads v p ↔ lowercase v = p.name := by
  rw [← List.mem_singleton, lowercase_mem_iff (by cases p <;> decide)]
  cases p with
  | container => rfl
  | host => rfl

lemma reads_switch_iff {key v : String} {b : Bool} :
    (Variable.switch key).Reads v b ↔ lowercase v ∈ if b then yesWords else noWords :=
  (lowercase_mem_iff (by cases b <;> decide)).symm

lemma readProvider_eq_ok_iff (key : String) {v : String} {p : Provider} :
    readProvider v = .ok p ↔ (Variable.provider key).Reads v p := by
  rw [reads_provider_iff, readProvider]
  generalize lowercase v = word
  constructor
  · split
    next h =>
      rintro ⟨⟩
      rw [Provider.ofName?] at h
      have hname := List.find?_some h
      exact (beq_iff_eq.mp hname).symm
    next => nofun
  · rintro rfl
    cases p with
    | container => rfl
    | host => rfl

lemma readSwitch_eq_ok_iff (key : String) {v : String} {b : Bool} :
    readSwitch v = .ok b ↔ (Variable.switch key).Reads v b := by
  have hapart : ∀ word ∈ yesWords, word ∉ noWords := by decide
  rw [reads_switch_iff, readSwitch]
  by_cases hyes : lowercase v ∈ yesWords
  · have hno := hapart _ hyes
    cases b <;> simp [hyes, hno]
  · by_cases hno : lowercase v ∈ noWords
    all_goals cases b <;> simp [hyes, hno]

lemma provider_reads_iff {key v : String} : (∃ p, (Variable.provider key).Reads v p) ↔
    ∃ word ∈ ["docker", "local"], AnyCase word.toList v.toList := by
  rw [← lowercase_mem_iff (by decide)]
  simp only [reads_provider_iff, List.mem_cons, List.not_mem_nil, or_false]
  constructor
  · rintro ⟨p, hp⟩
    cases p with
    | container => exact .inl hp
    | host => exact .inr hp
  · rintro (h | h)
    · exact ⟨.container, h⟩
    · exact ⟨.host, h⟩

lemma switch_reads_iff {key v : String} : (∃ b, (Variable.switch key).Reads v b) ↔
    ∃ word ∈ ["1", "true", "yes", "on", "0", "false", "no", "off"], AnyCase word.toList v.toList := by
  rw [← lowercase_mem_iff (by decide)]
  simp only [reads_switch_iff, Bool.exists_bool, if_true, Bool.false_eq_true, if_false]
  rw [or_comm, ← List.mem_append]
  rfl

def hear (lookup : String → Option String) (s : Settings) (o : Override) : Except String Settings :=
  match lookup o.key with
  | some v => o.apply v s
  | none => .ok s

lemma hear_eq_ok_iff {α : Type} (x : Variable α) {read : String → Except String α} {set : α → Settings → Settings}
    (get : Settings → α) (hread : ∀ v b, read v = .ok b ↔ x.Reads v b) (hget : set (get s) s = s) :
    hear lookup s (.ofReader x.key read set) = .ok s' ↔ ∃ b, x.Sets lookup (get s) b ∧ set b s = s' := by
  rw [hear]
  change (match lookup x.key with | some v => (read v).map fun a => set a s | none => .ok s) = _ ↔ _
  cases h : lookup x.key with
  | none => simp only [Variable.sets_of_unset h, exists_eq_left, hget, Except.ok.injEq]
  | some v =>
    simp only [Variable.sets_of_set h, ← hread]
    cases read v with
    | ok b => simp [Except.map]
    | error e => simp [Except.map]

lemma hear_text (key : String) {set : String → Settings → Settings} (get : Settings → String)
    (hget : set (get s) s = s) :
    hear lookup s (.ofText key set) = .ok s' ↔ ∃ b, (Variable.text key).Sets lookup (get s) b ∧ set b s = s' :=
  hear_eq_ok_iff (.text key) get (fun _ _ => by rw [Except.ok.injEq]; rfl) hget

lemma hear_provider (key : String) {set : Provider → Settings → Settings} (get : Settings → Provider)
    (hget : set (get s) s = s) :
    hear lookup s (.ofReader key readProvider set) = .ok s' ↔
      ∃ b, (Variable.provider key).Sets lookup (get s) b ∧ set b s = s' :=
  hear_eq_ok_iff (.provider key) get (fun _ _ => readProvider_eq_ok_iff key) hget

lemma hear_switch (key : String) {set : Bool → Settings → Settings} (get : Settings → Bool)
    (hget : set (get s) s = s) :
    hear lookup s (.ofReader key readSwitch set) = .ok s' ↔
      ∃ b, (Variable.switch key).Sets lookup (get s) b ∧ set b s = s' :=
  hear_eq_ok_iff (.switch key) get (fun _ _ => readSwitch_eq_ok_iff key) hget

lemma foldlM_hear_cons (o : Override) (os : List Override) :
    (o :: os).foldlM (hear lookup) s = .ok s' ↔
      ∃ s₁, hear lookup s o = .ok s₁ ∧ os.foldlM (hear lookup) s₁ = .ok s' := by
  rw [List.foldlM_cons]
  cases hear lookup s o with
  | ok s₁ => exact ⟨fun h => ⟨s₁, rfl, h⟩, fun ⟨_, h, h'⟩ => Except.ok.inj h ▸ h'⟩
  | error e => exact iff_of_false nofun nofun

lemma foldlM_hear_nil : List.foldlM (hear lookup) s [] = .ok s' ↔ s = s' := by
  rw [List.foldlM_nil]
  exact Except.ok.injEq s s' ▸ Iff.rfl

lemma override_eq_ok_iff : override lookup s = .ok s' ↔
    ∃ a, (Variable.text "MOMOS_LISTEN").Sets lookup s.listen a ∧
    ∃ b, (Variable.provider "MOMOS_SANDBOX_PROVIDER").Sets lookup s.sandbox.provider b ∧
    ∃ c, (Variable.text "MOMOS_SANDBOX_NAME").Sets lookup s.sandbox.name c ∧
    ∃ d, (Variable.text "MOMOS_SANDBOX_IMAGE").Sets lookup s.sandbox.image d ∧
    ∃ e, (Variable.text "MOMOS_WORKSPACE_DIR").Sets lookup s.sandbox.workspaceDirectory e ∧
    ∃ f, (Variable.switch "MOMOS_TELEMETRY_ENABLED").Sets lookup s.program.telemetry.enabled f ∧
    ∃ g, (Variable.text "MOMOS_AGENT_MODEL").Sets lookup s.agent.model g ∧
    ∃ h, (Variable.text "MOMOS_AGENT_BASE_URL").Sets lookup s.agent.baseUrl h ∧
    ∃ i, (Variable.switch "MOMOS_AGENT_WEB_FETCH").Sets lookup s.agent.webFetch i ∧
      { s with
        listen := a
        sandbox.provider := b
        sandbox.name := c
        sandbox.image := d
        sandbox.workspaceDirectory := e
        program.telemetry.enabled := f
        agent.model := g
        agent.baseUrl := h
        agent.webFetch := i } = s' := by
  change Override.all.foldlM (hear lookup) s = .ok s' ↔ _
  simp only [Override.all, foldlM_hear_cons, foldlM_hear_nil, hear_text "MOMOS_LISTEN" (·.listen),
    hear_text "MOMOS_SANDBOX_NAME" (·.sandbox.name), hear_text "MOMOS_SANDBOX_IMAGE" (·.sandbox.image),
    hear_text "MOMOS_WORKSPACE_DIR" (·.sandbox.workspaceDirectory), hear_text "MOMOS_AGENT_MODEL" (·.agent.model),
    hear_text "MOMOS_AGENT_BASE_URL" (·.agent.baseUrl),
    hear_provider "MOMOS_SANDBOX_PROVIDER" (·.sandbox.provider),
    hear_switch "MOMOS_TELEMETRY_ENABLED" (·.program.telemetry.enabled),
    hear_switch "MOMOS_AGENT_WEB_FETCH" (·.agent.webFetch), exists_exists_and_eq_and]

lemma follows_of_override (h : override lookup s = .ok s') : ∀ leaf ∈ leaves, leaf.Follows lookup s s' := by
  obtain ⟨_, h1, _, h2, _, h3, _, h4, _, h5, _, h6, _, h7, _, h8, _, h9, rfl⟩ := override_eq_ok_iff.mp h
  simp only [leaves, SandboxSettings.leaves, SandboxSettings.own, Sandbox.Backoff.leaves, Program.Options.leaves,
    Program.Options.own, Program.Telemetry.leaves, Generation.ModelSettings.leaves, List.map_cons, List.map_nil,
    List.cons_append, List.nil_append, List.forall_mem_cons]
  exact ⟨h1, h2, h3, h4, rfl, h5, rfl, rfl, rfl, rfl, rfl, h6, rfl, rfl, rfl, h7, rfl, rfl, h8, h9, rfl,
    List.forall_mem_nil _⟩

lemma override_of_follows (h : ∀ leaf ∈ leaves, leaf.Follows lookup s s') : override lookup s = .ok s' := by
  have hall := h
  simp only [leaves, SandboxSettings.leaves, SandboxSettings.own, Sandbox.Backoff.leaves, Program.Options.leaves,
    Program.Options.own, Program.Telemetry.leaves, Generation.ModelSettings.leaves, List.map_cons, List.map_nil,
    List.cons_append, List.nil_append, List.forall_mem_cons] at hall
  obtain ⟨h1, h2, h3, h4, -, h5, -, -, -, -, -, h6, -, -, -, h7, -, -, h8, h9, -⟩ := hall
  have hok := override_eq_ok_iff.mpr ⟨_, h1, _, h2, _, h3, _, h4, _, h5, _, h6, _, h7, _, h8, _, h9, rfl⟩
  rw [hok]
  -- both results agree on every leaf, also on those without a variable
  exact congrArg Except.ok (leaves_cover _ _ fun leaf hl => (follows_of_override hok leaf hl).unique (h leaf hl))

lemma override_again (h : override lookup s = .ok s') : override lookup s' = .ok s' :=
  override_of_follows fun leaf hl => (follows_of_override h leaf hl).again

lemma not_unreadable_iff (s : Settings) : ¬Unreadable lookup ↔
    (∃ p, (Variable.provider "MOMOS_SANDBOX_PROVIDER").Sets lookup s.sandbox.provider p) ∧
    (∃ b, (Variable.switch "MOMOS_TELEMETRY_ENABLED").Sets lookup s.program.telemetry.enabled b) ∧
    ∃ b, (Variable.switch "MOMOS_AGENT_WEB_FETCH").Sets lookup s.agent.webFetch b := by
  simp only [Variable.exists_sets_iff, provider_reads_iff, switch_reads_iff]
  simp only [Unreadable, List.exists_mem_cons_iff, List.not_mem_nil, false_and, exists_false, or_false, not_or,
    not_exists, not_and, not_forall, Classical.not_not, exists_prop]
  rfl

lemma override_fails_iff : (∃ e, override lookup s = .error e) ↔ Unreadable lookup := by
  have hok : (∃ s', override lookup s = .ok s') ↔ ¬Unreadable lookup := by
    rw [not_unreadable_iff s]
    simp only [override_eq_ok_iff]
    constructor
    · rintro ⟨s', _, -, p, hp, _, -, _, -, _, -, e, he, _, -, _, -, f, hf, -⟩
      exact ⟨⟨p, hp⟩, ⟨e, he⟩, f, hf⟩
    · rintro ⟨⟨p, hp⟩, ⟨e, he⟩, f, hf⟩
      have htext := Variable.exists_sets_text lookup
      obtain ⟨_, hlisten⟩ := htext "MOMOS_LISTEN" s.listen
      obtain ⟨_, hname⟩ := htext "MOMOS_SANDBOX_NAME" s.sandbox.name
      obtain ⟨_, himage⟩ := htext "MOMOS_SANDBOX_IMAGE" s.sandbox.image
      obtain ⟨_, hdirectory⟩ := htext "MOMOS_WORKSPACE_DIR" s.sandbox.workspaceDirectory
      obtain ⟨_, hmodel⟩ := htext "MOMOS_AGENT_MODEL" s.agent.model
      obtain ⟨_, hurl⟩ := htext "MOMOS_AGENT_BASE_URL" s.agent.baseUrl
      exact ⟨_, _, hlisten, _, hp, _, hname, _, himage, _, hdirectory, _, he, _, hmodel, _, hurl, _, hf, rfl⟩
  rw [← not_iff_not, ← hok]
  cases override lookup s with
  | ok s' => simp
  | error e => simp

/-- Every setting comes from its own variable, or else from its own place in the file, or else it is the standard one,
and the settings have no other parts. Only a variable that is no free text can be refused. -/
theorem effective_settings {t : Tree} {path text : String} {w : Written}
    (hfile : t.readFile [] path = .ok (Text.encode text)) (htext : Toml.read? text = some w)
    (hs : decode? temp conventions w = some s) (lookup : String → Option String) :
    (load temp path).run Tree.answer t = (.ok s, t) ∧
    ((∃ e, override lookup s = .error e) ↔ Unreadable lookup) ∧
    (∀ s', override lookup s = .ok s' →
      (∀ leaf ∈ leaves, ∀ a, leaf.Effective temp w lookup a ↔ a = leaf.get s') ∧ override lookup s' = .ok s') ∧
    Leaf.Cover leaves := by
  refine ⟨run_load temp hfile ?_, override_fails_iff, fun s' h => ⟨fun leaf hleaf => ?_, override_again h⟩,
    leaves_cover⟩
  · rw [read?, htext, Option.bind_some, hs]
  · exact Leaf.effective_iff (taken_of_decode? hs leaf hleaf) (follows_of_override h leaf hleaf)

def someKeys : String :=
  "listen = '0.0.0.0:80'\nsandbox.name = 'b'\n[sandbox.backoff]\nmax_attempts = 3\n" ++
    "[program.telemetry]\nenabled = true\n"

def someVariables (key : String) : Option String :=
  [("MOMOS_SANDBOX_PROVIDER", "LOCAL"), ("MOMOS_LISTEN", ""), ("MOMOS_TELEMETRY_ENABLED", "Off")].lookup key

theorem effective_settings_someKeys :
    ∃ t w s, (load "/var/tmp" "momos.toml").run Tree.answer t = (.ok s, t) ∧
      s = { standard "/var/tmp" with
        listen := "0.0.0.0:80"
        sandbox.name := "b"
        sandbox.backoff.maxAttempts := 3 } ∧
      Toml.read? someKeys = some w ∧
      (∀ leaf ∈ leaves, ∀ a, leaf.Effective "/var/tmp" w someVariables a ↔ a = leaf.get { s with
        listen := ""
        sandbox.provider := .host
        program.telemetry.enabled := false }) ∧
      ∃ e, override (fun _ => some "maybe") s = .error e := by
  have hw : (Toml.read? someKeys).isSome := by decide +kernel
  have hs : (Toml.read? someKeys).bind (decode? "/var/tmp" conventions) = some { standard "/var/tmp" with
      listen := "0.0.0.0:80"
      sandbox.name := "b"
      sandbox.backoff.maxAttempts := 3 } := by decide +kernel
  obtain ⟨w, hw⟩ := Option.isSome_iff_exists.mp hw
  rw [hw, Option.bind_some] at hs
  have hfile : (Tree.empty.put ["momos.toml"] (.file (Text.encode someKeys))).readFile [] "momos.toml" =
      .ok (Text.encode someKeys) := by rfl
  obtain ⟨hload, -, heach, -⟩ := effective_settings hfile hw hs someVariables
  obtain ⟨-, hfails, -⟩ := effective_settings hfile hw hs fun _ => some "maybe"
  refine ⟨_, w, _, hload, rfl, hw, (heach _ ?_).1, hfails.mpr (.inl ⟨"maybe", rfl, ?_⟩)⟩
  · decide +kernel
  · unfold AnyCase
    decide

end Settings

end BrowserCheck
