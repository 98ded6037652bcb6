import BrowserCheck.Proofs.Json.Entries
import BrowserCheck.Proofs.Text.Cases
import BrowserCheck.Settings.File

set_option autoImplicit false

/-! The single settings at all depths, each with its place in the file and its variable. A file that can be read gives
every setting that it names, and the others are the standard ones. -/

namespace BrowserCheck

open Json
open Text (AnyCase)

structure Variable (α : Type) where
  key : String
  Reads : String → α → Prop
  unique : ∀ {v : String} {a b : α}, Reads v a → Reads v b → a = b

namespace Variable

def text (key : String) : Variable String where
  key := key
  Reads := Eq
  unique h h' := h.symm.trans h'

def ofWords {α : Type} (key : String) (words : α → List String)
    (small : ∀ a, ∀ word ∈ words a, Text.IsSmall word.toList)
    (apart : ∀ a b, ∀ word ∈ words a, word ∈ words b → a = b) : Variable α where
  key := key
  Reads v a := ∃ word ∈ words a, AnyCase word.toList v.toList
  unique := by
    rintro v a b ⟨word, hword, h⟩ ⟨word', hword', h'⟩
    have hsame : word = word' := by
      apply String.toList_injective
      rw [← (Text.anyCase_iff (small a word hword)).mp h, ← (Text.anyCase_iff (small b word' hword')).mp h']
    exact apart a b word hword (hsame ▸ hword')

def provider (key : String) : Variable Settings.Provider :=
  ofWords key (fun p => match p with | .container => ["docker"] | .host => ["local"])
    (by intro p; cases p <;> decide) (by intro p q; cases p <;> cases q <;> decide)

def switch (key : String) : Variable Bool :=
  ofWords key (fun b => if b then ["1", "true", "yes", "on"] else ["0", "false", "no", "off"]) (by decide) (by decide)

end Variable

structure Leaf (R : Type) where
  Value : Type
  path : List Written.Step
  decode : Decoder Value
  get : R → Value
  environment : Option (Variable Value)

namespace Leaf

variable {R S : Type}

def below (step : Written.Step) (part : R → S) (leaf : Leaf S) : Leaf R :=
  { leaf with path := step :: leaf.path, get := fun r => leaf.get (part r) }

def TakenFrom (leaf : Leaf R) (standard : R) (w : Written) (r : R) : Prop :=
  Takes leaf.decode (leaf.get standard) (w.at? leaf.path) (leaf.get r)

lemma at?_single (w : Written) (step : Written.Step) : w.at? [step] = w.entry? step := by
  rw [Written.at?]
  cases w.entry? step <;> rfl

lemma taken_of_slots {conv : Conventions} {names : List String} {w : Written} {slots : List Slot}
    {fields : List (Leaf R)} {standard r : R} (hnames : names.Nodup) (hslots : w.slots? conv names = some slots)
    (hpaths : fields.map path = names.map fun name => [⟨names, name⟩])
    (h : List.Forall₂ (fun slot field => slot.withDefault (field.get standard) field.decode = some (field.get r))
      slots fields) : ∀ field ∈ fields, field.TakenFrom standard w r := by
  have hentries : fields.map (fun field => w.at? field.path) = slots.map Slot.entry? := by
    have hmap : fields.map (fun field => w.at? field.path) = (fields.map path).map (Written.at? · w) := by simp
    rw [Written.entries_of_slots? hnames hslots, hmap, hpaths, List.map_map]
    exact List.map_congr_left fun name _ => at?_single w _
  clear hpaths hslots
  induction h with
  | nil => exact nofun
  | @cons slot field slots fields hfield _ ih =>
    obtain ⟨hat, hentries⟩ := List.cons.inj hentries
    exact List.forall_mem_cons.mpr ⟨(congrArg (Takes _ _ · _) hat).mpr (Slot.takes hfield), ih hentries⟩

lemma taken_below {leaves : List (Leaf S)} {standard r : R} {w : Written} {step : Written.Step}
    {part : R → S} {d : Decoder S} (hfield : (⟨S, [step], d, part, none⟩ : Leaf R).TakenFrom standard w r)
    (h : ∀ w s, d w = some s → ∀ leaf ∈ leaves, leaf.TakenFrom (part standard) w s) :
    ∀ leaf ∈ leaves.map (below step part), leaf.TakenFrom standard w r := by
  rw [TakenFrom, at?_single] at hfield
  rw [List.forall_mem_map]
  exact fun leaf hleaf => hfield.step leaf.get fun w hs => h w _ hs leaf hleaf

def Cover (leaves : List (Leaf R)) : Prop := ∀ r r', (∀ leaf ∈ leaves, leaf.get r = leaf.get r') → r = r'

end Leaf

variable {conv : Conventions} {w : Written}

namespace Sandbox.Backoff

def names : List String := ["initial_delay_ms", "max_attempts"]

def leaves : List (Leaf Backoff) :=
  [⟨UInt64, [⟨names, "initial_delay_ms"⟩], Written.uint64?, (·.initialDelayMs), none⟩,
   ⟨UInt32, [⟨names, "max_attempts"⟩], Written.uint32?, (·.maxAttempts), none⟩]

lemma taken_of_decode? {b : Backoff} (h : decode? conv w = some b) : ∀ leaf ∈ leaves, leaf.TakenFrom standard w b := by
  obtain ⟨slots, hslots, h⟩ := Option.bind_eq_some_iff.mp h
  refine Leaf.taken_of_slots (by decide) hslots rfl ?_
  split at h
  · simp only [Option.bind_eq_bind, Option.bind_eq_some_iff] at h
    obtain ⟨_, h1, _, h2, ⟨⟩⟩ := h
    exact .cons h1 (.cons h2 .nil)
  · cases h

end Sandbox.Backoff

namespace Program.Telemetry

def names : List String := ["enabled", "port", "buffer_capacity", "sentry_bundles"]

def leaves : List (Leaf Telemetry) :=
  [⟨Bool, [⟨names, "enabled"⟩], Written.boolean?, (·.enabled), some (.switch "MOMOS_TELEMETRY_ENABLED")⟩,
   ⟨UInt16, [⟨names, "port"⟩], Written.uint16?, (·.port), none⟩,
   ⟨UInt64, [⟨names, "buffer_capacity"⟩], Written.uint64?, (·.bufferCapacity), none⟩,
   ⟨List String, [⟨names, "sentry_bundles"⟩], Written.list? Written.text?, (·.sentryBundles), none⟩]

lemma taken_of_decode? {t : Telemetry} (h : decode? conv w = some t) :
    ∀ leaf ∈ leaves, leaf.TakenFrom standard w t := by
  obtain ⟨slots, hslots, h⟩ := Option.bind_eq_some_iff.mp h
  refine Leaf.taken_of_slots (by decide) hslots rfl ?_
  split at h
  · simp only [Option.bind_eq_bind, Option.bind_eq_some_iff] at h
    obtain ⟨_, h1, _, h2, _, h3, _, h4, ⟨⟩⟩ := h
    exact .cons h1 (.cons h2 (.cons h3 (.cons h4 .nil)))
  · cases h

end Program.Telemetry

namespace Program.Options

def names : List String := ["screenshot_quality", "telemetry"]

def own : List (Leaf Options) :=
  [⟨UInt8, [⟨names, "screenshot_quality"⟩], Written.uint8?, (·.screenshotQuality), none⟩]

def leaves : List (Leaf Options) := own ++ Telemetry.leaves.map (.below ⟨names, "telemetry"⟩ (·.telemetry))

lemma taken_of_decode? {o : Options} (h : decode? conv w = some o) : ∀ leaf ∈ leaves, leaf.TakenFrom standard w o := by
  have hfields : ∀ field ∈ own ++ [⟨_, [⟨names, "telemetry"⟩], Telemetry.decode? conv, (·.telemetry), none⟩],
      field.TakenFrom standard w o := by
    obtain ⟨slots, hslots, h⟩ := Option.bind_eq_some_iff.mp h
    refine Leaf.taken_of_slots (by decide) hslots rfl ?_
    split at h
    · simp only [Option.bind_eq_bind, Option.bind_eq_some_iff] at h
      obtain ⟨_, h1, _, h2, ⟨⟩⟩ := h
      exact .cons h1 (.cons h2 .nil)
    · cases h
  obtain ⟨hown, htelemetry⟩ := List.forall_mem_append.mp hfields
  exact List.forall_mem_append.mpr
    ⟨hown, Leaf.taken_below (htelemetry _ (.head _)) fun _ _ => Telemetry.taken_of_decode?⟩

end Program.Options

namespace Generation.ModelSettings

def names : List String := ["model", "api_key_env", "max_tokens", "base_url", "web_fetch", "web_fetch_max_uses"]

def leaves : List (Leaf ModelSettings) :=
  [⟨String, [⟨names, "model"⟩], Written.text?, (·.model), some (.text "MOMOS_AGENT_MODEL")⟩,
   ⟨String, [⟨names, "api_key_env"⟩], Written.text?, (·.apiKeyEnv), none⟩,
   ⟨UInt32, [⟨names, "max_tokens"⟩], Written.uint32?, (·.maxTokens), none⟩,
   ⟨String, [⟨names, "base_url"⟩], Written.text?, (·.baseUrl), some (.text "MOMOS_AGENT_BASE_URL")⟩,
   ⟨Bool, [⟨names, "web_fetch"⟩], Written.boolean?, (·.webFetch), some (.switch "MOMOS_AGENT_WEB_FETCH")⟩,
   ⟨UInt32, [⟨names, "web_fetch_max_uses"⟩], Written.uint32?, (·.webFetchMaxUses), none⟩]

lemma taken_of_decode? {c : ModelSettings} (h : decode? conv w = some c) :
    ∀ leaf ∈ leaves, leaf.TakenFrom standard w c := by
  obtain ⟨slots, hslots, h⟩ := Option.bind_eq_some_iff.mp h
  refine Leaf.taken_of_slots (by decide) hslots rfl ?_
  split at h
  · simp only [Option.bind_eq_bind, Option.bind_eq_some_iff] at h
    obtain ⟨_, h1, _, h2, _, h3, _, h4, _, h5, _, h6, ⟨⟩⟩ := h
    exact .cons h1 (.cons h2 (.cons h3 (.cons h4 (.cons h5 (.cons h6 .nil)))))
  · cases h

end Generation.ModelSettings

namespace Settings

variable {temp : String}

namespace SandboxSettings

def names : List String :=
  ["provider", "name", "image", "run_args", "workspace_dir", "program_path", "health_check_command", "backoff"]

def own (conv : Conventions) : List (Leaf SandboxSettings) :=
  [⟨Provider, [⟨names, "provider"⟩], Written.variant? conv Provider.ofName?, (·.provider),
      some (.provider "MOMOS_SANDBOX_PROVIDER")⟩,
   ⟨String, [⟨names, "name"⟩], Written.text?, (·.name), some (.text "MOMOS_SANDBOX_NAME")⟩,
   ⟨String, [⟨names, "image"⟩], Written.text?, (·.image), some (.text "MOMOS_SANDBOX_IMAGE")⟩,
   ⟨List String, [⟨names, "run_args"⟩], Written.list? Written.text?, (·.runArguments), none⟩,
   ⟨String, [⟨names, "workspace_dir"⟩], Written.text?, (·.workspaceDirectory), some (.text "MOMOS_WORKSPACE_DIR")⟩,
   ⟨String, [⟨names, "program_path"⟩], Written.text?, (·.programPath), none⟩,
   ⟨String, [⟨names, "health_check_command"⟩], Written.text?, (·.healthCheckCommand), none⟩]

def leaves (conv : Conventions) : List (Leaf SandboxSettings) :=
  own conv ++ Sandbox.Backoff.leaves.map (.below ⟨names, "backoff"⟩ (·.backoff))

lemma taken_of_decode? {s : SandboxSettings} (h : decode? temp conv w = some s) :
    ∀ leaf ∈ leaves conv, leaf.TakenFrom (standard temp) w s := by
  have hfields : ∀ field ∈ own conv ++ [⟨_, [⟨names, "backoff"⟩], Sandbox.Backoff.decode? conv, (·.backoff), none⟩],
      field.TakenFrom (standard temp) w s := by
    obtain ⟨slots, hslots, h⟩ := Option.bind_eq_some_iff.mp h
    refine Leaf.taken_of_slots (by decide) hslots rfl ?_
    split at h
    · simp only [Option.bind_eq_bind, Option.bind_eq_some_iff] at h
      obtain ⟨_, h1, _, h2, _, h3, _, h4, _, h5, _, h6, _, h7, _, h8, ⟨⟩⟩ := h
      exact .cons h1 (.cons h2 (.cons h3 (.cons h4 (.cons h5 (.cons h6 (.cons h7 (.cons h8 .nil)))))))
    · cases h
  obtain ⟨hown, hbackoff⟩ := List.forall_mem_append.mp hfields
  exact List.forall_mem_append.mpr
    ⟨hown, Leaf.taken_below (hbackoff _ (.head _)) fun _ _ => Sandbox.Backoff.taken_of_decode?⟩

end SandboxSettings

def names : List String := ["listen", "sandbox", "program", "agent"]

def leaves : List (Leaf Settings) :=
  ⟨String, [⟨names, "listen"⟩], Written.text?, (·.listen), some (.text "MOMOS_LISTEN")⟩ ::
    ((SandboxSettings.leaves conventions).map (.below ⟨names, "sandbox"⟩ (·.sandbox)) ++
      Program.Options.leaves.map (.below ⟨names, "program"⟩ (·.program)) ++
      Generation.ModelSettings.leaves.map (.below ⟨names, "agent"⟩ (·.agent)))

lemma taken_of_decode? {s : Settings} (h : decode? temp conventions w = some s) :
    ∀ leaf ∈ leaves, leaf.TakenFrom (standard temp) w s := by
  have hfields : ∀ field ∈ [⟨_, [⟨names, "listen"⟩], Written.text?, (·.listen), none⟩,
      ⟨_, [⟨names, "sandbox"⟩], SandboxSettings.decode? temp conventions, (·.sandbox), none⟩,
      ⟨_, [⟨names, "program"⟩], Program.Options.decode? conventions, (·.program), none⟩,
      ⟨_, [⟨names, "agent"⟩], Generation.ModelSettings.decode? conventions, (·.agent), none⟩],
      Leaf.TakenFrom field (standard temp) w s := by
    obtain ⟨slots, hslots, h⟩ := Option.bind_eq_some_iff.mp h
    refine Leaf.taken_of_slots (by decide) hslots rfl ?_
    split at h
    · simp only [Option.bind_eq_bind, Option.bind_eq_some_iff] at h
      obtain ⟨_, h1, _, h2, _, h3, _, h4, ⟨⟩⟩ := h
      exact .cons h1 (.cons h2 (.cons h3 (.cons h4 .nil)))
    · cases h
  simp only [List.forall_mem_cons] at hfields
  obtain ⟨hlisten, hsandbox, hprogram, hagent, -⟩ := hfields
  rw [leaves, List.forall_mem_cons, List.forall_mem_append, List.forall_mem_append]
  exact ⟨hlisten, ⟨Leaf.taken_below hsandbox fun _ _ => SandboxSettings.taken_of_decode?,
    Leaf.taken_below hprogram fun _ _ => Program.Options.taken_of_decode?⟩,
    Leaf.taken_below hagent fun _ _ => Generation.ModelSettings.taken_of_decode?⟩

lemma leaves_cover : Leaf.Cover leaves := by
  rintro ⟨listen, ⟨provider, name, image, runArguments, workspace, program, health, ⟨delay, attempts⟩⟩,
    ⟨quality, ⟨enabled, port, capacity, bundles⟩⟩, ⟨model, key, tokens, url, fetch, uses⟩⟩ s h
  simp only [leaves, SandboxSettings.leaves, SandboxSettings.own, Sandbox.Backoff.leaves, Program.Options.leaves,
    Program.Options.own, Program.Telemetry.leaves, Generation.ModelSettings.leaves, Leaf.below, List.map_cons,
    List.map_nil, List.cons_append, List.nil_append, List.forall_mem_cons] at h
  simp only [h]

example : leaves.map (fun leaf => (leaf.path.map Written.Step.name, leaf.environment.map Variable.key)) =
    [(["listen"], some "MOMOS_LISTEN"), (["sandbox", "provider"], some "MOMOS_SANDBOX_PROVIDER"),
     (["sandbox", "name"], some "MOMOS_SANDBOX_NAME"), (["sandbox", "image"], some "MOMOS_SANDBOX_IMAGE"),
     (["sandbox", "run_args"], none), (["sandbox", "workspace_dir"], some "MOMOS_WORKSPACE_DIR"),
     (["sandbox", "program_path"], none), (["sandbox", "health_check_command"], none),
     (["sandbox", "backoff", "initial_delay_ms"], none), (["sandbox", "backoff", "max_attempts"], none),
     (["program", "screenshot_quality"], none),
     (["program", "telemetry", "enabled"], some "MOMOS_TELEMETRY_ENABLED"), (["program", "telemetry", "port"], none),
     (["program", "telemetry", "buffer_capacity"], none), (["program", "telemetry", "sentry_bundles"], none),
     (["agent", "model"], some "MOMOS_AGENT_MODEL"), (["agent", "api_key_env"], none), (["agent", "max_tokens"], none),
     (["agent", "base_url"], some "MOMOS_AGENT_BASE_URL"), (["agent", "web_fetch"], some "MOMOS_AGENT_WEB_FETCH"),
     (["agent", "web_fetch_max_uses"], none)] := rfl

end Settings

end BrowserCheck
