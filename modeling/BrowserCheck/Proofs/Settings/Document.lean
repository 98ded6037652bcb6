import BrowserCheck.Proofs.Json.Typed
import BrowserCheck.Proofs.Toml.Documents
import BrowserCheck.Settings.File

set_option autoImplicit false

namespace BrowserCheck

open Json

namespace Json

lemma Written.slots?_fields (conv : Conventions) (fields : Fields) (hn : (fields.map Prod.fst).Nodup) :
    (ofValue (.object fields)).slots? conv (fields.map Prod.fst) = some (fields.map fun f => .given (ofValue f.2)) := by
  have hslots := slots?_object conv (ofValue.ofFields fields) (by rwa [keys_ofFields])
  rw [keys_ofFields] at hslots
  rw [ofValue, hslots, ofFields_eq, List.map_map]
  rfl

namespace Slot

variable {α : Type} {d : Decoder α} {v : Value} {a : α}

lemma given_text (a s : String) : (given (.ofValue (.text s))).withDefault a Written.text? = some s := rfl

lemma given_boolean (a b : Bool) : (given (.ofValue (.boolean b))).withDefault a Written.boolean? = some b := rfl

lemma given_uint8 (a n : UInt8) : (given (.ofValue (.ofNat n.toNat))).withDefault a Written.uint8? = some n := by
  rw [withDefault_given, Value.ofNat, Written.ofValue, Written.uint8?_toNat]

lemma given_uint16 (a n : UInt16) : (given (.ofValue (.ofNat n.toNat))).withDefault a Written.uint16? = some n := by
  rw [withDefault_given, Value.ofNat, Written.ofValue, Written.uint16?_toNat]

lemma given_uint32 (a n : UInt32) : (given (.ofValue (.ofNat n.toNat))).withDefault a Written.uint32? = some n := by
  rw [withDefault_given, Value.ofNat, Written.ofValue, Written.uint32?_toNat]

lemma given_uint64 (a n : UInt64) : (given (.ofValue (.ofNat n.toNat))).withDefault a Written.uint64? = some n := by
  rw [withDefault_given, Value.ofNat, Written.ofValue, Written.uint64?_toNat]

lemma given_texts (a ss : List String) :
    (given (.ofValue (.ofTexts ss))).withDefault a (Written.list? Written.text?) = some ss :=
  @Written.list?_map String Written.text? Value.text (fun _ => rfl) ss

lemma given_of (h : d (.ofValue v) = some a) (b : α) : (given (.ofValue v)).withDefault b d = some a := h

end Slot

end Json

open Slot

variable (conv : Conventions)

lemma Sandbox.Backoff.decode?_encode (b : Sandbox.Backoff) : decode? conv (.ofValue b.encode) = some b := by
  have hslots := Written.slots?_fields conv [("initial_delay_ms", .ofNat b.initialDelayMs.toNat),
    ("max_attempts", .ofNat b.maxAttempts.toNat)] (by simp)
  simp only [List.map] at hslots
  rw [encode, decode?, hslots, Option.bind_eq_bind, Option.bind_some]
  simp only [given_uint64, given_uint32, Option.bind_eq_bind, Option.bind_some]
  rfl

lemma Program.Telemetry.decode?_encode (t : Program.Telemetry) : decode? conv (.ofValue t.encode) = some t := by
  have hslots := Written.slots?_fields conv [("enabled", .boolean t.enabled), ("port", .ofNat t.port.toNat),
    ("buffer_capacity", .ofNat t.bufferCapacity.toNat), ("sentry_bundles", .ofTexts t.sentryBundles)] (by simp)
  simp only [List.map] at hslots
  rw [encode, decode?, hslots, Option.bind_eq_bind, Option.bind_some]
  simp only [given_boolean, given_uint16, given_uint64, given_texts, Option.bind_eq_bind, Option.bind_some]
  rfl

lemma Program.Options.decode?_encode (o : Program.Options) : decode? conv (.ofValue o.encode) = some o := by
  have hslots := Written.slots?_fields conv [("screenshot_quality", .ofNat o.screenshotQuality.toNat),
    ("telemetry", o.telemetry.encode)] (by simp)
  simp only [List.map] at hslots
  rw [encode, decode?, hslots, Option.bind_eq_bind, Option.bind_some]
  simp only [given_uint8, given_of (o.telemetry.decode?_encode conv), Option.bind_eq_bind, Option.bind_some]
  rfl

lemma Generation.ModelSettings.decode?_encode (c : Generation.ModelSettings) :
    decode? conv (.ofValue c.encode) = some c := by
  have hslots := Written.slots?_fields conv [("model", .text c.model), ("api_key_env", .text c.apiKeyEnv),
    ("max_tokens", .ofNat c.maxTokens.toNat), ("base_url", .text c.baseUrl), ("web_fetch", .boolean c.webFetch),
    ("web_fetch_max_uses", .ofNat c.webFetchMaxUses.toNat)] (by simp)
  simp only [List.map] at hslots
  rw [encode, decode?, hslots, Option.bind_eq_bind, Option.bind_some]
  simp only [given_text, given_uint32, given_boolean, Option.bind_eq_bind, Option.bind_some]
  rfl

namespace Settings

variable (temp : String)

lemma SandboxSettings.decode?_encode (s : SandboxSettings) : decode? temp conv (.ofValue s.encode) = some s := by
  have hprovider : Written.variant? conv Provider.ofName? (.ofValue (.text s.provider.name)) = some s.provider := by
    cases s.provider <;> rfl
  have hslots := Written.slots?_fields conv [("provider", .text s.provider.name), ("name", .text s.name),
    ("image", .text s.image), ("run_args", .ofTexts s.runArguments), ("workspace_dir", .text s.workspaceDirectory),
    ("program_path", .text s.programPath), ("health_check_command", .text s.healthCheckCommand),
    ("backoff", s.backoff.encode)] (by simp)
  simp only [List.map] at hslots
  rw [encode, decode?, hslots, Option.bind_eq_bind, Option.bind_some]
  simp only [given_of hprovider, given_text, given_texts, given_of (s.backoff.decode?_encode conv),
    Option.bind_eq_bind, Option.bind_some]
  rfl

lemma decode?_encode (s : Settings) : decode? temp conv (.ofValue s.encode) = some s := by
  have hslots := Written.slots?_fields conv [("listen", .text s.listen), ("sandbox", s.sandbox.encode),
    ("program", s.program.encode), ("agent", s.agent.encode)] (by simp)
  simp only [List.map] at hslots
  rw [encode, decode?, hslots, Option.bind_eq_bind, Option.bind_some]
  simp only [given_text, given_of (s.sandbox.decode?_encode conv temp), given_of (s.program.decode?_encode conv),
    given_of (s.agent.decode?_encode conv), Option.bind_eq_bind, Option.bind_some]
  rfl

lemma isBare_sections (s : Settings) : ∀ part ∈ s.sections, part.IsBare := by
  -- the names are the same whatever the values are
  have hsame : s.sections.flatMap Toml.Section.names = (standard "").sections.flatMap Toml.Section.names := rfl
  have hnames : ∀ name ∈ (standard "").sections.flatMap Toml.Section.names, Toml.IsBareKey name := by decide +kernel
  exact fun part hpart => .of_names fun name hname => hnames name (hsame ▸ List.mem_flatMap.mpr ⟨part, hpart, hname⟩)

open Toml Toml.Reader in
lemma exists_place (s : Settings) : ∃ st, s.sections.foldlM State.place? ⟨[], []⟩ = some st ∧
    st.root.written = .ofValue s.encode := by
  refine ⟨_, by
    simp [sections, State.place?, State.open?, State.add?, splitLast?, Table.openTable, Table.insertAt, Table.insert,
      Table.change, Table.set, List.lookup_cons, List.lookup_nil]
    rfl, ?_⟩
  rfl

lemma read?_of_write? {s : Settings} {text : String} (h : s.write? = some text) : read? temp text = some s := by
  obtain ⟨st, hplace, hwritten⟩ := s.exists_place
  rw [read?, Toml.read?_write s.isBare_sections h hplace, hwritten, Option.bind_some, decode?_encode]

def Exceeds (s : Settings) : Prop :=
  Toml.greatestInteger < s.sandbox.backoff.initialDelayMs.toNat ∨
    Toml.greatestInteger < s.program.telemetry.bufferCapacity.toNat

lemma write?_eq_none_iff {s : Settings} : s.write? = none ↔ s.Exceeds := by
  have hsmall {n : Nat} (h : n < 2 ^ 32) : ¬Toml.greatestInteger < n := by
    rw [Toml.greatestInteger]
    omega
  have h8 (n : UInt8) := hsmall (n.toNat_lt.trans (by decide))
  have h16 (n : UInt16) := hsmall (n.toNat_lt.trans (by decide))
  have h32 (n : UInt32) := hsmall n.toNat_lt
  rw [write?, Toml.write?_eq_none_iff, Exceeds]
  simp only [sections, List.mem_cons, List.not_mem_nil, or_false, exists_eq_or_imp, exists_eq_left,
    Toml.Entry.Exceeds, h8, h16, h32, false_or]

end Settings

end BrowserCheck
