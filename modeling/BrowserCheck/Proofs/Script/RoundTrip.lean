import BrowserCheck.Proofs.Json.Ordered
import BrowserCheck.Proofs.Script.Grammar
import BrowserCheck.Proofs.Script.Decoding
import Mathlib.Order.Nat

set_option autoImplicit false

namespace BrowserCheck

open Json

lemma ActionKind.fieldName_ne_type (kind : ActionKind) : kind.fieldName ≠ "type" := by
  cases kind <;> decide

namespace Action

def content : Action → Value
  | goTo url => .text url
  | click selector => .text selector
  | sleep milliseconds => .ofNat milliseconds.toNat

lemma encode_eq (a : Action) : a.encode = .object [("type", .text a.kind.tag), (a.kind.fieldName, a.content)] := by
  cases a <;> rfl

lemma sort_content (a : Action) : a.content.sort = a.content := by
  cases a <;> rfl

lemma exists_fields (a : Action) : ∃ fields : Fields, a.encode.sort = .object fields ∧ fields.InOrder ∧
    ∀ name, fields.get? name =
      if name = "type" then some (.text a.kind.tag) else if name = a.kind.fieldName then some a.content else none := by
  have hn : ([("type", .text a.kind.tag), (a.kind.fieldName, a.content)].map Prod.fst).Nodup := by
    cases a <;> simp [kind, ActionKind.fieldName]
  refine ⟨_, (congrArg Value.sort a.encode_eq).trans (Value.sort_object _), Value.sorted_inOrder _, fun name => ?_⟩
  rw [Value.get?_sorted hn, Fields.get?_cons, Fields.get?_cons]
  split
  · rfl
  · split
    · exact congrArg some a.sort_content
    · rfl

lemma content_iff {kind : ActionKind} {v : Value} {a : Action} : Content kind v a ↔
    a.kind = kind ∧ a.content = v ∧ ∀ ms, a = .sleep ms → ms.toNat ≤ 2 ^ 53 - 1 := by
  constructor
  · intro h
    have hb := (decodeContent_of_content h).2
    cases h with
    | goTo url => exact ⟨rfl, rfl, hb⟩
    | click selector => exact ⟨rfl, rfl, hb⟩
    | sleep n h =>
      have hn : n.toUInt64.toNat = n := UInt64.toNat_ofNat_of_lt' (by simp only [UInt64.size]; omega)
      exact ⟨rfl, congrArg Value.ofNat hn, hb⟩
  · rintro ⟨rfl, rfl, hb⟩
    cases a with
    | goTo url => exact .goTo url
    | click selector => exact .click selector
    | sleep ms =>
      have hc := Content.sleep ms.toNat (hb ms rfl)
      rwa [Nat.toUInt64, UInt64.ofNat_toNat] at hc

lemma describes_written {a : Action} (h : ∀ ms, a = .sleep ms → ms.toNat ≤ 2 ^ 53 - 1) :
    Describes a.encode.sort a := by
  obtain ⟨fields, he, -, hget⟩ := a.exists_fields
  rw [he]
  refine .object ?_ ?_ (content_iff.mpr ⟨rfl, rfl, h⟩)
  · rw [hget, if_pos rfl]
  · rw [hget, if_neg a.kind.fieldName_ne_type, if_pos rfl]

lemma fault_written {ms : UInt64} (h : 2 ^ 53 - 1 < ms.toNat) (path : String) :
    Fault path (sleep ms).encode.sort ⟨.invalidType, path ++ ".milliseconds",
      "expected integer between 0 and 2^53 - 1, found number"⟩ := by
  obtain ⟨fields, he, -, hget⟩ := (sleep ms).exists_fields
  have hp : path ++ "." ++ "milliseconds" = path ++ ".milliseconds" := by simp [String.append_assoc]
  rw [he, ← hp]
  have htype : fields.get? "type" = some (.text ActionKind.sleep.tag) := hget "type"
  have hfield : fields.get? ActionKind.sleep.fieldName = some (.ofNat ms.toNat) := hget "milliseconds"
  refine .fieldWrong htype hfield fun a ha => ?_
  obtain ⟨hk, hv, hb⟩ := content_iff.mp ha
  cases a with
  | sleep n =>
    have hn : n.toNat = ms.toNat := by exact_mod_cast Number.integer.inj (Value.number.inj hv)
    have := hb n rfl
    omega
  | _ => cases hk

def kindOf? (fields : Fields) : Option ActionKind :=
  ((fields.get? "type").bind Value.text?).bind ActionKind.ofTag?

def pruned : Value → Value
  | .object fields =>
    match kindOf? fields with
    | some kind => .object (fields.filter fun f => f.1 == "type" || f.1 == kind.fieldName)
    | none => .object fields
  | v => v

lemma pruned_of_describes {v : Value} {a : Action} (ho : v.Ordered) (h : Describes v a) : pruned v = a.encode.sort := by
  cases h with
  | @object fields kind v _ htype hfield hc =>
    obtain ⟨rfl, rfl, -⟩ := content_iff.mp hc
    obtain ⟨written, he, hw, hget⟩ := a.exists_fields
    have hk : kindOf? fields = some a.kind := by
      rw [kindOf?, htype]
      exact ActionKind.ofTag?_eq_some_iff.mpr rfl
    have hf : fields.filter (fun f => f.1 == "type" || f.1 == a.kind.fieldName) = written := by
      refine (ho.inOrder.filter _).ext hw fun name => ?_
      rw [Fields.get?_filter fun name => name == "type" || name == a.kind.fieldName, hget]
      by_cases ht : name = "type"
      · simp [ht, htype]
      · by_cases hn : name = a.kind.fieldName
        · simp [hn, hfield, a.kind.fieldName_ne_type]
        · simp [ht, hn]
    simp only [pruned, hk, he, hf]

lemma short_of_described {items : List Value} {actions : List Action} (h : List.Forall₂ Describes items actions) :
    ∀ ms, .sleep ms ∈ actions → ms.toNat ≤ 2 ^ 53 - 1 := by
  induction h with
  | nil => exact nofun
  | cons ha _ ih =>
    intro ms hm
    rcases List.mem_cons.mp hm with he | hm
    · cases ha with
      | object _ _ hc => exact (content_iff.mp hc).2.2 ms he.symm
    · exact ih ms hm

lemma map_pruned {items : List Value} {actions : List Action} (ho : ∀ v ∈ items, v.Ordered)
    (h : List.Forall₂ Describes items actions) : items.map pruned = actions.map fun a => a.encode.sort := by
  induction h with
  | nil => rfl
  | cons ha _ ih =>
    obtain ⟨hv, hvs⟩ := List.forall_mem_cons.mp ho
    rw [List.map_cons, List.map_cons, pruned_of_describes hv ha, ih hvs]

end Action

namespace Script

lemma exists_fields (s : Script) : ∃ fields : Fields, s.toValue = .object fields ∧ fields.InOrder ∧
    ∀ name, fields.get? name = if name = "version" then some (.text s.version) else
      if name = "actions" then some (.array (s.actions.map fun a => a.encode.sort)) else none := by
  have hn : (([("version", .text s.version), ("actions", .array (s.actions.map Action.encode))] : Fields).map
      Prod.fst).Nodup := by simp
  have ha : (Value.array (s.actions.map Action.encode)).sort = .array (s.actions.map fun a => a.encode.sort) := by
    rw [Value.sort_array, List.map_map]
    rfl
  refine ⟨_, Value.sort_object _, Value.sorted_inOrder _, fun name => ?_⟩
  rw [Value.get?_sorted hn, Fields.get?_cons, Fields.get?_cons]
  split
  · rfl
  · split
    · exact congrArg some ha
    · rfl

structure Valid (s : Script) : Prop where
  version : s.version = "1.0.0"
  sleeps : ∀ ms, .sleep ms ∈ s.actions → ms.toNat ≤ 2 ^ 53 - 1

lemma describes_toValue {s : Script} (h : s.Valid) : Describes s.toValue s := by
  obtain ⟨version, actions⟩ := s
  obtain ⟨hversion, hsleeps⟩ := h
  dsimp only at hversion
  subst hversion
  obtain ⟨fields, he, -, hget⟩ := exists_fields ⟨"1.0.0", actions⟩
  rw [he]
  refine .object (hget "version") (hget "actions") ?_
  rw [List.forall₂_map_left_iff, List.forall₂_same]
  intro a ha
  exact Action.describes_written fun ms hm => hsleeps ms (hm ▸ ha)

lemma valid_of_describes {v : Value} {s : Script} (h : Describes v s) : s.Valid := by
  cases h with
  | object _ _ hitems => exact ⟨rfl, Action.short_of_described hitems⟩

lemma fault_version {s : Script} (h : s.version ≠ "1.0.0") : Fault s.toValue
    ⟨.unsupportedVersion, "version", "expected \"1.0.0\", got \"" ++ s.version ++ "\""⟩ := by
  obtain ⟨fields, he, -, hget⟩ := s.exists_fields
  rw [he]
  exact .versionUnsupported (hget "version") h

def longSleeps (s : Script) : Set Nat := {i | ∃ ms, s.actions[i]? = some (.sleep ms) ∧ 2 ^ 53 - 1 < ms.toNat}

lemma fault_sleep {s : Script} (hversion : s.version = "1.0.0") {i : Nat} (hi : IsLeast s.longSleeps i) :
    Fault s.toValue ⟨.invalidType, "actions[" ++ toString i ++ "].milliseconds",
      "expected integer between 0 and 2^53 - 1, found number"⟩ := by
  obtain ⟨⟨ms, hms, hlong⟩, hleast⟩ := hi
  obtain ⟨hlt, hat⟩ := List.getElem?_eq_some_iff.mp hms
  obtain ⟨fields, he, -, hget⟩ := s.exists_fields
  have hsplit : s.actions = s.actions.take i ++ .sleep ms :: s.actions.drop (i + 1) := by
    rw [← hat, ← List.drop_eq_getElem_cons hlt, List.take_append_drop]
  have ha := hget "actions"
  rw [hsplit, List.map_append, List.map_cons] at ha
  have hlen : ((s.actions.take i).map fun a => a.encode.sort).length = i := by
    rw [List.length_map, List.length_take, Nat.min_eq_left hlt.le]
  have hitem := Action.fault_written hlong ("actions[" ++ toString i ++ "]")
  have hp : "actions[" ++ toString i ++ "]" ++ ".milliseconds" = "actions[" ++ toString i ++ "].milliseconds" := by
    simp [String.append_assoc]
  rw [hp] at hitem
  rw [he]
  refine .badItem ((hget "version").trans (congrArg _ (congrArg _ hversion))) ha ?_ (by rwa [hlen])
  intro v hv
  obtain ⟨a, hm, rfl⟩ := List.mem_map.mp hv
  obtain ⟨j, hj, rfl⟩ := List.mem_take_iff_getElem.mp hm
  refine ⟨_, Action.describes_written fun n hn => ?_⟩
  by_contra hlt'
  have hin : j ∈ s.longSleeps := ⟨n, List.getElem?_eq_some_iff.mpr ⟨by omega, hn⟩, by omega⟩
  have := hleast hin
  omega

lemma exists_isLeast_longSleeps {s : Script} (hversion : s.version = "1.0.0") (h : ¬s.Valid) :
    ∃ i, IsLeast s.longSleeps i := by
  classical
  have hlong : ∃ ms, .sleep ms ∈ s.actions ∧ 2 ^ 53 - 1 < ms.toNat := by
    by_contra hn
    push Not at hn
    exact h ⟨hversion, hn⟩
  obtain ⟨ms, hm, hlong⟩ := hlong
  obtain ⟨i, hi⟩ := List.mem_iff_getElem?.mp hm
  exact ⟨_, Nat.isLeast_find (p := (· ∈ s.longSleeps)) ⟨i, ms, hi, hlong⟩⟩

lemma check_toValue_of_valid {s : Script} (h : s.Valid) : check s.toValue = .ok s :=
  check_of_describes (describes_toValue h)

lemma check_toValue_of_not_valid {s : Script} (h : ¬s.Valid) : ∃ e, check s.toValue = .error e := by
  by_cases hversion : s.version = "1.0.0"
  · obtain ⟨i, hi⟩ := exists_isLeast_longSleeps hversion h
    exact ⟨_, check_of_fault (fault_sleep hversion hi)⟩
  · exact ⟨_, check_of_fault (fault_version hversion)⟩

def prunedField : String → Value → Value
  | "actions", .array items => .array (items.map Action.pruned)
  | _, v => v

def pruned : Value → Value
  | .object fields => .object ((fields.filter fun f => f.1 == "version" || f.1 == "actions").map fun f =>
      (f.1, prunedField f.1 f.2))
  | v => v

lemma pruned_of_describes {v : Value} {s : Script} (ho : v.Ordered) (h : Describes v s) : pruned v = s.toValue := by
  cases h with
  | @object fields items actions hversion hactions hitems =>
    obtain ⟨written, he, hw, hget⟩ := exists_fields ⟨"1.0.0", actions⟩
    have ha : prunedField "actions" (.array items) = .array (actions.map fun a => a.encode.sort) := by
      rw [prunedField, Action.map_pruned (ho.field hactions).items hitems]
    rw [pruned, he]
    refine congrArg Value.object (((ho.inOrder.filter _).map prunedField).ext hw fun name => ?_)
    rw [Fields.get?_map, Fields.get?_filter fun name => name == "version" || name == "actions", hget]
    by_cases h1 : name = "version"
    · simp [h1, hversion, prunedField]
    · by_cases h2 : name = "actions"
      · simp [h2, hactions, ha]
      · simp [h1, h2]

/-- The check takes back what was written of a valid script. Of another script it reports the version or the first sleep
that is too long. What the check takes is written without the fields that mean nothing, and then it is taken again and
written as it is. -/
theorem check_inverts_toValue :
    (∀ s : Script, (s.Valid → check s.toValue = .ok s) ∧
      (s.version ≠ "1.0.0" → check s.toValue =
        .error ⟨.unsupportedVersion, "version", "expected \"1.0.0\", got \"" ++ s.version ++ "\""⟩) ∧
      (s.version = "1.0.0" → ¬s.Valid → ∃ i, IsLeast s.longSleeps i ∧ check s.toValue =
        .error ⟨.invalidType, "actions[" ++ toString i ++ "].milliseconds",
          "expected integer between 0 and 2^53 - 1, found number"⟩)) ∧
    ∀ v w : Value, v.Ordered → (check v).map toValue = .ok w → w = pruned v ∧ (check w).map toValue = .ok w := by
  refine ⟨fun s => ⟨check_toValue_of_valid, fun h => check_of_fault (fault_version h), fun hversion h => ?_⟩,
    fun v w ho h => ?_⟩
  · obtain ⟨i, hi⟩ := exists_isLeast_longSleeps hversion h
    exact ⟨i, hi, check_of_fault (fault_sleep hversion hi)⟩
  · cases hc : check v with
    | error e =>
      rw [hc] at h
      cases h
    | ok s =>
      rw [hc] at h
      cases h
      have hs := describes_of_check hc
      refine ⟨(pruned_of_describes ho hs).symm, ?_⟩
      rw [check_toValue_of_valid (valid_of_describes hs)]
      rfl

theorem check_inverts_toValue_crowded : ∃ fields : Fields, (Value.object fields).Ordered ∧
    fields.get? "note" = some .null ∧
    ((check (.object fields)).map toValue = .ok (toValue ⟨"1.0.0", [.sleep 5]⟩) ∧
      toValue ⟨"1.0.0", [.sleep 5]⟩ = pruned (.object fields)) ∧
    (Valid ⟨"1.0.0", [.sleep 5]⟩ ∧ check (toValue ⟨"1.0.0", [.sleep 5]⟩) = .ok ⟨"1.0.0", [.sleep 5]⟩) ∧
    check (toValue ⟨"1.0", []⟩) = .error ⟨.unsupportedVersion, "version", "expected \"1.0.0\", got \"1.0\""⟩ ∧
    ¬Valid ⟨"1.0.0", [.sleep 5, .sleep 9007199254740992]⟩ ∧
    ∃ i, IsLeast (longSleeps ⟨"1.0.0", [.sleep 5, .sleep 9007199254740992]⟩) i ∧
      check (toValue ⟨"1.0.0", [.sleep 5, .sleep 9007199254740992]⟩) =
        .error ⟨.invalidType, "actions[" ++ toString i ++ "].milliseconds",
          "expected integer between 0 and 2^53 - 1, found number"⟩ := by
  have hitem : Value.Ordered (.object [("milliseconds", .ofNat 5), ("type", .text "sleep"), ("url", .null)]) :=
    .object (show ["milliseconds", "type", "url"].Pairwise (· < ·) by decide)
      (by simp [Value.ofNat, Value.Ordered.number, Value.Ordered.text, Value.Ordered.null])
  have hv : Value.Ordered (.object [("actions", .array [.object [("milliseconds", .ofNat 5),
      ("type", .text "sleep"), ("url", .null)]]), ("note", .null), ("version", .text "1.0.0")]) :=
    .object (show ["actions", "note", "version"].Pairwise (· < ·) by decide)
      (by simp [Value.Ordered.text, Value.Ordered.null, Value.Ordered.array, hitem])
  have hvalid : Valid ⟨"1.0.0", [.sleep 5]⟩ := ⟨rfl, by simp⟩
  have hlong : ¬Valid ⟨"1.0.0", [.sleep 5, .sleep 9007199254740992]⟩ := fun h => by
    have := h.sleeps 9007199254740992 (by simp)
    simp at this
  have hcheck := (check_inverts_toValue.1 _).1 hvalid
  exact ⟨_, hv, rfl, ⟨rfl, (check_inverts_toValue.2 _ _ hv rfl).1⟩, ⟨hvalid, hcheck⟩,
    (check_inverts_toValue.1 _).2.1 (by decide), hlong, (check_inverts_toValue.1 _).2.2 rfl hlong⟩

end Script

end BrowserCheck
