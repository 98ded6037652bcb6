import BrowserCheck.Proofs.Program.Body
import Mathlib.Data.List.Range

set_option autoImplicit false

namespace BrowserCheck.Program

namespace Statement

inductive Grouped : List Statement → Prop
  | goTo (url : String) (index : Nat) (action : ActionKind) (details : String) :
      Grouped [.navigate url, .injectTelemetry, .captureStep index action details]
  | click (selector : String) (index : Nat) (action : ActionKind) (details : String) :
      Grouped [.click selector, .captureStep index action details]
  | sleep (milliseconds : UInt64) (index : Nat) (action : ActionKind) (details : String) :
      Grouped [.sleep milliseconds, .captureStep index action details]

inductive Performs (index : Nat) : Action → List Statement → Prop
  | goTo (url : String) :
      Performs index (.goTo url) [.navigate url, .injectTelemetry, .captureStep index .goTo url]
  | click (selector : String) :
      Performs index (.click selector) [.click selector, .captureStep index .click selector]
  | sleep (milliseconds : UInt64) : Performs index (.sleep milliseconds)
      [.sleep milliseconds, .captureStep index .sleep (toString milliseconds.toNat ++ "ms")]

lemma Performs.grouped {index : Nat} {a : Action} {g : List Statement} (h : Performs index a g) : Grouped g := by
  cases h with
  | goTo url => exact .goTo url _ _ _
  | click selector => exact .click selector _ _ _
  | sleep milliseconds => exact .sleep milliseconds _ _ _

variable {g g' rest rest' : List Statement} {groups groups' : List (List Statement)}

lemma Grouped.ne_nil (h : Grouped g) : g ≠ [] := by
  cases h <;> simp

lemma Grouped.append_inj (h : Grouped g) (h' : Grouped g') (he : g ++ rest = g' ++ rest') :
    g = g' ∧ rest = rest' := by
  cases h <;> cases h' <;> simp_all

lemma flatten_inj (h : ∀ g ∈ groups, Grouped g) (h' : ∀ g ∈ groups', Grouped g)
    (he : groups.flatten = groups'.flatten) : groups = groups' := by
  induction groups generalizing groups' with
  | nil =>
    cases groups' with
    | nil => rfl
    | cons g' groups' =>
      have hn : g' = [] := (List.append_eq_nil_iff.mp (he.symm.trans List.flatten_nil)).1
      exact absurd hn (h' g' List.mem_cons_self).ne_nil
  | cons g groups ih =>
    obtain ⟨hg, hgroups⟩ := List.forall_mem_cons.mp h
    cases groups' with
    | nil =>
      have hn : g = [] := (List.append_eq_nil_iff.mp (he.trans List.flatten_nil)).1
      exact absurd hn hg.ne_nil
    | cons g' groups' =>
      obtain ⟨hg', hgroups'⟩ := List.forall_mem_cons.mp h'
      obtain ⟨rfl, hrest⟩ := hg.append_inj hg' he
      rw [ih hgroups hgroups' hrest]

def TelemetryFollows (stmts : List Statement) : Prop :=
  stmts[0]? ≠ some .injectTelemetry ∧
    ∀ i, stmts[i + 1]? = some .injectTelemetry ↔ ∃ url, stmts[i]? = some (.navigate url)

lemma Grouped.telemetryFollows (h : Grouped g) (hr : TelemetryFollows rest) : TelemetryFollows (g ++ rest) := by
  obtain ⟨h0, hs⟩ := hr
  -- a group ends in a capture, so what stands before the rest is no navigation
  cases h with
  | goTo url index action details =>
    refine ⟨by simp, fun i => ?_⟩
    match i with
    | 0 => simp
    | 1 => simp
    | 2 => simpa using h0
    | i + 3 => simpa using hs i
  | click selector index action details =>
    refine ⟨by simp, fun i => ?_⟩
    match i with
    | 0 => simp
    | 1 => simpa using h0
    | i + 2 => simpa using hs i
  | sleep milliseconds index action details =>
    refine ⟨by simp, fun i => ?_⟩
    match i with
    | 0 => simp
    | 1 => simpa using h0
    | i + 2 => simpa using hs i

lemma telemetryFollows_flatten (h : ∀ g ∈ groups, Grouped g) : TelemetryFollows groups.flatten := by
  induction groups with
  | nil => exact ⟨by simp, fun i => by simp⟩
  | cons g groups ih =>
    obtain ⟨hg, hgroups⟩ := List.forall_mem_cons.mp h
    exact hg.telemetryFollows (ih hgroups)

end Statement

namespace Block

open Statement (Grouped Performs)

def groups (index : Nat) (actions : List Action) : List (List Statement) :=
  actions.mapIdx fun i a => ofAction (index + i) a

lemma groups_cons (index : Nat) (a : Action) (actions : List Action) :
    groups index (a :: actions) = ofAction index a :: groups (index + 1) actions := by
  simp [groups, List.mapIdx_cons, Nat.add_assoc, Nat.add_comm 1]

lemma flatten_groups (index : Nat) (actions : List Action) :
    (groups index actions).flatten = ofActions index actions := by
  induction actions generalizing index with
  | nil => rfl
  | cons a actions ih => rw [groups_cons, List.flatten_cons, ih, ofActions]

lemma performs_ofAction (index : Nat) (a : Action) : Performs index a (ofAction index a) := by
  cases a with
  | goTo url => exact .goTo url
  | click selector => exact .click selector
  | sleep milliseconds => exact .sleep milliseconds

lemma grouped_groups (index : Nat) (actions : List Action) : ∀ g ∈ groups index actions, Grouped g := by
  intro g hg
  obtain ⟨i, hi, rfl⟩ := List.mem_mapIdx.mp hg
  exact (performs_ofAction _ _).grouped

lemma captureIndices_ofAction (v : Version) (count index : Nat) (a : Action) (rest : List Statement) :
    captureIndices ⟨v, count, ofAction index a ++ rest⟩ = index :: captureIndices ⟨v, count, rest⟩ := by
  cases a <;> rfl

lemma captureIndices_ofActions (v : Version) (count index : Nat) (actions : List Action) :
    captureIndices ⟨v, count, ofActions index actions⟩ = List.range' index actions.length := by
  induction actions generalizing index with
  | nil => rfl
  | cons a actions ih => rw [ofActions, captureIndices_ofAction, ih, List.length_cons, List.range'_succ]

lemma ofActions_eq_nil_iff {index : Nat} {actions : List Action} : ofActions index actions = [] ↔ actions = [] := by
  cases actions with
  | nil => simp [ofActions]
  | cons a actions => simp [ofActions, ofAction]

/-- Only the supported version compiles. The statements are then those of the actions, in order, and the
step that is captured behind an action carries its index, its kind and its details. -/
theorem ofScript_aligned (s : Script) :
    (s.version ≠ "1.0.0" ∧ ofScript s = .error (.unsupportedVersion s.version)) ∨
    (s.version = "1.0.0" ∧ ∃ b, ofScript s = .ok b ∧ b.actionCount = s.actions.length ∧
      (∃ groups : List (List Statement), groups.flatten = b.statements ∧ groups.length = s.actions.length ∧
        (∀ i a, s.actions[i]? = some a → ∃ g, groups[i]? = some g ∧ Performs i a g) ∧
        ∀ groups' : List (List Statement), groups'.flatten = b.statements → (∀ g ∈ groups', Grouped g) →
          groups' = groups) ∧
      b.captureIndices = List.range b.actionCount ∧
      b.statements[0]? ≠ some .injectTelemetry ∧
      (∀ i, b.statements[i + 1]? = some .injectTelemetry ↔ ∃ url, b.statements[i]? = some (.navigate url)) ∧
      (b.isEmpty = true ↔ s.actions = []) ∧
      b.statements.filterMap Statement.action? = s.actions ∧
      ∀ s' b', ofScript s' = .ok b' → b'.statements = b.statements → s' = s) := by
  by_cases hv : s.version = "1.0.0"
  · have hb := ofScript_supported hv
    have hgroups := grouped_groups 0 s.actions
    have hflat := flatten_groups 0 s.actions
    obtain ⟨hfirst, hfollows⟩ := Statement.telemetryFollows_flatten hgroups
    rw [hflat] at hfirst hfollows
    refine .inr ⟨hv, _, hb, rfl, ⟨groups 0 s.actions, hflat, by simp [groups], ?_, ?_⟩, ?_, hfirst, hfollows, ?_,
      actions_statements hb, ?_⟩
    · intro i a ha
      exact ⟨ofAction i a, by simp [groups, ha], performs_ofAction i a⟩
    · intro groups' hflat' hgroups'
      exact Statement.flatten_inj hgroups' hgroups (hflat'.trans hflat.symm)
    · rw [captureIndices_ofActions, List.range_eq_range']
    · rw [isEmpty, List.isEmpty_iff, ofActions_eq_nil_iff]
    · intro s' b' hb' he
      have hactions : s'.actions = s.actions := by
        rw [← actions_statements hb', he, actions_statements hb]
      have hversion : s'.version = s.version := by
        by_contra hne
        rw [ofScript_unsupported fun h => hne (h.trans hv.symm)] at hb'
        cases hb'
      exact congrArg₂ Script.mk hversion hactions
  · exact .inl ⟨hv, ofScript_unsupported hv⟩

end Block

end BrowserCheck.Program
