import BrowserCheck.Proofs.Sandbox.Sharing

set_option autoImplicit false

/-! The calls of a session come in three stages, and the answers decide when one stage ends. -/

namespace BrowserCheck.Sandbox

inductive Stage where
  | opening
  | checking
  | written (program : String)

inductive Follows (p : Plan) : Stage → Session (Outcome RawOutput) → Prop
  | done {stage : Stage} {result : Outcome RawOutput} : Follows p stage (.done result)
  | acquire {next : Outcome Handle → Session (Outcome RawOutput)} :
      (∀ sandbox, Follows p .checking (next (.ok sandbox))) → (∀ f, ∃ r, next (.error f) = .done r) →
      Follows p .opening (.ask (.acquire p.name) next)
  | check {next : Outcome RawOutput → Session (Outcome RawOutput)} : (∀ a, Follows p .checking (next a)) →
      Follows p .checking (.ask (.exec p.gateway.healthCheckCommand) next)
  | pause {milliseconds : UInt64} {next : Unit → Session (Outcome RawOutput)} :
      (∀ a, Follows p .checking (next a)) → Follows p .checking (.ask (.pause milliseconds) next)
  | write {b : Program.Block} {target : String} {next : Outcome Unit → Session (Outcome RawOutput)} :
      Program.Block.ofScript p.script = .ok b →
      (∀ a, Follows p (.written (Program.assemble p.options target b)) (next (.ok a))) →
      (∀ f, ∃ r, next (.error f) = .done r) →
      Follows p .checking (.ask (.write p.path (Program.assemble p.options target b)) next)
  | node {program : String} {sandbox : Handle} {next : Outcome RawOutput → Session (Outcome RawOutput)} :
      (∀ a, ∃ r, next a = .done r) →
      Follows p (.written program) (.ask (.exec (p.gateway.nodeCommand sandbox)) next)

namespace Plan

variable (p : Plan)

lemma follows_runProgram {b : Program.Block} (hb : Program.Block.ofScript p.script = .ok b) (sandbox : Handle)
    (target : String) : Follows p .checking (p.gateway.runProgram p.options b sandbox target) :=
  .write hb (fun _ => .node fun r => ⟨r, rfl⟩) fun f => ⟨.error f, rfl⟩

lemma follows_awaitBrowser {b : Program.Block} (hb : Program.Block.ofScript p.script = .ok b) (sandbox : Handle)
    (left attempt : Nat) (lastError : String) :
    Follows p .checking ((p.gateway.awaitBrowser sandbox attempt lastError left).andThen
      (p.gateway.runProgram p.options b sandbox)) := by
  induction left generalizing attempt lastError with
  | zero => exact .done
  | succ left ih =>
    refine .check fun r => ?_
    cases hr : Gateway.health r with
    | ok target =>
      simp only [hr]
      exact p.follows_runProgram hb sandbox target
    | error e =>
      simp only [hr]
      split_ifs
      · exact ih (attempt + 1) e
      · exact .pause fun _ => ih (attempt + 1) e

lemma follows_session : Follows p .opening p.session := by
  rw [session, Gateway.execute]
  cases hb : Program.Block.ofScript p.script with
  | error f => exact .done
  | ok b => exact .acquire (fun sandbox => p.follows_awaitBrowser hb sandbox _ _ _) fun f => ⟨.error f, rfl⟩

lemma session_cases : (∃ r, p.session = .done r) ∨ ∃ next, p.session = .ask (.acquire p.name) next := by
  have h := p.follows_session
  generalize p.session = d at h ⊢
  cases h with
  | done => exact .inl ⟨_, rfl⟩
  | acquire => exact .inr ⟨_, rfl⟩

end Plan

end BrowserCheck.Sandbox
