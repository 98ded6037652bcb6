import BrowserCheck.Proofs.Dialogue
import BrowserCheck.Proofs.Program.Body
import BrowserCheck.Sandbox.Gateway
import Mathlib.Tactic.Common

set_option autoImplicit false

namespace BrowserCheck.Sandbox

abbrev Exchange := (c : Call) × c.Answer

namespace Exchange

def acquire (name : String) (r : Outcome Handle) : Exchange := ⟨.acquire name, r⟩

def exec (command : String) (r : Outcome RawOutput) : Exchange := ⟨.exec command, r⟩

def write (path contents : String) (r : Outcome Unit) : Exchange := ⟨.write path contents, r⟩

def heard (e : Exchange) : Bool :=
  match e.1 with
  | .pause _ => false
  | .acquire _ | .exec _ | .write _ _ => true

end Exchange

namespace Session

variable {α β σ : Type} (answer : (c : Call) → σ → c.Answer × σ)

def log (d : Session α) (w : σ) : List Exchange := (d.exchanges answer w).filter Exchange.heard

lemma log_andThen_ok {d : Session (Outcome α)} {f : α → Session (Outcome β)} {w : σ} {a : α}
    (h : (d.run answer w).1 = .ok a) :
    Session.log answer (d.andThen f) w =
      Session.log answer d w ++ Session.log answer (f a) (d.run answer w).2 := by
  rw [log, Dialogue.exchanges_andThen_ok h, List.filter_append]
  rfl

lemma log_andThen_error {d : Session (Outcome α)} {f : α → Session (Outcome β)} {w : σ} {e : Failure}
    (h : (d.run answer w).1 = .error e) : Session.log answer (d.andThen f) w = Session.log answer d w := by
  rw [log, Dialogue.exchanges_andThen_error h]
  rfl

end Session

namespace Gateway

def Finds (r : Outcome RawOutput) (target : String) : Prop :=
  ∃ out, r = .ok out ∧ out.exitCode = 0 ∧ target? out.stdout = some target

inductive FailsFor : Outcome RawOutput → String → Prop
  | refused (f : Failure) : FailsFor (.error f) f.message
  | exited (out : RawOutput) : out.exitCode ≠ 0 →
      FailsFor (.ok out) ("exit code " ++ toString out.exitCode.toInt ++ ": " ++ out.stderr.trimBlank)
  | silent (out : RawOutput) : out.exitCode = 0 → target? out.stdout = none →
      FailsFor (.ok out) "response has no webSocketDebuggerUrl"

lemma finds_of_health {r : Outcome RawOutput} {target : String} (h : health r = .ok target) : Finds r target := by
  cases r with
  | error f => cases h
  | ok out =>
    by_cases h0 : out.exitCode = 0
    · cases ht : target? out.stdout with
      | none => simp [health, h0, ht] at h
      | some found =>
        simp only [health, h0, ht, if_true, Except.ok.injEq] at h
        exact ⟨out, rfl, h0, h ▸ ht⟩
    · simp [health, h0] at h

lemma failsFor_of_health {r : Outcome RawOutput} {reason : String} (h : health r = .error reason) :
    FailsFor r reason := by
  cases r with
  | error f =>
    cases h
    exact .refused f
  | ok out =>
    by_cases h0 : out.exitCode = 0
    · cases ht : target? out.stdout with
      | none =>
        simp only [health, h0, ht, if_true, Except.error.injEq] at h
        exact h ▸ .silent out h0 ht
      | some found => simp [health, h0, ht] at h
    · simp only [health, if_neg h0, Except.error.injEq] at h
      exact h ▸ .exited out h0

lemma FailsFor.not_finds {r : Outcome RawOutput} {reason : String} (h : FailsFor r reason) (target : String) :
    ¬Finds r target := by
  rintro ⟨out, rfl, h0, ht⟩
  cases h with
  | exited _ hne => exact hne h0
  | silent _ _ hn => simp [hn] at ht

inductive Checks : Nat → String → List (Outcome RawOutput) → Except String String → Prop
  | exhausted {reason : String} : Checks 0 reason [] (.error reason)
  | found {left : Nat} {before target : String} {r : Outcome RawOutput} :
      Finds r target → Checks (left + 1) before [r] (.ok target)
  | failed {left : Nat} {before reason : String} {r : Outcome RawOutput} {rest : List (Outcome RawOutput)}
      {result : Except String String} :
      FailsFor r reason → Checks left reason rest result → Checks (left + 1) before (r :: rest) result

namespace Checks

lemma of_ok {left : Nat} {before target : String} {checks : List (Outcome RawOutput)}
    (h : Checks left before checks (.ok target)) : ∃ failed last, checks = failed ++ [last] ∧
      failed.length < left ∧ (∀ r ∈ failed, ∀ t, ¬Finds r t) ∧ Finds last target := by
  generalize hr : Except.ok target = result at h
  induction h with
  | exhausted => cases hr
  | found hf =>
    cases hr
    exact ⟨[], _, rfl, by simp, nofun, hf⟩
  | @failed left before reason r rest result hf _ ih =>
    obtain ⟨failed, last, rfl, hl, hn, ht⟩ := ih hr
    refine ⟨r :: failed, last, rfl, by simpa using hl, ?_, ht⟩
    exact List.forall_mem_cons.mpr ⟨hf.not_finds, hn⟩

lemma of_error {left : Nat} {before reason : String} {checks : List (Outcome RawOutput)}
    (h : Checks left before checks (.error reason)) : checks.length = left ∧ (∀ r ∈ checks, ∀ t, ¬Finds r t) ∧
      ((checks = [] ∧ reason = before) ∨ ∃ last ∈ checks.getLast?, FailsFor last reason) := by
  generalize hr : Except.error reason = result at h
  induction h with
  | exhausted =>
    cases hr
    exact ⟨rfl, nofun, .inl ⟨rfl, rfl⟩⟩
  | found => cases hr
  | @failed left before first r rest result hf _ ih =>
    obtain ⟨hl, hn, hlast⟩ := ih hr
    refine ⟨by simp [hl], List.forall_mem_cons.mpr ⟨hf.not_finds, hn⟩, .inr ?_⟩
    rcases hlast with ⟨rfl, rfl⟩ | ⟨last, hm, hlast⟩
    · exact ⟨r, rfl, hf⟩
    · exact ⟨last, by simp [List.getLast?_cons, Option.mem_def.mp hm], hlast⟩

end Checks

def checked (g : Gateway) (r : Outcome RawOutput) : Exchange := .exec g.healthCheckCommand r

variable {σ : Type} {answer : (c : Call) → σ → c.Answer × σ} {g : Gateway} {o : Program.Options}

lemma awaitBrowser_ok {w : σ} {target : String}
    (h : health (answer (.exec g.healthCheckCommand) w).1 = .ok target) (sandbox : Handle)
    (left attempt : Nat) (lastError : String) :
    Session.log answer (g.awaitBrowser sandbox attempt lastError (left + 1)) w =
        [g.checked (answer (.exec g.healthCheckCommand) w).1] ∧
      ((g.awaitBrowser sandbox attempt lastError (left + 1)).run answer w).1 = .ok target := by
  simp only [awaitBrowser, Session.log, Dialogue.exchanges, Dialogue.run, h]
  exact ⟨rfl, trivial⟩

lemma awaitBrowser_error {w : σ} {reason : String}
    (h : health (answer (.exec g.healthCheckCommand) w).1 = .error reason) (sandbox : Handle)
    (left attempt : Nat) (lastError : String) : ∃ w',
    Session.log answer (g.awaitBrowser sandbox attempt lastError (left + 1)) w =
        g.checked (answer (.exec g.healthCheckCommand) w).1 ::
          Session.log answer (g.awaitBrowser sandbox (attempt + 1) reason left) w' ∧
      ((g.awaitBrowser sandbox attempt lastError (left + 1)).run answer w).1 =
        ((g.awaitBrowser sandbox (attempt + 1) reason left).run answer w').1 := by
  by_cases h0 : left = 0
  · refine ⟨(answer (.exec g.healthCheckCommand) w).2, ?_⟩
    simp only [awaitBrowser, Session.log, Dialogue.exchanges, Dialogue.run, h, if_pos h0]
    exact ⟨rfl, trivial⟩
  · refine ⟨(answer (.pause (g.backoff.delayAfter attempt.toUInt32)) (answer (.exec g.healthCheckCommand) w).2).2, ?_⟩
    simp only [awaitBrowser, Session.log, Dialogue.exchanges, Dialogue.run, h, if_neg h0]
    exact ⟨rfl, trivial⟩

lemma awaitBrowser_checks (sandbox : Handle) (left attempt : Nat) (lastError : String) (w : σ) :
    ∃ checks result, Checks left lastError checks result ∧
      Session.log answer (g.awaitBrowser sandbox attempt lastError left) w = checks.map g.checked ∧
      ((g.awaitBrowser sandbox attempt lastError left).run answer w).1 =
        result.mapError (.sandboxUnavailable sandbox.name g.backoff.attempts) := by
  induction left generalizing attempt lastError w with
  | zero => exact ⟨[], _, .exhausted, rfl, rfl⟩
  | succ left ih =>
    cases hh : health (answer (.exec g.healthCheckCommand) w).1 with
    | ok target =>
      obtain ⟨hl, hr⟩ := awaitBrowser_ok hh sandbox left attempt lastError
      exact ⟨[_], .ok target, .found (finds_of_health hh), hl, hr⟩
    | error reason =>
      obtain ⟨w', hl, hr⟩ := awaitBrowser_error hh sandbox left attempt lastError
      obtain ⟨checks, result, hc, hlog, hrun⟩ := ih (attempt + 1) reason w'
      exact ⟨_ :: checks, result, .failed (failsFor_of_health hh) hc, hl.trans (congrArg (_ :: ·) hlog), hr.trans hrun⟩

/-- What a run asks of its sandbox and hears, and how it ends. -/
inductive Course (g : Gateway) (o : Program.Options) (b : Program.Block) : List Exchange → Outcome RawOutput → Prop
  | notAcquired (f : Failure) : Course g o b [.acquire g.sandboxName (.error f)] (.error f)
  | noBrowser (sandbox : Handle) (failed : List (Outcome RawOutput)) (last : Outcome RawOutput) (reason : String) :
      (failed ++ [last]).length = max g.backoff.maxAttempts.toNat 1 →
      (∀ r ∈ failed ++ [last], ∀ target, ¬Finds r target) → FailsFor last reason →
      Course g o b (.acquire g.sandboxName (.ok sandbox) :: (failed ++ [last]).map (.exec g.healthCheckCommand))
        (.error (.sandboxUnavailable sandbox.name (max g.backoff.maxAttempts.toNat 1) reason))
  | notWritten (sandbox : Handle) (failed : List (Outcome RawOutput)) (last : Outcome RawOutput) (target : String)
      (f : Failure) : (failed ++ [last]).length ≤ max g.backoff.maxAttempts.toNat 1 →
      (∀ r ∈ failed, ∀ t, ¬Finds r t) → Finds last target →
      Course g o b (.acquire g.sandboxName (.ok sandbox) :: ((failed ++ [last]).map (.exec g.healthCheckCommand) ++
        [.write g.programPath (Program.assemble o target b) (.error f)])) (.error f)
  | started (sandbox : Handle) (failed : List (Outcome RawOutput)) (last : Outcome RawOutput) (target : String)
      (result : Outcome RawOutput) : (failed ++ [last]).length ≤ max g.backoff.maxAttempts.toNat 1 →
      (∀ r ∈ failed, ∀ t, ¬Finds r t) → Finds last target →
      Course g o b (.acquire g.sandboxName (.ok sandbox) :: ((failed ++ [last]).map (.exec g.healthCheckCommand) ++
        [.write g.programPath (Program.assemble o target b) (.ok ()),
          .exec ("node " ++ shellQuote (sandbox.resolve g.programPath)) result])) result

lemma runProgram_cases (b : Program.Block) (sandbox : Handle) (target : String) (w : σ) :
    (∃ f, Session.log answer (g.runProgram o b sandbox target) w =
        [.write g.programPath (Program.assemble o target b) (.error f)] ∧
      ((g.runProgram o b sandbox target).run answer w).1 = .error f) ∨
    ∃ result, Session.log answer (g.runProgram o b sandbox target) w =
        [.write g.programPath (Program.assemble o target b) (.ok ()), .exec (g.nodeCommand sandbox) result] ∧
      ((g.runProgram o b sandbox target).run answer w).1 = result := by
  rw [runProgram]
  generalize Program.assemble o target b = program
  have hlog : Session.log answer (Session.write g.programPath program) w =
      [.write g.programPath program (answer (.write g.programPath program) w).1] := rfl
  cases hw : ((Session.write g.programPath program).run answer w).1 with
  | error f =>
    refine .inl ⟨f, ?_, Dialogue.run_andThen_error hw⟩
    rw [Session.log_andThen_error answer hw, hlog]
    exact congrArg (fun r => [Exchange.write _ _ r]) hw
  | ok u =>
    refine .inr ⟨_, ?_, congrArg Prod.fst (Dialogue.run_andThen_ok hw)⟩
    rw [Session.log_andThen_ok answer hw, hlog]
    exact congrArg (fun r => [Exchange.write _ _ r] ++ _) hw

lemma course_of_block {s : Script} {b : Program.Block} (hb : Program.Block.ofScript s = .ok b) (w : σ) :
    Course g o b (Session.log answer (g.execute o s) w) ((g.execute o s).run answer w).1 := by
  have hmax : g.backoff.attempts = max g.backoff.maxAttempts.toNat 1 := Nat.max_comm _ _
  have hacq : Session.log answer (Session.acquire g.sandboxName) w =
      [.acquire g.sandboxName (answer (.acquire g.sandboxName) w).1] := rfl
  simp only [execute, hb]
  cases ha : ((Session.acquire g.sandboxName).run answer w).1 with
  | error f =>
    rw [Session.log_andThen_error answer ha, Dialogue.run_andThen_error ha, hacq,
      show (answer (.acquire g.sandboxName) w).1 = _ from ha]
    exact .notAcquired f
  | ok sandbox =>
    rw [Session.log_andThen_ok answer ha, Dialogue.run_andThen_ok ha, hacq,
      show (answer (.acquire g.sandboxName) w).1 = _ from ha]
    generalize ((Session.acquire g.sandboxName).run answer w).2 = w
    obtain ⟨checks, result, hc, hlog, hrun⟩ := awaitBrowser_checks sandbox g.backoff.attempts 1 "" w
    cases result with
    | error reason =>
      obtain ⟨hlen, hn, ⟨rfl, -⟩ | ⟨last, hlast, hreason⟩⟩ := hc.of_error
      · rw [hmax] at hlen
        simp only [List.length_nil] at hlen
        omega
      · obtain ⟨failed, rfl⟩ := List.getLast?_eq_some_iff.mp hlast
        rw [Session.log_andThen_error answer hrun, Dialogue.run_andThen_error hrun, hlog, hmax]
        exact .noBrowser sandbox failed last reason (hlen.trans hmax) hn hreason
    | ok target =>
      obtain ⟨failed, last, rfl, hlen, hn, hfound⟩ := hc.of_ok
      have hle : (failed ++ [last]).length ≤ max g.backoff.maxAttempts.toNat 1 := by
        rw [List.length_append, ← hmax]
        exact hlen
      rw [Session.log_andThen_ok answer hrun, Dialogue.run_andThen_ok hrun, hlog]
      rcases runProgram_cases b sandbox target ((g.awaitBrowser sandbox 1 "" g.backoff.attempts).run answer w).2
        with ⟨f, hl, hr⟩ | ⟨result, hl, hr⟩
      · rw [hl, hr]
        exact .notWritten sandbox failed last target f hle hn hfound
      · rw [hl, hr]
        exact .started sandbox failed last target result hle hn hfound

lemma Course.calls_prefix {b : Program.Block} {log : List Exchange} {result : Outcome RawOutput}
    (h : Course g o b log result) : ∃ (sandbox : Handle) (checks : Nat) (program : String), log.map Sigma.fst <+:
      .acquire g.sandboxName :: (List.replicate checks (.exec g.healthCheckCommand) ++
        [.write g.programPath program, .exec ("node " ++ shellQuote (sandbox.resolve g.programPath))]) := by
  have hchecks (checks : List (Outcome RawOutput)) :
      (checks.map (Exchange.exec g.healthCheckCommand)).map Sigma.fst =
        List.replicate checks.length (.exec g.healthCheckCommand) := by
    rw [List.map_map]
    exact List.map_const'
  cases h with
  | notAcquired f => exact ⟨⟨"", id⟩, 0, "", [_, _], rfl⟩
  | noBrowser sandbox failed last =>
    refine ⟨sandbox, (failed ++ [last]).length, "", ?_⟩
    rw [List.map_cons, hchecks]
    exact (List.prefix_cons_inj _).mpr (List.prefix_append _ _)
  | notWritten sandbox failed last target f =>
    refine ⟨sandbox, (failed ++ [last]).length, Program.assemble o target b, ?_⟩
    rw [List.map_cons, List.map_append, hchecks]
    exact (List.prefix_cons_inj _).mpr ((List.prefix_append_right_inj _).mpr ⟨[_], rfl⟩)
  | started sandbox failed last target =>
    refine ⟨sandbox, (failed ++ [last]).length, Program.assemble o target b, ?_⟩
    rw [List.map_cons, List.map_append, hchecks]
    exact List.prefix_rfl

lemma log_run (s : Script) (w : σ) : Session.log answer (g.run o s) w = Session.log answer (g.execute o s) w := by
  rw [run, Session.log, Dialogue.exchanges_bind, List.filter_append]
  exact List.append_nil _

lemma not_write_of_checks {checks : List (Outcome RawOutput)} {path program : String} {a : Outcome Unit} :
    Exchange.write path program a ∉ checks.map g.checked := by
  intro h
  obtain ⟨r, -, he⟩ := List.mem_map.mp h
  cases he

lemma Course.writing {b : Program.Block} {log : List Exchange} {result : Outcome RawOutput}
    (h : Course g o b log result) :
    ((∀ path program a, Exchange.write path program a ∉ log) ∧
      ∀ r target, Exchange.exec g.healthCheckCommand r ∈ log → ¬Finds r target) ∨
    ∃ before r target a after, log = before ++ [.exec g.healthCheckCommand r,
        .write g.programPath (Program.assemble o target b) a] ++ after ∧ Finds r target ∧
      ∀ path program a', Exchange.write path program a' ∉ before ++ after := by
  have hbefore (sandbox : Handle) (checks : List (Outcome RawOutput)) (path program : String) (a : Outcome Unit) :
      Exchange.write path program a ∉ .acquire g.sandboxName (.ok sandbox) :: checks.map g.checked := by
    intro hm
    rcases List.mem_cons.mp hm with he | hm
    · cases he
    · exact not_write_of_checks hm
  cases h with
  | notAcquired f =>
    refine .inl ⟨fun path program a hw => ?_, fun r target hr => ?_⟩
    · cases List.mem_singleton.mp hw
    · cases List.mem_singleton.mp hr
  | noBrowser sandbox failed last _ _ hn =>
    refine .inl ⟨hbefore sandbox _, fun r target hr => ?_⟩
    rcases List.mem_cons.mp hr with he | hr
    · cases he
    · obtain ⟨r', hm, he⟩ := List.mem_map.mp hr
      cases he
      exact hn r hm target
  | notWritten sandbox failed last target f _ _ hlast =>
    refine .inr ⟨.acquire g.sandboxName (.ok sandbox) :: failed.map g.checked, last, target, .error f, [], ?_, hlast,
      ?_⟩
    · simp [checked]
    · rw [List.append_nil]
      exact hbefore sandbox failed
  | started sandbox failed last target result _ _ hlast =>
    refine .inr ⟨.acquire g.sandboxName (.ok sandbox) :: failed.map g.checked, last, target, .ok (),
      [.exec ("node " ++ shellQuote (sandbox.resolve g.programPath)) result], ?_, hlast, fun path program a hw => ?_⟩
    · simp [checked]
    · rcases List.mem_append.mp hw with hw | hw
      · exact hbefore sandbox failed path program a hw
      · cases List.mem_singleton.mp hw

/-- The whole of a run. A script of another version never reaches the sandbox. For all others the sandbox
is acquired, the browser is checked until it answers or the attempts are used up, and only a program
for the target that was found last is written and started. -/
theorem execute_course (g : Gateway) (o : Program.Options) (s : Script)
    (answer : (c : Call) → σ → c.Answer × σ) (w : σ) :
    ((s.version ≠ "1.0.0" ∧ Session.log answer (g.execute o s) w = [] ∧
        ((g.execute o s).run answer w).1 = .error (.unsupportedVersion s.version)) ∨
      (s.version = "1.0.0" ∧ ∃ b, Program.Block.ofScript s = .ok b ∧
        Course g o b (Session.log answer (g.execute o s) w) ((g.execute o s).run answer w).1 ∧
        ∃ (sandbox : Handle) (checks : Nat) (program : String),
          (Session.log answer (g.execute o s) w).map Sigma.fst <+:
            .acquire g.sandboxName :: (List.replicate checks (.exec g.healthCheckCommand) ++
              [.write g.programPath program, .exec ("node " ++ shellQuote (sandbox.resolve g.programPath))]))) ∧
    Session.log answer (g.run o s) w = Session.log answer (g.execute o s) w ∧
    ((g.run o s).run answer w).1 = ((g.execute o s).run answer w).1.map RunResult.ofOutput := by
  refine ⟨?_, log_run s w, ?_⟩
  · by_cases h : s.version = "1.0.0"
    · have hb := Program.Block.ofScript_supported h
      have hc : Course g o _ (Session.log answer (g.execute o s) w) _ := course_of_block hb w
      exact .inr ⟨h, _, hb, hc, hc.calls_prefix⟩
    · refine .inl ⟨h, ?_⟩
      rw [execute, Program.Block.ofScript_unsupported h]
      exact ⟨rfl, rfl⟩
  · rw [run, Dialogue.run_bind]
    rfl

end Gateway

end BrowserCheck.Sandbox
