import BrowserCheck.Proofs.Sandbox.Course

set_option autoImplicit false

namespace BrowserCheck

namespace Dialogue

variable {Q : Type} {A : Q → Type} {α σ : Type} {answer : (q : Q) → σ → A q × σ} {p : (q : Q) → A q → Prop}

lemma forall_exchanges (h : ∀ q w, p q (answer q w).1) (d : Dialogue Q A α) (w : σ) :
    ∀ e ∈ d.exchanges answer w, p e.1 e.2 := by
  induction d generalizing w with
  | done a => exact nofun
  | ask q next ih => exact List.forall_mem_cons.mpr ⟨h q w, ih _ _⟩

end Dialogue

namespace Sandbox

inductive Local : Failure → Prop where
  | io (detail : String) : Local (.io detail)
  | sandbox (detail : String) : Local (.sandbox detail)

def FailsLocally : (c : Call) → c.Answer → Prop
  | .acquire _, (a : Outcome Handle) => ∀ f, a = .error f → Local f
  | .exec _, (a : Outcome RawOutput) => ∀ f, a = .error f → Local f
  | .write _ _, (a : Outcome Unit) => ∀ f, a = .error f → Local f
  | .pause _, _ => True

namespace Gateway

variable {σ : Type} {answer : (c : Call) → σ → c.Answer × σ} {g : Gateway} {o : Program.Options} {b : Program.Block}
  {log : List Exchange} {result : Outcome RawOutput}

def Exhausted (g : Gateway) (log : List Exchange) : Prop :=
  ∃ (sandbox : Handle) (checks : List (Outcome RawOutput)),
    log = .acquire g.sandboxName (.ok sandbox) :: checks.map (.exec g.healthCheckCommand) ∧
    checks.length = max g.backoff.maxAttempts.toNat 1 ∧ ∀ r ∈ checks, ∀ target, ¬Finds r target

inductive Broken (g : Gateway) : List Exchange → Prop where
  | notAcquired (f : Failure) : Broken g [.acquire g.sandboxName (.error f)]
  | notWritten (before : List Exchange) (program : String) (f : Failure) :
      Broken g (before ++ [.write g.programPath program (.error f)])
  | notExecuted (before : List Exchange) (program command : String) (f : Failure) :
      Broken g (before ++ [.write g.programPath program (.ok ()), .exec command (.error f)])

lemma Exhausted.not_write (h : Exhausted g log) (path contents : String) (r : Outcome Unit) :
    Exchange.write path contents r ∉ log := by
  obtain ⟨sandbox, checks, rfl, -, -⟩ := h
  intro hm
  rcases List.mem_cons.mp hm with he | hm
  · cases he
  · obtain ⟨r, -, he⟩ := List.mem_map.mp hm
    cases he

lemma Exhausted.not_broken (h : Exhausted g log) : ¬Broken g log := by
  intro hb
  cases hb with
  | notAcquired f =>
    obtain ⟨sandbox, checks, he, -, -⟩ := h
    cases (List.cons.inj he).1
  | notWritten before program f => exact h.not_write _ _ _ (List.mem_append_right _ List.mem_cons_self)
  | notExecuted before program command f => exact h.not_write _ _ _ (List.mem_append_right _ List.mem_cons_self)

lemma not_broken_of_output {before : List Exchange} {e : Exchange} {command : String} {out : RawOutput} :
    ¬Broken g (before ++ [e, .exec command (.ok out)]) := by
  intro hb
  generalize hl : before ++ [e, .exec command (.ok out)] = log at hb
  have hlast : log.getLast? = some (.exec command (.ok out)) := by
    rw [← hl, List.getLast?_append]
    rfl
  cases hb with
  | notAcquired f => cases hlast
  | notWritten before program f =>
    rw [List.getLast?_concat] at hlast
    cases hlast
  | notExecuted before program command f =>
    rw [List.getLast?_append] at hlast
    cases hlast

lemma Course.ending (h : Course g o b log result) (hlocal : ∀ e ∈ log, FailsLocally e.1 e.2) :
    (∃ out, result = .ok out ∧ ¬Exhausted g log ∧ ¬Broken g log) ∨
    (∃ name attempts reason, result = .error (.sandboxUnavailable name attempts reason) ∧ Exhausted g log) ∨
    ∃ f, Local f ∧ result = .error f ∧ Broken g log := by
  cases h with
  | notAcquired f => exact .inr (.inr ⟨f, hlocal _ List.mem_cons_self f rfl, rfl, .notAcquired f⟩)
  | noBrowser sandbox failed last reason hlen hn hlast =>
    exact .inr (.inl ⟨_, _, _, rfl, sandbox, failed ++ [last], rfl, hlen, hn⟩)
  | notWritten sandbox failed last target f hle hn hfound =>
    rw [← List.cons_append] at hlocal ⊢
    exact .inr (.inr ⟨f, hlocal _ (List.mem_append_right _ List.mem_cons_self) f rfl, rfl, .notWritten _ _ f⟩)
  | started sandbox failed last target result hle hn hfound =>
    rw [← List.cons_append] at hlocal ⊢
    cases result with
    | error f =>
      have hf : Local f := hlocal _ (List.mem_append_right _ (List.mem_cons_of_mem _ List.mem_cons_self)) f rfl
      exact .inr (.inr ⟨f, hf, rfl, .notExecuted _ _ _ f⟩)
    | ok out =>
      refine .inl ⟨out, rfl, fun he => ?_, not_broken_of_output⟩
      exact he.not_write _ _ _ (List.mem_append_right _ List.mem_cons_self)

lemma log_local (h : ∀ c w, FailsLocally c (answer c w).1) {α : Type} (d : Session α) (w : σ) :
    ∀ e ∈ Session.log answer d w, FailsLocally e.1 e.2 :=
  fun e he => Dialogue.forall_exchanges h d w e (List.mem_of_mem_filter he)

lemma run_ending {s : Script} (hb : Program.Block.ofScript s = .ok b)
    (h : ∀ c w, FailsLocally c (answer c w).1) (w : σ) :
    let log := Session.log answer (g.run o s) w
    let result := ((g.run o s).run answer w).1
    (∃ out, result = .ok out ∧ ¬Exhausted g log ∧ ¬Broken g log) ∨
    (∃ name attempts reason, result = .error (.sandboxUnavailable name attempts reason) ∧ Exhausted g log) ∨
    ∃ f, Local f ∧ result = .error f ∧ Broken g log := by
  have hresult : ((g.run o s).run answer w).1 = ((g.execute o s).run answer w).1.map RunResult.ofOutput := by
    rw [run, Dialogue.run_bind]
    rfl
  have hcourse : Course g o b (Session.log answer (g.execute o s) w) _ := course_of_block hb w
  rw [log_run, hresult]
  rcases hcourse.ending (log_local h _ w) with ⟨out, hr, he⟩ | ⟨name, attempts, reason, hr, he⟩ | ⟨f, hf, hr, he⟩
  · rw [hr]
    exact .inl ⟨_, rfl, he⟩
  · rw [hr]
    exact .inr (.inl ⟨_, _, _, rfl, he⟩)
  · rw [hr]
    exact .inr (.inr ⟨f, hf, rfl, he⟩)

end Gateway

end Sandbox

end BrowserCheck
