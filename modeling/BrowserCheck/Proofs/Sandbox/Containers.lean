import BrowserCheck.Proofs.Dialogue
import BrowserCheck.Sandbox.Container
import Mathlib.Logic.Function.Basic

set_option autoImplicit false

namespace BrowserCheck.Sandbox.Container

abbrev Exchange := (_ : Invocation) × Except String Finished

def inspection (c : Container) (name : String) : Invocation :=
  ⟨c.runtime.command, ["inspect", "--format", stateFormat, name], none⟩

def starting (c : Container) (name : String) : Invocation := ⟨c.runtime.command, ["start", name], none⟩

def creation (c : Container) (name : String) : Invocation :=
  ⟨c.runtime.command, ["run", "-d", "--name", name] ++ c.runArguments ++ [c.image], none⟩

inductive Wakes (c : Container) (name : String) : State → Invocation → Prop
  | start : Wakes c name .stopped (c.starting name)
  | create : Wakes c name .missing (c.creation name)

variable {σ : Type}

structure Passable (c : Container) (name : String) : Prop where
  name : Commands.hasNul name = false
  image : Commands.hasNul c.image = false
  runArguments : c.runArguments.any Commands.hasNul = false

/-- What a runtime documents, as far as it can be told of a container at all. It may refuse to start or to create one,
and then nothing has changed. -/
structure Documented (c : Container) (answer : Invocation → σ → Except String Finished × σ)
    (states : σ → String → State) : Prop where
  inspects : ∀ name w, c.Passable name → ∃ f w', answer (c.inspection name) w = (.ok f, w') ∧ states w' = states w ∧
    (f.isSuccess ↔ states w name ≠ .missing) ∧ (states w name = .running → f.outText.trimBlank = "true") ∧
    (states w name = .stopped → f.outText.trimBlank = "false")
  wakes : ∀ name w i, c.Passable name → c.Wakes name (states w name) i → ∃ f w', answer i w = (.ok f, w') ∧
    states w' = if f.isSuccess then Function.update (states w) name .running else states w

inductive Acquired (c : Container) (name : String) (before : String → State) :
    List Exchange → (String → State) → Outcome Handle → Prop
  | found (f : Finished) : before name = .running →
      Acquired c name before [⟨c.inspection name, .ok f⟩] before (.ok ⟨name, id⟩)
  | woken (f g : Finished) (i : Invocation) : c.Wakes name (before name) i → g.isSuccess = true →
      Acquired c name before [⟨c.inspection name, .ok f⟩, ⟨i, .ok g⟩] (Function.update before name .running)
        (.ok ⟨name, id⟩)
  | refused (f g : Finished) (i : Invocation) : c.Wakes name (before name) i → g.isSuccess = false →
      Acquired c name before [⟨c.inspection name, .ok f⟩, ⟨i, .ok g⟩] before
        (.error (.sandbox g.errorText.trimBlank))

section Acquisition

variable {c : Container} {name : String} {answer : Invocation → σ → Except String Finished × σ}
  {states : σ → String → State} {w : σ}

lemma start_eq {i : Invocation} (h : i.arguments.any Commands.hasNul = false) :
    Commands.start i = .ask i fun r => .done (r.mapError .io) := by
  rw [Commands.start, h]
  rfl

lemma Passable.inspection (h : c.Passable name) : (c.inspection name).arguments.any Commands.hasNul = false := by
  have hwords : ["inspect", "--format", stateFormat].any Commands.hasNul = false := by decide
  change (["inspect", "--format", stateFormat] ++ [name]).any Commands.hasNul = false
  rw [List.any_append, hwords, List.any_cons, h.name]
  rfl

lemma Passable.waking (h : c.Passable name) {s : State} {i : Invocation} (hi : c.Wakes name s i) :
    i.arguments.any Commands.hasNul = false := by
  cases hi with
  | start =>
    have hwords : ["start"].any Commands.hasNul = false := by decide
    change (["start"] ++ [name]).any Commands.hasNul = false
    rw [List.any_append, hwords, List.any_cons, h.name]
    rfl
  | create =>
    have hwords : ["run", "-d", "--name"].any Commands.hasNul = false := by decide
    change (["run", "-d", "--name"] ++ [name] ++ c.runArguments ++ [c.image]).any Commands.hasNul = false
    simp only [List.any_append, hwords, List.any_cons, List.any_nil, h.name, h.runArguments, h.image, Bool.or_false]

lemma passed (arguments : List String) (h : arguments.any Commands.hasNul = false) {f : Finished} {w' : σ}
    (hanswer : answer ⟨c.runtime.command, arguments, none⟩ w = (.ok f, w')) :
    (c.invoke arguments none).run answer w = ((.ok f : Outcome Finished), w') ∧
      (c.invoke arguments none).exchanges answer w = [⟨⟨c.runtime.command, arguments, none⟩, .ok f⟩] := by
  rw [invoke, start_eq h]
  constructor
  · rw [Dialogue.run, Dialogue.run, hanswer]
    rfl
  · rw [Dialogue.exchanges, Dialogue.exchanges, hanswer]

lemma stateOf_inspected {f : Finished} {s : State} (hsuccess : f.isSuccess ↔ s ≠ .missing)
    (hrunning : s = .running → f.outText.trimBlank = "true")
    (hstopped : s = .stopped → f.outText.trimBlank = "false") : stateOf f = s := by
  rw [stateOf]
  cases s with
  | running => rw [if_neg (not_not.mpr (hsuccess.mpr nofun)), if_pos (hrunning rfl)]
  | stopped => rw [if_neg (not_not.mpr (hsuccess.mpr nofun)), hstopped rfl, if_neg (by decide)]
  | missing => rw [if_pos fun h => hsuccess.mp h rfl]

lemma wake_eq_none {s : State} (h : c.wake name s = none) : s = .running := by
  cases s with
  | running => rfl
  | stopped => cases h
  | missing => cases h

lemma wake_eq_some {s : State} {arguments : List String} (h : c.wake name s = some arguments) :
    c.Wakes name s ⟨c.runtime.command, arguments, none⟩ := by
  cases s with
  | running => cases h
  | stopped =>
    cases h
    exact .start
  | missing =>
    cases h
    exact .create

lemma acquired (h : c.Documented answer states) (hp : c.Passable name) (w : σ) :
    Acquired c name (states w) ((c.acquire name).exchanges answer w) (states ((c.acquire name).run answer w).2)
      ((c.acquire name).run answer w).1 := by
  obtain ⟨f, w', hanswer, hsame, hsuccess, hrunning, hstopped⟩ := h.inspects name w hp
  obtain ⟨hrun, hlog⟩ := passed ["inspect", "--format", stateFormat, name] hp.inspection hanswer
  have hok := congrArg Prod.fst hrun
  rw [acquire, Dialogue.exchanges_andThen_ok hok, Dialogue.run_andThen_ok hok, hrun, hlog,
    stateOf_inspected hsuccess hrunning hstopped]
  cases hwake : c.wake name (states w name) with
  | none =>
    change Acquired c name (states w) [⟨c.inspection name, .ok f⟩] (states w') (.ok ⟨name, id⟩)
    rw [hsame]
    exact .found f (wake_eq_none hwake)
  | some arguments =>
    have hi := wake_eq_some hwake
    obtain ⟨g, w'', hanswer', hafter⟩ := h.wakes name w' _ hp (hsame ▸ hi)
    obtain ⟨hrun', hlog'⟩ := passed arguments (hp.waking hi) hanswer'
    have hok' := congrArg Prod.fst hrun'
    dsimp only
    rw [Dialogue.exchanges_andThen_ok hok', Dialogue.run_andThen_ok hok', hrun', hlog']
    change Acquired c name (states w) [⟨c.inspection name, .ok f⟩, ⟨_, .ok g⟩] (states w'')
      ((expectSuccess "" g).map fun _ => ⟨name, id⟩)
    rw [hafter, hsame, expectSuccess]
    cases hg : g.isSuccess with
    | true => exact .woken f g _ hi hg
    | false =>
      have hreason : "" ++ g.errorText.trimBlank = g.errorText.trimBlank := String.empty_append
      rw [hreason]
      exact .refused f g _ hi hg

lemma Acquired.running_of_ok {before after : String → State} {log : List Exchange} {result : Outcome Handle}
    (h : Acquired c name before log after result) (hok : result.isOk = true) : after name = .running := by
  cases h with
  | found f hs => exact hs
  | woken f g i hi hg => exact Function.update_self ..
  | refused => cases hok

lemma Acquired.calls_of_running {before after : String → State} {log : List Exchange} {result : Outcome Handle}
    (h : Acquired c name before log after result) (hs : before name = .running) :
    log.map Sigma.fst = [c.inspection name] := by
  cases h with
  | found => rfl
  | woken f g i hi => cases hs ▸ hi
  | refused f g i hi => cases hs ▸ hi

end Acquisition

def sets (c : Container) (name : String) (e : Exchange) : Bool :=
  decide (e.1 = c.starting name ∨ e.1 = c.creation name) && e.2.toOption.any Finished.isSuccess

def count (s : State) : Nat := if s = .running then 1 else 0

def acquireEach (c : Container) : List String → Commands (List (Outcome Handle))
  | [] => .done []
  | name :: names => (c.acquire name).bind fun r => (c.acquireEach names).bind fun rs => .done (r :: rs)

section Sequences

variable {c : Container} {name other : String} {answer : Invocation → σ → Except String Finished × σ}
  {states : σ → String → State} {w : σ}

lemma not_sets_inspection (f : Finished) : c.sets other ⟨c.inspection name, .ok f⟩ = false := by
  simp [sets, inspection, starting, creation]

lemma Wakes.sets_eq {s : State} {i : Invocation} (h : c.Wakes name s i) (g : Finished) :
    c.sets other ⟨i, .ok g⟩ = (decide (name = other) && g.isSuccess) := by
  cases h with
  | start => simp [sets, starting, creation, Except.toOption]
  | create => simp [sets, starting, creation, Except.toOption]

lemma Acquired.count_add {before after : String → State} {log : List Exchange} {result : Outcome Handle}
    (h : Acquired c name before log after result) (other : String) :
    count (before other) + log.countP (c.sets other) = count (after other) := by
  cases h with
  | found f => simp [not_sets_inspection]
  | woken f g i hi hg =>
    have hasleep : before name ≠ .running := fun hs => by cases hs ▸ hi
    by_cases ho : name = other
    · subst ho
      simp [not_sets_inspection, hi.sets_eq, hg, hasleep, count]
    · simp [not_sets_inspection, hi.sets_eq, ho, Function.update_of_ne (Ne.symm ho)]
  | refused f g i hi hg => simp [not_sets_inspection, hi.sets_eq, hg]

lemma run_acquireEach (name : String) (names : List String) (w : σ) :
    ((c.acquireEach (name :: names)).run answer w).2 =
      ((c.acquireEach names).run answer ((c.acquire name).run answer w).2).2 := by
  rw [acquireEach, Dialogue.run_bind, Dialogue.run_bind]
  rfl

lemma exchanges_acquireEach (name : String) (names : List String) (w : σ) :
    (c.acquireEach (name :: names)).exchanges answer w = (c.acquire name).exchanges answer w ++
      (c.acquireEach names).exchanges answer ((c.acquire name).run answer w).2 := by
  rw [acquireEach, Dialogue.exchanges_bind, Dialogue.exchanges_bind]
  exact congrArg _ (List.append_nil _)

lemma count_add_each (h : c.Documented answer states) {names : List String} (hp : ∀ n ∈ names, c.Passable n)
    (other : String) (w : σ) :
    count (states w other) + ((c.acquireEach names).exchanges answer w).countP (c.sets other) =
      count (states ((c.acquireEach names).run answer w).2 other) := by
  induction names generalizing w with
  | nil => rfl
  | cons name names ih =>
    have hfirst := (acquired h (hp name List.mem_cons_self) w).count_add other
    have hrest := ih (fun n hn => hp n (List.mem_cons_of_mem _ hn)) ((c.acquire name).run answer w).2
    rw [run_acquireEach, exchanges_acquireEach, List.countP_append]
    omega

lemma running_kept (h : c.Documented answer states) {names : List String} (hp : ∀ n ∈ names, c.Passable n)
    (hs : states w other = .running) : states ((c.acquireEach names).run answer w).2 other = .running := by
  have hadd := count_add_each h hp other w
  rw [hs] at hadd
  by_contra hnot
  rw [count, count, if_pos rfl, if_neg hnot] at hadd
  omega

/-- A container is inspected first, then started if it is stopped and created if it is missing. Once it has been
acquired it is only inspected, and over all acquisitions no more than one command sets it going. -/
theorem acquire_idempotent (h : c.Documented answer states) :
    (∀ name w, c.Passable name → Acquired c name (states w) ((c.acquire name).exchanges answer w)
      (states ((c.acquire name).run answer w).2) ((c.acquire name).run answer w).1) ∧
    (∀ name names w, c.Passable name → (∀ n ∈ names, c.Passable n) → ((c.acquire name).run answer w).1.isOk = true →
      ((c.acquire name).exchanges answer
        ((c.acquireEach names).run answer ((c.acquire name).run answer w).2).2).map Sigma.fst = [c.inspection name]) ∧
    ∀ name names w, (∀ n ∈ names, c.Passable n) →
      ((c.acquireEach names).exchanges answer w).countP (c.sets name) =
        if states w name ≠ .running ∧ states ((c.acquireEach names).run answer w).2 name = .running then 1 else 0 := by
  refine ⟨fun name w hp => acquired h hp w, fun name names w hp hps hok => ?_, fun name names w hps => ?_⟩
  · have hruns := (acquired h hp w).running_of_ok hok
    exact (acquired h hp _).calls_of_running (running_kept h hps hruns)
  · have hadd := count_add_each h hps name w
    by_cases hs : states w name = .running
    · rw [running_kept h hps hs, hs] at hadd
      rw [if_neg fun hn => hn.1 hs]
      simpa using hadd
    · simp only [count, if_neg hs, Nat.zero_add] at hadd
      simp [hadd, hs]

end Sequences

structure Yard where
  states : String → State
  refusals : Nat

namespace Yard

def inspect (y : Yard) (name : String) : Finished :=
  match y.states name with
  | .running => ⟨[116, 114, 117, 101, 10], [], some 0⟩
  | .stopped => ⟨[102, 97, 108, 115, 101, 10], [], some 0⟩
  | .missing => ⟨[10], [78, 111, 32, 115, 117, 99, 104, 32, 111, 98, 106, 101, 99, 116, 10], some 1⟩

def wake (y : Yard) (name : String) : Finished × Yard :=
  match y.refusals with
  | 0 => (⟨[], [], some 0⟩, { y with states := Function.update y.states name .running })
  | left + 1 => (⟨[], [66, 117, 115, 121, 10], some 125⟩, { y with refusals := left })

def answer (i : Invocation) (y : Yard) : Except String Finished × Yard :=
  match i.arguments with
  | ["inspect", _, _, name] => (.ok (y.inspect name), y)
  | ["start", name] => (.ok (y.wake name).1, (y.wake name).2)
  | "run" :: "-d" :: "--name" :: name :: _ => (.ok (y.wake name).1, (y.wake name).2)
  | _ => (.ok ⟨[], [], some 125⟩, y)

lemma states_wake (y : Yard) (name : String) : (y.wake name).2.states =
    if (y.wake name).1.isSuccess then Function.update y.states name .running else y.states := by
  rw [wake]
  split <;> rfl

lemma documented (c : Container) : c.Documented answer states where
  inspects name y _ := by
    refine ⟨y.inspect name, y, rfl, rfl, ?_⟩
    rw [inspect]
    cases y.states name <;> decide +kernel
  wakes name y i _ hi := by
    refine ⟨(y.wake name).1, (y.wake name).2, ?_, y.states_wake name⟩
    change c.Wakes name (y.states name) i at hi
    generalize y.states name = s at hi
    cases hi <;> rfl

end Yard

theorem acquire_idempotent_refused_once : let c : Container := ⟨.docker, "browser", ["--rm"]⟩
    let y : Yard := ⟨fun name => if name = "db" then .stopped else .missing, 1⟩
    let y' := ((c.acquire "app").run Yard.answer y).2
    c.Documented Yard.answer Yard.states ∧ c.Passable "app" ∧ c.Passable "db" ∧
    Acquired c "app" y.states ((c.acquire "app").exchanges Yard.answer y) y'.states
      ((c.acquire "app").run Yard.answer y).1 ∧
    ((c.acquire "app").run Yard.answer y).1.isOk = false ∧ ((c.acquire "app").run Yard.answer y').1.isOk = true ∧
    ((c.acquire "app").exchanges Yard.answer ((c.acquireEach ["db"]).run Yard.answer
      ((c.acquire "app").run Yard.answer y').2).2).map Sigma.fst = [c.inspection "app"] ∧
    ((c.acquireEach ["app", "db", "app", "app"]).exchanges Yard.answer y).countP (c.sets "app") = 1 := by
  intro c y y'
  have happ : c.Passable "app" := ⟨by decide, by decide, by decide⟩
  have hdb : c.Passable "db" := ⟨by decide, by decide, by decide⟩
  obtain ⟨hone, hagain, hcount⟩ := acquire_idempotent (Yard.documented c)
  have hcreated : ((c.acquire "app").run Yard.answer y').1.isOk = true := by decide +kernel
  refine ⟨Yard.documented c, happ, hdb, hone "app" y happ, by decide +kernel, hcreated, ?_, ?_⟩
  · exact hagain "app" ["db"] y' happ (by simp [hdb]) hcreated
  · rw [hcount "app" ["app", "db", "app", "app"] y (by simp [happ, hdb])]
    decide +kernel

end BrowserCheck.Sandbox.Container
