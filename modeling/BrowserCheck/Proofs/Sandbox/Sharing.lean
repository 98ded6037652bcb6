import BrowserCheck.Sandbox.Gateway
import BrowserCheck.Sandbox.Pool
import Mathlib.Logic.Function.Basic
import Mathlib.Tactic.Common

set_option autoImplicit false

/-! Runs that share a pool and take their steps in any order. Between its steps a run waits: for its turn,
or for the answer to a call. -/

namespace BrowserCheck.Sandbox

structure Plan where
  gateway : Gateway
  options : Program.Options
  script : Script

namespace Plan

def name (p : Plan) : String := p.gateway.sandboxName

def path (p : Plan) : String := p.gateway.programPath

def session (p : Plan) : Session (Outcome RawOutput) := p.gateway.execute p.options p.script

end Plan

namespace Sharing

inductive Phase where
  | fresh
  | leasing (name : String) (next : (Call.acquire name).Answer → Session (Outcome RawOutput))
  | ready (c : Call) (next : c.Answer → Session (Outcome RawOutput))
  | pending (c : Call) (next : c.Answer → Session (Outcome RawOutput))
  | ended (result : Outcome RawOutput)

structure Entry where
  run : Nat
  name : String
  call : Call
  found : Option String

abbrev Files := String → Option String

structure State where
  pool : Pool
  phase : Nat → Phase
  files : String → Files
  log : List Entry

def FilesAfter : (c : Call) → c.Answer → Files → Files → Prop
  | .write path contents, answer, before, after =>
    match answer with
    | .ok () => after = Function.update before path (some contents)
    | .error _ => ∃ left, after = Function.update before path left
  | .acquire _, _, before, after | .exec _, _, before, after | .pause _, _, before, after => after = before

def poolAfter (run : Nat) : (c : Call) → c.Answer → Pool → Pool
  | .acquire name, answer, p => p.acquired run name answer
  | .exec _, _, p | .write _ _, _, p | .pause _, _, p => p

def entries (p : Plan) (run : Nat) (c : Call) (files : Files) : List Entry :=
  match c with
  | .pause _ => []
  | c => [⟨run, p.name, c, files p.path⟩]

variable (plans : Nat → Plan)

-- the end of a run and the giving back of its sandbox are one step
inductive Step (run : Nat) (s : State) : State → Prop
  | refuse {result} : s.phase run = .fresh → (plans run).session = .done result →
      Step run s { s with phase := Function.update s.phase run (.ended result) }
  | request {name next} : s.phase run = .fresh → (plans run).session = .ask (.acquire name) next →
      Step run s { s with
        pool := s.pool.request run name
        phase := Function.update s.phase run (.leasing name next) }
  | enter {name next} : s.phase run = .leasing name next → s.pool.holder name = some run →
      Step run s { s with phase := Function.update s.phase run (.ready (.acquire name) next) }
  | issue {c next} : s.phase run = .ready c next →
      Step run s { s with
        phase := Function.update s.phase run (.pending c next)
        log := s.log ++ entries (plans run) run c (s.files (plans run).name) }
  | answer {c next after c' next'} (a : c.Answer) : s.phase run = .pending c next →
      FilesAfter c a (s.files (plans run).name) after → next a = .ask c' next' →
      Step run s { s with
        pool := poolAfter run c a s.pool
        phase := Function.update s.phase run (.ready c' next')
        files := Function.update s.files (plans run).name after }
  | finish {c next after result} (a : c.Answer) : s.phase run = .pending c next →
      FilesAfter c a (s.files (plans run).name) after → next a = .done result →
      Step run s { s with
        pool := (poolAfter run c a s.pool).giveBack run
        phase := Function.update s.phase run (.ended result)
        files := Function.update s.files (plans run).name after }

inductive Reachable : State → Prop
  | initial (files : String → Files) : Reachable ⟨.empty, fun _ => .fresh, files, []⟩
  | step (run : Nat) {s t : State} : Reachable s → Step plans run s t → Reachable t

def Inside (s : State) (run : Nat) : Prop :=
  match s.phase run with
  | .leasing name _ => s.pool.holder name = some run
  | .ready _ _ | .pending _ _ => True
  | .fresh | .ended _ => False

def writes (run : Nat) (log : List Entry) : List (String × String) :=
  log.filterMap fun e =>
    match e.call with
    | .write path contents => if e.run = run then some (path, contents) else none
    | _ => none

/-- A call that a run makes after others. Until it has written its program it acquires the sandbox, checks
the browser and writes. After that it runs the program that it finds, which is the one it has written. -/
def Lawful (p : Plan) (before : List Entry) (e : Entry) : Prop :=
  (writes e.run before = [] ∧
    (e.call = .acquire p.name ∨ e.call = .exec p.gateway.healthCheckCommand ∨
      ∃ b target, Program.Block.ofScript p.script = .ok b ∧
        e.call = .write p.path (Program.assemble p.options target b))) ∨
  ∃ program sandbox, writes e.run before = [(p.path, program)] ∧
    e.call = .exec (p.gateway.nodeCommand sandbox) ∧ e.found = some program

structure Exclusive (s : State) : Prop where
  one_inside : ∀ run other, Inside s run → Inside s other → (plans run).name = (plans other).name → run = other
  contiguous : ∀ e between f, [e, between, f].Sublist s.log → e.run = f.run → between.name = e.name →
    between.run = e.run
  lawful : ∀ before e, (before ++ [e]) <+: s.log → e.name = (plans e.run).name ∧ Lawful (plans e.run) before e
  ended_left : ∀ run result, s.phase run = .ended result → ∀ name, run ∉ s.pool.queue name
  hands_over : ∀ run t result, Step plans run s t → Inside s run → t.phase run = .ended result →
    s.pool.queue (plans run).name = run :: t.pool.queue (plans run).name
  first_proceeds : ∀ name run, s.pool.holder name = some run → Inside s run ∧ ∃ t, Step plans run s t
  proceeds : ∀ run, (∀ result, s.phase run ≠ .ended result) → (∃ t, Step plans run s t) ∨
    ∃ other, other ≠ run ∧ Inside s other ∧ (plans other).name = (plans run).name
  undisturbed : ∀ run other t, Step plans run s t → (plans other).name ≠ (plans run).name →
    t.phase other = s.phase other ∧ t.pool.queue (plans other).name = s.pool.queue (plans other).name ∧
      t.files (plans other).name = s.files (plans other).name ∧
      ((∃ u, Step plans other s u) → ∃ u, Step plans other t u)

end Sharing

end BrowserCheck.Sandbox
