import BrowserCheck.Proofs.Sandbox.Queues
import BrowserCheck.Proofs.Sandbox.Stages
import Mathlib.Data.List.Nodup

set_option autoImplicit false

/-! The queues agree with how far the runs are, and a run that works is the first in its queue. -/

namespace BrowserCheck.Sandbox

def Stage.writes (p : Plan) : Stage → List (String × String)
  | .written program => [(p.path, program)]
  | .opening | .checking => []

def Call.writes : Call → List (String × String)
  | .write path contents => [(path, contents)]
  | .acquire _ | .exec _ | .pause _ => []

namespace Sharing

namespace Phase

def engaged : Phase → Prop
  | leasing _ _ | ready _ _ | pending _ _ => True
  | fresh | ended _ => False

def working : Phase → Prop
  | ready _ _ | pending _ _ => True
  | fresh | leasing _ _ | ended _ => False

end Phase

structure Reached (p : Plan) (s : State) (run : Nat) (stage : Stage) (asked : List (String × String)) : Prop where
  writes_eq : writes run s.log = stage.writes p ++ asked
  holds : stage ≠ .opening → s.pool.Holds run p.name
  found : ∀ program, stage = .written program → s.files p.name p.path = some program

def Unheard (s : State) (run : Nat) : Prop := ∀ e ∈ s.log, e.run ≠ run

def OnCourse (p : Plan) (s : State) (run : Nat) : Prop :=
  match s.phase run with
  | .fresh => Unheard s run
  | .leasing name next => Follows p .opening (.ask (.acquire name) next) ∧ Unheard s run
  | .ready c next => ∃ stage, Follows p stage (.ask c next) ∧ Reached p s run stage []
  | .pending c next => ∃ stage, Follows p stage (.ask c next) ∧ Reached p s run stage c.writes
  | .ended _ => True

variable {plans : Nat → Plan} {s t : State} {run other : Nat}

lemma poolAfter_acquire (name : String) (r : Outcome Handle) (pool : Pool) :
    poolAfter run (.acquire name) r pool = pool.acquired run name r := rfl

section Answers

variable {p : Plan} {stage : Stage} {c : Call} {next : c.Answer → Session (Outcome RawOutput)} {after : Files}

lemma answered (h : Follows p stage (.ask c next)) (hs : Reached p s run stage c.writes) (a : c.Answer)
    (hf : FilesAfter c a (s.files p.name) after) :
    (∃ stage', Follows p stage' (next a) ∧ stage'.writes p = stage.writes p ++ c.writes ∧
      (poolAfter run c a s.pool).Holds run p.name ∧
      (∀ name, (poolAfter run c a s.pool).queue name = s.pool.queue name) ∧
      ∀ program, stage' = .written program → after p.path = some program) ∨
    ∃ result, next a = .done result ∧ ∀ name, ((poolAfter run c a s.pool).giveBack run).queue name =
      if name = p.name then (s.pool.queue p.name).erase run else s.pool.queue name := by
  have hleave (hp : s.pool.Holds run p.name) (name : String) : (s.pool.giveBack run).queue name =
      if name = p.name then (s.pool.queue p.name).erase run else s.pool.queue name := by
    rw [Pool.giveBack_of_holds hp, Pool.queue_leave]
  cases h with
  | acquire hok herr =>
    cases a with
    | ok sandbox =>
      refine .inl ⟨.checking, hok sandbox, rfl, ⟨sandbox, ?_⟩, fun name => rfl, by rintro _ ⟨⟩⟩
      rw [poolAfter_acquire, Pool.acquired, Pool.ticket_setLease, if_pos rfl]
    | error f =>
      obtain ⟨result, hr⟩ := herr f
      refine .inr ⟨result, hr, fun name => ?_⟩
      have ht : (s.pool.leave run p.name (.failed f)).ticket run = some ⟨p.name, .failed f⟩ := by
        rw [Pool.ticket_leave, if_pos rfl]
      rw [poolAfter_acquire, Pool.acquired, Pool.giveBack_of_failed ht, Pool.queue_leave]
  | check hnext => exact .inl ⟨.checking, hnext a, rfl, hs.holds nofun, fun name => rfl, by rintro _ ⟨⟩⟩
  | pause hnext => exact .inl ⟨.checking, hnext a, rfl, hs.holds nofun, fun name => rfl, by rintro _ ⟨⟩⟩
  | write hb hok herr =>
    cases a with
    | ok a =>
      refine .inl ⟨.written _, hok a, rfl, hs.holds nofun, fun name => rfl, ?_⟩
      intro program he
      rw [show after = _ from hf, Function.update_self, Stage.written.inj he]
    | error f =>
      obtain ⟨result, hr⟩ := herr f
      exact .inr ⟨result, hr, hleave (hs.holds nofun)⟩
  | node hnext =>
    obtain ⟨result, hr⟩ := hnext a
    exact .inr ⟨result, hr, hleave (hs.holds nofun)⟩

lemma queue_answered {c' : Call} {next' : c'.Answer → Session (Outcome RawOutput)} (hc : OnCourse p s run)
    (hp : s.phase run = .pending c next) {a : c.Answer} (hf : FilesAfter c a (s.files p.name) after)
    (hnext : next a = .ask c' next') (name : String) : (poolAfter run c a s.pool).queue name = s.pool.queue name := by
  rw [OnCourse, hp] at hc
  obtain ⟨stage, hfollows, hs⟩ := hc
  rcases answered hfollows hs a hf with ⟨_, _, _, _, hq, _⟩ | ⟨result, hr, _⟩
  · exact hq name
  · rw [hnext] at hr
    contradiction

lemma queue_finished (hc : OnCourse p s run) (hp : s.phase run = .pending c next) {a : c.Answer}
    (hf : FilesAfter c a (s.files p.name) after) (name : String) :
    ((poolAfter run c a s.pool).giveBack run).queue name =
      if name = p.name then (s.pool.queue p.name).erase run else s.pool.queue name := by
  rw [OnCourse, hp] at hc
  obtain ⟨stage, hfollows, hs⟩ := hc
  rcases answered hfollows hs a hf with ⟨_, _, _, hh, hq, _⟩ | ⟨_, _, hq⟩
  · simp only [Pool.giveBack_of_holds hh, Pool.queue_leave, hq]
  · exact hq name

lemma acquired_name {name : String} {next : (Call.acquire name).Answer → Session (Outcome RawOutput)}
    (h : Follows p .opening (.ask (.acquire name) next)) : name = p.name := by
  cases h
  rfl

end Answers

section Others

lemma phase_other (h : Step plans run s t) (ho : other ≠ run) : t.phase other = s.phase other := by
  cases h <;> exact Function.update_of_ne ho _ _

lemma ticket_poolAfter (c : Call) (a : c.Answer) (ho : other ≠ run) (pool : Pool) :
    (poolAfter run c a pool).ticket other = pool.ticket other := by
  cases c with
  | acquire name =>
    cases a with
    | ok sandbox => rw [poolAfter_acquire, Pool.acquired, Pool.ticket_setLease, if_neg ho]
    | error f => rw [poolAfter_acquire, Pool.acquired, Pool.ticket_leave, if_neg ho]
  | exec | write | pause => rfl

lemma ticket_other (h : Step plans run s t) (ho : other ≠ run) : t.pool.ticket other = s.pool.ticket other := by
  cases h with
  | refuse | enter | issue => rfl
  | request => exact Pool.ticket_request _ _ _ ho
  | answer a => exact ticket_poolAfter _ a ho _
  | finish a =>
    simp only [Pool.ticket_giveBack ho]
    exact ticket_poolAfter _ a ho _

lemma files_other (h : Step plans run s t) {name : String} (hn : name ≠ (plans run).name) :
    t.files name = s.files name := by
  cases h with
  | refuse | request | enter | issue => rfl
  | answer | finish => exact Function.update_of_ne hn _ _

lemma files_idle (h : Step plans run s t) (hw : ¬(s.phase run).working) : t.files = s.files := by
  cases h with
  | refuse | request | enter | issue => rfl
  | answer a hp | finish a hp =>
    rw [hp] at hw
    exact (hw trivial).elim

lemma log_step (h : Step plans run s t) : t.log = s.log ∨ (s.phase run).working ∧
    ∃ c next, s.phase run = .ready c next ∧ t.log = s.log ++ entries (plans run) run c (s.files (plans run).name) := by
  cases h with
  | refuse | request | enter | answer | finish => exact .inl rfl
  | @issue c next hp =>
    refine .inr ⟨?_, c, next, hp, rfl⟩
    rw [hp]
    trivial

end Others

structure Turns (plans : Nat → Plan) (s : State) : Prop where
  mem_queue : ∀ name run, run ∈ s.pool.queue name ↔ (plans run).name = name ∧ (s.phase run).engaged
  nodup : ∀ name, (s.pool.queue name).Nodup
  first : ∀ run, (s.phase run).working → s.pool.holder (plans run).name = some run

namespace Turns

lemma mem_holder {name : String} (h : s.pool.holder name = some run) : run ∈ s.pool.queue name :=
  List.mem_of_mem_head? h

lemma of_phase (ht : Turns plans s) {phase : Phase} (hp : t.phase = Function.update s.phase run phase)
    (hq : ∀ name, t.pool.queue name = s.pool.queue name) (he : phase.engaged ↔ (s.phase run).engaged)
    (hw : phase.working → s.pool.holder (plans run).name = some run) : Turns plans t := by
  refine ⟨fun name other => ?_, fun name => hq name ▸ ht.nodup name, fun other => ?_⟩
  · rw [hq, ht.mem_queue, hp]
    by_cases ho : other = run
    · subst ho
      rw [Function.update_self, he]
    · rw [Function.update_of_ne ho]
  · rw [Pool.holder, hq, hp]
    by_cases ho : other = run
    · subst ho
      rw [Function.update_self]
      exact hw
    · rw [Function.update_of_ne ho]
      exact ht.first other

lemma of_join (ht : Turns plans s) {phase : Phase} (hp : t.phase = Function.update s.phase run phase)
    (hq : ∀ name, t.pool.queue name = if name = (plans run).name then s.pool.queue name ++ [run] else s.pool.queue name)
    (hf : ¬(s.phase run).engaged) (he : phase.engaged) (hw : ¬phase.working) : Turns plans t := by
  have hnot (name : String) : run ∉ s.pool.queue name := fun h => hf ((ht.mem_queue name run).mp h).2
  refine ⟨fun name other => ?_, fun name => ?_, fun other => ?_⟩
  · rw [hq, hp]
    by_cases ho : other = run
    · subst ho
      rw [Function.update_self]
      split_ifs with hn
      · simp [hn, he]
      · simp only [hnot, false_iff]
        exact fun h => hn h.1.symm
    · rw [Function.update_of_ne ho, ← ht.mem_queue]
      split_ifs <;> simp [ho]
  · rw [hq]
    split_ifs
    · rw [← List.concat_eq_append]
      exact (ht.nodup name).concat (hnot name)
    · exact ht.nodup name
  · rw [Pool.holder, hq, hp]
    by_cases ho : other = run
    · subst ho
      rw [Function.update_self]
      exact fun h => (hw h).elim
    · rw [Function.update_of_ne ho]
      intro h
      have hh := ht.first other h
      split_ifs
      · rw [List.head?_append, ← Pool.holder, hh]
        rfl
      · exact hh

lemma of_leave (ht : Turns plans s) {phase : Phase} (hp : t.phase = Function.update s.phase run phase)
    (hq : ∀ name, t.pool.queue name =
      if name = (plans run).name then (s.pool.queue (plans run).name).erase run else s.pool.queue name)
    (hi : (s.phase run).working) (he : ¬phase.engaged) (hw : ¬phase.working) : Turns plans t := by
  refine ⟨fun name other => ?_, fun name => ?_, fun other => ?_⟩
  · rw [hq, hp]
    by_cases ho : other = run
    · subst ho
      rw [Function.update_self]
      split_ifs with hn
      · simp [he, (ht.nodup _).mem_erase_iff]
      · rw [ht.mem_queue]
        simp only [he, and_false, iff_false]
        exact fun h => hn h.1.symm
    · rw [Function.update_of_ne ho, ← ht.mem_queue]
      split_ifs with hn
      · rw [hn, List.mem_erase_of_ne ho]
      · rfl
  · rw [hq]
    split_ifs
    · exact (ht.nodup _).erase run
    · exact ht.nodup name
  · rw [Pool.holder, hq, hp]
    by_cases ho : other = run
    · subst ho
      rw [Function.update_self]
      exact fun h => (hw h).elim
    · rw [Function.update_of_ne ho]
      intro h
      have hh := ht.first other h
      rw [if_neg]
      · exact hh
      · intro hn
        rw [hn, ht.first run hi] at hh
        exact ho (Option.some.inj hh).symm

lemma step (ht : Turns plans s) (hc : ∀ run, OnCourse (plans run) s run) (h : Step plans run s t) :
    Turns plans t := by
  have hrun := hc run
  cases h with
  | refuse hp => exact ht.of_phase rfl (fun _ => rfl) (by rw [hp]; exact Iff.rfl) nofun
  | @request name next hp hsession =>
    obtain rfl := acquired_name (hsession ▸ (plans run).follows_session)
    refine ht.of_join rfl (fun name => ?_) (by rw [hp]; exact id) trivial id
    simp only [Pool.queue_request]
    split_ifs with hn <;> simp [hn]
  | @enter name next hp hh =>
    have hname := ((ht.mem_queue name run).mp (mem_holder hh)).1
    exact ht.of_phase rfl (fun _ => rfl) (by rw [hp]; exact Iff.rfl) fun _ => hname ▸ hh
  | issue hp =>
    exact ht.of_phase rfl (fun _ => rfl) (by rw [hp]; exact Iff.rfl) fun _ => ht.first run (by rw [hp]; trivial)
  | answer a hp hf hnext =>
    exact ht.of_phase rfl (queue_answered hrun hp hf hnext) (by rw [hp]; exact Iff.rfl)
      fun _ => ht.first run (by rw [hp]; trivial)
  | finish a hp hf hnext =>
    exact ht.of_leave rfl (queue_finished hrun hp hf) (by rw [hp]; trivial) id id

end Turns

end Sharing

end BrowserCheck.Sandbox
