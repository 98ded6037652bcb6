import BrowserCheck.Proofs.Sandbox.Endings
import BrowserCheck.Proofs.Web.Handling
import BrowserCheck.Proofs.Web.Requests

set_option autoImplicit false

namespace BrowserCheck.Web

open Json
open Sandbox (FailsLocally)
open Sandbox.Gateway (Exhausted Broken)

variable {σ : Type} {script : Script}

namespace Incoming

variable {path : String} {contentType : Option String} {body : Text.Bytes}

lemma Scriptless.elsewhere (h : (post path contentType body).Scriptless)
    (path' : String) : (post path' contentType body).Scriptless := by
  cases h with
  | noDocument h => exact .noDocument fun v hv => h v (hv.elsewhere path)
  | noScript hv h => exact .noScript (hv.elsewhere path') h
  | badScript hv hw h => exact .badScript (hv.elsewhere path') hw h

lemma Poses.elsewhere (h : (post path contentType body).Poses script)
    (path' : String) : (post path' contentType body).Poses script := by
  obtain ⟨hv, hw, hs⟩ := h
  exact .script (hv.elsewhere path') hw hs

def scriptBody (script : Script) : Text.Bytes := Text.encode (Value.object [("script", script.encode)]).toText

lemma poses_sent (h : script.Valid) (hshort : (scriptBody script).length ≤ Service.bodyLimit) (path : String) :
    (post path (some "application/json") (scriptBody script)).Poses script := by
  have hfits : (Value.object [("script", script.encode)]).fits Reader.depthLimit :=
    ⟨by decide, script.encode_fits (by decide), trivial⟩
  have hjson : ContentType.isJson "application/json" = true := by decide +kernel
  have hread : Value.readFirst? (Text.beginning (scriptBody script)) =
      some (Value.object [("script", script.encode)]).sort := by
    rw [scriptBody, Text.beginning_encode, Value.readFirst?_toText hfits]
  exact .script ⟨⟨_, rfl, hjson⟩, hshort, hread⟩ rfl (Script.describes_toValue h)

lemma scriptless_of_long (h : Service.bodyLimit < body.length) : (post path contentType body).Scriptless :=
  .noDocument fun _ hv => absurd hv.short (Nat.not_le.mpr h)

lemma Scriptless.not_poses {r : Incoming} (h : r.Scriptless) : ¬r.Poses script := by
  rintro ⟨hv, hw, hs⟩
  cases h with
  | noDocument h => exact h _ hv
  | noScript hv' h =>
    obtain rfl := hv.unique hv'
    cases hw.symm.trans h
  | badScript hv' hw' h =>
    obtain rfl := hv.unique hv'
    cases hw.symm.trans hw'
    exact h _ hs

end Incoming

namespace Service

variable (s : Service)

lemma refused_of_scriptless {r : Incoming} (h : r.Scriptless) :
    ∃ f : Failure, f.isCallers = true ∧ (bodyOf r).bind scriptField = .error f := by
  cases hb : (bodyOf r).bind scriptField with
  | error f => exact ⟨f, callers_of_scriptField hb, rfl⟩
  | ok script => exact absurd (poses_iff.mp hb) h.not_poses

lemma compiles_of_describes {v : Value} (h : Script.Describes v script) :
    ∃ b, Program.Block.ofScript script = .ok b :=
  ⟨_, Program.Block.ofScript_supported (Script.valid_of_describes h).version⟩

lemma compiles_of_poses {r : Incoming} (h : r.Poses script) : ∃ b, Program.Block.ofScript script = .ok b := by
  obtain ⟨-, -, hs⟩ := h
  exact compiles_of_describes hs

lemma status_of_local {f : Failure} (h : Sandbox.Local f) : (Reply.ofFailure f).status = 500 := by
  cases h <;> rfl

variable {contentType : Option String} {body : Text.Bytes}

lemma run_scriptless (h : (Incoming.post "/run" contentType body).Scriptless) :
    ∃ a : Reply, a.status = 400 ∧ s.respond (.post "/run" contentType body) = .done a := by
  obtain ⟨f, hf, hb⟩ := refused_of_scriptless h
  refine ⟨.ofFailure f, Reply.statusOf_of_callers hf, ?_⟩
  rw [respond_run, run, hb]

lemma compile_scriptless (h : (Incoming.post "/compile" contentType body).Scriptless) :
    ∃ a : Reply, a.status = 400 ∧ s.respond (.post "/compile" contentType body) = .done a := by
  obtain ⟨f, hf, hb⟩ := refused_of_scriptless h
  refine ⟨.ofFailure f, Reply.statusOf_of_callers hf, ?_⟩
  rw [respond_compile, compile, hb]
  rfl

lemma long_refused (h : bodyLimit < body.length) (world : World σ) (w : σ) :
    (s.reply (.post "/compile" contentType body) world w).status = 400 ∧
      (s.reply (.post "/run" contentType body) world w).status = 400 ∧
        (s.respond (.post "/run" contentType body)).exchanges world w = [] := by
  have hless (path : String) : (Incoming.post path contentType body).Scriptless := Incoming.scriptless_of_long h
  obtain ⟨a, ha, hcompile⟩ := s.compile_scriptless (hless "/compile")
  obtain ⟨a', ha', hrun⟩ := s.run_scriptless (hless "/run")
  rw [reply_of_done hcompile, reply_of_done hrun]
  exact ⟨ha, ha', exchanges_of_done hrun world w⟩

lemma compile_posed (h : (Incoming.post "/compile" contentType body).Poses script) {b : Program.Block}
    (hb : Program.Block.ofScript script = .ok b) : s.respond (.post "/compile" contentType body) =
      .done (.json 200 (.object [("program", .text (Program.assemble s.options placeholderTarget b))])) := by
  rw [respond_compile, compile, poses_iff.mpr h]
  simp only [Except.bind, hb]
  rfl

section

variable (h : (Incoming.post "/run" contentType body).Poses script)

include h

lemma run_posed : s.respond (.post "/run" contentType body) =
    (Handling.ofSession (s.gateway.run s.options script)).bind fun a => .done (.ofOutcome RunResult.encode a) := by
  rw [respond_run, run, poses_iff.mpr h]

lemma reply_posed (world : World σ) (w : σ) : s.reply (.post "/run" contentType body) world w =
    .ofOutcome RunResult.encode ((s.gateway.run s.options script).run world.sandbox w).1 := by
  rw [reply, run_posed s h, Dialogue.run_bind, Handling.run_ofSession]
  rfl

lemma calls_posed (world : World σ) (w : σ) : (s.respond (.post "/run" contentType body)).calls world w =
    Sandbox.Session.log world.sandbox (s.gateway.run s.options script) w := by
  rw [run_posed s h, Handling.calls, Dialogue.exchanges_bind, List.filterMap_append]
  exact (List.append_nil _).trans (Handling.calls_ofSession _ world w)

lemma run_statuses (world : World σ) (hlocal : ∀ c w, FailsLocally c (world.sandbox c w).1) (w : σ) :
    let a := s.reply (.post "/run" contentType body) world w
    let log := (s.respond (.post "/run" contentType body)).calls world w
    (a.status = 503 ↔ Exhausted s.gateway log) ∧ (a.status = 500 ↔ Broken s.gateway log) ∧
    (a.status ≠ 503 → a.status ≠ 500 → ∃ result,
      ((s.gateway.run s.options script).run world.sandbox w).1 = .ok result ∧ a = .json 200 result.encode) := by
  intro a log
  obtain ⟨b, hb⟩ := compiles_of_poses h
  have hreply : a = _ := s.reply_posed h world w
  have hlog : log = _ := s.calls_posed h world w
  rw [hreply, hlog]
  rcases Sandbox.Gateway.run_ending (g := s.gateway) (o := s.options) hb hlocal w with
    ⟨result, hr, hne, hnb⟩ | ⟨name, attempts, reason, hr, he⟩ | ⟨f, hf, hr, hbroken⟩
  · rw [hr]
    exact ⟨⟨nofun, fun h => absurd h hne⟩, ⟨nofun, fun h => absurd h hnb⟩, fun _ _ => ⟨result, rfl, rfl⟩⟩
  · rw [hr]
    exact ⟨⟨fun _ => he, fun _ => rfl⟩, ⟨nofun, fun h => absurd h he.not_broken⟩, fun hn => absurd rfl hn⟩
  · have hs := status_of_local hf
    rw [hr]
    refine ⟨⟨fun h => ?_, fun h => absurd hbroken h.not_broken⟩, ⟨fun _ => hbroken, fun _ => hs⟩,
      fun _ hn => absurd hs hn⟩
    cases hs.symm.trans h

end

/-- Without a script both endpoints blame the caller and leave the sandbox alone. Any script that the check accepts is
compiled without a sandbox, and the status of its run tells how the run has ended in the sandbox. -/
theorem posted_script_outcomes (s : Service) (contentType : Option String) (body : Text.Bytes) (world : World σ)
    (hlocal : ∀ c w, FailsLocally c (world.sandbox c w).1) (w : σ) :
    let r : Incoming := .post "/run" contentType body
    let c : Incoming := .post "/compile" contentType body
    let log := (s.respond r).calls world w
    (r.Scriptless → (s.reply r world w).status = 400 ∧ (s.reply c world w).status = 400 ∧
      (s.respond r).exchanges world w = [] ∧ (s.respond c).exchanges world w = []) ∧
    (¬r.Scriptless → ∃ script, r.Poses script ∧
      (∃ b, Program.Block.ofScript script = .ok b ∧ s.reply c world w =
        .json 200 (.object [("program", .text (Program.assemble s.options placeholderTarget b))])) ∧
      (s.respond c).exchanges world w = [] ∧ (s.reply r world w).status ≠ 400 ∧
      ((s.reply r world w).status = 503 ↔ Exhausted s.gateway log) ∧
      ((s.reply r world w).status = 500 ↔ Broken s.gateway log) ∧
      ((s.reply r world w).status ≠ 503 → (s.reply r world w).status ≠ 500 → ∃ result,
        ((s.gateway.run s.options script).run world.sandbox w).1 = .ok result ∧
          s.reply r world w = .json 200 result.encode)) ∧
    ∀ v script, Script.check v = .ok script → ∃ b, Program.Block.ofScript script = .ok b := by
  intro r c log
  refine ⟨fun h => ?_, fun h => ?_, fun v script h => compiles_of_describes (Script.describes_of_check h)⟩
  · obtain ⟨a, ha, hrun⟩ := s.run_scriptless h
    obtain ⟨a', ha', hcompile⟩ := s.compile_scriptless (h.elsewhere "/compile")
    refine ⟨?_, ?_, exchanges_of_done hrun world w, exchanges_of_done hcompile world w⟩
    · rw [reply_of_done hrun, ha]
    · rw [reply_of_done hcompile, ha']
  · obtain ⟨script, hs⟩ := r.scriptless_or_poses.resolve_left h
    obtain ⟨b, hb⟩ := compiles_of_poses hs
    obtain ⟨hexhausted, hbroken, hok⟩ := s.run_statuses hs world hlocal w
    have hcompile := s.compile_posed (hs.elsewhere "/compile") hb
    refine ⟨script, hs, ⟨b, hb, reply_of_done hcompile world w⟩, exchanges_of_done hcompile world w, fun h400 => ?_,
      hexhausted, hbroken, hok⟩
    have hn (n : Nat) (hne : n ≠ 400) : (s.reply r world w).status ≠ n := fun he => hne (he.symm.trans h400)
    obtain ⟨result, -, hresult⟩ := hok (hn 503 (by decide)) (hn 500 (by decide))
    exact hn 200 (by decide) (congrArg Reply.status hresult)

def offline : Service := .ofSettings (.standard "/tmp") (Generation.refuse (fun _ => .error "no address") "off")

def gone : World Unit
  | .sandbox (.acquire _), _ => ((.error (.sandbox "gone") : Outcome Sandbox.Handle), ())
  | .sandbox (.exec _), _ => ((.error (.sandbox "gone") : Outcome RawOutput), ())
  | .sandbox (.write _ _), _ => ((.error (.sandbox "gone") : Outcome Unit), ())
  | .sandbox (.pause _), _ => ((), ())
  | .model r, _ => ((.error (.unreachable r.url) : Except NoAnswer Response), ())

lemma short_sleep : (Incoming.scriptBody (.ofActions [.sleep 5])).length ≤ bodyLimit := by
  rw [Incoming.scriptBody, Text.encode_eq_flatMap]
  decide

theorem posted_script_outcomes_gone :
    let body := Incoming.scriptBody (.ofActions [.sleep 5])
    (∀ c w, FailsLocally c (gone.sandbox c w).1) ∧
    (offline.reply (.post "/run" (some "application/json") body) gone ()).status = 500 ∧
    (offline.reply (.post "/run" none body) gone ()).status = 400 ∧
    (offline.reply (.post "/compile" (some "application/json") body) gone ()).status = 200 := by
  intro body
  have hlocal : ∀ c w, FailsLocally c (gone.sandbox c w).1 := by
    rintro (name | command | ⟨path, contents⟩ | milliseconds) w
    case pause => trivial
    all_goals exact fun f hf => by cases hf; exact .sandbox "gone"
  have hvalid : Script.Valid (.ofActions [.sleep 5]) := ⟨rfl, by simp [Script.ofActions]⟩
  have hposed := Incoming.poses_sent hvalid short_sleep "/run"
  have hlog : (offline.respond (.post "/run" (some "application/json") body)).calls gone () =
      [.acquire offline.gateway.sandboxName (.error (.sandbox "gone"))] := by
    rw [calls_posed offline hposed]
    rfl
  obtain ⟨-, hscript, -⟩ := posted_script_outcomes offline (some "application/json") body gone hlocal ()
  obtain ⟨hrefused, -, -⟩ := posted_script_outcomes offline none body gone hlocal ()
  obtain ⟨script, -, ⟨b, -, hcompiled⟩, -, -, -, hbroken, -⟩ := hscript fun h => h.not_poses hposed
  refine ⟨hlocal, hbroken.mpr ?_, (hrefused (.noDocument ?_)).1, congrArg Reply.status hcompiled⟩
  · rw [hlog]
    exact .notAcquired _
  · rintro v ⟨⟨t, ht, -⟩, -⟩
    cases ht

end Service

end BrowserCheck.Web
