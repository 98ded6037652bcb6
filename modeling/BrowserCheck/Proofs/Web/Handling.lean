import BrowserCheck.Proofs.Sandbox.Course
import BrowserCheck.Proofs.Script.RoundTrip
import BrowserCheck.Web.Setup

set_option autoImplicit false

/-! How the service handles what is posted to it: which bodies it reads, which scripts it finds in them, and what it
asks of its sandbox and of its model, whatever these answer. -/

namespace BrowserCheck.Web

open Json

variable {α σ : Type}

namespace Incoming

def post (path : String) (contentType : Option String) (body : Text.Bytes) : Incoming :=
  ⟨"POST", path, contentType, body⟩

structure Holds (r : Incoming) (v : Value) : Prop where
  announced : ∃ t, r.contentType = some t ∧ ContentType.isJson t = true
  short : r.body.length ≤ Service.bodyLimit
  read : Value.readFirst? (Text.beginning r.body) = some v

inductive Poses (r : Incoming) (s : Script) : Prop where
  | script {v w : Value} (holds : r.Holds v) (field : v.get? "script" = some w) (describes : Script.Describes w s)

inductive Scriptless (r : Incoming) : Prop where
  | noDocument (h : ∀ v, ¬r.Holds v)
  | noScript {v : Value} (holds : r.Holds v) (h : v.get? "script" = none)
  | badScript {v w : Value} (holds : r.Holds v) (field : v.get? "script" = some w) (h : ∀ s, ¬Script.Describes w s)

lemma Holds.elsewhere {path : String} {contentType : Option String} {body : Text.Bytes} {v : Value}
    (h : (post path contentType body).Holds v) (path' : String) : (post path' contentType body).Holds v :=
  ⟨h.announced, h.short, h.read⟩

lemma Holds.unique {r : Incoming} {v w : Value} (hv : r.Holds v) (hw : r.Holds w) : v = w :=
  Option.some.inj (hv.read.symm.trans hw.read)

lemma scriptless_or_poses (r : Incoming) : r.Scriptless ∨ ∃ s, r.Poses s := by
  by_cases hv : ∃ v, r.Holds v
  case neg => exact .inl (.noDocument fun v h => hv ⟨v, h⟩)
  obtain ⟨v, hv⟩ := hv
  cases hw : v.get? "script" with
  | none => exact .inl (.noScript hv hw)
  | some w =>
    by_cases hs : ∃ s, Script.Describes w s
    · obtain ⟨s, hs⟩ := hs
      exact .inr ⟨s, .script hv hw hs⟩
    · exact .inl (.badScript hv hw fun s h => hs ⟨s, h⟩)

end Incoming

lemma Reply.statusOf_of_callers {f : Failure} (h : f.isCallers = true) : statusOf f = 400 := if_pos h

abbrev World (σ : Type) := (e : Effect) → σ → e.Answer × σ

namespace World

def sandbox (world : World σ) (c : Sandbox.Call) : σ → c.Answer × σ := world (.sandbox c)

def model (world : World σ) (r : Request) : σ → Except NoAnswer Response × σ := world (.model r)

end World

namespace Handling

lemma run_ofSession (d : Sandbox.Session α) (world : World σ) (w : σ) :
    (ofSession d).run world w = d.run world.sandbox w := Dialogue.run_embed Effect.sandbox world d w

lemma run_ofExchange (d : Exchange α) (world : World σ) (w : σ) :
    (ofExchange d).run world w = d.run world.model w := Dialogue.run_embed Effect.model world d w

lemma exchanges_ofSession (d : Sandbox.Session α) (world : World σ) (w : σ) :
    (ofSession d).exchanges world w = (d.exchanges world.sandbox w).map fun e => ⟨.sandbox e.1, e.2⟩ :=
  Dialogue.exchanges_embed Effect.sandbox world d w

def call? : (e : Effect) × e.Answer → Option Sandbox.Exchange
  | ⟨.sandbox c, a⟩ => if Sandbox.Exchange.heard ⟨c, a⟩ then some ⟨c, a⟩ else none
  | ⟨.model _, _⟩ => none

def calls (d : Handling α) (world : World σ) (w : σ) : List Sandbox.Exchange :=
  (d.exchanges world w).filterMap call?

lemma calls_ofSession (d : Sandbox.Session α) (world : World σ) (w : σ) :
    (ofSession d).calls world w = Sandbox.Session.log world.sandbox d w := by
  rw [calls, exchanges_ofSession, List.filterMap_map, Sandbox.Session.log, ← List.filterMap_eq_filter]
  rfl

end Handling

namespace Service

lemma respond_generate (s : Service) (contentType : Option String) (body : Text.Bytes) :
    s.respond (.post "/generate" contentType body) = s.generate (.post "/generate" contentType body) := by
  have hpath : pathOf "/generate" = "/generate" := by decide
  simp [respond, Incoming.post, hpath]

lemma respond_run (s : Service) (contentType : Option String) (body : Text.Bytes) :
    s.respond (.post "/run" contentType body) = s.run (.post "/run" contentType body) := by
  have hpath : pathOf "/run" = "/run" := by decide
  simp [respond, Incoming.post, hpath]

lemma respond_compile (s : Service) (contentType : Option String) (body : Text.Bytes) :
    s.respond (.post "/compile" contentType body) = .done (s.compile (.post "/compile" contentType body)) := by
  have hpath : pathOf "/compile" = "/compile" := by decide
  simp [respond, Incoming.post, hpath]

def reply (s : Service) (r : Incoming) (world : World σ) (w : σ) : Reply := ((s.respond r).run world w).1

variable {r : Incoming} {f : Failure}

lemma reply_of_done {s : Service} {a : Reply} (h : s.respond r = .done a) (world : World σ) (w : σ) :
    s.reply r world w = a := by
  rw [reply, h]
  rfl

lemma exchanges_of_done {s : Service} {a : Reply} (h : s.respond r = .done a) (world : World σ) (w : σ) :
    (s.respond r).exchanges world w = [] := by
  rw [h]
  rfl

lemma bodyOf_eq_ok_iff {v : Value} : bodyOf r = .ok v ↔ r.Holds v := by
  constructor
  · intro h
    rw [bodyOf] at h
    split at h
    next hj =>
      obtain ⟨t, ht, hj⟩ := Option.map_eq_some_iff.mp hj
      split_ifs at h with hshort
      split at h
      next hv => exact ⟨⟨t, ht, hj⟩, Nat.not_lt.mp hshort, hv.trans (congrArg some (Except.ok.inj h))⟩
      next => cases h
    next => cases h
  · rintro ⟨⟨t, ht, hj⟩, hshort, hv⟩
    rw [bodyOf, ht, hv, Option.map_some, hj]
    exact if_neg (Nat.not_lt.mpr hshort)

lemma callers_of_bodyOf (h : bodyOf r = .error f) : f.isCallers = true := by
  rw [bodyOf] at h
  split at h
  · split_ifs at h
    · cases h
      rfl
    · split at h
      · cases h
      · cases h
        rfl
  · cases h
    rfl

lemma checkScript_eq_ok_iff {v : Value} {s : Script} : checkScript v = .ok s ↔ Script.Describes v s := by
  rw [checkScript]
  constructor
  · intro h
    cases hc : Script.check v with
    | ok s' =>
      rw [hc] at h
      cases h
      exact Script.describes_of_check hc
    | error e =>
      rw [hc] at h
      cases h
  · intro h
    rw [Script.check_of_describes h]
    rfl

lemma callers_of_checkScript {v : Value} (h : checkScript v = .error f) : f.isCallers = true := by
  rw [checkScript] at h
  cases hc : Script.check v with
  | ok s =>
    rw [hc] at h
    cases h
  | error e =>
    rw [hc] at h
    cases h
    rfl

lemma poses_iff {s : Script} : (bodyOf r).bind scriptField = .ok s ↔ r.Poses s := by
  rw [Outcome.bind_eq_ok_iff]
  constructor
  · rintro ⟨v, hv, h⟩
    rw [scriptField] at h
    split at h
    next hw => exact .script (bodyOf_eq_ok_iff.mp hv) hw (checkScript_eq_ok_iff.mp h)
    next => cases h
  · rintro ⟨hv, hw, hs⟩
    refine ⟨_, bodyOf_eq_ok_iff.mpr hv, ?_⟩
    rw [scriptField, hw]
    exact checkScript_eq_ok_iff.mpr hs

lemma callers_of_scriptField (h : (bodyOf r).bind scriptField = .error f) : f.isCallers = true := by
  rcases Outcome.bind_eq_error_iff.mp h with h | ⟨v, -, h⟩
  · exact callers_of_bodyOf h
  · rw [scriptField] at h
    split at h
    · exact callers_of_checkScript h
    · cases h
      rfl

end Service

end BrowserCheck.Web
