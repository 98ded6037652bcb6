import BrowserCheck.Proofs.Generation.Outcomes
import BrowserCheck.Proofs.Web.Handling
import BrowserCheck.Proofs.Web.Requests

set_option autoImplicit false

namespace BrowserCheck

open Json

namespace Web

variable {reads : AddressReader}

inductive Agent where
  | model (c : Generation.ModelSettings) (key : String)
  | none (reason : String)

namespace Agent

variable {σ : Type} {q : GenerateRequest} {f : Failure} (agent : Agent)

def answer (reads : AddressReader) : Agent → GenerateRequest → Exchange (Outcome GenerateResponse)
  | model c key => Generation.generate reads c key
  | none reason => Generation.refuse reads reason

def service (reads : AddressReader) (settings : Settings) : Service := .ofSettings settings (agent.answer reads)

lemma answer_unchecked (h : q.check reads = .error f) : agent.answer reads q = .done (.error f) := by
  cases agent with
  | model c key => rw [answer, Generation.generate, h]
  | none reason => rw [answer, Generation.refuse, h]

lemma answer_checked (h : q.check reads = .ok ()) (world : Request → σ → Except NoAnswer Response × σ) (w : σ) :
    (∃ g, ((agent.answer reads q).run world w).1 = .ok g ∧ g.script.Valid) ∨
      ∃ why, ((agent.answer reads q).run world w).1 = .error (.generation why) := by
  cases agent with
  | none reason =>
    refine .inr ⟨"generation disabled: " ++ reason, ?_⟩
    rw [answer, Generation.refuse, h]
    rfl
  | model c key =>
    rw [answer, Generation.generate, h, Dialogue.run_bind]
    cases hc : ((Generation.converse c key [⟨"user", .text q.userPrompt⟩] Generation.continuations).run world w).1 with
    | error f =>
      obtain ⟨why, rfl⟩ := Generation.converse_error world c key hc
      exact .inr ⟨why, rfl⟩
    | ok body =>
      cases hr : Generation.readReply body with
      | ok g => exact .inl ⟨g, hr, Generation.valid_of_readReply hr⟩
      | error f =>
        obtain ⟨why, rfl⟩ := Generation.readReply_error hr
        exact .inr ⟨why, hr⟩

end Agent

namespace Incoming

inductive Revises (v : Value) : Option Script → Prop where
  | absent (h : v.get? "previousScript" = none) : Revises v none
  | null (h : v.get? "previousScript" = some .null) : Revises v none
  | script {w : Value} {s : Script} (h : v.get? "previousScript" = some w) (describes : Script.Describes w s) :
      Revises v (some s)

inductive Asks (reads : AddressReader) (r : Incoming) (q : GenerateRequest) : Prop where
  | request {v : Value} {a : Address} (holds : r.Holds v) (previous : Revises v q.previousScript)
      (url : v.get? "url" = some (.text q.url)) (prompt : v.get? "prompt" = some (.text q.prompt))
      (address : reads q.url = .ok a) (base : a.canBeBase = true) (spoken : ¬Text.AllBlank q.prompt)

inductive Unfit (reads : AddressReader) (r : Incoming) : Prop where
  | noDocument (h : ∀ v, ¬r.Holds v)
  | badPrevious {v w : Value} (holds : r.Holds v) (field : v.get? "previousScript" = some w) (given : w ≠ .null)
      (h : ∀ s, ¬Script.Describes w s)
  | noUrl {v : Value} (holds : r.Holds v) (h : ∀ s, v.get? "url" ≠ some (.text s))
  | noPrompt {v : Value} (holds : r.Holds v) (h : ∀ s, v.get? "prompt" ≠ some (.text s))
  | notAbsolute {v : Value} {url : String} (holds : r.Holds v) (field : v.get? "url" = some (.text url))
      (h : ∀ a, reads url = .ok a → a.canBeBase = false)
  | blank {v : Value} {prompt : String} (holds : r.Holds v) (field : v.get? "prompt" = some (.text prompt))
      (h : Text.AllBlank prompt)

variable {r : Incoming} {q : GenerateRequest}

lemma Revises.describes {v w : Value} {previous : Option Script} (h : Revises v previous)
    (field : v.get? "previousScript" = some w) (given : w ≠ .null) : ∃ s, Script.Describes w s := by
  cases h with
  | absent h => cases h.symm.trans field
  | null h => exact absurd (Option.some.inj (field.symm.trans h)) given
  | script h describes => exact ⟨_, Option.some.inj (h.symm.trans field) ▸ describes⟩

lemma Asks.not_unfit (h : r.Asks reads q) : ¬r.Unfit reads := by
  obtain ⟨holds, previous, url, prompt, address, base, spoken⟩ := h
  rintro (hn | ⟨hv, field, given, hn⟩ | ⟨hv, hn⟩ | ⟨hv, hn⟩ | ⟨hv, field, hn⟩ | ⟨hv, field, hb⟩)
  · exact hn _ holds
  · obtain rfl := holds.unique hv
    obtain ⟨s, hs⟩ := previous.describes field given
    exact hn s hs
  · obtain rfl := holds.unique hv
    exact hn _ url
  · obtain rfl := holds.unique hv
    exact hn _ prompt
  · obtain rfl := holds.unique hv
    cases url.symm.trans field
    exact absurd base (by simp [hn _ address])
  · obtain rfl := holds.unique hv
    cases prompt.symm.trans field
    exact spoken hb

lemma Revises.exists_or_bad (v : Value) : (∃ previous, Revises v previous) ∨
    ∃ w, v.get? "previousScript" = some w ∧ w ≠ .null ∧ ∀ s, ¬Script.Describes w s := by
  cases hw : v.get? "previousScript" with
  | none => exact .inl ⟨none, .absent hw⟩
  | some w =>
    by_cases hn : w = .null
    · subst hn
      exact .inl ⟨none, .null hw⟩
    by_cases hs : ∃ s, Script.Describes w s
    · obtain ⟨s, hs⟩ := hs
      exact .inl ⟨some s, .script hw hs⟩
    · exact .inr ⟨w, rfl, hn, fun s h => hs ⟨s, h⟩⟩

lemma unfit_or_asks (reads : AddressReader) (r : Incoming) : r.Unfit reads ∨ ∃ q, r.Asks reads q := by
  by_cases hv : ∃ v, r.Holds v
  case neg => exact .inl (.noDocument fun v h => hv ⟨v, h⟩)
  obtain ⟨v, hv⟩ := hv
  rcases Revises.exists_or_bad v with ⟨previous, hp⟩ | ⟨w, hw, hn, hs⟩
  case inr => exact .inl (.badPrevious hv hw hn hs)
  by_cases hu : ∃ url, v.get? "url" = some (.text url)
  case neg => exact .inl (.noUrl hv fun s h => hu ⟨s, h⟩)
  obtain ⟨url, hu⟩ := hu
  by_cases hq : ∃ prompt, v.get? "prompt" = some (.text prompt)
  case neg => exact .inl (.noPrompt hv fun s h => hq ⟨s, h⟩)
  obtain ⟨prompt, hq⟩ := hq
  by_cases ha : ∃ a, reads url = .ok a ∧ a.canBeBase = true
  case neg => exact .inl (.notAbsolute hv hu fun a h => Bool.eq_false_iff.mpr fun hb => ha ⟨a, h, hb⟩)
  obtain ⟨a, ha, hb⟩ := ha
  by_cases hblank : Text.AllBlank prompt
  · exact .inl (.blank hv hq hblank)
  · exact .inr ⟨⟨url, prompt, previous⟩, .request hv hp hu hq ha hb hblank⟩

end Incoming

namespace Service

variable {r : Incoming} {v : Value} {q : GenerateRequest} {f : Failure}

lemma textField_eq_ok_iff {name s : String} : textField v name = .ok s ↔ v.get? name = some (.text s) := by
  rw [textField]
  split <;> simp_all

lemma callers_of_textField {name : String} (h : textField v name = .error f) : f.isCallers = true := by
  rw [textField] at h
  split at h
  · cases h
  · cases h
    rfl
  · cases h
    rfl

lemma previousField_eq_ok_iff {previous : Option Script} :
    previousField v = .ok previous ↔ Incoming.Revises v previous := by
  constructor
  · intro h
    rw [previousField] at h
    split at h
    next hw =>
      cases h
      exact .absent hw
    next hw =>
      cases h
      exact .null hw
    next w _ hw =>
      cases hs : checkScript w with
      | error e =>
        rw [hs] at h
        cases h
      | ok s =>
        rw [hs] at h
        cases h
        exact .script hw (checkScript_eq_ok_iff.mp hs)
  · intro h
    cases h with
    | absent hw => rw [previousField, hw]
    | null hw => rw [previousField, hw]
    | @script w s hw hs =>
      have hc := checkScript_eq_ok_iff.mpr hs
      cases hs
      rw [previousField, hw]
      exact congrArg (Except.map some) hc

lemma callers_of_previousField (h : previousField v = .error f) : f.isCallers = true := by
  rw [previousField] at h
  split at h
  · cases h
  · cases h
  next w _ _ =>
    cases hs : checkScript w with
    | error e =>
      rw [hs] at h
      cases h
      exact callers_of_checkScript hs
    | ok s =>
      rw [hs] at h
      cases h

lemma generateRequest_eq (v : Value) : generateRequest v =
    (previousField v).bind fun previous => (textField v "url").bind fun url =>
      (textField v "prompt").bind fun prompt => .ok ⟨url, prompt, previous⟩ := rfl

lemma generateRequest_eq_ok_iff : generateRequest v = .ok q ↔ Incoming.Revises v q.previousScript ∧
    v.get? "url" = some (.text q.url) ∧ v.get? "prompt" = some (.text q.prompt) := by
  simp only [generateRequest_eq, Outcome.bind_eq_ok_iff, textField_eq_ok_iff, previousField_eq_ok_iff]
  constructor
  · rintro ⟨previous, hp, url, hu, prompt, hq, he⟩
    cases he
    exact ⟨hp, hu, hq⟩
  · rintro ⟨hp, hu, hq⟩
    exact ⟨_, hp, _, hu, _, hq, rfl⟩

lemma callers_of_generateRequest (h : generateRequest v = .error f) : f.isCallers = true := by
  rw [generateRequest_eq] at h
  rcases Outcome.bind_eq_error_iff.mp h with h | ⟨_, -, h⟩
  · exact callers_of_previousField h
  rcases Outcome.bind_eq_error_iff.mp h with h | ⟨_, -, h⟩
  · exact callers_of_textField h
  rcases Outcome.bind_eq_error_iff.mp h with h | ⟨_, -, h⟩
  · exact callers_of_textField h
  · cases h

lemma asks_iff : r.Asks reads q ↔ (bodyOf r).bind generateRequest = .ok q ∧ q.check reads = .ok () := by
  rw [Outcome.bind_eq_ok_iff, GenerateRequest.check_eq_ok_iff]
  simp only [bodyOf_eq_ok_iff, generateRequest_eq_ok_iff]
  constructor
  · rintro ⟨holds, previous, url, prompt, address, base, spoken⟩
    exact ⟨⟨_, holds, previous, url, prompt⟩, ⟨_, address, base⟩, spoken⟩
  · rintro ⟨⟨v, holds, previous, url, prompt⟩, ⟨a, address, base⟩, spoken⟩
    exact .request holds previous url prompt address base spoken

end Service

namespace Agent

variable {σ : Type} {r : Incoming} {q : GenerateRequest}

lemma generate_unfit (h : r.Unfit reads) : ∃ f : Failure, f.isCallers = true ∧
    ∀ (agent : Agent) (settings : Settings), (agent.service reads settings).generate r = .done (.ofFailure f) := by
  cases hr : (Service.bodyOf r).bind Service.generateRequest with
  | error f =>
    refine ⟨f, ?_, fun agent settings => ?_⟩
    · rcases Outcome.bind_eq_error_iff.mp hr with hb | ⟨v, -, hg⟩
      · exact Service.callers_of_bodyOf hb
      · exact Service.callers_of_generateRequest hg
    · rw [Service.generate, hr]
  | ok q =>
    cases hc : q.check reads with
    | ok u => exact absurd h (Service.asks_iff.mpr ⟨hr, hc⟩).not_unfit
    | error f =>
      refine ⟨f, GenerateRequest.callers_of_check hc, fun agent settings => ?_⟩
      have ha : (agent.service reads settings).agent q = .done (.error f) :=
        congrArg Handling.ofExchange (agent.answer_unchecked hc)
      rw [Service.generate, hr]
      simp only [ha]
      rfl

lemma run_generate (h : r.Asks reads q) (agent : Agent) (settings : Settings) (world : World σ) (w : σ) :
    (((agent.service reads settings).generate r).run world w).1 =
      .ofOutcome GenerateResponse.encode ((agent.answer reads q).run world.model w).1 := by
  rw [Service.generate, (Service.asks_iff.mp h).1]
  change (((Handling.ofExchange (agent.answer reads q)).bind _).run world w).1 = _
  rw [Dialogue.run_bind, Handling.run_ofExchange]
  rfl

variable {contentType : Option String} {body : Text.Bytes}

lemma reply_unfit (h : (Incoming.post "/generate" contentType body).Unfit reads) :
    ∃ unfit : Reply, unfit.status = 400 ∧ ∀ (agent : Agent) (settings : Settings),
      (agent.service reads settings).respond (.post "/generate" contentType body) = .done unfit := by
  obtain ⟨f, hf, hg⟩ := generate_unfit h
  refine ⟨.ofFailure f, Reply.statusOf_of_callers hf, fun agent settings => ?_⟩
  rw [Service.respond_generate, hg]

def noScript : Reply := .json 502 (.object [("error", .text "Failed to generate script")])

lemma reply_fit (h : ¬(Incoming.post "/generate" contentType body).Unfit reads) (agent : Agent) (settings : Settings)
    (world : World σ) (w : σ) : ∃ q, (Incoming.post "/generate" contentType body).Asks reads q ∧
      ((∃ g, ((agent.answer reads q).run world.model w).1 = .ok g ∧ g.script.Valid ∧
        (agent.service reads settings).reply (.post "/generate" contentType body) world w = .json 200 g.encode) ∨
      ∃ why, ((agent.answer reads q).run world.model w).1 = .error (.generation why) ∧
        (agent.service reads settings).reply (.post "/generate" contentType body) world w = noScript) := by
  obtain ⟨q, hq⟩ := (Incoming.unfit_or_asks reads _).resolve_left h
  refine ⟨q, hq, ?_⟩
  rw [Service.reply, Service.respond_generate, run_generate hq]
  rcases agent.answer_checked (Service.asks_iff.mp hq).2 world.model w with ⟨g, hg, hs⟩ | ⟨why, hw⟩
  · rw [hg]
    exact .inl ⟨g, rfl, hs, rfl⟩
  · rw [hw]
    exact .inr ⟨why, rfl, rfl⟩

lemma status_fit (h : ¬(Incoming.post "/generate" contentType body).Unfit reads) (agent : Agent) (settings : Settings)
    (world : World σ) (w : σ) :
    ((agent.service reads settings).reply (.post "/generate" contentType body) world w).status = 200 ∨
      (agent.service reads settings).reply (.post "/generate" contentType body) world w = noScript := by
  obtain ⟨q, -, ⟨g, -, -, hg⟩ | ⟨why, -, hg⟩⟩ := reply_fit h agent settings world w
  · exact .inl (congrArg Reply.status hg)
  · exact .inr hg

/-- An unfit request is answered in the same way whatever agent there is, and no agent acts on it. Of any other request
the caller learns a valid script, or that there is none and nothing else. -/
theorem generate_reveals (reads : AddressReader) (agent : Agent) (settings : Settings) (contentType : Option String)
    (body : Text.Bytes) (world : World σ) (w : σ) :
    let r : Incoming := .post "/generate" contentType body
    let reply := (agent.service reads settings).reply r world w
    (reply.status = 400 ↔ r.Unfit reads) ∧
    (r.Unfit reads → ((agent.service reads settings).respond r).exchanges world w = [] ∧
      ∀ (agent' : Agent) (settings' : Settings) (τ : Type) (world' : World τ) (w' : τ),
        (agent'.service reads settings').reply r world' w' = reply) ∧
    (¬r.Unfit reads → ∃ q, r.Asks reads q ∧
      ((∃ g, ((agent.answer reads q).run world.model w).1 = .ok g ∧ g.script.Valid ∧ reply = .json 200 g.encode) ∨
        ∃ why, ((agent.answer reads q).run world.model w).1 = .error (.generation why) ∧
          reply = .json 502 (.object [("error", .text "Failed to generate script")]))) ∧
    (¬r.Unfit reads → reply.status ≠ 200 →
      ∀ (agent' : Agent) (settings' : Settings) (τ : Type) (world' : World τ) (w' : τ),
      ((agent'.service reads settings').reply r world' w').status ≠ 200 →
        (agent'.service reads settings').reply r world' w' = reply) := by
  intro r reply
  refine ⟨⟨fun h => ?_, fun h => ?_⟩, fun h => ?_, fun h => reply_fit h agent settings world w, fun h hr => ?_⟩
  · by_contra hn
    rcases status_fit hn agent settings world w with hs | hs
    · cases h.symm.trans hs
    · cases h.symm.trans (congrArg Reply.status hs)
  · obtain ⟨unfit, hs, hu⟩ := reply_unfit h
    exact (congrArg Reply.status (Service.reply_of_done (hu agent settings) world w)).trans hs
  · obtain ⟨unfit, -, hu⟩ := reply_unfit h
    refine ⟨Service.exchanges_of_done (hu agent settings) world w, fun agent' settings' τ world' w' => ?_⟩
    have hthis : reply = unfit := Service.reply_of_done (hu agent settings) world w
    rw [hthis]
    exact Service.reply_of_done (hu agent' settings') world' w'
  · intro agent' settings' τ world' w' hr'
    have hthis := (status_fit h agent settings world w).resolve_left hr
    have hother := (status_fit h agent' settings' world' w').resolve_left hr'
    exact hother.trans hthis.symm

end Agent

end Web

end BrowserCheck
