import BrowserCheck.Proofs.Web.Disclosure
import BrowserCheck.Proofs.Web.Responses

set_option autoImplicit false

namespace BrowserCheck

open Json

lemma Action.encode_distinct (a : Action) : a.encode.Distinct := by
  cases a with
  | goTo url => exact .object (by simp) (by simp [Value.Distinct.text])
  | click selector => exact .object (by simp) (by simp [Value.Distinct.text])
  | sleep milliseconds => exact .object (by simp) (by simp [Value.Distinct.text, Value.Distinct.number, Value.ofNat])

lemma Script.encode_distinct (s : Script) : s.encode.Distinct := by
  have hactions : (Value.array (s.actions.map Action.encode)).Distinct := .array (by simp [Action.encode_distinct])
  exact .object (by simp) (by simp [Value.Distinct.text, hactions])

namespace GenerateResponse

variable (g : GenerateResponse)

lemma encode_distinct : g.encode.Distinct := .object (by simp) (by simp [Value.Distinct.text, Script.encode_distinct])

lemma encode_fits : g.encode.fits Reader.depthLimit :=
  ⟨by decide, trivial, g.script.encode_fits (by decide), trivial⟩

end GenerateResponse

namespace Web

namespace Reply

def heard (r : Reply) : Except NoAnswer Response := .ok ⟨r.status, Text.encode r.body⟩

end Reply

lemma Client.decode_ok {α : Type} {d : Decoder α} {r : Response} {w : Written} {a : α}
    (hstatus : Status.isSuccess r.status = true) (hread : Written.readBytes? r.body = some w) (hd : d w = some a) :
    decode d (.ok r) = .ok a := by
  unfold decode
  dsimp only
  rw [if_pos hstatus, hread, Option.bind_some, hd]

lemma Client.decode_generated (g : GenerateResponse) :
    decode GenerateResponse.decode? (Reply.json 200 g.encode).heard = .ok g := by
  refine decode_ok rfl ?_ (g.recovers _ g.encode_distinct rfl)
  rw [Reply.json, Written.readBytes?_encode, Value.toText, String.toList_ofList, read?_compact g.encode_fits]

variable {reads : AddressReader} {q : GenerateRequest} {σ : Type}

lemma Incoming.asks_sent (hchecked : q.check reads = .ok ()) (hprevious : ∀ s, q.previousScript = some s → s.Valid)
    (hshort : (Text.encode q.encode.toText).length ≤ Service.bodyLimit) :
    (Incoming.post "/generate" (some "application/json") (Text.encode q.encode.toText)).Asks reads q := by
  have hjson : ContentType.isJson "application/json" = true := by decide +kernel
  have hread : Value.readFirst? (Text.beginning (Text.encode q.encode.toText)) = some q.encode.sort := by
    rw [Text.beginning_encode, Value.readFirst?_toText q.encode_fits]
  have hbody : Service.bodyOf (.post "/generate" (some "application/json") (Text.encode q.encode.toText)) =
      .ok q.encode.sort :=
    Service.bodyOf_eq_ok_iff.mpr ⟨⟨_, rfl, hjson⟩, hshort, hread⟩
  refine Service.asks_iff.mpr ⟨?_, hchecked⟩
  rw [hbody]
  exact Service.generateRequest_sent hprevious

namespace Agent

variable {c : Generation.ModelSettings} {key : String} {g : GenerateResponse}

lemma checked_of_generated {world : Request → σ → Except NoAnswer Response × σ} {w : σ}
    (h : ((Generation.generate reads c key q).run world w).1 = .ok g) : q.check reads = .ok () := by
  rw [Generation.generate] at h
  split at h
  · cases h
  · next hc => exact hc

lemma valid_of_generated {world : Request → σ → Except NoAnswer Response × σ} {w : σ}
    (h : ((Generation.generate reads c key q).run world w).1 = .ok g) : g.script.Valid := by
  rcases (Agent.model c key).answer_checked (checked_of_generated h) world w with ⟨g', hg, hvalid⟩ | ⟨why, hw⟩
  · rw [answer, h] at hg
    cases hg
    exact hvalid
  · rw [answer, h] at hw
    cases hw

lemma reply_generated {contentType : Option String} {body : Text.Bytes}
    (hasks : (Incoming.post "/generate" contentType body).Asks reads q) {world : World σ} {w : σ}
    (h : ((Generation.generate reads c key q).run world.model w).1 = .ok g) (settings : Settings) :
    ((Agent.model c key).service reads settings).reply (.post "/generate" contentType body) world w =
      .json 200 g.encode := by
  rw [Service.reply, Service.respond_generate, run_generate hasks, answer, h]
  rfl

end Agent

end Web

end BrowserCheck
