import BrowserCheck.Proofs.Json.Transport
import BrowserCheck.Proofs.Script.RoundTrip
import BrowserCheck.Web.Client
import BrowserCheck.Web.Service

set_option autoImplicit false

namespace BrowserCheck

open Json

lemma Action.encode_fits (a : Action) {room : Nat} (h : 0 < room) : a.encode.fits room := by
  cases a with
  | goTo url => exact ⟨h, trivial, trivial, trivial⟩
  | click selector => exact ⟨h, trivial, trivial, trivial⟩
  | sleep milliseconds =>
    have hm := milliseconds.toNat_lt
    refine ⟨h, trivial, ⟨?_, ?_⟩, trivial⟩
    all_goals omega

lemma Script.encode_fits (s : Script) {room : Nat} (h : 2 < room) : s.encode.fits room := by
  have ha : fitItems (room - 1 - 1) (s.actions.map Action.encode) := fitItems_map (fun a => a.encode_fits (by omega)) _
  exact ⟨by omega, trivial, ⟨by omega, ha⟩, trivial⟩

lemma Script.toValue_fits (s : Script) : s.toValue.fits Reader.depthLimit := fits_sort _ (s.encode_fits (by decide))

namespace GenerateRequest

lemma encode_fits (r : GenerateRequest) : r.encode.fits Reader.depthLimit := by
  obtain ⟨url, prompt, previous⟩ := r
  cases previous with
  | none => exact ⟨by decide, trivial, trivial, trivial⟩
  | some s => exact ⟨by decide, trivial, trivial, s.encode_fits (by decide), trivial⟩

lemma get?_sent (r : GenerateRequest) : r.encode.sort.get? "url" = some (.text r.url) ∧
    r.encode.sort.get? "prompt" = some (.text r.prompt) ∧
    r.encode.sort.get? "previousScript" = r.previousScript.map Script.toValue := by
  obtain ⟨url, prompt, previous⟩ := r
  have hn : (([("url", .text url), ("prompt", .text prompt)] ++
      (previous.map fun s => ("previousScript", s.encode)).toList : Fields).map Prod.fst).Nodup := by
    cases previous <;> simp
  rw [encode, Value.sort_object]
  simp only [Value.get?, Value.get?_sorted hn]
  cases previous <;> exact ⟨rfl, rfl, rfl⟩

end GenerateRequest

namespace Web

namespace Service

variable {body : Value} {s : Script}

lemma checkScript_of_valid (h : s.Valid) : checkScript s.toValue = .ok s := by
  rw [checkScript, Script.check_toValue_of_valid h]
  rfl

lemma checkScript_of_not_valid (h : ¬s.Valid) : ∃ e, checkScript s.toValue = .error (.invalidScript e) := by
  obtain ⟨e, he⟩ := Script.check_toValue_of_not_valid h
  refine ⟨e, ?_⟩
  rw [checkScript, he]
  rfl

lemma previousField_toValue (h : body.get? "previousScript" = some s.toValue) :
    previousField body = (checkScript s.toValue).map some := by
  obtain ⟨fields, he, -, -⟩ := s.exists_fields
  rw [previousField, h, he]

lemma generateRequest_ok {r : GenerateRequest} (hprevious : previousField body = .ok r.previousScript)
    (hurl : body.get? "url" = some (.text r.url)) (hprompt : body.get? "prompt" = some (.text r.prompt)) :
    generateRequest body = .ok r := by
  rw [generateRequest, textField, textField, hprevious, hurl, hprompt]
  rfl

lemma generateRequest_sent {r : GenerateRequest} (h : ∀ s, r.previousScript = some s → s.Valid) :
    generateRequest r.encode.sort = .ok r := by
  obtain ⟨hurl, hprompt, hprevious⟩ := r.get?_sent
  refine generateRequest_ok ?_ hurl hprompt
  cases hr : r.previousScript with
  | none =>
    rw [hr] at hprevious
    rw [previousField, hprevious]
    rfl
  | some s =>
    rw [hr] at hprevious
    rw [previousField_toValue hprevious, checkScript_of_valid (h s hr)]
    rfl

lemma generateRequest_refused {r : GenerateRequest} (hr : r.previousScript = some s) (h : ¬s.Valid) :
    ∃ e, generateRequest r.encode.sort = .error (.invalidScript e) := by
  obtain ⟨-, -, hprevious⟩ := r.get?_sent
  obtain ⟨e, he⟩ := checkScript_of_not_valid h
  rw [hr] at hprevious
  refine ⟨e, ?_⟩
  rw [generateRequest, previousField_toValue hprevious, he]
  rfl

end Service

namespace Client

/-- A request is read as what was asked, with the script that it carries if that is valid. Otherwise the caller is told
that the request was at fault. -/
theorem requests_arrive (c : Client) :
    (∀ r : GenerateRequest, ∃ sent, (c.generateRequest r).body = some sent ∧
      Value.readFirst? sent.toText = some r.encode.sort ∧
      ((∀ s, r.previousScript = some s → s.Valid) → Service.generateRequest r.encode.sort = .ok r) ∧
      ∀ s, r.previousScript = some s → ¬s.Valid → ∃ f, Service.generateRequest r.encode.sort = .error f ∧
        f.isCallers = true ∧ Reply.statusOf f = 400) ∧
    ∀ s : Script, ∃ sent, (c.runRequest s).body = some sent ∧
      Value.readFirst? sent.toText = some (.object [("script", s.toValue)]) ∧
      (s.Valid → Service.scriptField (.object [("script", s.toValue)]) = .ok s) ∧
      (¬s.Valid → ∃ f, Service.scriptField (.object [("script", s.toValue)]) = .error f ∧
        f.isCallers = true ∧ Reply.statusOf f = 400) := by
  refine ⟨fun r => ⟨r.encode, rfl, Value.readFirst?_toText r.encode_fits, Service.generateRequest_sent, ?_⟩,
    fun s => ?_⟩
  · intro s hr h
    obtain ⟨e, he⟩ := Service.generateRequest_refused hr h
    exact ⟨_, he, rfl, rfl⟩
  · have hfits : (Value.object [("script", s.encode)]).fits Reader.depthLimit :=
      ⟨by decide, s.encode_fits (by decide), trivial⟩
    refine ⟨_, rfl, Value.readFirst?_toText hfits, Service.checkScript_of_valid, fun h => ?_⟩
    obtain ⟨e, he⟩ := Service.checkScript_of_not_valid h
    exact ⟨_, he, rfl, rfl⟩

theorem requests_arrive_longest_sleep :
    Script.Valid ⟨"1.0.0", [.goTo "about:blank", .sleep 9007199254740991]⟩ ∧
    Service.generateRequest (GenerateRequest.encode ⟨"", "", some ⟨"1.0.0", [.goTo "about:blank",
      .sleep 9007199254740991]⟩⟩).sort = .ok ⟨"", "", some ⟨"1.0.0", [.goTo "about:blank", .sleep 9007199254740991]⟩⟩ ∧
    ¬Script.Valid ⟨"1.0.0", [.sleep 9007199254740992]⟩ ∧
    ∃ f, Service.scriptField (.object [("script", Script.toValue ⟨"1.0.0", [.sleep 9007199254740992]⟩)]) = .error f ∧
      f.isCallers = true ∧ Reply.statusOf f = 400 := by
  have hshort : Script.Valid ⟨"1.0.0", [.goTo "about:blank", .sleep 9007199254740991]⟩ := ⟨rfl, by simp⟩
  have hlong : ¬Script.Valid ⟨"1.0.0", [.sleep 9007199254740992]⟩ := fun h =>
    absurd (h.sleeps _ List.mem_cons_self) (by decide)
  obtain ⟨hgenerate, hrun⟩ := requests_arrive ⟨"http://localhost:8080"⟩
  obtain ⟨_, -, -, hok, -⟩ := hgenerate ⟨"", "", some ⟨"1.0.0", [.goTo "about:blank", .sleep 9007199254740991]⟩⟩
  obtain ⟨_, -, -, -, hrefused⟩ := hrun ⟨"1.0.0", [.sleep 9007199254740992]⟩
  refine ⟨hshort, hok fun s hs => ?_, hlong, hrefused hlong⟩
  cases hs
  exact hshort

end Client

end Web

end BrowserCheck
