import BrowserCheck.Proofs.Cli.Reading
import BrowserCheck.Proofs.Json.Transport
import BrowserCheck.Proofs.Run.Recovery
import BrowserCheck.Proofs.Text.Encoding

set_option autoImplicit false

namespace BrowserCheck

open Json Web

inductive Web.Client.Accepts : Except NoAnswer Response → RunResult → Prop
  | reply {status : Nat} {body : Text.Bytes} {result : RunResult} (least : 200 ≤ status) (most : status < 300)
      (decodes : (Written.readBytes? body).bind RunResult.decode? = some result) :
      Accepts (.ok ⟨status, body⟩) result

lemma Web.Client.decode_eq_ok_iff {r : Except NoAnswer Response} {result : RunResult} :
    decode RunResult.decode? r = .ok result ↔ Accepts r result := by
  constructor
  · intro h
    cases r with
    | error e => cases h
    | ok reply =>
      rw [decode] at h
      split_ifs at h with hstatus
      rw [Status.isSuccess, Bool.and_eq_true, decide_eq_true_eq, decide_eq_true_eq] at hstatus
      cases decodes : (Written.readBytes? reply.body).bind RunResult.decode? with
      | none =>
        rw [decodes] at h
        cases h
      | some found =>
        rw [decodes] at h
        cases h
        exact .reply hstatus.1 hstatus.2 decodes
  · rintro ⟨least, most, decodes⟩
    have hstatus : Status.isSuccess _ = true := Bool.and_eq_true_iff.mpr ⟨decide_eq_true least, decide_eq_true most⟩
    rw [decode, if_pos hstatus, decodes]

lemma Web.Client.Accepts.inOrder {r : Except NoAnswer Response} {result : RunResult} (h : Accepts r result) :
    result.InOrder := by
  obtain ⟨-, -, decodes⟩ := h
  obtain ⟨w, -, hw⟩ := Option.bind_eq_some_iff.mp decodes
  exact RunResult.inOrder_of_decode? hw

namespace Cli

variable {σ : Type} {answer : (e : Effect) → σ → e.Answer × σ} {w w₂ : σ} {c : Client} {file : String}
  {dir : Option String} {script : Script} {r : Except NoAnswer Response} {result : RunResult} {s : Screen} {t : Trouble}

def asked (c : Client) (script : Script) : Attempt RunResult :=
  (Job.ofExchange (c.run script)).bind fun r => .done (r.mapError .plain)

def finalReport (s : Screen) (dir : Option String) (result : RunResult) (saved : Option Nat) : Report :=
  ⟨if result.passed then 0 else 1,
    match s.layout? with
    | none => printJson result.encode
    | some layout => savedLine dir saved ++ resultText s layout result,
    ""⟩

def showing (s : Screen) (dir : Option String) (result : RunResult) : Attempt Report :=
  (saveScreenshots dir result).andThen fun saved => .done (.ok (finalReport s dir result saved))

lemma run_eq (s : Screen) (c : Client) (file : String) (dir : Option String) :
    run s c file dir = (loadScript file).andThen fun script => (asked c script).andThen (showing s dir) := rfl

structure Received (answer : (e : Effect) → σ → e.Answer × σ) (c : Client) (file : String) (w : σ) (script : Script)
    (r : Except NoAnswer Response) (w₂ : σ) : Prop where
  loaded : Loads answer w file script
  heard : answer (.request (c.runRequest script)) ((loadScript file).run answer w).2 = (r, w₂)

lemma run_asked {w₁ : σ} (h : answer (.request (c.runRequest script)) w₁ = (r, w₂)) :
    (asked c script).run answer w₁ = ((Client.decode RunResult.decode? r).mapError .plain, w₂) := by
  change ((Client.decode RunResult.decode? (answer (.request _) w₁).1).mapError _, (answer _ w₁).2) = _
  rw [h]

lemma exchanges_asked {w₁ : σ} (h : answer (.request (c.runRequest script)) w₁ = (r, w₂)) :
    (asked c script).exchanges answer w₁ = [⟨.request (c.runRequest script), r⟩] := by
  change [(⟨_, (answer (.request _) w₁).1⟩ : (e : Effect) × e.Answer)] = _
  rw [h]

lemma run_unread (h : ∀ script, ¬Loads answer w file script) :
    (∃ t, ((run s c file dir).run answer w).1 = .error t) ∧
      (run s c file dir).exchanges answer w = (loadScript file).exchanges answer w := by
  cases hload : ((loadScript file).run answer w).1 with
  | ok script => exact absurd (run_loadScript_eq_ok_iff.mp hload) (h script)
  | error t =>
    rw [run_eq]
    exact ⟨⟨t, Dialogue.run_andThen_error hload⟩, Dialogue.exchanges_andThen_error hload⟩

namespace Received

variable (h : Received answer c file w script r w₂)

include h

lemma refused (hnone : ∀ result, ¬Client.Accepts r result) : (∃ t, ((run s c file dir).run answer w).1 = .error t) ∧
    (run s c file dir).exchanges answer w =
      (loadScript file).exchanges answer w ++ [⟨.request (c.runRequest script), r⟩] := by
  have hload := run_loadScript_eq_ok_iff.mpr h.loaded
  have hasked := run_asked h.heard
  rw [run_eq, Dialogue.run_andThen_ok hload, Dialogue.exchanges_andThen_ok hload, ← exchanges_asked h.heard]
  cases hd : Client.decode RunResult.decode? r with
  | ok result => exact absurd (Client.decode_eq_ok_iff.mp hd) (hnone result)
  | error m =>
    rw [hd] at hasked
    have herror := congrArg Prod.fst hasked
    exact ⟨⟨_, Dialogue.run_andThen_error herror⟩, congrArg _ (Dialogue.exchanges_andThen_error herror)⟩

lemma accepted (hr : Client.Accepts r result) :
    ((run s c file dir).run answer w).1 =
      ((saveScreenshots dir result).run answer w₂).1.map (finalReport s dir result) ∧
    (run s c file dir).exchanges answer w = (loadScript file).exchanges answer w ++
      ⟨.request (c.runRequest script), r⟩ :: (saveScreenshots dir result).exchanges answer w₂ := by
  have hload := run_loadScript_eq_ok_iff.mpr h.loaded
  have hasked := run_asked h.heard
  rw [Client.decode_eq_ok_iff.mpr hr] at hasked
  have hok := congrArg Prod.fst hasked
  rw [run_eq, Dialogue.run_andThen_ok hload, Dialogue.exchanges_andThen_ok hload, Dialogue.run_andThen_ok hok,
    Dialogue.exchanges_andThen_ok hok, exchanges_asked h.heard, hasked, showing]
  cases hsave : ((saveScreenshots dir result).run answer w₂).1 with
  | error t =>
    rw [Dialogue.run_andThen_error hsave, Dialogue.exchanges_andThen_error hsave]
    exact ⟨rfl, rfl⟩
  | ok saved =>
    rw [Dialogue.run_andThen_ok hsave, Dialogue.exchanges_andThen_ok hsave]
    exact ⟨rfl, congrArg _ (congrArg _ (List.append_nil _))⟩

end Received

def saving (answer : (e : Effect) → σ → e.Answer × σ) (w : σ) :
    Option String → Option Trace → List ((e : Effect) × e.Answer)
  | some dir, some t => (Job.ofAccess (Screenshots.saveTrace t dir)).exchanges answer w
  | _, _ => []

lemma saveScreenshots_cases (dir : Option String) (result : RunResult) (w : σ) :
    (saveScreenshots dir result).exchanges answer w = saving answer w dir result.trace ∧
    ((∃ saved, ((saveScreenshots dir result).run answer w).1 = .ok saved) ↔
      ∀ d t, dir = some d → result.trace = some t →
        ∃ paths, ((Job.ofAccess (Screenshots.saveTrace t d)).run answer w).1 = .ok paths) := by
  rw [saveScreenshots.eq_def]
  cases dir with
  | none => exact ⟨rfl, iff_of_true ⟨none, rfl⟩ nofun⟩
  | some d =>
    cases result.trace with
    | none => exact ⟨rfl, iff_of_true ⟨none, rfl⟩ nofun⟩
    | some t =>
      dsimp only
      cases hsave : ((Job.ofAccess (Screenshots.saveTrace t d)).run answer w).1 with
      | error e =>
        refine ⟨Dialogue.exchanges_andThen_error hsave, iff_of_false ?_ fun h => ?_⟩
        · rw [Dialogue.run_andThen_error hsave]
          nofun
        · obtain ⟨paths, hpaths⟩ := h d t rfl rfl
          cases hsave.symm.trans hpaths
      | ok paths =>
        refine ⟨(Dialogue.exchanges_andThen_ok hsave).trans (List.append_nil _), iff_of_true ?_ ?_⟩
        · rw [Dialogue.run_andThen_ok hsave]
          exact ⟨_, rfl⟩
        · rintro _ _ ⟨⟩ ⟨⟩
          exact ⟨paths, hsave⟩

lemma exchanges_concluded (d : Attempt Report) (w : σ) : (concluded d).exchanges answer w = d.exchanges answer w := by
  rw [concluded, Dialogue.exchanges_bind]
  cases (d.run answer w).1 with
  | ok report => exact List.append_nil _
  | error t => exact List.append_nil _

lemma log_run (answer : (e : Effect) → σ → e.Answer × σ) (s : Screen) (c : Client) (file : String) (dir : Option String)
    (w : σ) : ∃ reading : (e : Effect) × e.Answer, (reading.1 = .input ∨ reading.1 = .file (.read file)) ∧
      ((∀ script, ¬Loads answer w file script) → (concluded (run s c file dir)).exchanges answer w = [reading]) ∧
      ∀ script r w₂, Received answer c file w script r w₂ →
        ((∀ result, ¬Client.Accepts r result) →
          (concluded (run s c file dir)).exchanges answer w = [reading, ⟨.request (c.runRequest script), r⟩]) ∧
        ∀ result, Client.Accepts r result → (concluded (run s c file dir)).exchanges answer w =
          reading :: ⟨.request (c.runRequest script), r⟩ :: saving answer w₂ dir result.trace := by
  obtain ⟨reading, hreading, hkind⟩ := exchanges_loadScript answer w file
  rw [exchanges_concluded]
  refine ⟨reading, hkind, fun h => ?_, fun script r w₂ received => ⟨fun hr => ?_, fun result hr => ?_⟩⟩
  · rw [(run_unread h).2, hreading]
  · rw [(received.refused hr).2, hreading]
    rfl
  · rw [(received.accepted hr).2, hreading, (saveScreenshots_cases dir result w₂).1]
    rfl

def passing : Trace := ⟨0, 1, 1, true, none, [⟨0, "goto", "", 0, "/w==", ""⟩]⟩

def finished (exitCode : Int32) (spotlight : Option (List Event)) : RunResult :=
  ⟨exitCode, "", "", some passing, spotlight⟩

end Cli

end BrowserCheck
