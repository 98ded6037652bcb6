import BrowserCheck.Generation.Agent
import BrowserCheck.Proofs.Dialogue
import BrowserCheck.Proofs.Script.RoundTrip
import Mathlib.Data.List.DropRight

set_option autoImplicit false

/-! How asking for a script can end. The check blames the caller, everything behind it is a failure to generate, and a
script that comes back is valid. -/

namespace BrowserCheck

open Json

namespace Text

def AllBlank (s : String) : Prop := ∀ c ∈ s.toList, isBlank c = true

lemma trim_eq_nil_iff {s : List Char} : trim s = [] ↔ ∀ c ∈ s, isBlank c = true := by
  rw [trim, trimEnd, trimStart, List.reverse_eq_nil_iff, List.dropWhile_eq_nil_iff]
  simp only [List.mem_reverse]
  rw [← List.dropWhile_eq_nil_iff, List.dropWhile_idempotent, List.dropWhile_eq_nil_iff]

lemma isEmpty_trimBlank_iff {s : String} : s.trimBlank.isEmpty = true ↔ AllBlank s := by
  rw [AllBlank, ← trim_eq_nil_iff, String.trimBlank, String.isEmpty_iff, String.ofList_eq_empty_iff]

end Text

namespace GenerateRequest

variable {reads : Web.AddressReader} {q : GenerateRequest} {f : Failure}

lemma check_eq_ok_iff : q.check reads = .ok () ↔
    (∃ a, reads q.url = .ok a ∧ a.canBeBase = true) ∧ ¬Text.AllBlank q.prompt := by
  rw [check]
  cases ha : reads q.url with
  | error e => simp
  | ok a =>
    by_cases hb : a.canBeBase = true
    · by_cases hp : q.prompt.trimBlank.isEmpty = true <;> simp_all [← Text.isEmpty_trimBlank_iff]
    · simp [hb]

lemma callers_of_check (h : q.check reads = .error f) : f.isCallers = true := by
  rw [check] at h
  split at h
  · cases h
    rfl
  · split_ifs at h
    all_goals
      cases h
      rfl

end GenerateRequest

namespace Generation

lemma submission_error {body : Value} {f : Failure} (h : submission body = .error f) : ∃ why, f = .generation why := by
  rw [submission] at h
  split at h
  · exact ⟨_, (Except.error.inj h).symm⟩
  · split at h
    · exact ⟨_, (Except.error.inj h).symm⟩
    · cases h

lemma answerOf_error {input : Value} {f : Failure} (h : answerOf input = .error f) : ∃ why, f = .generation why := by
  rw [answerOf] at h
  split at h
  · exact ⟨_, (Except.error.inj h).symm⟩
  · split at h
    · exact ⟨_, (Except.error.inj h).symm⟩
    · cases h

lemma readReply_error {body : Value} {f : Failure} (h : readReply body = .error f) : ∃ why, f = .generation why := by
  rcases Outcome.bind_eq_error_iff.mp h with h | ⟨input, -, h⟩
  · exact submission_error h
  · exact answerOf_error h

lemma valid_of_readReply {body : Value} {g : GenerateResponse} (h : readReply body = .ok g) : g.script.Valid := by
  obtain ⟨input, -, h⟩ := Outcome.bind_eq_ok_iff.mp h
  rw [answerOf] at h
  split at h
  · cases h
  · split at h
    · cases h
    next hc =>
      cases h
      exact Script.valid_of_describes (Script.describes_of_check hc)

lemma bodyOf_error {a : Except Web.NoAnswer Web.Response} {f : Failure} (h : bodyOf a = .error f) :
    ∃ why, f = .generation why := by
  cases a with
  | error e => exact ⟨_, (Except.error.inj h).symm⟩
  | ok r =>
    rw [bodyOf.eq_def] at h
    dsimp only at h
    split at h
    · split at h
      · cases h
      · exact ⟨_, (Except.error.inj h).symm⟩
    · exact ⟨_, (Except.error.inj h).symm⟩

variable {σ : Type} (answer : Web.Request → σ → Except Web.NoAnswer Web.Response × σ)

lemma converse_error (c : ModelSettings) (key : String) {left : Nat} {turns : List Turn} {w : σ} {f : Failure}
    (h : ((converse c key turns left).run answer w).1 = .error f) : ∃ why, f = .generation why := by
  induction left generalizing turns w with
  | zero => exact bodyOf_error h
  | succ left ih =>
    rw [converse] at h
    cases hs : ((send c key turns).run answer w).1 with
    | error e =>
      rw [Dialogue.run_andThen_error hs] at h
      cases h
      exact bodyOf_error hs
    | ok body =>
      rw [Dialogue.run_andThen_ok hs] at h
      split at h
      · exact ih h
      · cases h

end Generation

end BrowserCheck
