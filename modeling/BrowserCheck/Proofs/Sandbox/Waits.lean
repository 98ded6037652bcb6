import BrowserCheck.Proofs.Sandbox.Course
import Mathlib.Data.List.Range
import Mathlib.Order.MinMax

set_option autoImplicit false

namespace BrowserCheck.Sandbox

lemma toNat_greatestWord : greatestWord.toNat = 2 ^ 64 - 1 := rfl

lemma toNat_saturatingMul (a b : UInt64) : (saturatingMul a b).toNat = min (a.toNat * b.toNat) (2 ^ 64 - 1) := by
  rw [saturatingMul]
  split
  · rw [UInt64.toNat_mul, Nat.mod_eq_of_lt ‹_›]
    omega
  · rw [toNat_greatestWord]
    omega

lemma toNat_saturatingPower (k : UInt32) : (saturatingPower k).toNat = min (2 ^ k.toNat) (2 ^ 64 - 1) := by
  rw [saturatingPower]
  split
  next h =>
    have hk : k.toNat < 64 := h
    have hpow : 2 ^ k.toNat < 2 ^ 64 := Nat.pow_lt_pow_right (by decide) hk
    rw [UInt64.toNat_shiftLeft, UInt32.toNat_toUInt64, Nat.mod_eq_of_lt hk, UInt64.toNat_one, Nat.shiftLeft_eq,
      Nat.one_mul, Nat.mod_eq_of_lt hpow]
    omega
  next h =>
    have hk : 64 ≤ k.toNat := Nat.not_lt.mp h
    have hpow : 2 ^ 64 ≤ 2 ^ k.toNat := Nat.pow_le_pow_right (by decide) hk
    rw [toNat_greatestWord]
    omega

lemma min_mul_min (a p m : Nat) : min (a * min p m) m = min (a * p) m := by
  rcases Nat.le_total p m with h | h
  · rw [Nat.min_eq_left h]
  · -- the factor was cut off, and the product is nought or beyond the bound all the same
    rw [Nat.min_eq_right h]
    cases a with
    | zero => simp
    | succ a =>
      have hm : m ≤ (a + 1) * m := Nat.le_mul_of_pos_left m a.succ_pos
      have hp : m ≤ (a + 1) * p := hm.trans (Nat.mul_le_mul_left _ h)
      rw [Nat.min_eq_right hm, Nat.min_eq_right hp]

namespace Backoff

lemma toNat_delayAfter (b : Backoff) (attempt : UInt32) :
    (b.delayAfter attempt).toNat = min (b.initialDelayMs.toNat * 2 ^ (max attempt.toNat 1 - 1)) (2 ^ 64 - 1) := by
  have hpred : (if attempt = 0 then 0 else attempt - 1).toNat = max attempt.toNat 1 - 1 := by
    split
    next h => simp [h]
    next h =>
      have hpos : 1 ≤ attempt := by
        apply UInt32.le_iff_toNat_le.mpr
        have hne : attempt.toNat ≠ 0 := fun h0 => h (UInt32.toNat_inj.mp h0)
        exact Nat.one_le_iff_ne_zero.mpr hne
      rw [UInt32.toNat_sub_of_le _ _ hpos, UInt32.toNat_one]
      have hle : 1 ≤ attempt.toNat := UInt32.le_iff_toNat_le.mp hpos
      omega
  rw [delayAfter, toNat_saturatingMul, toNat_saturatingPower, hpred, min_mul_min]

lemma delayAfter_mono (b : Backoff) {first second : UInt32} (h : first ≤ second) :
    b.delayAfter first ≤ b.delayAfter second := by
  have hle : first.toNat ≤ second.toNat := UInt32.le_iff_toNat_le.mp h
  have hpow : 2 ^ (max first.toNat 1 - 1) ≤ 2 ^ (max second.toNat 1 - 1) :=
    Nat.pow_le_pow_right (by decide) (by omega)
  apply UInt64.le_iff_toNat_le.mpr
  rw [toNat_delayAfter, toNat_delayAfter]
  exact min_le_min_right _ (Nat.mul_le_mul_left _ hpow)

lemma attempts_lt (b : Backoff) : b.attempts < 2 ^ 32 :=
  max_lt (by decide) b.maxAttempts.toNat_lt

def delays (b : Backoff) (attempt count : Nat) : List UInt64 :=
  (List.range count).map fun k => b.delayAfter (attempt + k).toUInt32

lemma delays_succ (b : Backoff) (attempt count : Nat) :
    b.delays attempt (count + 1) = b.delayAfter attempt.toUInt32 :: b.delays (attempt + 1) count := by
  rw [delays, delays, List.range_succ_eq_map, List.map_cons, List.map_map]
  simp [Function.comp_def, Nat.add_assoc, Nat.add_comm 1]

lemma toNat_delays (b : Backoff) {count : Nat} (h : count < 2 ^ 32) : (b.delays 1 count).map UInt64.toNat =
    (List.range count).map fun k => min (b.initialDelayMs.toNat * 2 ^ k) (2 ^ 64 - 1) := by
  rw [delays, List.map_map]
  apply List.map_congr_left
  intro k hk
  have hlt : k < count := List.mem_range.mp hk
  have hbound : 1 + k < 2 ^ 32 := by omega
  have hword : (1 + k).toUInt32.toNat = 1 + k := UInt32.toNat_ofNat_of_lt' hbound
  have hexp : max (1 + k) 1 - 1 = k := by omega
  rw [Function.comp_apply, toNat_delayAfter, hword, hexp]

end Backoff

variable {α σ : Type} (answer : (c : Call) → σ → c.Answer × σ)

def Call.isPause : Call → Bool
  | .pause _ => true
  | .acquire _ | .exec _ | .write _ _ => false

namespace Session

def asked (d : Session α) (w : σ) : List Call := (d.exchanges answer w).map Sigma.fst

lemma length_log (d : Session α) (w : σ) :
    (Session.log answer d w).length = (Session.asked answer d w).countP (!·.isPause) := by
  rw [log, ← List.countP_eq_length_filter, asked, List.countP_map]
  congr 1
  funext e
  obtain ⟨c, r⟩ := e
  cases c <;> rfl

end Session

namespace Gateway

variable (g : Gateway)

def polling (waits : List UInt64) : List Call :=
  .exec g.healthCheckCommand :: waits.flatMap fun d => [.pause d, .exec g.healthCheckCommand]

lemma countP_polling (waits : List UInt64) : (g.polling waits).countP (!·.isPause) = waits.length + 1 := by
  induction waits with
  | nil => simp [polling, Call.isPause]
  | cons d waits ih =>
    have hrest : (g.polling (d :: waits)).countP (!·.isPause) = 1 + (g.polling waits).countP (!·.isPause) := by
      simp [polling, Call.isPause]
      omega
    rw [hrest, ih, List.length_cons]
    omega

lemma awaitBrowser_asked (sandbox : Handle) (left attempt : Nat) (lastError : String) (w : σ) : ∃ count ≤ left,
    Session.asked answer (g.awaitBrowser sandbox attempt lastError (left + 1)) w =
      g.polling (g.backoff.delays attempt count) := by
  -- on the checks that are left, from any attempt and any state of the world
  induction left generalizing attempt lastError w with
  | zero =>
    refine ⟨0, le_rfl, ?_⟩
    rw [awaitBrowser, Session.asked, Dialogue.exchanges]
    split <;> simp [awaitBrowser, Dialogue.exchanges, polling, Backoff.delays]
  | succ left ih =>
    cases hhealth : health (answer (.exec g.healthCheckCommand) w).1 with
    | ok target =>
      refine ⟨0, Nat.zero_le _, ?_⟩
      simp only [awaitBrowser, Session.asked, Dialogue.exchanges, hhealth]
      rfl
    | error reason =>
      let checked := (answer (.exec g.healthCheckCommand) w).2
      let paused := (answer (.pause (g.backoff.delayAfter attempt.toUInt32)) checked).2
      obtain ⟨count, hle, hasked⟩ := ih (attempt + 1) reason paused
      refine ⟨count + 1, Nat.succ_le_succ hle, ?_⟩
      have hstep : Session.asked answer (g.awaitBrowser sandbox attempt lastError (left + 1 + 1)) w =
          .exec g.healthCheckCommand :: .pause (g.backoff.delayAfter attempt.toUInt32) ::
            Session.asked answer (g.awaitBrowser sandbox (attempt + 1) reason (left + 1)) paused := by
        rw [awaitBrowser, Session.asked, Dialogue.exchanges]
        simp only [hhealth, if_neg (Nat.succ_ne_zero left)]
        rfl
      rw [hstep, hasked, Backoff.delays_succ]
      rfl

lemma Checks.stops {left : Nat} {before : String} {checks : List (Outcome RawOutput)} {result : Except String String}
    (h : Checks left before checks result) : (∀ r ∈ checks.dropLast, ∀ target, ¬Finds r target) ∧
      (checks.length = left ∨ ∃ last ∈ checks.getLast?, ∃ target, Finds last target) := by
  cases result with
  | ok target =>
    obtain ⟨failed, last, rfl, -, hn, hfound⟩ := h.of_ok
    refine ⟨?_, .inr ⟨last, by simp, target, hfound⟩⟩
    simpa using hn
  | error reason =>
    obtain ⟨hlen, hn, -⟩ := h.of_error
    exact ⟨fun r hr => hn r (List.dropLast_subset _ hr), .inl hlen⟩

/-- The checks go on while they fail and attempts are left. Between two of them there is one wait, and none behind the
last. The first wait is the initial delay, and each is twice as long as the one before, unless that is more than a word
can hold. -/
theorem awaitBrowser_waits (sandbox : Handle) (w : σ) :
    (∃ (checks : List (Outcome RawOutput)) (waits : List UInt64),
      Session.log answer (g.awaitBrowser sandbox 1 "" g.backoff.attempts) w =
        checks.map (.exec g.healthCheckCommand) ∧
      (∀ r ∈ checks.dropLast, ∀ target, ¬Finds r target) ∧
      (checks.length = max g.backoff.maxAttempts.toNat 1 ∨ ∃ last ∈ checks.getLast?, ∃ target, Finds last target) ∧
      Session.asked answer (g.awaitBrowser sandbox 1 "" g.backoff.attempts) w =
        .exec g.healthCheckCommand :: waits.flatMap (fun d => [.pause d, .exec g.healthCheckCommand]) ∧
      checks.length = waits.length + 1 ∧
      waits.map UInt64.toNat =
        (List.range waits.length).map fun k => min (g.backoff.initialDelayMs.toNat * 2 ^ k) (2 ^ 64 - 1)) ∧
    (∀ (b : Backoff) (attempt : UInt32), (b.delayAfter attempt).toNat =
      min (b.initialDelayMs.toNat * 2 ^ (max attempt.toNat 1 - 1)) (2 ^ 64 - 1)) ∧
    ∀ (b : Backoff) (first second : UInt32), first ≤ second → b.delayAfter first ≤ b.delayAfter second := by
  refine ⟨?_, Backoff.toNat_delayAfter, fun b first second => b.delayAfter_mono⟩
  obtain ⟨checks, result, hchecks, hlog, -⟩ :=
    @awaitBrowser_checks σ answer g sandbox g.backoff.attempts 1 "" w
  obtain ⟨hfailed, hstop⟩ := hchecks.stops
  have hpos : 0 < g.backoff.attempts := Nat.lt_of_lt_of_le Nat.one_pos (Nat.le_max_left _ _)
  obtain ⟨left, hleft⟩ := Nat.exists_eq_add_one.mpr hpos
  obtain ⟨count, hle, hasked⟩ := awaitBrowser_asked answer g sandbox left 1 "" w
  rw [← hleft] at hasked
  have hwaits : (g.backoff.delays 1 count).length = count := by simp [Backoff.delays]
  have hlt := g.backoff.attempts_lt
  refine ⟨checks, g.backoff.delays 1 count, hlog, hfailed, ?_, hasked, ?_, ?_⟩
  · rwa [Nat.max_comm]
  · rw [← countP_polling g, ← hasked, ← Session.length_log, hlog, List.length_map]
  · rw [hwaits]
    exact g.backoff.toNat_delays (by omega)

end Gateway

end BrowserCheck.Sandbox
