import BrowserCheck.Dialogue
import Mathlib.Tactic.Common

set_option autoImplicit false

/-! What a computation asks of a world and what it hears, in order. One computation behind another asks
its questions behind those of the first. -/

namespace BrowserCheck.Dialogue

variable {Q : Type} {A : Q → Type} {α β ε σ : Type}

def exchanges (answer : (q : Q) → σ → A q × σ) : Dialogue Q A α → σ → List ((q : Q) × A q)
  | done _, _ => []
  | ask q next, w => ⟨q, (answer q w).1⟩ :: (next (answer q w).1).exchanges answer (answer q w).2

variable (answer : (q : Q) → σ → A q × σ)

lemma run_bind (d : Dialogue Q A α) (f : α → Dialogue Q A β) (w : σ) :
    (d.bind f).run answer w = (f (d.run answer w).1).run answer (d.run answer w).2 := by
  induction d generalizing w with
  | done a => rfl
  | ask q next ih => exact ih _ _

lemma exchanges_bind (d : Dialogue Q A α) (f : α → Dialogue Q A β) (w : σ) :
    (d.bind f).exchanges answer w =
      d.exchanges answer w ++ (f (d.run answer w).1).exchanges answer (d.run answer w).2 := by
  induction d generalizing w with
  | done a => rfl
  | ask q next ih => exact congrArg (_ :: ·) (ih _ _)

section

variable {R : Type} {B : R → Type} (inject : Q → R) (reply : (r : R) → σ → B r × σ)

lemma run_embed (d : Dialogue Q (fun q => B (inject q)) α) (w : σ) :
    (d.embed inject fun _ b => b).run reply w = d.run (fun q => reply (inject q)) w := by
  induction d generalizing w with
  | done a => rfl
  | ask q next ih => exact ih _ _

lemma exchanges_embed (d : Dialogue Q (fun q => B (inject q)) α) (w : σ) :
    (d.embed inject fun _ b => b).exchanges reply w =
      (d.exchanges (fun q => reply (inject q)) w).map fun e => ⟨inject e.1, e.2⟩ := by
  induction d generalizing w with
  | done a => rfl
  | ask q next ih => exact congrArg (_ :: ·) (ih _ _)

end

variable {answer} {w : σ} {d : Dialogue Q A (Except ε α)} {f : α → Dialogue Q A (Except ε β)}

lemma run_andThen_ok {a : α} (h : (d.run answer w).1 = .ok a) :
    (d.andThen f).run answer w = (f a).run answer (d.run answer w).2 := by
  rw [andThen, run_bind, h]

lemma exchanges_andThen_ok {a : α} (h : (d.run answer w).1 = .ok a) :
    (d.andThen f).exchanges answer w = d.exchanges answer w ++ (f a).exchanges answer (d.run answer w).2 := by
  rw [andThen, exchanges_bind, h]

lemma run_andThen_error {e : ε} (h : (d.run answer w).1 = .error e) :
    ((d.andThen f).run answer w).1 = .error e := by
  rw [andThen, run_bind, h]
  rfl

lemma exchanges_andThen_error {e : ε} (h : (d.run answer w).1 = .error e) :
    (d.andThen f).exchanges answer w = d.exchanges answer w := by
  rw [andThen, exchanges_bind, h]
  exact List.append_nil _

end BrowserCheck.Dialogue
