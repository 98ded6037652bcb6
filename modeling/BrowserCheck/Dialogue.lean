set_option autoImplicit false

/-! Computations that ask the outside world questions and go on with the answers. -/

namespace BrowserCheck

inductive Dialogue (Q : Type) (A : Q → Type) (α : Type) where
  | done (a : α)
  | ask (q : Q) (next : A q → Dialogue Q A α)

namespace Dialogue

variable {Q : Type} {A : Q → Type} {α β σ : Type}

def bind : Dialogue Q A α → (α → Dialogue Q A β) → Dialogue Q A β
  | done a, f => f a
  | ask q next, f => ask q fun a => (next a).bind f

instance : Monad (Dialogue Q A) where
  pure := done
  bind := bind

def run (answer : (q : Q) → σ → A q × σ) : Dialogue Q A α → σ → α × σ
  | done a, s => (a, s)
  | ask q next, s => (next (answer q s).1).run answer (answer q s).2

def andThen {ε : Type} (d : Dialogue Q A (Except ε α)) (f : α → Dialogue Q A (Except ε β)) :
    Dialogue Q A (Except ε β) :=
  d.bind fun
    | .ok a => f a
    | .error e => done (.error e)

def embed {R : Type} {B : R → Type} (inject : Q → R) (answered : (q : Q) → B (inject q) → A q) :
    Dialogue Q A α → Dialogue R B α
  | done a => done a
  | ask q next => ask (inject q) fun b => (next (answered q b)).embed inject answered

end Dialogue

end BrowserCheck
