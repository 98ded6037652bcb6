import BrowserCheck.Generation.Agent
import BrowserCheck.Proofs.Dialogue
import Mathlib.Order.Nat

set_option autoImplicit false

namespace BrowserCheck.Generation

open Json Web

variable {α : Type} (answers : Nat → Except NoAnswer Response)

def inTurn (_ : Web.Request) (n : Nat) : Except NoAnswer Response × Nat := (answers n, n + 1)

def sent (d : Exchange α) (n : Nat) : List Web.Request := (d.exchanges (inTurn answers) n).map Sigma.fst

def concluded (d : Exchange α) (n : Nat) : α := (d.run (inTurn answers) n).1

def outcome (n : Nat) : Outcome Value := bodyOf (answers n)

def said (n : Nat) : Turn where
  role := "assistant"
  content := match outcome answers n with
    | .ok body => (body.get? "content").getD .null
    | .error _ => .null

variable {answers} (c : ModelSettings) (key : String)

def saidFrom (answers : Nat → Except NoAnswer Response) (n k : Nat) : List Turn :=
  (List.range k).map fun i => said answers (n + i)

@[simp] lemma saidFrom_zero (n : Nat) : saidFrom answers n 0 = [] := rfl

def requests (answers : Nat → Except NoAnswer Response) (turns : List Turn) (n m : Nat) : List Web.Request :=
  (List.range (m + 1)).map fun k => request c key (turns ++ saidFrom answers n k)

end BrowserCheck.Generation
