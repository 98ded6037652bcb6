import BrowserCheck.Sandbox.Call

set_option autoImplicit false

/-! Sandboxes that several runs share, one run at a time. -/

namespace BrowserCheck.Sandbox

inductive Lease where
  | waiting
  | held (sandbox : Handle)
  | failed (f : Failure)
  | released

structure Ticket where
  name : String
  lease : Lease

/-- Each name has a queue, first come first served. It is the turn of the first in it; the name is free
when there is none. -/
structure Pool where
  queues : List (String × List Nat)
  tickets : List (Nat × Ticket)

namespace Pool

def empty : Pool := ⟨[], []⟩

def put {κ α : Type} [DecidableEq κ] (key : κ) (a : α) : List (κ × α) → List (κ × α)
  | [] => [(key, a)]
  | (k, b) :: rest => if k = key then (key, a) :: rest else (k, b) :: put key a rest

def queue (p : Pool) (name : String) : List Nat := (p.queues.lookup name).getD []

def holder (p : Pool) (name : String) : Option Nat := (p.queue name).head?

def setQueue (p : Pool) (name : String) (q : List Nat) : Pool := { p with queues := put name q p.queues }

def setLease (p : Pool) (id : Nat) (name : String) (l : Lease) : Pool :=
  { p with tickets := put id ⟨name, l⟩ p.tickets }

def request (id : Nat) (name : String) (p : Pool) : Pool :=
  (p.setQueue name (p.queue name ++ [id])).setLease id name .waiting

def leave (id : Nat) (name : String) (l : Lease) (p : Pool) : Pool :=
  (p.setQueue name ((p.queue name).erase id)).setLease id name l

def acquired (id : Nat) (name : String) (r : Outcome Handle) (p : Pool) : Pool :=
  match r with
  | .ok sandbox => p.setLease id name (.held sandbox)
  | .error f => p.leave id name (.failed f)

def giveBack (id : Nat) (p : Pool) : Pool :=
  match p.tickets.lookup id with
  | some ⟨name, .held _⟩ => p.leave id name .released
  | _ => p

end Pool

end BrowserCheck.Sandbox
