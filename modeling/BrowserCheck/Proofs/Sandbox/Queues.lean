import BrowserCheck.Sandbox.Pool
import Mathlib.Tactic.Common

set_option autoImplicit false

namespace BrowserCheck.Sandbox.Pool

variable {κ α : Type} [DecidableEq κ]

lemma lookup_pair (x k : κ) (b : α) (l : List (κ × α)) :
    List.lookup k ((x, b) :: l) = if k = x then some b else l.lookup k := by
  rw [List.lookup_cons]
  by_cases h : k = x
  · rw [if_pos h, beq_iff_eq.mpr h]
  · rw [if_neg h, beq_eq_false_iff_ne.mpr h]

lemma lookup_put (key : κ) (a : α) (l : List (κ × α)) (k : κ) :
    (put key a l).lookup k = if k = key then some a else l.lookup k := by
  induction l with
  | nil => rw [put, lookup_pair]
  | cons x l ih =>
    obtain ⟨x, b⟩ := x
    rw [put]
    by_cases hx : x = key
    · subst hx
      rw [if_pos rfl, lookup_pair, lookup_pair]
      split_ifs <;> rfl
    · rw [if_neg hx, lookup_pair, lookup_pair, ih]
      by_cases hk : k = x
      · rw [if_pos hk, if_pos hk, if_neg (hk ▸ hx)]
      · rw [if_neg hk, if_neg hk]

variable (p : Pool) (id : Nat) (name : String)

def ticket (p : Pool) (id : Nat) : Option Ticket := p.tickets.lookup id

def Holds (p : Pool) (id : Nat) (name : String) : Prop := ∃ sandbox, p.ticket id = some ⟨name, .held sandbox⟩

lemma queue_setQueue (q : List Nat) (m : String) :
    (p.setQueue name q).queue m = if m = name then q else p.queue m := by
  rw [queue, setQueue, lookup_put]
  split_ifs <;> rfl

@[simp] lemma queue_setLease (l : Lease) (m : String) : (p.setLease id name l).queue m = p.queue m := rfl

lemma ticket_setLease (l : Lease) (k : Nat) :
    (p.setLease id name l).ticket k = if k = id then some ⟨name, l⟩ else p.ticket k := lookup_put id _ _ k

@[simp] lemma ticket_setQueue (q : List Nat) (k : Nat) : (p.setQueue name q).ticket k = p.ticket k := rfl

lemma queue_request (m : String) :
    (p.request id name).queue m = if m = name then p.queue name ++ [id] else p.queue m := by
  rw [request, queue_setLease, queue_setQueue]

lemma ticket_request {k : Nat} (hk : k ≠ id) : (p.request id name).ticket k = p.ticket k := by
  rw [request, ticket_setLease, if_neg hk, ticket_setQueue]

lemma queue_leave (l : Lease) (m : String) :
    (p.leave id name l).queue m = if m = name then (p.queue name).erase id else p.queue m := by
  rw [leave, queue_setLease, queue_setQueue]

lemma ticket_leave (l : Lease) (k : Nat) :
    (p.leave id name l).ticket k = if k = id then some ⟨name, l⟩ else p.ticket k := by
  rw [leave, ticket_setLease, ticket_setQueue]

variable {p id name}

lemma giveBack_of_holds (h : p.Holds id name) : p.giveBack id = p.leave id name .released := by
  obtain ⟨sandbox, h⟩ := h
  rw [ticket] at h
  rw [giveBack, h]

lemma giveBack_of_failed {f : Failure} (h : p.ticket id = some ⟨name, .failed f⟩) : p.giveBack id = p := by
  rw [ticket] at h
  rw [giveBack, h]

lemma ticket_giveBack {k : Nat} (hk : k ≠ id) : (p.giveBack id).ticket k = p.ticket k := by
  rw [giveBack]
  split
  · rw [ticket_leave, if_neg hk]
  · rfl

end BrowserCheck.Sandbox.Pool
