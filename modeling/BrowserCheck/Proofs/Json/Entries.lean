import BrowserCheck.Json.Decode
import Mathlib.Tactic.Common
import Mathlib.Data.List.Basic

set_option autoImplicit false

/-! What a document says at a path of names, and what a record takes from it: the entry where there is one, and the
standard where there is none. -/

namespace BrowserCheck.Json

variable {α β : Type}

structure Written.Step where
  names : List String
  name : String

namespace Written

def entry? (step : Step) : Written → Option Written
  | .object fields => fields.lookup step.name
  | .array items => (step.names.zip items).lookup step.name
  | _ => none

def at? : List Step → Written → Option Written
  | [], w => some w
  | step :: path, w => (w.entry? step).bind (at? path)

lemma lookup_eq_filter (fields : List (String × Written)) (name : String) :
    fields.lookup name = (fields.filter (·.1 == name)).head?.map Prod.snd := by
  induction fields with
  | nil => rfl
  | cons f fields ih =>
    obtain ⟨k, w⟩ := f
    by_cases h : k = name
    · simp [h]
    · simp [List.lookup_cons, h, beq_eq_false_iff_ne.mpr (Ne.symm h), ih]

end Written

def Slot.entry? : Slot → Option Written
  | given w => some w
  | absent => none
  | beyond => none

namespace Written

lemma entry?_of_field? {fields : List (String × Written)} {name : String} {s : Slot}
    (h : field? fields name = some s) : s.entry? = fields.lookup name := by
  rw [lookup_eq_filter]
  rw [field?] at h
  split at h
  next hnil =>
    cases h
    rw [hnil]
    rfl
  next hone =>
    cases h
    rw [hone]
    rfl
  next => cases h

lemma entry?_of_fields {fields : List (String × Written)} {names : List String} {slots : List Slot}
    (h : names.mapM (field? fields) = some slots) :
    slots.map Slot.entry? = names.map fun name => fields.lookup name := by
  induction names generalizing slots with
  | nil =>
    cases h
    rfl
  | cons name names ih =>
    rw [List.mapM_cons] at h
    obtain ⟨s, hs, h⟩ := Option.bind_eq_some_iff.mp h
    obtain ⟨rest, hrest, h⟩ := Option.bind_eq_some_iff.mp h
    cases h
    rw [List.map_cons, List.map_cons, entry?_of_field? hs, ih hrest]

lemma entry?_itemSlots {names : List String} (hn : names.Nodup) (items : List Written) :
    (itemSlots names.length items).map Slot.entry? = names.map fun name => (names.zip items).lookup name := by
  induction names generalizing items with
  | nil => rfl
  | cons name names ih =>
    obtain ⟨hnew, hn⟩ := List.nodup_cons.mp hn
    cases items with
    | nil =>
      have hrest := ih hn []
      simp only [List.zip_nil_right] at hrest
      simp [itemSlots, hrest, Slot.entry?]
    | cons w items =>
      have hothers : ∀ other ∈ names, ((name, w) :: names.zip items).lookup other = (names.zip items).lookup other := by
        intro other ho
        have hne : other ≠ name := fun he => hnew (he ▸ ho)
        rw [List.lookup_cons, beq_eq_false_iff_ne.mpr hne]
      rw [List.length_cons, itemSlots, List.map_cons, ih hn, List.zip_cons_cons, List.map_cons,
        List.map_congr_left hothers, List.lookup_cons, beq_self_eq_true]
      rfl

lemma entries_of_slots? {conv : Conventions} {names : List String} {w : Written} {slots : List Slot} (hn : names.Nodup)
    (h : w.slots? conv names = some slots) : slots.map Slot.entry? = names.map fun name => w.entry? ⟨names, name⟩ := by
  cases w with
  | object fields => exact entry?_of_fields h
  | array items =>
    rw [slots?] at h
    split at h
    · cases h
    · cases h
      exact entry?_itemSlots hn items
  | _ => cases h

end Written

inductive Takes (d : Decoder α) (a : α) : Option Written → α → Prop
  | given {w : Written} {b : α} (h : d w = some b) : Takes d a (some w) b
  | standard : Takes d a none a

lemma Slot.takes {d : Decoder α} {a b : α} {s : Slot} (h : s.withDefault a d = some b) : Takes d a s.entry? b := by
  cases s with
  | given w => exact .given h
  | absent =>
    cases h
    exact .standard
  | beyond =>
    cases h
    exact .standard

lemma Takes.step {d : Decoder α} {e : Decoder β} {a b : α} (get : α → β) {step : Written.Step}
    {path : List Written.Step} {w : Written} (h : Takes d a (w.entry? step) b)
    (hfields : ∀ w, d w = some b → Takes e (get a) (w.at? path) (get b)) :
    Takes e (get a) (w.at? (step :: path)) (get b) := by
  rw [Written.at?]
  generalize w.entry? step = entry at h
  cases h with
  | given h => exact hfields _ h
  | standard => exact .standard

end BrowserCheck.Json
