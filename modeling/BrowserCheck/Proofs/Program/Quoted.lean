import BrowserCheck.Proofs.Program.Body

set_option autoImplicit false

namespace BrowserCheck.Program

open LiteralReader (Mode move? read?)
open Text (units)

section

variable {quote : Char} {out : List Nat} {front behind : List Char}

lemma LiteralReader.read?_append {m : Mode} (h : read? quote m front = some (out, behind)) (more : List Char) :
    read? quote m (front ++ more) = some (out, behind ++ more) := by
  induction front generalizing m out with
  | nil => cases h
  | cons c front ih =>
    rw [read?] at h
    rw [List.cons_append, read?]
    cases hm : move? quote m c with
    | none =>
      rw [hm] at h
      cases h
    | some move =>
      rw [hm] at h
      cases move with
      | stop =>
        cases h
        rfl
      | go =>
        obtain ⟨⟨out', behind'⟩, hr, he⟩ := Option.map_eq_some_iff.mp h
        cases he
        simp only [ih hr, Option.map_some]

lemma literalUnits?_append (h : literalUnits? quote front = some (out, behind)) (more : List Char) :
    literalUnits? quote (front ++ more) = some (out, behind ++ more) := by
  cases front with
  | nil => cases h
  | cons c front =>
    rw [literalUnits?] at h
    split at h
    next hc => exact (if_pos hc).trans (LiteralReader.read?_append h more)
    next => cases h

lemma literalUnits?_unfinished (hq : isQuote quote) {s : String} (hs : front ++ behind = quoted quote s)
    (hb : behind ≠ []) : literalUnits? quote front = none := by
  rw [Option.eq_none_iff_forall_ne_some]
  rintro ⟨out, left⟩ h
  have hall := literalUnits?_quoted hq s []
  rw [List.append_nil, ← hs, literalUnits?_append h behind] at hall
  have hleft : left ++ behind = [] := congrArg Prod.snd (Option.some.inj hall)
  exact hb (List.append_eq_nil_iff.mp hleft).2

end

/-- The reading of a text in quotes yields that text and stops at its closing quote, whatever follows. Before that quote
it has not ended. No line ends in it, and the literals of programs are the texts in single quotes. -/
theorem quoted_ends_where_closed {quote : Char} (hq : isQuote quote) (s : String) :
    (∀ rest, readQuoted? quote (quoted quote s ++ rest) = some (s, rest)) ∧
    (∀ front behind, front ++ behind = quoted quote s → behind ≠ [] → literalUnits? quote front = none) ∧
    (∀ c ∈ quoted quote s, c ≠ '\n' ∧ c ≠ '\r' ∧ c ≠ '\u2028' ∧ c ≠ '\u2029') ∧
    (literal s).toList = quoted '\'' s := by
  refine ⟨readQuoted?_quoted hq s, fun front behind hs hb => literalUnits?_unfinished hq hs hb, fun c hc => ?_,
    toList_literal s⟩
  simpa [isLineBreak] using quoted_unbroken hq s c hc

theorem quoted_ends_where_closed_hostile :
    isQuote '"' ∧
    readQuoted? '"' (quoted '"' "\\\"\n\u2028'; exit() //\\" ++ "\" + \"".toList) =
      some ("\\\"\n\u2028'; exit() //\\", "\" + \"".toList) ∧
    literalUnits? '"' "\"\\\\\\\"".toList = none := by
  have hq : isQuote '"' := .inr rfl
  refine ⟨hq, (quoted_ends_where_closed hq _).1 _, (quoted_ends_where_closed hq "\\\"").2.1 _ ['"'] ?_ (by simp)⟩
  decide

end BrowserCheck.Program
