import BrowserCheck.Run.Report
import BrowserCheck.Proofs.Text.Search

set_option autoImplicit false

namespace BrowserCheck

open Json
open Text (FirstCloses)

namespace Channel

def OpensAfter (c : Channel) (s : String) : Prop := FirstCloses c.startMarker.toList s.toList

def ClosesAfter (c : Channel) (s : String) : Prop := FirstCloses c.endMarker.toList s.toList

instance (c : Channel) (s : String) : Decidable (c.OpensAfter s) := inferInstanceAs (Decidable (FirstCloses _ _))

instance (c : Channel) (s : String) : Decidable (c.ClosesAfter s) := inferInstanceAs (Decidable (FirstCloses _ _))

variable (c : Channel)

lemma startMarker_ne_nil : c.startMarker.toList ≠ [] := by cases c <;> decide

lemma endMarker_ne_nil : c.endMarker.toList ≠ [] := by cases c <;> decide

lemma takeSpan?_wrap {pre payload : String} (ho : c.OpensAfter pre) (hc : c.ClosesAfter payload)
    (post : String) :
    c.takeSpan? (pre ++ c.wrap payload ++ post).toList = some ((pre ++ post).toList, payload.toList) := by
  have h1 := Text.cutAt?_of_firstCloses c.startMarker_ne_nil ho
    (payload.toList ++ (c.endMarker.toList ++ post.toList))
  have h2 := Text.cutAt?_of_firstCloses c.endMarker_ne_nil hc post.toList
  simp only [takeSpan?, wrap, String.toList_append, List.append_assoc, h1, Option.bind_eq_bind,
    Option.bind_some, h2]
  rfl

end Channel

namespace Separated

lemma split_wrap {α : Type} {c : Channel} (d : Decoder α) {pre payload : String}
    (ho : c.OpensAfter pre) (hc : c.ClosesAfter payload) (post : String) :
    split c d (pre ++ c.wrap payload ++ post).toList =
      ((pre ++ post).toList, (Written.read? payload.toList).bind d) := by
  rw [split, c.takeSpan?_wrap ho hc]

def traceOf? (payload : String) : Option Trace := (Written.read? payload.toList).bind Trace.decode?

def eventsOf? (payload : String) : Option (List Event) :=
  (Written.read? payload.toList).bind (Written.list? Event.decode?)

/-- The two searches run one after the other, the second on what the first left over. So the events'
start marker is looked for in the text that the removal of the trace has joined. -/
theorem ofStdout_both_orders (pre tj mid sj post : String) :
    (Channel.trace.OpensAfter pre → Channel.trace.ClosesAfter tj →
      Channel.spotlight.OpensAfter (pre ++ mid) → Channel.spotlight.ClosesAfter sj →
      ofStdout (pre ++ Channel.trace.wrap tj ++ mid ++ Channel.spotlight.wrap sj ++ post) =
        ⟨(pre ++ mid ++ post).trimBlank, traceOf? tj, eventsOf? sj⟩) ∧
    (Channel.trace.OpensAfter (pre ++ Channel.spotlight.wrap sj ++ mid) → Channel.trace.ClosesAfter tj →
      Channel.spotlight.OpensAfter pre → Channel.spotlight.ClosesAfter sj →
      ofStdout (pre ++ Channel.spotlight.wrap sj ++ mid ++ Channel.trace.wrap tj ++ post) =
        ⟨(pre ++ mid ++ post).trimBlank, traceOf? tj, eventsOf? sj⟩) := by
  constructor
  · intro hto htc hso hsc
    have ht := split_wrap Trace.decode? hto htc (mid ++ Channel.spotlight.wrap sj ++ post)
    have hs := split_wrap (Written.list? Event.decode?) hso hsc post
    simp only [String.append_assoc] at ht hs ⊢
    simp only [ofStdout, ht, hs, traceOf?, eventsOf?, String.trimBlank]
  · intro hto htc hso hsc
    have ht := split_wrap Trace.decode? hto htc post
    have hs := split_wrap (Written.list? Event.decode?) hso hsc (mid ++ post)
    simp only [String.append_assoc] at ht hs ⊢
    simp only [ofStdout, ht, hs, traceOf?, eventsOf?, String.trimBlank]

theorem ofStdout_both_orders_overlapping :
    (Channel.trace.OpensAfter "a_" ∧ Channel.trace.ClosesAfter "__SPOTLIGHT_START__" ∧
      Channel.spotlight.OpensAfter ("a_" ++ "\n") ∧ Channel.spotlight.ClosesAfter "[]" ∧
      ofStdout ("a_" ++ Channel.trace.wrap "__SPOTLIGHT_START__" ++ "\n" ++ Channel.spotlight.wrap "[]" ++
        "__TRACE_START__") = ⟨("a_" ++ "\n" ++ "__TRACE_START__").trimBlank,
          traceOf? "__SPOTLIGHT_START__", eventsOf? "[]"⟩) ∧
    (Channel.trace.OpensAfter ("a_" ++ Channel.spotlight.wrap "[]" ++ "\n") ∧
      Channel.trace.ClosesAfter "__SPOTLIGHT_START__" ∧ Channel.spotlight.OpensAfter "a_" ∧
      Channel.spotlight.ClosesAfter "[]" ∧
      ofStdout ("a_" ++ Channel.spotlight.wrap "[]" ++ "\n" ++ Channel.trace.wrap "__SPOTLIGHT_START__" ++
        "__TRACE_START__") = ⟨("a_" ++ "\n" ++ "__TRACE_START__").trimBlank,
          traceOf? "__SPOTLIGHT_START__", eventsOf? "[]"⟩) :=
  have h := ofStdout_both_orders "a_" "__SPOTLIGHT_START__" "\n" "[]" "__TRACE_START__"
  ⟨⟨by decide, by decide, by decide, by decide, h.1 (by decide) (by decide) (by decide) (by decide)⟩,
    ⟨by decide, by decide, by decide, by decide, h.2 (by decide) (by decide) (by decide) (by decide)⟩⟩

end Separated

end BrowserCheck
