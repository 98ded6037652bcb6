import BrowserCheck.Proofs.Json.Transport
import BrowserCheck.Proofs.Run.Recovery
import BrowserCheck.Proofs.Script.Recovery
import BrowserCheck.Web.Client
import BrowserCheck.Web.Service

set_option autoImplicit false

namespace BrowserCheck

open Json

lemma GenerateResponse.recovers (r : GenerateResponse) : Recovers decode? r.encode r := by
  intro v hv hs
  obtain ⟨fields, rfl, h⟩ := Value.object_of_sort (by simp) hv hs
  have hmessage : (Written.slot fields "message").required Written.text? = some r.message := h.required rfl (.text _)
  have hscript : (Written.slot fields "script").required Script.decode? = some r.script :=
    h.required rfl r.script.recovers
  rw [decode?, h.slots?]
  simp only [List.map, Option.bind_eq_bind, Option.bind_some, hmessage, hscript]
  rfl

namespace Web

namespace Client

lemma errorMessage_error (s : String) : errorMessage (Value.object [("error", .text s)]).toText = s := by
  have hfits : (Value.object [("error", .text s)]).fits Reader.depthLimit := ⟨by decide, trivial, trivial⟩
  have hsort : (Value.object [("error", .text s)]).sort = .object [("error", .text s)] := rfl
  rw [errorMessage, Value.read?_toText hfits, hsort]
  rfl

/-- Nothing is lost of a result or of a script, in whatever order the keys arrive. Of a failure the client shows the
message, unless the service keeps it to itself. -/
theorem responses_arrive :
    (∀ r : RunResult, r.InOrder → RunResult.decode? (.ofValue r.encode.sort) = some r ∧
      ∀ v : Value, v.Distinct → v.sort = r.encode.sort → RunResult.decode? (.ofValue v) = some r) ∧
    (∀ o : RawOutput, (RunResult.ofOutput o).InOrder) ∧
    (∀ r : GenerateResponse, GenerateResponse.decode? (.ofValue r.encode.sort) = some r ∧
      ∀ v : Value, v.Distinct → v.sort = r.encode.sort → GenerateResponse.decode? (.ofValue v) = some r) ∧
    ∀ f : Failure, errorMessage (Reply.ofFailure f).body = match f with
      | .generation _ => "Failed to generate script"
      | f => f.message := by
  refine ⟨fun r hr => ⟨?_, RunResult.recovers hr⟩, RunResult.inOrder_ofOutput, fun r => ⟨?_, r.recovers⟩, fun f => ?_⟩
  · exact RunResult.recovers hr _ r.encode.sort_ordered.distinct r.encode.sort_sort
  · exact r.recovers _ r.encode.sort_ordered.distinct r.encode.sort_sort
  · cases f <;> exact errorMessage_error _

theorem responses_arrive_empty_headers : ∃ e : Event, e.headers = some [] ∧ e.data.get? "b" = some .null ∧
    RunResult.InOrder ⟨-1, "", "", none, some [e]⟩ ∧
    RunResult.decode? (.ofValue (RunResult.encode ⟨-1, "", "", none, some [e]⟩).sort) =
      some ⟨-1, "", "", none, some [e]⟩ := by
  have hdata : Value.Ordered (.object [("a", .array []), ("b", .null)]) :=
    .object (show ["a", "b"].Pairwise (· < ·) by decide) (by simp [Value.Ordered.array, Value.Ordered.null])
  have hr : RunResult.InOrder ⟨-1, "", "", none,
      some [⟨none, "error", 0, .object [("a", .array []), ("b", .null)], some []⟩]⟩ := by
    intro events h e he
    cases h
    obtain rfl := List.mem_singleton.mp he
    refine ⟨hdata, fun hs hh => ?_⟩
    cases hh
    exact .nil
  exact ⟨_, rfl, rfl, hr, (responses_arrive.1 _ hr).1⟩

end Client

end Web

end BrowserCheck
