import BrowserCheck.Proofs.Json.Arrangement
import BrowserCheck.Proofs.Script.RoundTrip

set_option autoImplicit false

namespace BrowserCheck

open Json

namespace Action

lemma recovers_content (a : Action) : Recovers (decodeContent a.kind) a.content a := by
  cases a with
  | goTo url => exact .leaf trivial rfl
  | click selector => exact .leaf trivial rfl
  | sleep milliseconds =>
    apply Recovers.leaf
    · trivial
    · have h := Written.uint64?_toNat milliseconds
      simp only [kind, content, decodeContent, Value.ofNat, Written.ofValue, h, Option.map_some]

lemma recovers (a : Action) : Recovers decode? a.encode a := by
  have hne := a.kind.fieldName_ne_type
  have htype : Fields.get? [("type", .text a.kind.tag), (a.kind.fieldName, a.content)] "type" =
      some (.text a.kind.tag) := rfl
  have hfield : Fields.get? [("type", .text a.kind.tag), (a.kind.fieldName, a.content)] a.kind.fieldName =
      some a.content := by
    rw [Fields.get?_cons, if_neg hne, Fields.get?_cons, if_pos rfl]
  have hkind : ActionKind.ofTag? a.kind.tag = some a.kind := ActionKind.ofTag?_eq_some_iff.mpr rfl
  rw [encode_eq]
  intro v hv hs
  obtain ⟨fields, rfl, h⟩ := Value.object_of_sort (by simp [Ne.symm hne]) hv hs
  obtain ⟨t, ht, -, hts⟩ := h.exists_field htype
  obtain ⟨c, hc, hdistinct, hcs⟩ := h.exists_field hfield
  obtain rfl : t = .text a.kind.tag := Value.eq_of_sort trivial hts
  rw [decode?_object h.nodup, ht, Option.bind_some, Value.text?, Option.bind_some, hkind, Option.bind_some, hc,
    Option.bind_some]
  exact a.recovers_content c hdistinct hcs

end Action

namespace Script

lemma recovers (s : Script) : Recovers decode? s.encode s := by
  intro v hv hs
  obtain ⟨fields, rfl, h⟩ := Value.object_of_sort (by simp) hv hs
  have hversion : (Written.slot fields "version").required Written.text? = some s.version := h.required rfl (.text _)
  have hactions : (Written.slot fields "actions").required (Written.list? Action.decode?) = some s.actions :=
    h.required rfl (.list fun a _ => a.recovers)
  rw [decode?, h.slots?]
  simp only [List.map, Option.bind_eq_bind, Option.bind_some, hversion, hactions]
  rfl

end Script

end BrowserCheck
