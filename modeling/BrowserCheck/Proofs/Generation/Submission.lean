import BrowserCheck.Proofs.Generation.Outcomes
import BrowserCheck.Proofs.Json.Arrangement

set_option autoImplicit false

namespace BrowserCheck.Generation

open Json

inductive Calls : Value → String → Value → Prop
  | record {fields : Fields} {name : String} {input : Value} (htype : fields.get? "type" = some (.text "tool_use"))
      (hname : fields.get? "name" = some (.text name)) (hinput : fields.get? "input" = some input) :
      Calls (.object fields) name input
  | listed (name : String) (input : Value) : Calls (.array [.text "tool_use", .text name, input]) name input

inductive Talk : Value → Prop
  | record {fields : Fields} {tag : String} (htype : fields.get? "type" = some (.text tag))
      (hother : tag ≠ "tool_use") : Talk (.object fields)
  | listed {tag : String} (hother : tag ≠ "tool_use") : Talk (.array [.text tag])

def Readable (v : Value) : Prop := Talk v ∨ ∃ name input, Calls v name input

def Bystander (v : Value) : Prop := Talk v ∨ ∃ name input, Calls v name input ∧ name ≠ "submit_script"

/-- The first call of the script tool has this input. -/
inductive Submits : List Value → Value → Prop
  | here {v input : Value} {rest : List Value} : Calls v "submit_script" input → Submits (v :: rest) input
  | behind {v input : Value} {rest : List Value} :
      (∀ input', ¬Calls v "submit_script" input') → Submits rest input → Submits (v :: rest) input

inductive Padded : List Value → List Value → Prop
  | nil : Padded [] []
  | keep {parts parts' : List Value} (v : Value) : Padded parts parts' → Padded (v :: parts) (v :: parts')
  | put {parts parts' : List Value} {v : Value} : Bystander v → Padded parts parts' → Padded parts (v :: parts')

inductive Content : Value → List Value → Prop
  | record {fields : Fields} {parts : List Value} (h : fields.get? "content" = some (.array parts)) :
      Content (.object fields) parts
  | listed (parts : List Value) : Content (.array [.array parts]) parts

structure Message (body : Value) (parts : List Value) : Prop where
  ordered : body.Ordered
  content : Content body parts

def heard (v : Value) : Option Part := Part.decode? (.ofValue v)

lemma heard_object {fields : Fields} (hn : (fields.map Prod.fst).Nodup) : heard (.object fields) =
    ((fields.get? "type").bind Value.text?).bind fun tag =>
      if tag = "tool_use" then
        ((fields.get? "name").bind Value.text?).bind fun name =>
          (fields.get? "input").bind fun input => some (.toolUse name input.sort)
      else some .other := by
  have hslots : (Written.untagged "type" fields).slots? .json ["name", "input"] =
      some [Written.slot fields "name", Written.slot fields "input"] :=
    Written.slots?_untagged hn .json (by decide)
  rw [heard, Part.decode?, Written.tagged?_ofValue hn]
  cases (fields.get? "type").bind Value.text? with
  | none => rfl
  | some tag =>
    by_cases ht : tag = "tool_use"
    · simp only [Option.map_some, Option.bind_eq_bind, Option.bind_some, ht, if_true, hslots, Written.required_slot,
        Written.text?_ofValue, Written.value?_ofValue, Option.pure_def, Option.bind_assoc]
    · simp [ht, Written.untagged]

lemma heard_listed (tag : String) (rest : List Value) : heard (.array (.text tag :: rest)) =
    if tag = "tool_use" then
      match rest with
      | [.text name, input] => some (.toolUse name input.sort)
      | _ => none
    else if rest = [] then some .other else none := by
  rw [heard, Part.decode?, Written.tagged?_listed]
  by_cases ht : tag = "tool_use"
  · match rest with
    | [] => simp [ht, Written.slots?, Written.itemSlots, Slot.required]
    | [name] => simp [ht, Written.slots?, Written.itemSlots, Slot.required]
    | [name, input] =>
      cases name <;>
        simp [ht, Written.slots?, Written.itemSlots, Slot.required, Written.text?_ofValue, Value.text?,
          Written.value?_ofValue]
    | name :: input :: more :: rest => simp [ht, Written.slots?, Conventions.json]
  · cases rest <;> simp [ht]

lemma heard_untagged {items : List Value} (h : ∀ tag rest, items ≠ .text tag :: rest) :
    heard (.array items) = none := by
  have hv := Written.value?_ofValue (.array items)
  cases items with
  | nil => rfl
  | cons v rest =>
    cases v with
    | text tag => exact absurd rfl (h tag rest)
    | null | boolean | number | array | object =>
      rw [heard, Part.decode?, Written.tagged?.eq_def, hv]
      rfl

variable {v : Value} {parts parts' : List Value}

lemma Calls.ordered {name : String} {input : Value} (h : Calls v name input) (ho : v.Ordered) : input.Ordered := by
  cases h with
  | record htype hname hinput => exact ho.field hinput
  | listed => exact ho.items input (by simp)

lemma Submits.ordered {input : Value} (h : Submits parts input) (ho : ∀ v ∈ parts, v.Ordered) : input.Ordered := by
  induction h with
  | here hcalls => exact hcalls.ordered (List.forall_mem_cons.mp ho).1
  | behind _ _ ih => exact ih (List.forall_mem_cons.mp ho).2

lemma heard_of_calls {name : String} {input : Value} (hd : v.Distinct) (h : Calls v name input) :
    heard v = some (.toolUse name input.sort) := by
  cases h with
  | record htype hname hinput => simp [heard_object hd.keys_nodup, htype, hname, hinput, Value.text?]
  | listed => rw [heard_listed, if_pos rfl]

lemma heard_of_talk (hd : v.Distinct) (h : Talk v) : heard v = some .other := by
  cases h with
  | record htype hother => simp [heard_object hd.keys_nodup, htype, hother, Value.text?]
  | listed hother => rw [heard_listed, if_neg hother, if_pos rfl]

lemma readable_of_heard {p : Part} (hd : v.Distinct) (h : heard v = some p) : Readable v := by
  cases v with
  | object fields =>
    rw [heard_object hd.keys_nodup] at h
    obtain ⟨tag, htag, h⟩ := Option.bind_eq_some_iff.mp h
    obtain ⟨t, htype, ht⟩ := Option.bind_eq_some_iff.mp htag
    obtain rfl := Value.text?_eq_some ht
    split at h
    next htool =>
      obtain ⟨name, hname, h⟩ := Option.bind_eq_some_iff.mp h
      obtain ⟨n, hfield, hn⟩ := Option.bind_eq_some_iff.mp hname
      obtain ⟨input, hinput, -⟩ := Option.bind_eq_some_iff.mp h
      exact .inr ⟨name, input, .record (htool ▸ htype) (Value.text?_eq_some hn ▸ hfield) hinput⟩
    next hother => exact .inl (.record htype hother)
  | array items =>
    by_cases htag : ∃ tag rest, items = .text tag :: rest
    · obtain ⟨tag, rest, rfl⟩ := htag
      rw [heard_listed] at h
      split at h
      next htool =>
        split at h
        next name input => exact .inr ⟨name, input, htool ▸ .listed name input⟩
        next => cases h
      next hother =>
        split at h
        next hrest => exact .inl (hrest ▸ .listed hother)
        next => cases h
    · rw [heard_untagged fun tag rest he => htag ⟨tag, rest, he⟩] at h
      cases h
  | null => cases h
  | boolean b => cases h
  | number n => cases h
  | text s => cases h

def submissions (parts : List Value) : Option (Option Value) :=
  (parts.mapM heard).map (List.findSome? Part.submitted?)

lemma submissions_cons (v : Value) (parts : List Value) : submissions (v :: parts) =
    (heard v).bind fun p => (submissions parts).map p.submitted?.or := by
  rw [submissions, submissions, List.mapM_cons]
  cases heard v with
  | none => rfl
  | some p =>
    cases parts.mapM heard with
    | none => rfl
    | some ps => cases hp : p.submitted? <;> simp [hp]

lemma heard_of_bystander (hd : v.Distinct) (h : Bystander v) : ∃ p, heard v = some p ∧ p.submitted? = none := by
  rcases h with htalk | ⟨name, input, hcalls, hne⟩
  · exact ⟨_, heard_of_talk hd htalk, rfl⟩
  · exact ⟨_, heard_of_calls hd hcalls, if_neg hne⟩

lemma bystander_of_readable (hr : Readable v) (hn : ∀ input, ¬Calls v "submit_script" input) : Bystander v := by
  rcases hr with htalk | ⟨name, input, hcalls⟩
  · exact .inl htalk
  · refine .inr ⟨name, input, hcalls, ?_⟩
    rintro rfl
    exact hn input hcalls

lemma submissions_bystander (hd : v.Distinct) (h : Bystander v) (parts : List Value) :
    submissions (v :: parts) = submissions parts := by
  obtain ⟨p, hp, hs⟩ := heard_of_bystander hd h
  rw [submissions_cons, hp, Option.bind_some, hs]
  cases submissions parts <;> simp

lemma submissions_padded (hd : ∀ v ∈ parts', v.Distinct) (h : Padded parts parts') :
    submissions parts' = submissions parts := by
  induction h with
  | nil => rfl
  | keep v _ ih => rw [submissions_cons, submissions_cons, ih (List.forall_mem_cons.mp hd).2]
  | put hv _ ih =>
    obtain ⟨hdv, hdparts⟩ := List.forall_mem_cons.mp hd
    rw [submissions_bystander hdv hv, ih hdparts]

lemma exists_submissions (hd : ∀ v ∈ parts, v.Distinct) (hr : ∀ v ∈ parts, Readable v) :
    ∃ first, submissions parts = some first := by
  induction parts with
  | nil => exact ⟨none, rfl⟩
  | cons v parts ih =>
    obtain ⟨hdv, hdparts⟩ := List.forall_mem_cons.mp hd
    obtain ⟨hrv, hrparts⟩ := List.forall_mem_cons.mp hr
    obtain ⟨first, hfirst⟩ := ih hdparts hrparts
    rcases hrv with htalk | ⟨name, input, hcalls⟩
    · exact ⟨_, by rw [submissions_cons, heard_of_talk hdv htalk, hfirst]; rfl⟩
    · exact ⟨_, by rw [submissions_cons, heard_of_calls hdv hcalls, hfirst]; rfl⟩

lemma submissions_of_submits {input : Value} (hd : ∀ v ∈ parts, v.Distinct) (hr : ∀ v ∈ parts, Readable v)
    (h : Submits parts input) : submissions parts = some (some input.sort) := by
  induction h with
  | here hcalls =>
    obtain ⟨hdv, hdparts⟩ := List.forall_mem_cons.mp hd
    obtain ⟨first, hfirst⟩ := exists_submissions hdparts (List.forall_mem_cons.mp hr).2
    rw [submissions_cons, heard_of_calls hdv hcalls, hfirst]
    rfl
  | behind hn _ ih =>
    obtain ⟨hdv, hdparts⟩ := List.forall_mem_cons.mp hd
    obtain ⟨hrv, hrparts⟩ := List.forall_mem_cons.mp hr
    rw [submissions_bystander hdv (bystander_of_readable hrv hn), ih hdparts hrparts]

lemma submissions_of_silence (hd : ∀ v ∈ parts, v.Distinct) (hr : ∀ v ∈ parts, Readable v)
    (h : ∀ input, ¬Submits parts input) : submissions parts = some none := by
  induction parts with
  | nil => rfl
  | cons v parts ih =>
    obtain ⟨hdv, hdparts⟩ := List.forall_mem_cons.mp hd
    obtain ⟨hrv, hrparts⟩ := List.forall_mem_cons.mp hr
    have hn (input : Value) : ¬Calls v "submit_script" input := fun hcalls => h input (.here hcalls)
    have hrest (input : Value) : ¬Submits parts input := fun hs => h input (.behind hn hs)
    rw [submissions_bystander hdv (bystander_of_readable hrv hn), ih hdparts hrparts hrest]

lemma submissions_of_unreadable (hd : ∀ v ∈ parts, v.Distinct) (h : ∃ v ∈ parts, ¬Readable v) :
    submissions parts = none := by
  induction parts with
  | nil => simp at h
  | cons v parts ih =>
    obtain ⟨hdv, hdparts⟩ := List.forall_mem_cons.mp hd
    rw [submissions_cons]
    cases hp : heard v with
    | none => rfl
    | some p =>
      have hrest : ∃ v ∈ parts, ¬Readable v := by simpa [readable_of_heard hdv hp] using h
      rw [ih hdparts hrest]
      rfl

namespace Message

variable {body body' : Value}

lemma ordered_parts (h : Message body parts) : ∀ v ∈ parts, v.Ordered := by
  obtain ⟨ho, hc⟩ := h
  cases hc with
  | record hc => exact (ho.field hc).items
  | listed => exact (ho.items _ List.mem_cons_self).items

lemma distinct_parts (h : Message body parts) : ∀ v ∈ parts, v.Distinct :=
  fun v hv => (h.ordered_parts v hv).distinct

lemma decodeParts?_eq (h : Message body parts) : decodeParts? (.ofValue body) = parts.mapM heard := by
  obtain ⟨ho, hc⟩ := h
  have hlist : Written.list? Part.decode? (.ofValue (.array parts)) = parts.mapM heard := by
    rw [Written.ofValue, Written.ofValues_eq, Written.list?, List.mapM_map]
    rfl
  cases hc with
  | record hc =>
    rw [decodeParts?, Written.slots?_ofValue ho.distinct.keys_nodup]
    change (Written.slot _ "content").required (Written.list? Part.decode?) = _
    rw [Written.required_slot, hc]
    exact hlist
  | listed => exact hlist

lemma submission_eq (h : Message body parts) : submission body =
    match submissions parts with
    | none => .error (.generation "unexpected response: not a message")
    | some none => .error (.generation "model did not call the script tool")
    | some (some input) => .ok input := by
  rw [submission, h.decodeParts?_eq, submissions]
  cases parts.mapM heard with
  | none => rfl
  | some ps =>
    dsimp only [Option.map_some]
    cases ps.findSome? Part.submitted? <;> rfl

lemma readReply_congr (h : Message body parts) (h' : Message body' parts')
    (he : submissions parts = submissions parts') : readReply body = readReply body' := by
  rw [readReply, readReply, h.submission_eq, h'.submission_eq, he]

lemma readReply_submitted {input : Value} (h : Message body parts) (hr : ∀ v ∈ parts, Readable v)
    (hs : Submits parts input) : readReply body = answerOf input := by
  rw [readReply, h.submission_eq, submissions_of_submits h.distinct_parts hr hs, (hs.ordered h.ordered_parts).sort_eq]
  rfl

end Message

lemma answerOf_eq_ok_iff {input : Value} {g : GenerateResponse} : answerOf input = .ok g ↔
    (∃ v, input.get? "script" = some v ∧ Script.Describes v g.script) ∧
      g.message = ((input.get? "message").bind Value.text?).getD "" := by
  obtain ⟨message, script⟩ := g
  rw [answerOf]
  cases input.get? "script" with
  | none => simp
  | some v =>
    cases hc : Script.check v with
    | error e =>
      have hn : ¬Script.Describes v script := fun hs => by cases (Script.check_of_describes hs).symm.trans hc
      simp [hc, hn]
    | ok s =>
      have hs : Script.Describes v script ↔ s = script := by
        refine ⟨fun hs => Except.ok.inj (hc.symm.trans (Script.check_of_describes hs)), ?_⟩
        rintro rfl
        exact Script.describes_of_check hc
      simp [hc, hs, and_comm, eq_comm]

/-- The last word of the model is a valid script or a failure to generate. Of a message whose parts can all be read,
only what the first call of the script tool hands in counts. -/
theorem readReply_of_submission :
    (∀ body, (∃ g, readReply body = .ok g ∧ Script.check g.script.toValue = .ok g.script) ∨
      ∃ why, readReply body = .error (.generation why)) ∧
    (∀ body parts, Message body parts → (∃ v ∈ parts, ¬Readable v) →
      ∃ why, readReply body = .error (.generation why)) ∧
    (∀ body parts input, Message body parts → (∀ v ∈ parts, Readable v) → Submits parts input →
      ∀ g, readReply body = .ok g ↔ (∃ v, input.get? "script" = some v ∧ Script.Describes v g.script) ∧
        g.message = ((input.get? "message").bind Value.text?).getD "") ∧
    (∀ body body' parts parts', Message body parts → Message body' parts' →
      (∀ v ∈ parts, Readable v) → (∀ v ∈ parts', Readable v) →
      (∀ input, Submits parts input ↔ Submits parts' input) → readReply body = readReply body') ∧
    ∀ body body' parts parts', Message body parts → Message body' parts' → Padded parts parts' →
      readReply body = readReply body' := by
  refine ⟨fun body => ?_, fun body parts hm hbad => ?_, fun body parts input hm hr hs g => ?_,
    fun body body' parts parts' hm hm' hr hr' hsame => ?_, fun body body' parts parts' hm hm' hpad => ?_⟩
  · cases h : readReply body with
    | ok g => exact .inl ⟨g, rfl, Script.check_toValue_of_valid (valid_of_readReply h)⟩
    | error f =>
      obtain ⟨why, rfl⟩ := readReply_error h
      exact .inr ⟨why, rfl⟩
  · rw [readReply, hm.submission_eq, submissions_of_unreadable hm.distinct_parts hbad]
    exact ⟨_, rfl⟩
  · rw [hm.readReply_submitted hr hs]
    exact answerOf_eq_ok_iff
  · apply hm.readReply_congr hm'
    by_cases hs : ∃ input, Submits parts input
    · obtain ⟨input, hs⟩ := hs
      rw [submissions_of_submits hm.distinct_parts hr hs,
        submissions_of_submits hm'.distinct_parts hr' ((hsame input).mp hs)]
    · have hn (input : Value) : ¬Submits parts input := fun h => hs ⟨input, h⟩
      have hn' (input : Value) : ¬Submits parts' input := fun h => hn input ((hsame input).mpr h)
      rw [submissions_of_silence hm.distinct_parts hr hn, submissions_of_silence hm'.distinct_parts hr' hn']
  · exact hm.readReply_congr hm' (submissions_padded hm'.distinct_parts hpad).symm

theorem readReply_of_submission_interrupted : ∃ call fetch remark body body' : Value,
    Calls call "submit_script" (.object [("script", .object [("actions", .array []), ("version", .text "1.0.0")])]) ∧
    Calls fetch "web_fetch" .null ∧ Talk remark ∧ Message body [call] ∧ Message body' [remark, fetch, call, remark] ∧
    Padded [call] [remark, fetch, call, remark] ∧ readReply body = .ok ⟨"", ⟨"1.0.0", []⟩⟩ ∧
    readReply body = readReply body' := by
  let input : Value := .object [("script", .object [("actions", .array []), ("version", .text "1.0.0")])]
  let call : Value := .object [("input", input), ("name", .text "submit_script"), ("type", .text "tool_use")]
  let fetch : Value := .array [.text "tool_use", .text "web_fetch", .null]
  let remark : Value := .object [("text", .null), ("type", .text "text")]
  let body : Value := .object [("content", .array [call])]
  let body' : Value := .array [.array [remark, fetch, call, remark]]
  have hcall : Calls call "submit_script" input := .record rfl rfl rfl
  have hfetch : Calls fetch "web_fetch" .null := .listed _ _
  have hremark : Talk remark := .record rfl (by decide)
  have hm : Message body [call] := ⟨body.sort_ordered, .record rfl⟩
  have hm' : Message body' [remark, fetch, call, remark] := ⟨body'.sort_ordered, .listed _⟩
  have hpad : Padded [call] [remark, fetch, call, remark] :=
    .put (.inl hremark) (.put (.inr ⟨_, _, hfetch, by decide⟩) (.keep call (.put (.inl hremark) .nil)))
  exact ⟨call, fetch, remark, body, body', hcall, hfetch, hremark, hm, hm', hpad, rfl,
    readReply_of_submission.2.2.2.2 body body' _ _ hm hm' hpad⟩

end BrowserCheck.Generation
