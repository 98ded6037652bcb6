import BrowserCheck.Proofs.Cli.Reading
import BrowserCheck.Proofs.Files.Trees
import BrowserCheck.Proofs.Text.Encoding
import BrowserCheck.Proofs.Web.Generating
import BrowserCheck.Proofs.Web.Running

set_option autoImplicit false

namespace BrowserCheck

open Json Web

lemma Script.read_printed {s : Script} (h : s.Valid) : read (Cli.printJson s.toValue) = .ok s := by
  have hsort : s.toValue.sort = s.toValue := Value.sort_sort _
  rw [read, Cli.printJson, Cli.println, Value.read?_toPretty_line s.toValue_fits, hsort]
  exact check_toValue_of_valid h

namespace Cli

open Files (Tree)

variable {τ : Type} {answer : (e : Effect) → τ → e.Answer × τ} {w w₂ : τ} {c : Client} {o : GenerateOptions}
  {path text : String} {r : Except NoAnswer Response} {q : GenerateRequest} {g : GenerateResponse}

lemma valid_of_loadScript {script : Script} (h : ((loadScript path).run answer w).1 = .ok script) : script.Valid := by
  obtain ⟨text, -, hs⟩ := run_loadScript_eq_ok_iff.mp h
  rw [Script.read] at hs
  split at hs
  · exact Script.valid_of_describes (Script.describes_of_check hs)
  · cases hs

lemma valid_of_loadPrevious {given : Option String} {previous : Option Script}
    (h : ((loadPrevious given).run answer w).1 = .ok previous) : ∀ s, previous = some s → s.Valid := by
  rintro s rfl
  cases given with
  | none => cases h
  | some path =>
    rw [loadPrevious] at h
    cases hl : ((loadScript path).run answer w).1 with
    | error e => cases (Dialogue.run_andThen_error hl).symm.trans h
    | ok script =>
      rw [Dialogue.run_andThen_ok hl] at h
      cases h
      exact valid_of_loadScript hl

inductive Hears (answer : (e : Effect) → τ → e.Answer × τ) (c : Client) (o : GenerateOptions) (w : τ) :
    GenerateRequest → Except NoAnswer Response → τ → Prop
  | asked {previous : Option Script} {w₁ w₂ : τ} {r : Except NoAnswer Response}
      (loaded : (loadPrevious o.previous).run answer w = (.ok previous, w₁))
      (answered : answer (.request (c.generateRequest ⟨o.url, o.prompt, previous⟩)) w₁ = (r, w₂)) :
      Hears answer c o w ⟨o.url, o.prompt, previous⟩ r w₂

lemma Hears.valid (h : Hears answer c o w q r w₂) : ∀ s, q.previousScript = some s → s.Valid := by
  cases h with
  | asked loaded answered => exact valid_of_loadPrevious (congrArg Prod.fst loaded)

def asking (c : Client) (q : GenerateRequest) : Attempt GenerateResponse :=
  (Job.ofExchange (c.generate q)).bind fun r => .done (r.mapError .plain)

lemma run_asking (h : answer (.request (c.generateRequest q)) w = (r, w₂)) :
    (asking c q).run answer w = ((Client.decode GenerateResponse.decode? r).mapError .plain, w₂) := by
  change ((Client.decode GenerateResponse.decode? (answer (.request _) w).1).mapError _, (answer _ w).2) = _
  rw [h]

lemma exchanges_asking (h : answer (.request (c.generateRequest q)) w = (r, w₂)) :
    (asking c q).exchanges answer w = [⟨.request (c.generateRequest q), r⟩] := by
  change [(⟨_, (answer (.request _) w).1⟩ : (e : Effect) × e.Answer)] = _
  rw [h]

def finish (screen : Screen) (o : GenerateOptions) (g : GenerateResponse) : Attempt Report :=
  (writeScript g.script o.output).andThen fun _ => .done (.ok (.success (generatedText screen o g)))

lemma Hears.generate (h : Hears answer c o w q r w₂) (hr : Client.decode GenerateResponse.decode? r = .ok g)
    (screen : Screen) : (generate screen c o).run answer w = (finish screen o g).run answer w₂ ∧
      (generate screen c o).exchanges answer w = (loadPrevious o.previous).exchanges answer w ++
        ⟨.request (c.generateRequest q), r⟩ :: (finish screen o g).exchanges answer w₂ := by
  cases h with
  | @asked previous w₁ w₂ r loaded answered =>
    have hparts : Cli.generate screen c o = (loadPrevious o.previous).andThen fun previous =>
      (asking c ⟨o.url, o.prompt, previous⟩).andThen (finish screen o) := rfl
    have hloaded : ((loadPrevious o.previous).run answer w).1 = .ok previous := congrArg Prod.fst loaded
    have hasked : (asking c ⟨o.url, o.prompt, previous⟩).run answer w₁ = (.ok g, w₂) := by
      rw [run_asking answered, hr]
      rfl
    rw [hparts]
    constructor
    · rw [Dialogue.run_andThen_ok hloaded, loaded, Dialogue.run_andThen_ok (congrArg Prod.fst hasked), hasked]
    · rw [Dialogue.exchanges_andThen_ok hloaded, loaded, Dialogue.exchanges_andThen_ok (congrArg Prod.fst hasked),
        hasked, exchanges_asking answered]
      rfl

def written (path : String) (script : Script) : Files.Operation :=
  .write path (Text.encode (printJson script.toValue))

lemma run_writeScript (path : String) (script : Script) (w : τ) : (writeScript script (some path)).run answer w =
    ((answer (.file (written path script)) w).1.mapError fun e => .plain e.message,
      (answer (.file (written path script)) w).2) := rfl

lemma exchanges_writeScript (path : String) (script : Script) (w : τ) :
    (writeScript script (some path)).exchanges answer w =
      [⟨.file (written path script), (answer (.file (written path script)) w).1⟩] := rfl

lemma finish_writes (ho : o.output = some path) (screen : Screen) (g : GenerateResponse) (w : τ) :
    (finish screen o g).exchanges answer w =
      [⟨.file (written path g.script), (answer (.file (written path g.script)) w).1⟩] ∧
    ∀ report, ((finish screen o g).run answer w).1 = .ok report →
      (answer (.file (written path g.script)) w).1 = .ok () ∧
        ((finish screen o g).run answer w).2 = (answer (.file (written path g.script)) w).2 := by
  have hrun := congrArg Prod.fst (@run_writeScript τ answer path g.script w)
  rw [finish, ho, ← exchanges_writeScript path g.script w]
  cases ha : (answer (.file (written path g.script)) w).1 with
  | error e =>
    rw [ha] at hrun
    exact ⟨Dialogue.exchanges_andThen_error hrun,
      fun report hreport => by cases (Dialogue.run_andThen_error hrun).symm.trans hreport⟩
  | ok u =>
    rw [ha] at hrun
    refine ⟨(Dialogue.exchanges_andThen_ok hrun).trans (List.append_nil _), fun report _ => ⟨rfl, ?_⟩⟩
    rw [Dialogue.run_andThen_ok hrun, run_writeScript]
    rfl

structure OnDisk (answer : (e : Effect) → τ → e.Answer × τ) (tree : τ → Tree) : Prop where
  answers : ∀ op w, (answer (.file op) w).1 = (Tree.answer op (tree w)).1
  becomes : ∀ op w, tree (answer (.file op) w).2 = (Tree.answer op (tree w)).2

namespace OnDisk

variable {tree : τ → Tree} (h : OnDisk answer tree)

include h

lemma offers (hpath : isInput path = false) (hfile : (tree w).readFile [] path = .ok (Text.encode text)) :
    Offers answer w path text :=
  .file hpath ((h.answers (.read path) w).trans hfile) (Text.decode?_encode text)

lemma readFile_written {script : Script} (hw : (answer (.file (written path script)) w).1 = .ok ()) :
    (tree (answer (.file (written path script)) w).2).readFile [] path =
      .ok (Text.encode (printJson script.toValue)) := by
  rw [h.answers] at hw
  rw [h.becomes]
  change ((tree w).commit ((tree w).writeFile [] path (Text.encode (printJson script.toValue)))).1 = _ at hw
  change ((tree w).commit ((tree w).writeFile [] path (Text.encode (printJson script.toValue)))).2.readFile [] path = _
  cases hf : (tree w).writeFile [] path (Text.encode (printJson script.toValue)) with
  | error e =>
    rw [hf] at hw
    cases hw
  | ok t => exact Tree.readFile_writeFile hf

end OnDisk

/-- Whatever the model has said, a script that was accepted reaches the client as it was, and the command writes it so
that it is loaded as the same script, from wherever the text is offered and from the file itself. -/
theorem generated_script_loads {σ : Type} (reads : AddressReader) (settings : Settings) (key : String)
    (q : GenerateRequest) (world : Web.World σ) (m : σ) {g : GenerateResponse}
    (hgenerated : ((Generation.generate reads settings.agent key q).run world.model m).1 = .ok g) :
    let reply (contentType : Option String) (body : Text.Bytes) :=
      ((Agent.model settings.agent key).service reads settings).reply (.post "/generate" contentType body) world m
    (∀ contentType body, (Incoming.post "/generate" contentType body).Asks reads q →
      reply contentType body = .json 200 g.encode ∧
        Client.decode GenerateResponse.decode? (reply contentType body).heard = .ok g) ∧
    ∀ (τ : Type) (answer : (e : Effect) → τ → e.Answer × τ) (w w₂ : τ) (screen : Screen) (c : Client)
      (o : GenerateOptions) (path : String), o.output = some path →
      (Text.encode q.encode.toText).length ≤ Service.bodyLimit →
      Hears answer c o w q (reply (some "application/json") (Text.encode q.encode.toText)).heard w₂ →
      ∃ text, (generate screen c o).exchanges answer w = (loadPrevious o.previous).exchanges answer w ++
          [⟨.request (c.generateRequest q), .ok ⟨200, Text.encode g.encode.toText⟩⟩,
            ⟨.file (.write path (Text.encode text)), (answer (.file (.write path (Text.encode text))) w₂).1⟩] ∧
        Script.read text = .ok g.script ∧
        (∀ (answer' : (e : Effect) → τ → e.Answer × τ) (w' : τ) (path' : String), Offers answer' w' path' text →
          ((loadScript path').run answer' w').1 = .ok g.script) ∧
        ∀ (tree : τ → Tree) (report : Report), OnDisk answer tree → isInput path = false →
          ((generate screen c o).run answer w).1 = .ok report →
          ((loadScript path).run answer ((generate screen c o).run answer w).2).1 = .ok g.script := by
  intro reply
  have hchecked := Agent.checked_of_generated hgenerated
  have hread := Script.read_printed (Agent.valid_of_generated hgenerated)
  have hreply (contentType : Option String) (body : Text.Bytes)
      (hasks : (Incoming.post "/generate" contentType body).Asks reads q) :
      reply contentType body = .json 200 g.encode :=
    Agent.reply_generated hasks hgenerated settings
  refine ⟨fun contentType body hasks => ?_, fun τ answer w w₂ screen c o path ho hshort hhears => ?_⟩
  · rw [hreply contentType body hasks]
    exact ⟨rfl, Client.decode_generated g⟩
  · -- the service reads what the command sends as `q`, since the script to revise was checked when it was loaded
    rw [hreply _ _ (Incoming.asks_sent hchecked hhears.valid hshort)] at hhears
    obtain ⟨hrun, hexchanges⟩ := hhears.generate (Client.decode_generated g) screen
    obtain ⟨hwrites, hwritten⟩ := finish_writes ho screen g w₂
    refine ⟨printJson g.script.toValue, ?_, hread, fun answer' w' path' h => run_loadScript h hread, ?_⟩
    · rw [hexchanges, hwrites]
      rfl
    · intro tree report hdisk hpath hreport
      rw [hrun] at hreport ⊢
      obtain ⟨hdone, hafter⟩ := hwritten report hreport
      rw [hafter]
      exact run_loadScript (hdisk.offers hpath (hdisk.readFile_written hdone)) hread

def oneAddress : AddressReader := fun url =>
  if url = "https://example.com" then .ok ⟨true⟩ else .error "relative URL without a base"

def submitting : Value :=
  .object [("content", .array [.object [("type", .text "tool_use"), ("name", .text "submit_script"),
    ("input", .object [("message", .text "Waits."), ("script", .object [("version", .text "1.0.0"), ("actions", .array [
      .object [("type", .text "click"), ("selector", .text "\"\\\n\x00\u2028")],
      .object [("type", .text "sleep"), ("milliseconds", .ofNat 9007199254740991)]])])])]])]

def submits : Web.World Unit
  | .model _, m => (.ok ⟨200, Text.encode submitting.toText⟩, m)
  | .sandbox c, m => Service.gone (.sandbox c) m

def served (reply : Reply) : (e : Effect) → Tree → e.Answer × Tree
  | .file op, t => Tree.answer op t
  | .input, t => ([], t)
  | .request _, t => (reply.heard, t)

lemma generated_by_submits {reads : AddressReader} (hchecked : q.check reads = .ok ()) (c : Generation.ModelSettings)
    (key : String) : ((Generation.generate reads c key q).run submits.model ()).1 =
      Generation.readReply submitting.sort := by
  have hfits : submitting.fits Reader.depthLimit := by
    simp [submitting, Value.fits, fitItems, fitFields, Number.fits, Value.ofNat, Reader.depthLimit]
  have hsent (turns : List Generation.Turn) :
      ((Generation.send c key turns).run submits.model ()).1 = .ok submitting.sort := by
    change Generation.bodyOf (.ok ⟨200, Text.encode submitting.toText⟩) = _
    simp [Generation.bodyOf, Text.lossy_encode, Value.read?_toText hfits, Status.isSuccess]
  have hpaused : Generation.isPaused submitting.sort = false := by decide +kernel
  have hconverse (turns : List Generation.Turn) (left : Nat) :
      ((Generation.converse c key turns (left + 1)).run submits.model ()).1 = .ok submitting.sort := by
    rw [Generation.converse, Dialogue.run_andThen_ok (hsent turns), hpaused]
    rfl
  rw [Generation.generate, hchecked, Dialogue.run_bind, Generation.continuations, hconverse]
  rfl

theorem generated_script_loads_longest_sleep :
    let q : GenerateRequest := ⟨"https://example.com", "Wait.", none⟩
    let script : Script := ⟨"1.0.0", [.click "\"\\\n\x00\u2028", .sleep 9007199254740991]⟩
    let settings : Settings := .standard "/tmp"
    let reply := ((Agent.model settings.agent "key").service oneAddress settings).reply
      (.post "/generate" (some "application/json") (Text.encode q.encode.toText)) submits ()
    let command := generate ⟨.table, false⟩ ⟨"http://localhost:8787"⟩ ⟨q.url, q.prompt, none, some "check.json"⟩
    Client.decode GenerateResponse.decode? reply.heard = .ok ⟨"Waits.", script⟩ ∧
    ((loadScript "check.json").run (served reply) (command.run (served reply) .empty).2).1 = .ok script := by
  intro q script settings reply command
  have hreply : Generation.readReply submitting.sort = .ok ⟨"Waits.", script⟩ := by decide +kernel
  have hchecked : q.check oneAddress = .ok () := by decide +kernel
  have hgenerated := (generated_by_submits hchecked settings.agent "key").trans hreply
  have hshort : (Text.encode q.encode.toText).length ≤ Service.bodyLimit := by
    rw [Text.encode_eq_flatMap]
    decide
  have hasks := Incoming.asks_sent (Agent.checked_of_generated hgenerated) nofun hshort
  have hhears : Hears (served reply) ⟨"http://localhost:8787"⟩ ⟨q.url, q.prompt, none, some "check.json"⟩ .empty q
    reply.heard .empty := .asked rfl rfl
  obtain ⟨hreply, hloads⟩ := generated_script_loads oneAddress settings "key" q submits () hgenerated
  obtain ⟨hsent, hdecoded⟩ := hreply (some "application/json") (Text.encode q.encode.toText) hasks
  obtain ⟨-, -, -, -, hdisk⟩ :=
    hloads Tree (served reply) .empty .empty ⟨.table, false⟩ _ _ "check.json" rfl hshort hhears
  have hdone : (command.run (served reply) .empty).1 = .ok (.success (generatedText ⟨.table, false⟩
      ⟨q.url, q.prompt, none, some "check.json"⟩ ⟨"Waits.", script⟩)) :=
    (congrArg Prod.fst (hhears.generate hdecoded ⟨.table, false⟩).1).trans rfl
  exact ⟨hdecoded, hdisk id _ ⟨fun _ _ => rfl, fun _ _ => rfl⟩ (by decide) hdone⟩

end Cli

end BrowserCheck
