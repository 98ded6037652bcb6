import BrowserCheck.Proofs.Cli.Reading
import BrowserCheck.Proofs.Json.Marker
import BrowserCheck.Proofs.Program.Assembled
import BrowserCheck.Proofs.Web.Running

set_option autoImplicit false

namespace BrowserCheck

open Json

namespace Cli

namespace Arguments

lemma quality?_toString (quality : UInt8) : quality? (toString quality.toNat) = some quality := by
  have hd : Text.decimal? 256 (Nat.toDigits 10 quality.toNat) = some quality.toNat :=
    Text.decimal?_digits quality.toNat_lt
  rw [quality?, Text.toList_toString]
  obtain ⟨c, ds, hds⟩ := List.exists_cons_of_ne_nil (Nat.toDigits_ne_nil (n := quality.toNat) (b := 10))
  have hc : c.isDigit = true := Text.isDigit_of_mem_digits (n := quality.toNat) (by simp [hds])
  rw [hds] at hd ⊢
  split
  next he =>
    cases he
    cases hc
  next => rw [hd, Option.map_some, Nat.toUInt8, UInt8.ofNat_toNat]

end Arguments

def compileGrammar : Grammar := Arguments.grammarOf "compile" Arguments.compileOptions 1

def inspectionOptions (format : Option Format) (quality : UInt8) (telemetry : Bool) : List (String × String) :=
  (format.map fun f => ("format", f.name)).toList ++
    [("assembled", ""), ("screenshot-quality", toString quality.toNat)] ++
    if telemetry then [] else [("no-telemetry", "")]

/-- A command line with these options and a file, the options in any order. -/
inductive Inspects (format : Option Format) (quality : UInt8) (telemetry : Bool) (file : String) : List String → Prop
  | line {options : List (String × String)} {words : List (List String)}
      (order : options.Perm (inspectionOptions format quality telemetry))
      (spelt : List.Forall₂ compileGrammar.Spells options words) (named : file ≠ "") :
      Inspects format quality telemetry file ("compile" :: (words.flatten ++ ["--", file]))

def inspection (quality : UInt8) (telemetry : Bool) : CompileOptions :=
  ⟨true, Web.Service.placeholderTarget, telemetry, quality⟩

lemma nodup_inspectionOptions (format : Option Format) (quality : UInt8) (telemetry : Bool) :
    ((inspectionOptions format quality telemetry).map Prod.fst).Nodup := by
  cases format <;> cases telemetry <;> simp [inspectionOptions]

lemma lookup_inspectionOptions (format : Option Format) (quality : UInt8) (telemetry : Bool) :
    let options := inspectionOptions format quality telemetry
    options.lookup "format" = format.map Format.name ∧ options.lookup "assembled" = some "" ∧
      options.lookup "target" = none ∧ (options.lookup "no-telemetry").isSome = !telemetry ∧
      options.lookup "screenshot-quality" = some (toString quality.toNat) := by
  cases format <;> cases telemetry <;> exact ⟨rfl, rfl, rfl, rfl, rfl⟩

lemma format_of_name (format : Option Format) : (format.map Format.name).bind Format.ofName? = format := by
  cases format with
  | none => rfl
  | some f => cases f <;> rfl

lemma read_inspects {format : Option Format} {quality : UInt8} {telemetry : Bool} {file : String} {line : List String}
    (h : Inspects format quality telemetry file line) (lookup : String → Option String) :
    ∃ a, Arguments.read lookup line = .ok a ∧ a.format = format.getD .table ∧
      a.command = .compile file (inspection quality telemetry) := by
  obtain @⟨options, words, order, spelt, named⟩ := h
  have hspec : Arguments.commands.lookup "compile" = some (Arguments.compileOptions, 1) := rfl
  have hn := nodup_inspectionOptions format quality telemetry
  have hbelow : compileGrammar.read .empty (words.flatten ++ ["--", file]) = .ok (⟨options, [file]⟩, none) := by
    have hnew : ((Found.empty.options ++ options).map Prod.fst).Nodup := (order.map Prod.fst).nodup_iff.mpr hn
    have hplain : compileGrammar.Plain := Arguments.plain_grammarOf hspec
    rw [Grammar.read_given hplain spelt hnew]
    exact Grammar.read_path named Nat.one_pos
  have hlookup := lookup_of_perm order hn
  obtain ⟨hformat, hassembled, htarget, htelemetry, hquality⟩ := lookup_inspectionOptions format quality telemetry
  have hcommand : Arguments.commandOf "compile" ⟨options, [file]⟩ =
      .ok (.compile file (inspection quality telemetry)) := by
    simp only [Arguments.commandOf, Found.isGiven, Found.value?, hlookup, hassembled, htarget, htelemetry, hquality,
      Option.bind_some, Arguments.quality?_toString]
    simp [Arguments.required, inspection]
  refine ⟨_, Arguments.read_command hspec hbelow hcommand lookup, ?_, rfl⟩
  have hvalue : Arguments.globalValue? .empty ⟨options, [file]⟩ "format" = options.lookup "format" := Option.or_none
  rw [Arguments.ofFound, hvalue, hlookup, hformat, format_of_name]

def programIn? (text : String) : Option String := ((Value.read? text).bind (·.get? "program")).bind Value.text?

lemma programIn?_toText (program : String) :
    programIn? (Value.object [("program", .text program)]).toText = some program := by
  have hfits : (Value.object [("program", .text program)]).fits Reader.depthLimit := ⟨by decide, trivial, trivial⟩
  rw [programIn?, Value.read?_toText hfits]
  rfl

def printedProgram (script : Script) (program : String) : Value :=
  .object [("actions", .ofNat script.actions.length), ("program", .text program), ("version", .text script.version)]

lemma programIn?_printJson {script : Script} (h : script.actions.length < 2 ^ 64) (program : String) :
    programIn? (printJson (printedProgram script program)) = some program := by
  have hfits : (printedProgram script program).fits Reader.depthLimit :=
    ⟨by decide, ⟨by omega, by omega⟩, trivial, trivial, trivial⟩
  rw [programIn?, printJson, println, Value.read?_toPretty_line hfits]
  rfl

def Shows (format : Format) (script : Script) (program out : String) : Prop :=
  match format with
  | .json => out = printJson (printedProgram script program) ∧
      (script.actions.length < 2 ^ 64 → programIn? out = some program)
  | _ => out = program

section

variable {σ : Type} {answer : (e : Effect) → σ → e.Answer × σ} {w : σ} {file text program : String} {script : Script}
  {quality : UInt8} {telemetry : Bool} {b : Program.Block} {a : Arguments} {lookup : String → Option String}
  {line : List String}

lemma run_execute {r : Report} (ha : Arguments.read lookup line = .ok a)
    (hr : ((perform (Style.isForced lookup) a).run answer w).1 = .ok r) :
    ((execute lookup line).run answer w).1 = r := by
  rw [execute, ha]
  change ((concluded _).run answer w).1 = r
  rw [concluded, Dialogue.run_bind, hr]
  rfl

lemma printedProgram_eq (hb : Program.Block.ofScript script = .ok b) (program : String) :
    Value.object [("actions", .ofNat b.actionCount), ("program", .text program), ("version", .text b.version.tag)] =
      printedProgram script program := by
  have hv : script.version = "1.0.0" := by
    by_contra hn
    rw [Program.Block.ofScript_unsupported hn] at hb
    cases hb
  rw [Program.Block.ofScript_supported hv] at hb
  cases hb
  rw [printedProgram, hv]
  rfl

lemma run_inspection (ha : Arguments.read lookup line = .ok a)
    (hc : a.command = .compile file (inspection quality telemetry)) (hoffers : Offers answer w file text)
    (hs : Script.read text = .ok script) (hb : Program.Block.ofScript script = .ok b) :
    ∃ out, ((execute lookup line).run answer w).1 = .success out ∧ Shows a.format script (Program.assemble
      ⟨quality, { Program.Telemetry.standard with enabled := telemetry }⟩ Web.Service.placeholderTarget b) out := by
  generalize hprogram : Program.assemble ⟨quality, { Program.Telemetry.standard with enabled := telemetry }⟩
    Web.Service.placeholderTarget b = program
  have hcompile : ((perform (Style.isForced lookup) a).run answer w).1 = .ok (.success
      (if a.format = .json then printJson (printedProgram script program) else program)) := by
    simp only [perform, hc, compile]
    rw [Dialogue.run_andThen_ok (run_loadScript hoffers hs), hb, ← printedProgram_eq hb, ← hprogram]
    rfl
  refine ⟨_, run_execute ha hcompile, ?_⟩
  cases a.format with
  | json => exact ⟨rfl, fun h => programIn?_printJson h program⟩
  | table => rfl
  | plain => rfl

end

end Cli

namespace Web.Service

open Cli Program

variable {σ : Type} {script : Script} {contentType contentType' : Option String} {body body' : Text.Bytes}

/-- The program that is returned for a script has the lines of the program that its run writes, but for the target that
the run has found. With the same options, a command prints it. -/
theorem inspected_program_runs (hinspected : (Incoming.post "/compile" contentType body).Poses script)
    (hposted : (Incoming.post "/run" contentType' body').Poses script) (s : Service) (world : World σ) (w w' : σ) :
    let inspected := s.reply (.post "/compile" contentType body) world w
    let calls := (s.respond (.post "/run" contentType' body')).calls world w'
    ∃ program, inspected.status = 200 ∧ programIn? inspected.body = some program ∧
      (((∀ path written a, Sandbox.Exchange.write path written a ∉ calls) ∧
          ∀ r target, Sandbox.Exchange.exec s.gateway.healthCheckCommand r ∈ calls → ¬Sandbox.Gateway.Finds r target) ∨
        ∃ before r target written a after, calls = before ++ [.exec s.gateway.healthCheckCommand r,
            .write s.gateway.programPath written a] ++ after ∧ Sandbox.Gateway.Finds r target ∧
          (∀ path written a', Sandbox.Exchange.write path written a' ∉ before ++ after) ∧
          Retargeted target placeholderTarget written program) ∧
      ∀ quality telemetry, s.options = ⟨quality, { Telemetry.standard with enabled := telemetry }⟩ →
        ∀ {τ : Type} (answer : (e : Cli.Effect) → τ → e.Answer × τ) (v : τ) (file text : String),
          Offers answer v file text → Script.read text = .ok script → ∀ lookup line,
          (∀ format, Inspects format quality telemetry file line → ∃ out,
            ((execute lookup line).run answer v).1 = .success out ∧ Shows (format.getD .table) script program out) ∧
          ∀ a, Arguments.read lookup line = .ok a → a.command = .compile file (inspection quality telemetry) →
            ∃ out, ((execute lookup line).run answer v).1 = .success out ∧ Shows a.format script program out := by
  intro inspected calls
  obtain ⟨b, hb⟩ := compiles_of_poses hposted
  have hreply : inspected = .json 200 (.object [("program", .text (assemble s.options placeholderTarget b))]) :=
    reply_of_done (s.compile_posed hinspected hb) world w
  have hcalls : calls = Sandbox.Session.log world.sandbox (s.gateway.execute s.options script) w' :=
    (s.calls_posed hposted world w').trans (Sandbox.Gateway.log_run script w')
  refine ⟨assemble s.options placeholderTarget b, ?_, ?_, ?_, ?_⟩
  · rw [hreply]
    rfl
  · rw [hreply]
    exact programIn?_toText _
  · rw [hcalls]
    rcases (Sandbox.Gateway.course_of_block hb w').writing with hnone | ⟨before, r, target, a, after, hlog, hr, honce⟩
    · exact .inl hnone
    · have hlines := retargeted_assemble s.options target placeholderTarget b
      exact .inr ⟨before, r, target, _, a, after, hlog, hr, honce, hlines⟩
  · intro quality telemetry hoptions τ answer v file text hoffers hread lookup line
    rw [hoptions]
    refine ⟨fun format hline => ?_, fun a ha hc => run_inspection ha hc hoffers hread hb⟩
    obtain ⟨a, ha, hformat, hc⟩ := read_inspects hline lookup
    rw [← hformat]
    exact run_inspection ha hc hoffers hread hb

def hostileOutput : RawOutput := ⟨(Value.object [("webSocketDebuggerUrl", .text "';\n")]).toText, "", 0⟩

def hostile : World Unit
  | .sandbox (.acquire name), _ => ((.ok ⟨name, id⟩ : Outcome Sandbox.Handle), ())
  | .sandbox (.exec _), _ => ((.ok hostileOutput : Outcome RawOutput), ())
  | .sandbox (.write _ _), _ => ((.ok () : Outcome Unit), ())
  | .sandbox (.pause _), _ => ((), ())
  | .model r, _ => ((.error (.unreachable r.url) : Except NoAnswer Response), ())

lemma finds_hostile {target : String} : Sandbox.Gateway.Finds (.ok hostileOutput) target ↔ target = "';\n" := by
  have htarget : Sandbox.Gateway.target? hostileOutput.stdout = some "';\n" := by decide +kernel
  constructor
  · rintro ⟨out, hout, -, ht⟩
    cases hout
    exact (Option.some.inj (htarget.symm.trans ht)).symm
  · rintro rfl
    exact ⟨_, rfl, rfl, htarget⟩

def Hostile : (c : Sandbox.Call) → c.Answer → Prop
  | .exec _, (a : Outcome RawOutput) => a = .ok hostileOutput
  | _, _ => True

lemma hostile_of_mem {α : Type} {d : Sandbox.Session α} {e : Sandbox.Exchange}
    (h : e ∈ Sandbox.Session.log hostile.sandbox d ()) : Hostile e.1 e.2 := by
  refine Dialogue.forall_exchanges (p := Hostile) ?_ d () e (List.mem_of_mem_filter h)
  rintro (_ | _ | _ | _) w
  case exec => rfl
  all_goals trivial

def typed (text : String) : (e : Cli.Effect) → Unit → e.Answer × Unit
  | .input, _ => (Text.encode text, ())
  | .file (.read _), _ => ((.error .notFound : Except Files.OsError Text.Bytes), ())
  | .file (.write _ _), _ => ((.error .denied : Except Files.OsError Unit), ())
  | .file (.makeDirectories _), _ => ((.error .denied : Except Files.OsError Unit), ())
  | .request r, _ => ((.error (.unreachable r.url) : Except NoAnswer Response), ())

theorem inspected_program_runs_hostile_target :
    let text := (Script.ofActions [.sleep 5]).toValue.toText
    let body := Incoming.scriptBody (.ofActions [.sleep 5])
    let inspected := offline.reply (.post "/compile" (some "application/json") body) hostile ()
    let calls := (offline.respond (.post "/run" (some "application/json") body)).calls hostile ()
    (Incoming.post "/compile" (some "application/json") body).Poses (.ofActions [.sleep 5]) ∧
    (Incoming.post "/run" (some "application/json") body).Poses (.ofActions [.sleep 5]) ∧
    ∃ program written a, programIn? inspected.body = some program ∧
      .write "/workspace/index.mjs" written a ∈ calls ∧ Retargeted "';\n" placeholderTarget written program ∧
      ((execute (fun _ => none)
        ["compile", "--screenshot-quality=60", "--assembled", "--", "-"]).run (typed text) ()).1 =
          .success program := by
  intro text body inspected calls
  have hvalid : Script.Valid (.ofActions [.sleep 5]) := ⟨rfl, by simp [Script.ofActions]⟩
  have hinspected := Incoming.poses_sent hvalid short_sleep "/compile"
  have hposted := Incoming.poses_sent hvalid short_sleep "/run"
  have hcalls : calls = _ := offline.calls_posed hposted hostile ()
  obtain ⟨program, -, hprogram, hwritten, hprinted⟩ := inspected_program_runs hinspected hposted offline hostile () ()
  have hline : Inspects none 60 true "-" ["compile", "--screenshot-quality=60", "--assembled", "--", "-"] := by
    have hquality : compileGrammar.Spells ("screenshot-quality", "60") ["--screenshot-quality=60"] :=
      .joined (o := ⟨"screenshot-quality", none, some fun v => (Arguments.quality? v).isSome⟩) rfl rfl (by decide)
    have hassembled : compileGrammar.Spells ("assembled", "") ["--assembled"] :=
      .switch (o := .switch "assembled" none) rfl rfl
    exact @Inspects.line none 60 true "-" _ _ (by decide) (.cons hquality (.cons hassembled .nil)) (by decide)
  have hoffers : Offers (typed text) () "-" text := .input (by decide +kernel) (by decide +kernel)
  obtain ⟨out, hout, hshows⟩ :=
    (hprinted 60 true rfl (typed text) () "-" text hoffers (by decide +kernel) (fun _ => none) _).1 none hline
  rcases hwritten with ⟨-, hnone⟩ | ⟨before, r, target, written, a, after, hwritten, hr, -, hretargeted⟩
  · have hchecked : .exec offline.gateway.healthCheckCommand (.ok hostileOutput) ∈ calls := by
      rw [hcalls]
      exact List.mem_cons_of_mem _ List.mem_cons_self
    exact absurd (finds_hostile.mpr rfl) (hnone _ _ hchecked)
  · have hwritten : calls = _ := hwritten
    have hmem : ∀ e ∈ [Sandbox.Exchange.exec offline.gateway.healthCheckCommand r,
        .write offline.gateway.programPath written a], e ∈ calls := by
      intro e he
      rw [hwritten]
      exact List.mem_append_left _ (List.mem_append_right _ he)
    have hr' : Hostile (.exec offline.gateway.healthCheckCommand) r :=
      hostile_of_mem (hcalls ▸ hmem _ List.mem_cons_self)
    obtain rfl : r = .ok hostileOutput := hr'
    obtain rfl := finds_hostile.mp hr
    exact ⟨hinspected, hposted, program, written, a, hprogram, hmem _ (List.mem_cons_of_mem _ List.mem_cons_self),
      hretargeted, hout.trans (congrArg Report.success hshows)⟩

def wordyClick (letters : Nat) : Script := .ofActions [.click (String.ofList (List.replicate letters 'A'))]

lemma length_wordyClick {letters : Nat} (h : 0 < letters) :
    letters ≤ (Incoming.scriptBody (wordyClick letters)).length := by
  have hinert : Inert (List.replicate letters 'A') :=
    ⟨by simp [h.ne'], fun c hc => List.eq_of_mem_replicate hc ▸ .inr (by decide)⟩
  have hinfix : List.replicate letters 'A' <:+: Writer.compact (.object [("script", (wordyClick letters).encode)]) :=
    infix_of_text hinert (s := String.ofList (List.replicate letters 'A')) (by simp) _
      (by simp [wordyClick, Script.ofActions, Script.encode, Action.encode, Value.texts, fieldTexts, itemTexts])
  calc letters = (List.replicate letters 'A').length := List.length_replicate.symm
    _ ≤ (Value.toText (.object [("script", (wordyClick letters).encode)])).toList.length := by
      rw [Value.toText, String.toList_ofList]
      exact hinfix.length_le
    _ ≤ _ := Text.length_le_encode _

lemma valid_wordyClick (letters : Nat) : (wordyClick letters).Valid := ⟨rfl, by simp [wordyClick, Script.ofActions]⟩

/-- A valid script whose body is too long is neither shown nor written, though all goes well in the sandbox. -/
theorem wordy_program_refused :
    let body := Incoming.scriptBody (wordyClick 2100000)
    (wordyClick 2100000).Valid ∧
    (offline.reply (.post "/compile" (some "application/json") body) hostile ()).status = 400 ∧
    (offline.reply (.post "/run" (some "application/json") body) hostile ()).status = 400 ∧
    (offline.respond (.post "/run" (some "application/json") body)).calls hostile () = [] := by
  intro body
  have hlong : bodyLimit < body.length := lt_of_lt_of_le (by decide) (length_wordyClick (by decide))
  have hrefused (contentType : Option String) := @long_refused _ offline contentType _ hlong hostile ()
  obtain ⟨hcompile, hrun, hasked⟩ := hrefused (some "application/json")
  refine ⟨valid_wordyClick _, hcompile, hrun, ?_⟩
  rw [Handling.calls, hasked]
  rfl

end Web.Service

end BrowserCheck
