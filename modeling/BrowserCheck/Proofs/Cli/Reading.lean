import BrowserCheck.Cli.Commands
import BrowserCheck.Proofs.Dialogue
import Mathlib.Data.List.TakeDrop

set_option autoImplicit false

/-! What a command reads: its line, where options stand in any order, and the script that a file holds. -/

namespace BrowserCheck.Cli

namespace Found

variable {f : Found} {o : OptionSpec} {value : String}

def given (f : Found) (options : List (String × String)) : Found := { f with options := f.options ++ options }

lemma given_nil (f : Found) : f.given [] = f := by
  rw [given, List.append_nil]

lemma given_cons (f : Found) (option : String × String) (options : List (String × String)) :
    f.given (option :: options) = (f.given [option]).given options := by
  simp [given]

lemma add_ok (h : o.name ∉ f.options.map Prod.fst) : f.add o value = .ok (f.given [(o.name, value)]) := by
  have hn : f.isGiven o.name = false := by
    rw [isGiven, List.lookup_eq_none_iff.mpr fun p hp => ?_]
    · rfl
    · rw [bne_iff_ne]
      intro he
      exact h (he ▸ List.mem_map_of_mem hp)
  rw [add, hn]
  rfl

lemma addValue_ok {accepts : String → Bool} (valued : o.accepts = some accepts) (accepted : accepts value = true)
    (h : o.name ∉ f.options.map Prod.fst) : f.addValue o value = .ok (f.given [(o.name, value)]) := by
  rw [addValue, valued]
  exact (if_pos accepted).trans (add_ok h)

end Found

lemma lookup_of_perm {options options' : List (String × String)} (h : options.Perm options')
    (hn : (options'.map Prod.fst).Nodup) (name : String) : options.lookup name = options'.lookup name := by
  induction h with
  | nil => rfl
  | cons option _ ih =>
    rw [List.lookup_cons, List.lookup_cons, ih (List.nodup_cons.mp hn).2]
  | swap x y options =>
    obtain ⟨k, v⟩ := x
    obtain ⟨k', v'⟩ := y
    have hne : k' ≠ k := fun he => (List.nodup_cons.mp hn).1 (by simp [he])
    rw [List.lookup_cons, List.lookup_cons, List.lookup_cons, List.lookup_cons]
    cases hk : name == k with
    | false => rfl
    | true =>
      have hk' : (name == k') = false := by
        rw [beq_eq_false_iff_ne, eq_of_beq hk]
        exact hne.symm
      rw [hk']
  | trans _ h ih ih' => exact (ih ((h.map Prod.fst).nodup_iff.mpr hn)).trans (ih' hn)

namespace Grammar

variable {g : Grammar} {f f' : Found} {rest : List String}

structure Plain (g : Grammar) : Prop where
  names : ∀ o ∈ g.options, o.name ≠ "" ∧ '=' ∉ o.name.toList
  commands : ∀ c ∈ g.commands, c.toList.head? ≠ some '-'

inductive Spells (g : Grammar) : String × String → List String → Prop
  | switch {o : OptionSpec} (known : g.options.find? (·.name == o.name) = some o) (bare : o.accepts = none) :
      Spells g (o.name, "") ["--" ++ o.name]
  | apart {o : OptionSpec} {accepts : String → Bool} {value : String}
      (known : g.options.find? (·.name == o.name) = some o) (valued : o.accepts = some accepts)
      (accepted : accepts value = true) (clear : isValue value = true) :
      Spells g (o.name, value) ["--" ++ o.name, value]
  | joined {o : OptionSpec} {accepts : String → Bool} {value : String}
      (known : g.options.find? (·.name == o.name) = some o) (valued : o.accepts = some accepts)
      (accepted : accepts value = true) : Spells g (o.name, value) ["--" ++ (o.name ++ ("=" ++ value))]

lemma splitValue_append {name : String} (h : '=' ∉ name.toList) {behind : List Char}
    (hb : behind = [] ∨ ∃ value, behind = '=' :: value) : splitValue (name.toList ++ behind) =
      (name, match behind with | _ :: value => some (String.ofList value) | [] => none) := by
  have hall : ∀ c ∈ name.toList, (c != '=') = true := fun c hc => by
    rw [bne_iff_ne]
    rintro rfl
    exact h hc
  rw [splitValue, List.span_eq_takeWhile_dropWhile, List.takeWhile_append_of_pos hall,
    List.dropWhile_append_of_pos hall]
  rcases hb with rfl | ⟨value, rfl⟩ <;> simp

lemma splitValue_plain {name : String} (h : '=' ∉ name.toList) : splitValue name.toList = (name, none) := by
  have hs := splitValue_append h (.inl rfl)
  rwa [List.append_nil] at hs

lemma splitValue_joined {name : String} (h : '=' ∉ name.toList) (value : String) :
    splitValue (name ++ ("=" ++ value)).toList = (name, some value) := by
  have hs := splitValue_append h (.inr ⟨value.toList, rfl⟩)
  rw [String.toList_append, String.toList_append]
  exact hs.trans (congrArg (fun v => (name, some v)) String.ofList_toList)

lemma read_long (hg : g.Plain) {text : String} (ht : text ≠ "") :
    (∀ f', g.readLong f text.toList = .ok (.done f') → g.read f (("--" ++ text) :: rest) = g.read f' rest) ∧
    ∀ o value f', g.readLong f text.toList = .ok (.valueOf o) → isValue value = true → f.addValue o value = .ok f' →
      g.read f (("--" ++ text) :: value :: rest) = g.read f' rest := by
  have htext : ("--" ++ text).toList = '-' :: '-' :: text.toList := by
    rw [String.toList_append]
    rfl
  have hend : "--" ++ text ≠ "--" := fun he =>
    ht (String.toList_injective (by simpa [htext] using congrArg String.toList he))
  have hcommand : g.commands.contains ("--" ++ text) = false := by
    rw [Bool.eq_false_iff]
    intro hc
    refine hg.commands _ (List.contains_iff_mem.mp hc) ?_
    rw [htext]
    rfl
  have hlong : g.readArgument f ("--" ++ text) = g.readLong f text.toList := by
    rw [readArgument, htext]
    rfl
  refine ⟨fun f' hl => ?_, fun o value f' hl hv ha => ?_⟩
  · rw [read, if_neg hend, hcommand, hlong, hl]
    rfl
  · rw [read, if_neg hend, hcommand, hlong, hl]
    simp only [hv, ha]
    rfl

lemma read_spelt (hg : g.Plain) {option : String × String} {words : List String} (h : g.Spells option words)
    (hnew : option.1 ∉ f.options.map Prod.fst) : g.read f (words ++ rest) = g.read (f.given [option]) rest := by
  cases h with
  | @switch o known bare =>
    obtain ⟨hne, hplain⟩ := hg.names o (List.mem_of_find?_eq_some known)
    refine (read_long hg hne).1 _ ?_
    simp only [readLong, splitValue_plain hplain, known, bare, Found.add_ok hnew]
    rfl
  | @apart o accepts value known valued accepted clear =>
    obtain ⟨hne, hplain⟩ := hg.names o (List.mem_of_find?_eq_some known)
    refine (read_long hg hne).2 o value _ ?_ clear (Found.addValue_ok valued accepted hnew)
    simp only [readLong, splitValue_plain hplain, known, valued]
  | @joined o accepts value known valued accepted =>
    obtain ⟨hne, hplain⟩ := hg.names o (List.mem_of_find?_eq_some known)
    refine (read_long hg ?_).1 _ ?_
    · exact fun he => hne (String.append_eq_empty_iff.mp he).1
    · simp only [readLong, splitValue_joined hplain value, known, Found.addValue_ok valued accepted hnew]
      rfl

lemma read_given (hg : g.Plain) {options : List (String × String)} {words : List (List String)}
    (h : List.Forall₂ g.Spells options words) (hn : ((f.options ++ options).map Prod.fst).Nodup) :
    g.read f (words.flatten ++ rest) = g.read (f.given options) rest := by
  induction h generalizing f with
  | nil => rw [List.flatten_nil, List.nil_append, Found.given_nil]
  | @cons option words options more hs _ ih =>
    have hnew : option.1 ∉ f.options.map Prod.fst := by
      rw [List.map_append] at hn
      exact fun hf => (List.nodup_append.mp hn).2.2 _ hf _ List.mem_cons_self rfl
    have hn' : (((f.given [option]).options ++ options).map Prod.fst).Nodup := by
      rwa [Found.given, List.append_assoc]
    rw [List.flatten_cons, List.append_assoc, read_spelt hg hs hnew, ih hn', ← Found.given_cons]

lemma read_path {path : String} (hpath : path ≠ "") (hroom : f.paths.length < g.paths) :
    g.read f ["--", path] = .ok ({ f with paths := f.paths ++ [path] }, none) := by
  have hadd : g.addPath f path = .ok { f with paths := f.paths ++ [path] } :=
    if_pos ⟨hroom, by simpa using hpath⟩
  rw [read, if_pos rfl, List.foldlM_cons, hadd]
  rfl

end Grammar

namespace Arguments

def grammarOf (name : String) (options : List OptionSpec) (paths : Nat) : Grammar :=
  ⟨programName ++ "-" ++ name, options ++ globals, paths, []⟩

lemma plain_grammarOf {name : String} {options : List OptionSpec} {paths : Nat}
    (h : commands.lookup name = some (options, paths)) : (grammarOf name options paths).Plain := by
  have hnames : ∀ c ∈ commands, ∀ o ∈ c.2.1 ++ globals, o.name ≠ "" ∧ '=' ∉ o.name.toList := by decide
  obtain ⟨before, after, he, -⟩ := List.lookup_eq_some_iff.mp h
  exact ⟨hnames (name, options, paths) (by rw [he]; simp), nofun⟩

lemma read_command {name : String} {options : List OptionSpec} {paths : Nat} {rest : List String} {below : Found}
    {c : Command} (hspec : commands.lookup name = some (options, paths))
    (hread : (grammarOf name options paths).read .empty rest = .ok (below, none)) (hc : commandOf name below = .ok c)
    (lookup : String → Option String) : read lookup (name :: rest) = .ok (ofFound lookup .empty below c) := by
  have hmem : name ∈ commands.map (·.1) := by
    obtain ⟨before, after, he, -⟩ := List.lookup_eq_some_iff.mp hspec
    rw [he]
    simp
  have hname : name ≠ "--" := by
    rintro rfl
    revert hmem
    decide
  have habove : topLevel.read .empty (name :: rest) = .ok (.empty, some (name, rest)) := by
    rw [Grammar.read, if_neg hname, if_pos]
    exact List.contains_iff_mem.mpr (List.mem_cons_of_mem _ hmem)
  rw [read, habove]
  simp only [bind, Except.bind, hspec]
  rw [show Grammar.read ⟨programName ++ "-" ++ name, options ++ globals, paths, []⟩ .empty rest = _ from hread]
  simp only [hc]
  rfl

end Arguments

variable {σ : Type} {answer : (e : Effect) → σ → e.Answer × σ} {w : σ} {path text : String} {script : Script}

/-- The text that a path leads to, in a file or on the standard input. -/
inductive Offers (answer : (e : Effect) → σ → e.Answer × σ) (w : σ) (path text : String) : Prop where
  | input (h : isInput path = true) (decodes : Text.decode? (answer .input w).1 = some text)
  | file {contents : Text.Bytes} (h : isInput path = false) (there : (answer (.file (.read path)) w).1 = .ok contents)
      (decodes : Text.decode? contents = some text)

lemma run_readText (path : String) (w : σ) : ((Job.ofAccess (Files.Access.readText path)).run answer w).1 =
    (answer (.file (.read path)) w).1.bind fun b => match Text.decode? b with
      | some s => .ok s
      | none => .error .badText := rfl

lemma run_readInput (h : Offers answer w path text) : ((readInput path).run answer w).1 = .ok text := by
  cases h with
  | input h decodes =>
    have hinput : (Job.input.run answer w).1 = (answer .input w).1 := rfl
    rw [readInput, if_pos h, Dialogue.run_bind, hinput, decodes]
    rfl
  | @file contents h there decodes =>
    have hread : ((Job.ofAccess (Files.Access.readText path)).run answer w).1 = .ok text := by
      rw [run_readText, there]
      simp only [Except.bind, decodes]
    rw [readInput, h, if_neg Bool.false_ne_true, Dialogue.run_bind, hread]
    rfl

lemma run_loadScript (h : Offers answer w path text) (hs : Script.read text = .ok script) :
    ((loadScript path).run answer w).1 = .ok script := by
  rw [loadScript, Dialogue.run_andThen_ok (run_readInput h), hs]
  rfl

lemma offers_of_readInput (h : ((readInput path).run answer w).1 = .ok text) : Offers answer w path text := by
  cases hpath : isInput path with
  | true =>
    have hinput : (Job.input.run answer w).1 = (answer .input w).1 := rfl
    rw [readInput, if_pos hpath, Dialogue.run_bind, hinput] at h
    cases decodes : Text.decode? (answer .input w).1 with
    | none =>
      rw [decodes] at h
      cases h
    | some s =>
      rw [decodes] at h
      cases h
      exact .input hpath decodes
  | false =>
    rw [readInput, hpath, if_neg Bool.false_ne_true, Dialogue.run_bind, run_readText] at h
    cases there : (answer (.file (.read path)) w).1 with
    | error e =>
      rw [there] at h
      cases h
    | ok contents =>
      rw [there] at h
      cases decodes : Text.decode? contents with
      | none =>
        simp only [Except.bind, decodes] at h
        cases h
      | some s =>
        simp only [Except.bind, decodes] at h
        cases h
        exact .file hpath there decodes

def Loads (answer : (e : Effect) → σ → e.Answer × σ) (w : σ) (path : String) (script : Script) : Prop :=
  ∃ text, Offers answer w path text ∧ Script.read text = .ok script

lemma run_loadScript_eq_ok_iff : ((loadScript path).run answer w).1 = .ok script ↔ Loads answer w path script := by
  constructor
  · intro h
    rw [loadScript] at h
    cases hr : ((readInput path).run answer w).1 with
    | error e => cases (Dialogue.run_andThen_error hr).symm.trans h
    | ok text =>
      rw [Dialogue.run_andThen_ok hr] at h
      change (Script.read text).mapError _ = _ at h
      refine ⟨text, offers_of_readInput hr, ?_⟩
      cases hs : Script.read text with
      | error e =>
        rw [hs] at h
        cases h
      | ok s =>
        rw [hs] at h
        cases h
        rfl
  · rintro ⟨text, hoffers, hs⟩
    exact run_loadScript hoffers hs

lemma exchanges_loadScript (answer : (e : Effect) → σ → e.Answer × σ) (w : σ) (path : String) :
    ∃ e, (loadScript path).exchanges answer w = [e] ∧ (e.1 = .input ∨ e.1 = .file (.read path)) := by
  have hread : (loadScript path).exchanges answer w = (readInput path).exchanges answer w := by
    rw [loadScript]
    cases h : ((readInput path).run answer w).1 with
    | ok text => exact (Dialogue.exchanges_andThen_ok h).trans (List.append_nil _)
    | error e => exact Dialogue.exchanges_andThen_error h
  rw [hread, readInput]
  cases isInput path with
  | true => exact ⟨_, rfl, .inl rfl⟩
  | false => exact ⟨_, rfl, .inr rfl⟩

end BrowserCheck.Cli
