import BrowserCheck.Cli.Screenshots
import BrowserCheck.Proofs.Dialogue
import BrowserCheck.Proofs.Files.Disks
import BrowserCheck.Proofs.Text.Base64
import BrowserCheck.Proofs.Text.Digits
import Mathlib.Data.List.Nodup

set_option autoImplicit false

namespace BrowserCheck.Cli.Screenshots

open Files Text

variable {dir : String} {s : TraceStep} {d d₁ d' : Disk}

lemma fileName_form (s : TraceStep) : ∃ word : String, (∀ c ∈ word.toList, c.isAlphanum ∨ c = '_') ∧
    fileName s = toString s.index.toNat ++ "-" ++ word ++ ".jpg" := by
  refine ⟨String.ofList (s.action.toList.map fun c => if isKept c then c else '_'), fun c hc => ?_, by rw [fileName]⟩
  rw [String.toList_ofList, List.mem_map] at hc
  obtain ⟨x, -, rfl⟩ := hc
  split_ifs with hx
  · exact .inl hx
  · exact .inr rfl

lemma isComponent_fileName (s : TraceStep) : IsComponent (fileName s) := by
  obtain ⟨word, hword, hname⟩ := fileName_form s
  have hdash : '-' ∈ (fileName s).toList := by simp [hname]
  have hne (other : String) (ho : '-' ∉ other.toList) : fileName s ≠ other := fun h => ho (h ▸ hdash)
  refine ⟨hne "" (by decide), hne "." (by decide), hne ".." (by decide), fun h => ?_⟩
  simp only [hname, String.toList_append, List.mem_append, toList_toString] at h
  rcases h with ((h | h) | h) | h
  · exact absurd (isDigit_of_mem_digits h) (by decide)
  · exact absurd h (by decide)
  · exact absurd (hword _ h) (by decide)
  · exact absurd h (by decide)

def path (dir : String) (s : TraceStep) : String := join dir (fileName s)

inductive Saved (dir : String) : List (TraceStep × Bytes) → Disk → Disk → Prop
  | nil (d : Disk) : Saved dir [] d d
  | cons {s : TraceStep} {b : Bytes} {rest : List (TraceStep × Bytes)} {d d₁ d' : Disk}
      (hshot : s.screenshot.toList = Base64.encode b) (hwrites : d.Writes [] (path dir s) b d₁)
      (hrest : Saved dir rest d₁ d') : Saved dir ((s, b) :: rest) d d'

namespace Saved

variable {written : List (TraceStep × Bytes)}

lemma keeps (h : Saved dir written d d') : d.Keeps d' := by
  induction h with
  | nil d => exact .refl d
  | cons _ hwrites _ ih => exact hwrites.keeps.trans ih

lemma decoded (h : Saved dir written d d') : ∀ e ∈ written, e.1.screenshot.toList = Base64.encode e.2 := by
  induction h with
  | nil d => exact List.forall_mem_nil _
  | cons hshot _ _ ih => exact List.forall_mem_cons.mpr ⟨hshot, ih⟩

lemma first {e : TraceStep × Bytes} (h : Saved dir (e :: written) d d') : ∃ d₁ n, Saved dir written d₁ d' ∧
    d₁.contents = Function.update d.contents n e.2 ∧ d'.file? [] (path dir e.1) = some n := by
  obtain ⟨s, b⟩ := e
  cases h with
  | cons _ hwrites hrest =>
    have hname := isComponent_fileName s
    obtain ⟨n, hfile, hcontents⟩ := hwrites.file (hname.join_ne_empty dir) (hname.endsInDirectory_join dir)
    exact ⟨_, n, hrest, hcontents, Disk.file?_kept hrest.keeps hfile⟩

lemma others (h : Saved dir written d d') {n : Nat} (hn : ∀ e ∈ written, d'.file? [] (path dir e.1) ≠ some n) :
    d'.contents n = d.contents n := by
  induction written generalizing d with
  | nil =>
    cases h
    rfl
  | cons e written ih =>
    obtain ⟨d₁, m, hrest, hcontents, hfile⟩ := h.first
    obtain ⟨hfirst, hothers⟩ := List.forall_mem_cons.mp hn
    have hne : n ≠ m := fun he => hfirst (he ▸ hfile)
    rw [ih hrest hothers, hcontents, Function.update_of_ne hne]

lemma nodes (h : Saved dir written d d') {p : Place} (hp : d'.node? p ≠ d.node? p) :
    d.node? p = none ∧ ∃ e ∈ written, d'.locate [] (path dir e.1) = .ok p := by
  induction h with
  | nil d => exact absurd rfl hp
  | @cons s b rest d d₁ d' _ hwrites hrest ih =>
    by_cases hsame : d₁.node? p = d.node? p
    · rw [← hsame] at hp ⊢
      obtain ⟨hnone, e, he, hlocate⟩ := ih hp
      exact ⟨hnone, e, List.mem_cons_of_mem _ he, hlocate⟩
    · obtain ⟨hnone, hlocate⟩ := hwrites.nodes hsame
      exact ⟨hnone, _, List.mem_cons_self, Disk.locate_kept hrest.keeps hlocate⟩

lemma plain (h : Saved dir written d d') {place : Place} {names : List String} (hp : d.Plain place names) :
    d'.Plain place names := by
  induction h with
  | nil d => exact hp
  | cons _ hwrites _ ih => exact ih (hp.writes hwrites)

lemma last (h : Saved dir written d d') {before after : List (TraceStep × Bytes)} {e : TraceStep × Bytes}
    (hsplit : written = before ++ e :: after)
    (hlast : ∀ r ∈ after, d'.file? [] (path dir r.1) ≠ d'.file? [] (path dir e.1)) :
    d'.readFile [] (path dir e.1) = .ok e.2 := by
  induction before generalizing written d with
  | nil =>
    subst hsplit
    obtain ⟨d₁, n, hrest, hcontents, hfile⟩ := h.first
    rw [hfile] at hlast
    rw [Disk.readFile_of_file? hfile, hrest.others hlast, hcontents, Function.update_self]
  | cons first before ih =>
    subst hsplit
    obtain ⟨d₁, n, hrest, -, -⟩ := h.first
    exact ih hrest rfl

end Saved

def undecodable (s : TraceStep) : Trouble :=
  ⟨"step " ++ toString s.index.toNat ++ " screenshot is not valid base64",
    some "the text is no canonical base64 with padding"⟩

inductive Answered (dir : String) (written : List (TraceStep × Bytes)) :
    List TraceStep → Except Trouble (List String) → Prop
  | all : Answered dir written [] (.ok (written.map fun e => path dir e.1))
  | stopped {s : TraceStep} (after : List TraceStep) (hshot : ∀ b, s.screenshot.toList ≠ Base64.encode b) :
      Answered dir written (s :: after) (.error (undecodable s))

lemma Answered.cons {written : List (TraceStep × Bytes)} {rest : List TraceStep} {r : Except Trouble (List String)}
    (e : TraceStep × Bytes) (h : Answered dir written rest r) :
    Answered dir (e :: written) rest (r.map (path dir e.1 :: ·)) := by
  cases h with
  | all => exact .all
  | stopped after hshot => exact .stopped after hshot

lemma answer_write {b : Bytes} {next : Except OsError Unit → Access (Except Trouble (List String))}
    (hall : ∀ e ∈ (Dialogue.ask (.write (path dir s) b) next : Access _).exchanges Disk.answer d, e.1.Succeeded e.2) :
    ∃ d₁, d.Writes [] (path dir s) b d₁ ∧ Disk.answer (.write (path dir s) b) d = (.ok (), d₁) := by
  have hfirst : (d.commit (d.writeFile [] (path dir s) b)).1 = .ok () := hall ⟨_, _⟩ List.mem_cons_self
  cases hw : d.writeFile [] (path dir s) b with
  | error e =>
    rw [hw] at hfirst
    cases hfirst
  | ok d₁ => exact ⟨d₁, (Disk.writes_of_writeFile hw).2.2, congrArg d.commit hw⟩

def shots (trace : Trace) : List TraceStep := trace.steps.filter fun s => !s.screenshot.isEmpty

def step (index : UInt64) (action screenshot : String) : TraceStep := ⟨index, action, "", 0, screenshot, ""⟩

end BrowserCheck.Cli.Screenshots
