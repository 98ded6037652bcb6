import BrowserCheck.Program.Block
import BrowserCheck.Proofs.Program.StatementReader
import BrowserCheck.Proofs.Text.Lines

set_option autoImplicit false

namespace BrowserCheck.Program

open Text (unlines)

lemma escapeChar_unbroken {c d : Char} (h : d ∈ escapeChar c) : ¬isLineBreak d := by
  rcases escapeChar_cases c with ⟨-, he⟩ | ⟨-, he⟩ | ⟨-, he⟩ | ⟨-, he⟩ | ⟨-, he⟩ | ⟨-, he⟩ | ⟨-, he⟩ |
    ⟨-, -, hl, he⟩
  case inr.inr.inr.inr.inr.inr.inr =>
    rw [he, List.mem_singleton] at h
    exact h ▸ hl
  all_goals
    rw [he] at h
    simp only [List.mem_cons, List.not_mem_nil, or_false] at h
    rcases h with rfl | rfl | rfl | rfl | rfl | rfl <;> simp [isLineBreak]

lemma quoted_unbroken {quote : Char} (hq : isQuote quote) (s : String) : ∀ c ∈ quoted quote s, ¬isLineBreak c := by
  have hquote : ¬isLineBreak quote := by rcases hq with rfl | rfl <;> simp [isLineBreak]
  intro c hc
  rw [quoted, escape, String.toList_ofList] at hc
  rcases List.mem_cons.mp hc with rfl | hc
  · exact hquote
  rcases List.mem_append.mp hc with hc | hc
  · obtain ⟨d, -, hd⟩ := List.mem_flatMap.mp hc
    exact escapeChar_unbroken hd
  · exact List.mem_singleton.mp hc ▸ hquote

lemma literal_unbroken (s : String) : ∀ c ∈ (literal s).toList, ¬isLineBreak c :=
  toList_literal s ▸ quoted_unbroken (.inl rfl) s

lemma number_unbroken (n : Nat) : ∀ c ∈ (toString n).toList, ¬isLineBreak c := by
  intro c hc
  rw [Text.toList_toString] at hc
  have hd := Text.isDigit_of_mem_digits hc
  rintro (rfl | rfl | rfl | rfl) <;> simp at hd

namespace Form

lemma fixed_unbroken (f : Form) : ∀ c ∈ f.opening.toList ++ closing.toList, ¬isLineBreak c := by
  have h : ∀ f ∈ all, (f.opening.toList ++ closing.toList).all
      (fun c => c != '\n' && c != '\r' && c != '\u2028' && c != '\u2029') = true := by decide
  intro c hc
  have hf := List.all_eq_true.mp (h f (by cases f <;> decide)) c hc
  simpa [isLineBreak, and_assoc] using hf

end Form

namespace Statement

lemma arguments_unbroken (stmt : Statement) : ∀ c ∈ stmt.arguments, ¬isLineBreak c := by
  have hcomma : ∀ c ∈ ", ".toList, ¬isLineBreak c := by simp [isLineBreak]
  intro c hc
  cases stmt with
  | navigate url => exact literal_unbroken _ c hc
  | click selector => exact literal_unbroken _ c hc
  | sleep milliseconds => exact number_unbroken _ c hc
  | injectTelemetry => simp [arguments] at hc
  | captureStep index action details =>
    simp only [arguments, List.mem_append] at hc
    rcases hc with hc | hc | hc | hc | hc
    · exact number_unbroken _ c hc
    · exact hcomma c hc
    · exact literal_unbroken _ c hc
    · exact hcomma c hc
    · exact literal_unbroken _ c hc

lemma code_unbroken (stmt : Statement) : ∀ c ∈ stmt.code.toList, ¬isLineBreak c := by
  intro c hc
  rw [toList_code, List.mem_append, List.mem_append] at hc
  rcases hc with hc | hc | hc
  · exact stmt.form.fixed_unbroken c (List.mem_append_left _ hc)
  · exact stmt.arguments_unbroken c hc
  · exact stmt.form.fixed_unbroken c (List.mem_append_right _ hc)

lemma code_ne_nil (stmt : Statement) : stmt.code.toList ≠ [] := by
  have ho : stmt.form.opening.toList ≠ [] := by cases stmt.form <;> decide
  rw [toList_code]
  exact List.append_ne_nil_of_left_ne_nil ho _

def lines (level : Nat) (stmt : Statement) : List (List Char) :=
  (Source.margin level ++ stmt.code.toList) :: if stmt.isCapture then [[]] else []

def action? : Statement → Option Action
  | navigate url => some (.goTo url)
  | click selector => some (.click selector)
  | sleep milliseconds => some (.sleep milliseconds)
  | injectTelemetry => none
  | captureStep .. => none

end Statement

namespace Source

lemma statement_eq (s : Source) (stmt : Statement) :
    s.statement stmt = { s with text := s.text ++ unlines (stmt.lines s.level) } := by
  by_cases h : stmt.isCapture <;> simp [statement, line, blank, Statement.lines, h]

lemma statements_eq (s : Source) (stmts : List Statement) :
    s.statements stmts = { s with text := s.text ++ unlines (stmts.flatMap (Statement.lines s.level)) } := by
  induction stmts generalizing s with
  | nil => simp [statements]
  | cons stmt stmts ih =>
    have ht := ih (s.statement stmt)
    simp only [statements] at ht
    rw [statements, List.foldl_cons, ht, statement_eq]
    simp

end Source

namespace Block

def lines (level : Nat) (b : Block) : List (List Char) := b.statements.flatMap (Statement.lines level)

def read? (level : Nat) (text : String) : Option (List Statement) :=
  ((Text.lines text.toList).filter fun l => !l.isEmpty).mapM fun l =>
    ((Source.margin level).isPrefixOf? l).bind Statement.read?

lemma toList_render (b : Block) (level : Nat) : (b.render level).toList = unlines (b.lines level) := by
  simp [render, Source.toText, Source.atLevel, Source.statements_eq, lines]

lemma mem_lines {b : Block} {level : Nat} {l : List Char} (h : l ∈ b.lines level) :
    l = [] ∨ ∃ stmt ∈ b.statements, l = Source.margin level ++ stmt.code.toList := by
  obtain ⟨stmt, hs, hl⟩ := List.mem_flatMap.mp h
  rcases List.mem_cons.mp hl with rfl | hl
  · exact .inr ⟨stmt, hs, rfl⟩
  · left
    split at hl
    · exact List.mem_singleton.mp hl
    · simp at hl

lemma lines_unbroken {b : Block} {level : Nat} {l : List Char} (h : l ∈ b.lines level) :
    ∀ c ∈ l, ¬isLineBreak c := by
  rcases mem_lines h with rfl | ⟨stmt, -, rfl⟩
  · simp
  · intro c hc
    rcases List.mem_append.mp hc with hc | hc
    · have he : c = ' ' := List.eq_of_mem_replicate hc
      simp [he, isLineBreak]
    · exact stmt.code_unbroken c hc

lemma lines_render (b : Block) (level : Nat) : Text.lines (b.render level).toList = b.lines level := by
  rw [toList_render]
  apply Text.lines_unlines
  intro l hl
  have hu := lines_unbroken hl
  exact ⟨fun h => hu _ h (.inl rfl), fun h => hu _ h (.inr (.inl rfl))⟩

lemma filter_lines (level : Nat) (stmts : List Statement) :
    (stmts.flatMap (Statement.lines level)).filter (fun l => !l.isEmpty) =
      stmts.map fun stmt => Source.margin level ++ stmt.code.toList := by
  have hne (stmt : Statement) : (Source.margin level ++ stmt.code.toList).isEmpty = false := by
    simp [stmt.code_ne_nil]
  induction stmts with
  | nil => rfl
  | cons stmt stmts ih =>
    rw [List.flatMap_cons, List.filter_append, ih, Statement.lines, List.filter_cons_of_pos (by simp [hne])]
    split <;> simp

lemma read?_render (b : Block) (level : Nat) : read? level (b.render level) = some b.statements := by
  rw [read?, lines_render, lines, filter_lines]
  have h (stmt : Statement) :
      ((Source.margin level).isPrefixOf? (Source.margin level ++ stmt.code.toList)).bind Statement.read? =
        some stmt := by
    rw [isPrefixOf?_append, Option.bind_some, Statement.read?_code]
  have hp := List.mapM_pure (m := Option) (l := b.statements) (f := id)
  rw [List.map_id] at hp
  simp only [List.mapM_map, Function.comp_def, h]
  exact hp

lemma actions_ofActions (index : Nat) (actions : List Action) :
    (ofActions index actions).filterMap Statement.action? = actions := by
  induction actions generalizing index with
  | nil => rfl
  | cons a actions ih =>
    rw [ofActions, List.filterMap_append, ih]
    cases a <;> rfl

lemma ofScript_supported {s : Script} (h : s.version = "1.0.0") :
    ofScript s = .ok ⟨.v100, s.actions.length, ofActions 0 s.actions⟩ := by
  have hv : s.version? = some .v100 := by
    rw [Script.version?, h]
    rfl
  rw [ofScript, hv]

lemma ofScript_unsupported {s : Script} (h : s.version ≠ "1.0.0") :
    ofScript s = .error (.unsupportedVersion s.version) := by
  have hv : s.version? = none := by
    simp [Script.version?, Version.ofTag?, Version.all, Version.tag, Ne.symm h]
  rw [ofScript, hv]

lemma actions_statements {s : Script} {b : Block} (h : ofScript s = .ok b) :
    b.statements.filterMap Statement.action? = s.actions := by
  rw [ofScript] at h
  split at h
  · cases h
    exact actions_ofActions 0 s.actions
  · cases h

/-- No text in a script reaches beyond its literal: the body keeps its lines, each line keeps its form,
and what the script says can be told from the body alone. -/
theorem render_recoverable (s : Script) (b : Block) (level : Nat) (h : ofScript s = .ok b) :
    (∀ c ∈ (b.render level).toList, c ≠ '\r' ∧ c ≠ '\u2028' ∧ c ≠ '\u2029') ∧
    (b.render level).toList = unlines (b.lines level) ∧
    (∀ l ∈ b.lines level, '\n' ∉ l ∧ (l = [] ∨ ∃ code, l = List.replicate (2 * level) ' ' ++ code ∧
      (∃! f : Form, (f.read? code).isSome) ∧ ∃ stmt ∈ b.statements, stmt.Spelled code)) ∧
    read? level (b.render level) = some b.statements ∧
    b.statements.filterMap Statement.action? = s.actions ∧
    ∀ s' b', ofScript s' = .ok b' → b'.render level = b.render level → s'.actions = s.actions := by
  refine ⟨?_, toList_render b level, ?_, read?_render b level, actions_statements h, ?_⟩
  · intro c hc
    rw [toList_render, unlines, List.mem_flatMap] at hc
    obtain ⟨l, hl, hc⟩ := hc
    rcases List.mem_append.mp hc with hc | hc
    · have hu := lines_unbroken hl c hc
      simp only [isLineBreak, not_or] at hu
      exact hu.2
    · rw [List.mem_singleton.mp hc]
      decide
  · intro l hl
    refine ⟨fun hn => lines_unbroken hl _ hn (.inl rfl), ?_⟩
    rcases mem_lines hl with rfl | ⟨stmt, hs, rfl⟩
    · exact .inl rfl
    · exact .inr ⟨_, rfl, stmt.form_unique, stmt, hs, stmt.code_spelled⟩
  · intro s' b' h' he
    have hr : b'.statements = b.statements := by
      have hb := read?_render b' level
      rw [he, read?_render b level] at hb
      exact (Option.some.inj hb).symm
    rw [← actions_statements h', ← actions_statements h, hr]

theorem render_recoverable_hostile : ∃ b,
    ofScript (.ofActions [.click "\\'\n); f('", .sleep 5]) = .ok b ∧
    (∀ l ∈ b.lines 1, '\n' ∉ l) ∧ read? 1 (b.render 1) = some b.statements ∧
    b.statements.filterMap Statement.action? = [.click "\\'\n); f('", .sleep 5] :=
  have h := render_recoverable (.ofActions [.click "\\'\n); f('", .sleep 5]) _ 1 rfl
  ⟨_, rfl, fun l hl => (h.2.2.1 l hl).1, h.2.2.2.1, h.2.2.2.2.1⟩

end Block

end BrowserCheck.Program
