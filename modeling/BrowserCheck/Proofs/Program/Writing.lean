import BrowserCheck.Program.Assembly
import BrowserCheck.Proofs.Program.Body

set_option autoImplicit false

/-! Whatever is written to a program is a number of whole lines. Statements may take their margin while they
are written or afterwards, as lines of a block. -/

namespace BrowserCheck.Program.Source

open Text (unlines)

def add (s : Source) (ls : List (List Char)) : Source := { s with text := s.text ++ unlines ls }

def placed (level : Nat) (l : List Char) : List Char := if l.isEmpty then [] else margin level ++ l

@[simp] lemma level_add (s : Source) (ls : List (List Char)) : (s.add ls).level = s.level := rfl

@[simp] lemma add_nil (s : Source) : s.add [] = s := by simp [add]

@[simp] lemma add_add (s : Source) (ls ls' : List (List Char)) : (s.add ls).add ls' = s.add (ls ++ ls') := by
  simp [add]

@[simp] lemma margin_zero : margin 0 = [] := rfl

@[simp] lemma placed_zero (l : List Char) : placed 0 l = l := by cases l <;> rfl

lemma line_eq (s : Source) (code : String) : s.line code = s.add [margin s.level ++ code.toList] := by
  simp [line, add]

lemma blank_eq (s : Source) : s.blank = s.add [[]] := rfl

lemma linesOf_eq (s : Source) (codes : List String) :
    s.linesOf codes = s.add (codes.map fun code => margin s.level ++ code.toList) := by
  induction codes generalizing s with
  | nil => exact s.add_nil.symm
  | cons code codes ih =>
    have ht := ih (s.line code)
    rw [line_eq] at ht
    rw [linesOf, List.foldl_cons, line_eq]
    refine ht.trans ?_
    simp

lemma blockLine_eq (s : Source) (l : List Char) : s.blockLine l = s.add [placed s.level l] := by
  rw [blockLine, placed]
  split
  · exact s.blank_eq
  · rw [line_eq, String.toList_ofList]

lemma block_eq (s : Source) (text : String) :
    s.block text = s.add ((Text.lines text.toList).map (placed s.level)) := by
  rw [block]
  generalize Text.lines text.toList = ls
  induction ls generalizing s with
  | nil => exact s.add_nil.symm
  | cons l ls ih =>
    rw [List.foldl_cons, blockLine_eq, ih]
    simp

lemma statements_add (s : Source) (stmts : List Statement) :
    s.statements stmts = s.add (stmts.flatMap (Statement.lines s.level)) := s.statements_eq stmts

lemma placed_eq (level : Nat) (l : List Char) :
    placed level l = if l = [] then [] else List.replicate (2 * level) ' ' ++ l := by
  cases l <;> rfl

lemma placed_margin (level inner : Nat) {code : List Char} (h : code ≠ []) :
    placed level (margin inner ++ code) = margin (level + inner) ++ code := by
  have hne : margin inner ++ code ≠ [] := List.append_ne_nil_of_right_ne_nil _ h
  rw [placed_eq, if_neg hne, ← List.append_assoc, margin, margin, List.replicate_append_replicate, ← Nat.mul_add]

lemma placed_lines (level inner : Nat) (stmt : Statement) :
    (stmt.lines inner).map (placed level) = stmt.lines (level + inner) := by
  rw [Statement.lines, Statement.lines, List.map_cons, placed_margin level inner stmt.code_ne_nil]
  split <;> rfl

lemma placed_statements (level inner : Nat) (stmts : List Statement) :
    (stmts.flatMap (Statement.lines inner)).map (placed level) =
      stmts.flatMap (Statement.lines (level + inner)) := by
  rw [List.map_flatMap]
  simp only [placed_lines]

lemma lines_statements (level : Nat) (stmts : List Statement) :
    Text.lines ((atLevel level).statements stmts).toText.toList = stmts.flatMap (Statement.lines level) :=
  Block.lines_render ⟨.v100, stmts.length, stmts⟩ level

lemma block_statements (s : Source) (inner : Nat) (stmts : List Statement) :
    s.block ((atLevel inner).statements stmts).toText =
      s.add (stmts.flatMap (Statement.lines (s.level + inner))) := by
  rw [block_eq, lines_statements, placed_statements]

lemma indentedBy_render (level : Nat) (b : Block) :
    Text.indentedBy (2 * level) (b.render 0).toList = (b.render level).toList := by
  have hlines : ∀ l ∈ b.lines 0, '\n' ∉ l := fun l hl hn => Block.lines_unbroken hl _ hn (.inl rfl)
  have hplaced : (b.lines 0).map (placed level) = b.lines level := placed_statements level 0 b.statements
  rw [Block.toList_render, Block.toList_render, Text.indentedBy_unlines _ hlines, ← hplaced]
  exact congrArg unlines (List.map_congr_left fun l _ => (placed_eq level l).symm)

/-- Statements can be written at a level, or rendered first and then set at it as a block. A block that is
rendered at a level of its own ends up at the sum of the two. -/
theorem indented_either_way (stmts : List Statement) (level : Nat) :
    ((atLevel level).statements stmts).toText =
      ((atLevel level).block ((atLevel 0).statements stmts).toText).toText ∧
    (∀ (s : Source) (inner : Nat), s.block ((atLevel inner).statements stmts).toText =
      { s with text := s.text ++ ((atLevel (s.level + inner)).statements stmts).text }) ∧
    ∀ b : Block, (b.render level).toList = Text.indentedBy (2 * level) (b.render 0).toList := by
  have hblock (s : Source) (inner : Nat) : s.block ((atLevel inner).statements stmts).toText =
      { s with text := s.text ++ ((atLevel (s.level + inner)).statements stmts).text } := by
    rw [block_statements, statements_add]
    rfl
  refine ⟨?_, hblock, fun b => (indentedBy_render level b).symm⟩
  rw [hblock (atLevel level) 0]
  rfl

end BrowserCheck.Program.Source
