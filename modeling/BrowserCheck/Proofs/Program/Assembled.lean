import BrowserCheck.Proofs.Program.Constants
import BrowserCheck.Proofs.Program.Writing

set_option autoImplicit false

namespace BrowserCheck.Program

open Source (placed)
open Text (unlines)

def unbroken (l : List Char) : Bool := l.all fun c => c != '\n' && c != '\r' && c != '\u2028' && c != '\u2029'

lemma unbroken_iff {l : List Char} : unbroken l = true ↔ ∀ c ∈ l, ¬isLineBreak c := by
  simp [unbroken, isLineBreak, and_assoc]

@[simp] lemma unbroken_append (l l' : List Char) : unbroken (l ++ l') = (unbroken l && unbroken l') :=
  List.all_append

lemma unbroken_margin (level : Nat) : unbroken (Source.margin level) = true :=
  unbroken_iff.mpr fun c hc => by
    rw [List.eq_of_mem_replicate hc]
    simp [isLineBreak]

lemma unbroken_placed {l : List Char} (level : Nat) (h : unbroken l = true) : unbroken (placed level l) = true := by
  rw [placed]
  split
  · rfl
  · rw [unbroken_append, unbroken_margin, h]
    rfl

namespace Fixed

def parts : List (List String) := [helpers, setup, failureBoundary, teardown, entryPoint]

lemma helpers_mem : helpers ∈ parts := by simp [parts]

lemma setup_mem : setup ∈ parts := by simp [parts]

lemma failureBoundary_mem : failureBoundary ∈ parts := by simp [parts]

lemma teardown_mem : teardown ∈ parts := by simp [parts]

lemma entryPoint_mem : entryPoint ∈ parts := by simp [parts]

lemma unbroken_ofList {l : List Char} (h : unbroken l = true) : unbroken (String.ofList l).toList = true := by
  rwa [String.toList_ofList]

-- goes line by line: a literal is opened only once that way
lemma unbroken_of_mem {ls : List String} (h : ls ∈ parts) : ∀ l ∈ ls, unbroken l.toList = true := by
  revert ls
  simp only [parts, List.forall_mem_cons]
  unfold helpers setup failureBoundary teardown entryPoint
  refine ⟨?_, ?_, ?_, ?_, ?_, nofun⟩
  all_goals
    repeat refine List.forall_mem_cons.mpr ⟨unbroken_ofList (by decide +kernel), ?_⟩
    exact nofun

lemma ne_nil_of_getLast? {ls : List String} (h : ls ∈ parts) : ∀ l ∈ ls.getLast?, l.toList ≠ [] := by
  revert ls
  decide +kernel

lemma lines_textOf {ls : List String} (h : ls ∈ parts) : Text.lines (textOf ls).toList = ls.map String.toList := by
  rw [textOf, String.toList_intercalate]
  apply Text.lines_intercalate
  · intro l hl
    obtain ⟨s, hs, rfl⟩ := List.mem_map.mp hl
    have hu := unbroken_iff.mp (unbroken_of_mem h s hs)
    exact ⟨fun hn => hu _ hn (.inl rfl), fun hr => hu _ hr (.inr (.inl rfl))⟩
  · intro l hl
    rw [List.getLast?_map] at hl
    obtain ⟨s, hs, rfl⟩ := Option.map_eq_some_iff.mp hl
    exact ne_nil_of_getLast? h s hs

end Fixed

namespace Source

@[simp] lemma indent_add (s : Source) (ls : List (List Char)) : (s.add ls).indent = s.indent.add ls := rfl

@[simp] lemma dedent_add (s : Source) (ls : List (List Char)) : (s.add ls).dedent = s.dedent.add ls := rfl

lemma block_part (s : Source) {ls : List String} (h : ls ∈ Fixed.parts) :
    s.block (Fixed.textOf ls) = s.add (ls.map fun l => placed s.level l.toList) := by
  rw [block_eq, Fixed.lines_textOf h, List.map_map]
  rfl

end Source

def importLines : List (List Char) := imports.map String.toList ++ [[]]

def setupLines : List (List Char) :=
  [[]] ++ Fixed.helpers.map String.toList ++ [[], "async function main() \x7b".toList] ++
    Fixed.setup.map (fun l => placed 1 l.toList) ++ [[], "  try \x7b".toList]

def endLines : List (List Char) :=
  ["    trace.success = true;".toList] ++ Fixed.failureBoundary.map (fun l => placed 1 l.toList) ++ [[]] ++
    Fixed.teardown.map (fun l => placed 1 l.toList) ++ ["\x7d".toList, []] ++ Fixed.entryPoint.map String.toList

def headLines (o : Options) (target : String) : List (List Char) :=
  importLines ++ (constants o target).map String.toList ++ setupLines

namespace Source

lemma level_atLevel (level : Nat) : (atLevel level).level = level := rfl

lemma text_add_atLevel (level : Nat) (ls : List (List Char)) : ((atLevel level).add ls).text = unlines ls := rfl

lemma indent_atLevel (level : Nat) : (atLevel level).indent = atLevel (level + 1) := rfl

lemma dedent_atLevel (level : Nat) : (atLevel (level + 1)).dedent = atLevel level := rfl

lemma opening_eq (o : Options) (target : String) : opening o target = (atLevel 2).add (headLines o target) := by
  rw [opening]
  simp only [linesOf_eq, blank_eq, line_eq, block_part _ Fixed.helpers_mem, block_part _ Fixed.setup_mem, indent_add,
    add_add, level_add, level_atLevel, indent_atLevel, margin_zero, placed_zero, List.nil_append, Nat.zero_add]
  simp only [headLines, importLines, setupLines, List.append_assoc, List.cons_append, List.nil_append]
  rfl

lemma closing_eq (ls : List (List Char)) : ((atLevel 2).add ls).closing = (atLevel 0).add (ls ++ endLines) := by
  rw [closing]
  simp only [blank_eq, line_eq, block_part _ Fixed.failureBoundary_mem, block_part _ Fixed.teardown_mem,
    block_part _ Fixed.entryPoint_mem, dedent_add, add_add, level_add, level_atLevel, dedent_atLevel, margin_zero,
    placed_zero, List.nil_append]
  simp only [endLines, List.append_assoc, List.cons_append, List.nil_append]
  rfl

end Source

lemma toList_assemble (o : Options) (target : String) (b : Block) :
    (assemble o target b).toList = unlines (headLines o target ++ b.lines 2 ++ endLines) := by
  rw [assemble, Source.opening_eq, Source.statements_add, Source.add_add, Source.closing_eq, Source.toText,
    Source.text_add_atLevel, String.toList_ofList, Source.level_add, Source.level_atLevel, Block.lines]

lemma unbroken_concat {ls ls' : List (List Char)} (h : ∀ l ∈ ls, unbroken l = true)
    (h' : ∀ l ∈ ls', unbroken l = true) : ∀ l ∈ ls ++ ls', unbroken l = true :=
  List.forall_mem_append.mpr ⟨h, h'⟩

lemma elementsText_unbroken (ss : List String) : unbroken (elementsText ss) = true := by
  induction ss with
  | nil => rfl
  | cons s ss ih =>
    have hs : unbroken (literal s).toList = true := unbroken_iff.mpr (literal_unbroken s)
    cases ss with
    | nil =>
      rw [elementsText_singleton]
      exact hs
    | cons t ss =>
      have hsep : unbroken [',', ' '] = true := rfl
      have ht : elementsText (s :: t :: ss) = (literal s).toList ++ ([',', ' '] ++ elementsText (t :: ss)) :=
        elementsText_cons_cons s t ss
      rw [ht, unbroken_append, unbroken_append, hs, hsep, ih]
      rfl

namespace Given

lemma code_unbroken (v : Given) : unbroken v.code.toList = true := by
  cases v with
  | text s => exact unbroken_iff.mpr (literal_unbroken s)
  | texts ss =>
    have ht : (literalList ss).toList = ['['] ++ (elementsText ss ++ [']']) := toList_literalList ss
    rw [code, ht, unbroken_append, unbroken_append, elementsText_unbroken]
    rfl
  | number n => exact unbroken_iff.mpr (number_unbroken n)
  | flag b => cases b <;> rfl

end Given

lemma name_unbroken {name : String} (h : name.toList.all isNameChar = true) : unbroken name.toList = true :=
  unbroken_iff.mpr fun c hc => by
    have hn := List.all_eq_true.mp h c hc
    rintro (rfl | rfl | rfl | rfl) <;> revert hn <;> decide

lemma constants_unbroken {o : Options} {target l : String} (h : l ∈ constants o target) :
    unbroken l.toList = true := by
  rw [constants_eq] at h
  obtain ⟨d, hd, rfl⟩ := List.mem_map.mp h
  rw [toList_constant]
  simp only [unbroken_append, name_unbroken (names_declared o target d hd), d.2.code_unbroken]
  rfl

lemma part_unbroken {ls : List String} (h : ls ∈ Fixed.parts) : ∀ l ∈ ls.map String.toList, unbroken l = true :=
  List.forall_mem_map.mpr (Fixed.unbroken_of_mem h)

lemma placed_part_unbroken {ls : List String} (level : Nat) (h : ls ∈ Fixed.parts) :
    ∀ l ∈ ls.map (fun l => placed level l.toList), unbroken l = true :=
  List.forall_mem_map.mpr fun l hl => unbroken_placed level (Fixed.unbroken_of_mem h l hl)

lemma headLines_unbroken (o : Options) (target : String) : ∀ l ∈ headLines o target, unbroken l = true := by
  have hc : ∀ l ∈ (constants o target).map String.toList, unbroken l = true :=
    List.forall_mem_map.mpr fun l hl => constants_unbroken hl
  rw [headLines, setupLines]
  refine unbroken_concat (unbroken_concat ?_ hc) (unbroken_concat (unbroken_concat (unbroken_concat
    (unbroken_concat ?_ (part_unbroken Fixed.helpers_mem)) ?_) (placed_part_unbroken 1 Fixed.setup_mem)) ?_)
  all_goals decide +kernel

lemma endLines_unbroken : ∀ l ∈ endLines, unbroken l = true := by
  rw [endLines]
  refine unbroken_concat (unbroken_concat (unbroken_concat (unbroken_concat (unbroken_concat ?_
    (placed_part_unbroken 1 Fixed.failureBoundary_mem)) ?_) (placed_part_unbroken 1 Fixed.teardown_mem)) ?_)
    (part_unbroken Fixed.entryPoint_mem)
  all_goals decide +kernel

lemma program_unbroken (o : Options) (target : String) (b : Block) :
    ∀ l ∈ headLines o target ++ b.lines 2 ++ endLines, unbroken l = true :=
  unbroken_concat (unbroken_concat (headLines_unbroken o target)
    fun _ hl => unbroken_iff.mpr (Block.lines_unbroken hl)) endLines_unbroken

lemma lines_assemble (o : Options) (target : String) (b : Block) :
    Text.lines (assemble o target b).toList = headLines o target ++ b.lines 2 ++ endLines := by
  rw [toList_assemble]
  apply Text.lines_unlines
  intro l hl
  have hu := unbroken_iff.mp (program_unbroken o target b l hl)
  exact ⟨fun hn => hu _ hn (.inl rfl), fun hr => hu _ hr (.inr (.inl rfl))⟩

def valueOf? (name : String) (line : List Char) : Option Given :=
  (readConstant? line).bind fun d => if d.1 = name then some d.2 else none

def constant? (name program : String) : Option Given := (Text.lines program.toList).findSome? (valueOf? name)

lemma findSome?_declared {o : Options} {target name : String} {v : Given} (h : (name, v) ∈ declared o target) :
    (declared o target).findSome? (fun d => if d.1 = name then some d.2 else none) = some v := by
  simp only [declared, List.mem_cons, List.not_mem_nil, or_false, Prod.mk.injEq] at h
  rcases h with ⟨rfl, rfl⟩ | ⟨rfl, rfl⟩ | ⟨rfl, rfl⟩ | ⟨rfl, rfl⟩ | ⟨rfl, rfl⟩ | ⟨rfl, rfl⟩ | ⟨rfl, rfl⟩ | ⟨rfl, rfl⟩ |
    ⟨rfl, rfl⟩ | ⟨rfl, rfl⟩ | ⟨rfl, rfl⟩ <;> simp [declared]

lemma constant?_assemble {o : Options} {target name : String} {v : Given} (b : Block)
    (h : (name, v) ∈ declared o target) : constant? name (assemble o target b) = some v := by
  have himports : importLines.findSome? (valueOf? name) = none := rfl
  have hconstants : ((constants o target).map String.toList).findSome? (valueOf? name) = some v := by
    have hr := congrArg (List.findSome? fun d? => d?.bind fun d => if d.1 = name then some d.2 else none)
      (readConstant?_constants o target)
    rw [List.findSome?_map, List.findSome?_map] at hr
    rw [List.findSome?_map]
    exact hr.trans (findSome?_declared h)
  rw [constant?, lines_assemble, headLines, List.append_assoc, List.append_assoc, List.append_assoc,
    List.findSome?_append, List.findSome?_append, himports, hconstants]
  rfl

/-- Two programs have the same lines, but for one that holds the connection target of each. -/
inductive Retargeted (target target' program program' : String) : Prop where
  | line (before after : List (List Char)) {line line' : List Char}
      (lines : Text.lines program.toList = before ++ line :: after)
      (lines' : Text.lines program'.toList = before ++ line' :: after)
      (declares : readConstant? line = some ("CDP_ENDPOINT", .text target))
      (declares' : readConstant? line' = some ("CDP_ENDPOINT", .text target'))
      (unbroken : ∀ l ∈ before ++ [line, line'] ++ after, ∀ c ∈ l, ¬isLineBreak c)

lemma retargeted_assemble (o : Options) (target target' : String) (b : Block) :
    Retargeted target target' (assemble o target b) (assemble o target' b) := by
  have hlines (target : String) : Text.lines (assemble o target b).toList =
      importLines ++ (constant "CDP_ENDPOINT" (literal target)).toList ::
        ((constants o target).tail.map String.toList ++ setupLines ++ b.lines 2 ++ endLines) := by
    rw [lines_assemble, headLines, constants]
    simp only [List.map_cons, List.append_assoc, List.cons_append, List.tail_cons]
  have hread (target : String) : readConstant? (constant "CDP_ENDPOINT" (literal target)).toList =
      some ("CDP_ENDPOINT", .text target) := readConstant?_constant (by decide) (.text target)
  have hunbroken (target : String) : ∀ l ∈ Text.lines (assemble o target b).toList, ∀ c ∈ l, ¬isLineBreak c := by
    rw [lines_assemble]
    exact fun l hl => unbroken_iff.mp (program_unbroken o target b l hl)
  refine .line importLines _ (hlines target) (hlines target') (hread target) (hread target') fun l hl => ?_
  rcases List.mem_append.mp hl with hl | hl
  · rcases List.mem_append.mp hl with hl | hl
    · exact hunbroken target l (by rw [hlines]; exact List.mem_append_left _ hl)
    · rcases List.mem_pair.mp hl with rfl | rfl
      · exact hunbroken target _ (by rw [hlines]; exact List.mem_append_right _ List.mem_cons_self)
      · exact hunbroken target' _ (by rw [hlines]; exact List.mem_append_right _ List.mem_cons_self)
  · exact hunbroken target l (by rw [hlines]; exact List.mem_append_right _ (List.mem_cons_of_mem _ hl))

namespace Block

def countOf (kind : ActionKind) (actions : List Action) : Nat := (actions.map Action.kind).count kind

lemma length_lines_ofActions (level index : Nat) (actions : List Action) :
    ((ofActions index actions).flatMap (Statement.lines level)).length =
      4 * countOf .goTo actions + 3 * (countOf .click actions + countOf .sleep actions) := by
  induction actions generalizing index with
  | nil => rfl
  | cons a actions ih =>
    have hfirst : ((ofAction index a).flatMap (Statement.lines level)).length =
        4 * countOf .goTo [a] + 3 * (countOf .click [a] + countOf .sleep [a]) := by cases a <;> rfl
    have hcount (kind : ActionKind) : countOf kind (a :: actions) = countOf kind [a] + countOf kind actions := by
      rw [countOf, countOf, countOf, ← List.count_append, ← List.map_append, List.singleton_append]
    rw [ofActions, List.flatMap_append, List.length_append, ih, hfirst, hcount, hcount, hcount]
    omega

lemma length_lines {s : Script} {b : Block} (h : ofScript s = .ok b) (level : Nat) :
    (b.lines level).length =
      4 * countOf .goTo s.actions + 3 * (countOf .click s.actions + countOf .sleep s.actions) := by
  have hv : s.version = "1.0.0" := by
    by_contra hn
    rw [ofScript_unsupported hn] at h
    cases h
  rw [ofScript_supported hv] at h
  cases h
  exact length_lines_ofActions level 0 s.actions

end Block

lemma length_headLines (o : Options) (target : String) : (headLines o target).length = 160 := by
  have hh : Fixed.helpers.length = 126 := by decide +kernel
  simp only [headLines, importLines, setupLines, List.length_append, List.length_map, hh]
  rfl

lemma length_endLines : endLines.length = 27 := by decide +kernel

/-- A program is a head that the body has no part in, the body, and an end that is always the same. The texts
in the constants are read back as they were given, and the number of lines depends on the kinds of the actions
alone. -/
theorem assemble_layout (o : Options) (target : String) (b : Block) :
    (assemble o target b).toList = unlines (headLines o target) ++ (b.render 2).toList ++ unlines endLines ∧
    headLines o target = importLines ++ (constants o target).map String.toList ++ setupLines ∧
    setupLines.getLast? = some "  try \x7b".toList ∧
    (constants o target).map (fun l => readConstant? l.toList) = (declared o target).map some ∧
    constant? "CDP_ENDPOINT" (assemble o target b) = some (.text target) ∧
    constant? "SENTRY_BUNDLES" (assemble o target b) = some (.texts o.telemetry.sentryBundles) ∧
    constant? "SCREENSHOT_QUALITY" (assemble o target b) =
      some (.number (max 1 (min 100 o.screenshotQuality.toNat))) ∧
    constant? "SPOTLIGHT_BUFFER_SIZE" (assemble o target b) =
      some (.number (max 1 o.telemetry.bufferCapacity.toNat)) ∧
    Text.lines (assemble o target b).toList = headLines o target ++ b.lines 2 ++ endLines ∧
    (∀ l ∈ Text.lines (assemble o target b).toList, ∀ c ∈ l, ¬isLineBreak c) ∧
    ∀ s, Block.ofScript s = .ok b →
      (Text.lines (assemble o target b).toList).length = 187 + 4 * Block.countOf .goTo s.actions +
        3 * (Block.countOf .click s.actions + Block.countOf .sleep s.actions) := by
  refine ⟨?_, rfl, ?_, readConstant?_constants o target,
    constant?_assemble b (by simp [declared]), constant?_assemble b (by simp [declared]),
    constant?_assemble b (by simp [declared]), constant?_assemble b (by simp [declared]),
    lines_assemble o target b, ?_, ?_⟩
  · rw [toList_assemble, Text.unlines_append, Text.unlines_append, Block.toList_render]
  · rw [setupLines, List.getLast?_append]
    rfl
  · intro l hl
    rw [lines_assemble] at hl
    exact unbroken_iff.mp (program_unbroken o target b l hl)
  · intro s h
    rw [lines_assemble, List.length_append, List.length_append, length_headLines, length_endLines,
      Block.length_lines h]
    omega

theorem assemble_layout_hostile : ∃ (o : Options) (b : Block),
    o.telemetry.sentryBundles = ["', '", "];\u2028"] ∧
    Block.ofScript (.ofActions [.goTo "'\n", .click "*/ \x7d", .sleep 5]) = .ok b ∧
    constant? "CDP_ENDPOINT" (assemble o "';\n" b) = some (.text "';\n") ∧
    constant? "SENTRY_BUNDLES" (assemble o "';\n" b) = some (.texts ["', '", "];\u2028"]) ∧
    (Text.lines (assemble o "';\n" b).toList).length = 197 := by
  obtain ⟨-, -, -, -, ht, hs, -, -, -, -, hl⟩ :=
    assemble_layout ⟨0, ⟨true, 1, 0, ["', '", "];\u2028"]⟩⟩ "';\n"
      ⟨.v100, 3, Block.ofActions 0 [.goTo "'\n", .click "*/ \x7d", .sleep 5]⟩
  have hb : Block.ofScript (.ofActions [.goTo "'\n", .click "*/ \x7d", .sleep 5]) =
      .ok ⟨.v100, 3, Block.ofActions 0 [.goTo "'\n", .click "*/ \x7d", .sleep 5]⟩ := rfl
  exact ⟨_, _, rfl, hb, ht, hs, (hl _ hb).trans (by decide)⟩

end BrowserCheck.Program
