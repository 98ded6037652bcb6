import BrowserCheck.Program.Statement
import BrowserCheck.Proofs.Program.LiteralReader
import BrowserCheck.Proofs.Text.Digits

set_option autoImplicit false

/-! Reading statements back from their code. A line of code belongs to one form only, and each of its
literals ends where the fixed text of that form goes on. -/

namespace BrowserCheck.Program

open Text (units readNumber? noDigitAhead)

def behind? (expected : String) (s : List Char) : Option (List Char) :=
  expected.toList.isPrefixOf? s

lemma isPrefixOf?_append (beginning rest : List Char) :
    beginning.isPrefixOf? (beginning ++ rest) = some rest := by simp

@[simp] lemma behind?_append (expected : String) (rest : List Char) :
    behind? expected (expected.toList ++ rest) = some rest :=
  isPrefixOf?_append expected.toList rest

def clash (a b : String) : Bool := (a.toList.zip b.toList).any fun p => p.1 != p.2

lemma behind?_clash {a b : String} (h : clash a b = true) (rest : List Char) :
    behind? a (b.toList ++ rest) = none := by
  suffices hc : ∀ xs ys : List Char, ((xs.zip ys).any fun p => p.1 != p.2) = true →
      xs.isPrefixOf? (ys ++ rest) = none from hc _ _ h
  intro xs
  induction xs with
  | nil => simp
  | cons x xs ih =>
    intro ys hxy
    cases ys with
    | nil => simp at hxy
    | cons y ys =>
      simp only [List.zip_cons_cons, List.any_cons, Bool.or_eq_true, bne_iff_ne] at hxy
      by_cases he : x = y
      · have ht := ih ys (hxy.resolve_left (not_not_intro he))
        simpa [List.isPrefixOf?, he] using ht
      · simp [List.isPrefixOf?, he]

inductive Form where
  | navigate
  | click
  | sleep
  | injectTelemetry
  | captureStep
deriving DecidableEq, Repr

namespace Form

def all : List Form := [navigate, click, sleep, injectTelemetry, captureStep]

def opening : Form → String
  | navigate => "await page.goto("
  | click => "await page.click("
  | sleep => "await page.waitForTimeout("
  | injectTelemetry => "await addSpotlight(page"
  | captureStep => "await captureStep("

def closing : String := ");"

def arguments? : Form → List Char → Option (Statement × List Char)
  | navigate, s => (readQuoted? '\'' s).map fun p => (.navigate p.1, p.2)
  | click, s => (readQuoted? '\'' s).map fun p => (.click p.1, p.2)
  | sleep, s => (readNumber? s).bind fun p =>
    if p.1 < 2 ^ 64 then some (.sleep p.1.toUInt64, p.2) else none
  | injectTelemetry, s => some (.injectTelemetry, s)
  | captureStep, s => do
    let (index, s) ← readNumber? s
    let (tag, s) ← readQuoted? '\'' (← behind? ", " s)
    let (details, s) ← readQuoted? '\'' (← behind? ", " s)
    let kind ← ActionKind.ofTag? tag
    return (.captureStep index kind details, s)

def read? (f : Form) (code : List Char) : Option Statement := do
  let (stmt, rest) ← f.arguments? (← behind? f.opening code)
  if rest = closing.toList then some stmt else none

lemma clash_opening {f g : Form} (h : f ≠ g) : clash f.opening g.opening = true := by
  cases f <;> cases g <;> first | exact absurd rfl h | decide

end Form

namespace Statement

def form : Statement → Form
  | navigate _ => .navigate
  | click _ => .click
  | sleep _ => .sleep
  | injectTelemetry => .injectTelemetry
  | captureStep .. => .captureStep

def read? (code : List Char) : Option Statement := Form.all.findSome? fun f => f.read? code

@[simp] lemma code_navigate (url : String) :
    (navigate url).code = "await page.goto(" ++ literal url ++ ");" := rfl

@[simp] lemma code_click (selector : String) :
    (click selector).code = "await page.click(" ++ literal selector ++ ");" := rfl

@[simp] lemma code_sleep (milliseconds : UInt64) :
    (sleep milliseconds).code = "await page.waitForTimeout(" ++ toString milliseconds.toNat ++ ");" := rfl

@[simp] lemma code_injectTelemetry : injectTelemetry.code = "await addSpotlight(page);" := rfl

@[simp] lemma code_captureStep (index : Nat) (action : ActionKind) (details : String) :
    (captureStep index action details).code = "await captureStep(" ++ toString index ++ ", " ++
      literal action.tag ++ ", " ++ literal details ++ ");" := rfl

/-- How a statement is spelled: fixed texts, numbers in digits, and literals. Read by the rules of the
language, each literal has the value that the statement names and ends where the next fixed text begins. -/
def Spelled (code : List Char) : Statement → Prop
  | navigate url => ∃ arg, code = "await page.goto(".toList ++ arg ∧
      literalUnits? '\'' arg = some (units url.toList, ");".toList)
  | click selector => ∃ arg, code = "await page.click(".toList ++ arg ∧
      literalUnits? '\'' arg = some (units selector.toList, ");".toList)
  | sleep milliseconds =>
      code = "await page.waitForTimeout(".toList ++ (toString milliseconds.toNat).toList ++ ");".toList
  | injectTelemetry => code = "await addSpotlight(page);".toList
  | captureStep index action details => ∃ arg arg',
      code = "await captureStep(".toList ++ (toString index).toList ++ ", ".toList ++ arg ∧
      literalUnits? '\'' arg = some (units action.tag.toList, ", ".toList ++ arg') ∧
      literalUnits? '\'' arg' = some (units details.toList, ");".toList)

lemma code_spelled (stmt : Statement) : Spelled stmt.code.toList stmt := by
  cases stmt with
  | navigate url =>
    simp only [Spelled, code_navigate, String.toList_append, List.append_assoc, toList_literal]
    exact ⟨_, rfl, literalUnits?_quoted (.inl rfl) _ _⟩
  | click selector =>
    simp only [Spelled, code_click, String.toList_append, List.append_assoc, toList_literal]
    exact ⟨_, rfl, literalUnits?_quoted (.inl rfl) _ _⟩
  | sleep milliseconds => simp only [Spelled, code_sleep, String.toList_append]
  | injectTelemetry => simp only [Spelled, code_injectTelemetry]
  | captureStep index action details =>
    simp only [Spelled, code_captureStep, String.toList_append, List.append_assoc, toList_literal]
    exact ⟨_, _, rfl, literalUnits?_quoted (.inl rfl) _ _, literalUnits?_quoted (.inl rfl) _ _⟩

def arguments : Statement → List Char
  | navigate url => (literal url).toList
  | click selector => (literal selector).toList
  | sleep milliseconds => (toString milliseconds.toNat).toList
  | injectTelemetry => []
  | captureStep index action details => (toString index).toList ++
      (", ".toList ++ ((literal action.tag).toList ++ (", ".toList ++ (literal details).toList)))

lemma toList_code (stmt : Statement) :
    stmt.code.toList = stmt.form.opening.toList ++ (stmt.arguments ++ Form.closing.toList) := by
  cases stmt with
  | injectTelemetry => decide
  | _ =>
    simp only [code_navigate, code_click, code_sleep, code_captureStep, form, Form.opening, Form.closing,
      arguments, String.toList_append, List.append_assoc]

lemma ofTag?_tag (k : ActionKind) : ActionKind.ofTag? k.tag = some k := by cases k <;> decide

lemma arguments?_arguments (stmt : Statement) :
    stmt.form.arguments? (stmt.arguments ++ Form.closing.toList) = some (stmt, Form.closing.toList) := by
  have hclose : noDigitAhead Form.closing.toList := by simp [noDigitAhead, Form.closing]
  cases stmt with
  | navigate url => simp [form, Form.arguments?, arguments]
  | click selector => simp [form, Form.arguments?, arguments]
  | sleep milliseconds =>
    have hn : milliseconds.toNat < 2 ^ 64 := milliseconds.toNat_lt
    simp only [form, Form.arguments?, arguments, Text.toList_toString,
      Text.readNumber?_digits _ hclose, Option.bind_some, if_pos hn]
    simp
  | injectTelemetry => rfl
  | captureStep index action details =>
    have hcomma (s : List Char) : noDigitAhead (", ".toList ++ s) := by simp [noDigitAhead]
    simp only [form, Form.arguments?, arguments, Text.toList_toString, List.append_assoc,
      Text.readNumber?_digits _ (hcomma _), Option.bind_eq_bind, Option.bind_some, behind?_append,
      readQuoted?_literal, ofTag?_tag]
    rfl

lemma formRead?_code (stmt : Statement) : stmt.form.read? stmt.code.toList = some stmt := by
  rw [toList_code]
  simp [Form.read?, arguments?_arguments]

lemma formRead?_code_eq_none {f : Form} {stmt : Statement} (h : f ≠ stmt.form) :
    f.read? stmt.code.toList = none := by
  rw [toList_code]
  simp [Form.read?, behind?_clash (Form.clash_opening h)]

lemma form_unique (stmt : Statement) : ∃! f : Form, (f.read? stmt.code.toList).isSome := by
  refine ⟨stmt.form, by simp [formRead?_code], fun f hf => ?_⟩
  by_contra h
  simp [formRead?_code_eq_none h] at hf

lemma read?_code (stmt : Statement) : read? stmt.code.toList = some stmt := by
  have h : ∀ f : Form, f.read? stmt.code.toList = if f = stmt.form then some stmt else none := by
    intro f
    split
    · next hf => rw [hf, formRead?_code]
    · next hf => exact formRead?_code_eq_none hf
  simp only [read?, h, Form.all]
  cases stmt <;> simp [form]

end Statement

end BrowserCheck.Program
