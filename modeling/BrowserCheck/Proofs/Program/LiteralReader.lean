import BrowserCheck.Json.Reader
import BrowserCheck.Program.Statement
import BrowserCheck.Proofs.Text.Units

set_option autoImplicit false

/-! Reading string literals of the generated language. The value of a literal is a sequence of code
units. What a program writes between quotes is read back as it was, and the reading ends at the
closing quote whatever follows. -/

namespace BrowserCheck.Program

open Text (units unitsOfPoint)

namespace LiteralReader

inductive Mode where
  | plain
  | backslash
  | afterReturn
  | afterZero
  | unicode
  | hex (left value : Nat)
  | braces (started : Bool) (value : Nat)

inductive Move where
  | stop (out : List Nat)
  | go (out : List Nat) (next : Mode)

def simple? (c : Char) : Option (List Nat) :=
  match c with
  | 'b' => some [0x08]
  | 't' => some [0x09]
  | 'n' => some [0x0A]
  | 'v' => some [0x0B]
  | 'f' => some [0x0C]
  | 'r' => some [0x0D]
  | '\n' => some []
  | '\u2028' => some []
  | '\u2029' => some []
  | c => if c.isDigit then none else some (unitsOfPoint c.toNat)

def plain? (quote c : Char) : Option Move :=
  if c = quote then some (.stop [])
  else if c = '\\' then some (.go [] .backslash)
  else if c = '\n' ∨ c = '\r' then none
  else some (.go (unitsOfPoint c.toNat) .plain)

def Move.after (out : List Nat) : Move → Move
  | .stop rest => .stop (out ++ rest)
  | .go rest next => .go (out ++ rest) next

def move? (quote : Char) (m : Mode) (c : Char) : Option Move :=
  match m with
  | .plain => plain? quote c
  | .backslash =>
    if c = 'x' then some (.go [] (.hex 1 0))
    else if c = 'u' then some (.go [] .unicode)
    else if c = '0' then some (.go [] .afterZero)
    else if c = '\r' then some (.go [] .afterReturn)
    else (simple? c).map fun out => .go out .plain
  | .afterReturn => if c = '\n' then some (.go [] .plain) else plain? quote c
  | .afterZero => if c.isDigit then none else (plain? quote c).map (.after [0])
  | .unicode =>
    if c = '\x7b' then some (.go [] (.braces false 0))
    else (Text.hexValue? c).map fun d => .go [] (.hex 2 d)
  | .hex left value => (Text.hexValue? c).map fun d =>
    match left with
    | 0 => .go [value * 16 + d] .plain
    | left + 1 => .go [] (.hex left (value * 16 + d))
  | .braces started value =>
    if c = '\x7d' then if started then some (.go (unitsOfPoint value) .plain) else none
    else (Text.hexValue? c).bind fun d =>
      if value * 16 + d ≤ 0x10FFFF then some (.go [] (.braces true (value * 16 + d))) else none

def read? (quote : Char) (m : Mode) : List Char → Option (List Nat × List Char)
  | [] => none
  | c :: rest =>
    match move? quote m c with
    | none => none
    | some (.stop out) => some (out, rest)
    | some (.go out next) => (read? quote next rest).map fun p => (out ++ p.1, p.2)

end LiteralReader

open LiteralReader (Mode Move move? plain? read?)

def literalUnits? (quote : Char) : List Char → Option (List Nat × List Char)
  | [] => none
  | c :: rest => if c = quote then read? quote .plain rest else none

def isQuote (c : Char) : Prop := c = '\'' ∨ c = '"'

def isLineBreak (c : Char) : Prop := c = '\n' ∨ c = '\r' ∨ c = '\u2028' ∨ c = '\u2029'

lemma escapeChar_cases (c : Char) :
    (c = '\\' ∧ escapeChar c = ['\\', '\\']) ∨ (c = '\'' ∧ escapeChar c = ['\\', '\'']) ∨
    (c = '"' ∧ escapeChar c = ['\\', '"']) ∨ (c = '\n' ∧ escapeChar c = ['\\', 'n']) ∨
    (c = '\r' ∧ escapeChar c = ['\\', 'r']) ∨
    (c = '\u2028' ∧ escapeChar c = ['\\', 'u', '2', '0', '2', '8']) ∨
    (c = '\u2029' ∧ escapeChar c = ['\\', 'u', '2', '0', '2', '9']) ∨
    (c ≠ '\\' ∧ ¬isQuote c ∧ ¬isLineBreak c ∧ escapeChar c = [c]) := by
  unfold escapeChar
  split
  all_goals simp_all [isQuote, isLineBreak]

lemma read?_escapeChar {quote : Char} (hq : isQuote quote) (c : Char) (rest : List Char) :
    read? quote .plain (escapeChar c ++ rest) =
      (read? quote .plain rest).map fun p => (unitsOfPoint c.toNat ++ p.1, p.2) := by
  have hslash : '\\' ≠ quote := by rcases hq with rfl | rfl <;> decide
  rcases escapeChar_cases c with ⟨rfl, he⟩ | ⟨rfl, he⟩ | ⟨rfl, he⟩ | ⟨rfl, he⟩ | ⟨rfl, he⟩ |
    ⟨rfl, he⟩ | ⟨rfl, he⟩ | ⟨hb, hnq, hl, he⟩
  case inr.inr.inr.inr.inr.inr.inr =>
    have hne : c ≠ quote := by rintro rfl; exact hnq hq
    have hn : ¬(c = '\n' ∨ c = '\r') := by
      rintro (h | h)
      · exact hl (.inl h)
      · exact hl (.inr (.inl h))
    simp only [he, List.cons_append, List.nil_append, read?, move?, plain?, if_neg hne, if_neg hb, if_neg hn]
  all_goals
    rw [he]
    simp [read?, move?, plain?, hslash, LiteralReader.simple?, unitsOfPoint,
      Text.hexValue?, Text.digitValue, Option.map_map, Function.comp_def]

lemma read?_escape {quote : Char} (hq : isQuote quote) (s rest : List Char) :
    read? quote .plain (s.flatMap escapeChar ++ quote :: rest) = some (units s, rest) := by
  induction s with
  | nil => simp [read?, move?, plain?]
  | cons c s ih =>
    rw [List.flatMap_cons, List.append_assoc, read?_escapeChar hq, ih]
    rfl

def quoted (quote : Char) (s : String) : List Char := quote :: ((escape s).toList ++ [quote])

def readQuoted? (quote : Char) (s : List Char) : Option (String × List Char) :=
  (literalUnits? quote s).bind fun p => (Text.ofUnits? p.1).map fun cs => (String.ofList cs, p.2)

lemma literalUnits?_quoted {quote : Char} (hq : isQuote quote) (s : String) (rest : List Char) :
    literalUnits? quote (quoted quote s ++ rest) = some (units s.toList, rest) := by
  have h := read?_escape hq s.toList rest
  rw [quoted, escape, String.toList_ofList, List.cons_append, List.append_assoc]
  exact (if_pos rfl).trans h

lemma readQuoted?_quoted {quote : Char} (hq : isQuote quote) (s : String) (rest : List Char) :
    readQuoted? quote (quoted quote s ++ rest) = some (s, rest) := by
  simp [readQuoted?, literalUnits?_quoted hq, Text.ofUnits?_units]

lemma toList_literal (s : String) : (literal s).toList = quoted '\'' s := by simp [literal, quoted]

@[simp] lemma readQuoted?_literal (s : String) (rest : List Char) :
    readQuoted? '\'' ((literal s).toList ++ rest) = some (s, rest) :=
  (toList_literal s).symm ▸ readQuoted?_quoted (.inl rfl) s rest

end BrowserCheck.Program
