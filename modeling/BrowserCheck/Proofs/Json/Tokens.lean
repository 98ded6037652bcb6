import BrowserCheck.Json.Reader
import BrowserCheck.Json.Writer
import BrowserCheck.Proofs.Text.Digits

set_option autoImplicit false

/-! The reader over single tokens: what it makes of a written string, number or word, and of the blanks
between them. -/

namespace BrowserCheck.Json

namespace Reader

def run (s : State) (text : List Char) : Option State := text.foldlM step s

@[simp] lemma run_nil (s : State) : run s [] = some s := rfl

lemma run_cons (s : State) (c : Char) (text : List Char) : run s (c :: text) = (step s c).bind fun s => run s text := by
  simp [run]

lemma run_append (s : State) (a b : List Char) : run s (a ++ b) = (run s a).bind fun s => run s b := by
  simp [run]

lemma read?_eq (text : List Char) : Written.read? text = (run start text).bind finish? := rfl

def Between (s : State) : Prop := ∀ c, step s c = stepBetween s c

lemma between_place (w : Written) (stack : List Open) : Between (place w stack) := by
  intro c
  rcases stack with _ | ⟨⟨items⟩ | ⟨fields, key⟩, stack⟩ <;> rfl

lemma run_gap {s : State} (hs : Between s) {gap : List Char} (hg : ∀ c ∈ gap, isSpace c = true)
    (rest : List Char) : run s (gap ++ rest) = run s rest := by
  induction gap with
  | nil => rfl
  | cons c gap ih =>
    have hc : step s c = some s := by rw [hs c, stepBetween, if_pos (hg c (by simp))]
    rw [List.cons_append, run_cons, hc, Option.bind_some]
    exact ih fun d hd => hg d (by simp [hd])

def Mode.opens : Mode → Prop
  | .value | .firstItem => True
  | _ => False

lemma step_begin {m : Mode} (hm : m.opens) (stack : List Open) {c : Char} (hs : isSpace c = false) (hc : c ≠ ']') :
    step ⟨stack, m⟩ c = begin? stack c := by
  cases m with
  | value => simp [step, stepBetween, hs]
  | firstItem => simp [step, stepBetween, hs, hc]
  | _ => exact hm.elim

section Strings

variable (stack : List Open) (isKey : Bool)

def reading (chars : List Char) : State := ⟨stack, .string isKey .plain ⟨chars, none, false⟩⟩

lemma run_control (chars : List Char) {c : Char} (hc : c.toNat < 0x20) :
    run (reading stack isKey chars)
      ("\\u00".toList ++ [Text.hexDigit (c.toNat / 16), Text.hexDigit (c.toNat % 16)]) =
      some (reading stack isKey (c :: chars)) := by
  have h1 := (Text.hexValue?_hexDigit (c.toNat / 16) (by omega)).1
  have h2 := (Text.hexValue?_hexDigit (c.toNat % 16) (by omega)).1
  have hsum : c.toNat / 16 * 16 + c.toNat % 16 = c.toNat := by omega
  have h0 : Text.hexValue? '0' = some 0 := by decide
  have hadd : (⟨chars, none, false⟩ : Partial).addUnit c.toNat = ⟨c :: chars, none, false⟩ := by
    rw [Partial.addUnit, if_neg (by omega), if_neg (by omega), Partial.add, Char.ofNat_toNat]
    rfl
  simp [run_cons, reading, step, stepString, h0, h1, h2, hsum, hadd]

lemma run_escapeChar (chars : List Char) (c : Char) :
    run (reading stack isKey chars) (Writer.escapeChar c) = some (reading stack isKey (c :: chars)) := by
  unfold Writer.escapeChar
  split
  case h_8 h1 h2 h3 h4 h5 h6 h7 =>
    split
    · next hc => exact run_control stack isKey chars hc
    · next hc =>
      simp only [run_cons, reading, step, stepString, if_neg h1, if_neg h2, if_neg hc]
      rfl
  all_goals rfl

lemma run_escaped (chars s : List Char) :
    run (reading stack isKey chars) (s.flatMap Writer.escapeChar) =
      some (reading stack isKey (s.reverse ++ chars)) := by
  induction s generalizing chars with
  | nil => rfl
  | cons c s ih =>
    rw [List.flatMap_cons, run_append, run_escapeChar, Option.bind_some, ih]
    simp

end Strings

lemma run_text {m : Mode} (hm : m.opens) (stack : List Open) (s : String) (rest : List Char) :
    run ⟨stack, m⟩ (Writer.quote s ++ rest) = run (place (.text s) stack) rest := by
  have hb : step ⟨stack, m⟩ '"' = some (reading stack false []) := by
    rw [step_begin hm stack (by decide) (by decide)]
    rfl
  have hc : step (reading stack false s.toList.reverse) '"' = some (place (.text s) stack) := by
    simp [step, reading, stepString, closeString, Partial.finish?]
  rw [Writer.quote, List.cons_append, run_cons, hb, Option.bind_some, List.append_assoc, run_append,
    run_escaped, Option.bind_some, List.append_nil, List.singleton_append, run_cons, hc, Option.bind_some]

lemma run_key {m : Mode} (hm : m = .firstKey ∨ m = .nextKey) (fields : List (Option String × Written))
    (key : Option String) (stack : List Open) (s : String) (rest : List Char) :
    run ⟨.object fields key :: stack, m⟩ (Writer.quote s ++ rest) =
      run ⟨.object fields (some s) :: stack, .colon⟩ rest := by
  have hb : step ⟨.object fields key :: stack, m⟩ '"' =
      some (reading (.object fields key :: stack) true []) := by
    rcases hm with rfl | rfl <;> rfl
  have hc : step (reading (.object fields key :: stack) true s.toList.reverse) '"' =
      some ⟨.object fields (some s) :: stack, .colon⟩ := by
    simp [step, reading, stepString, closeString, Partial.finish?]
  rw [Writer.quote, List.cons_append, run_cons, hb, Option.bind_some, List.append_assoc, run_append,
    run_escaped, Option.bind_some, List.append_nil, List.singleton_append, run_cons, hc, Option.bind_some]

lemma run_null {m : Mode} (hm : m.opens) (stack : List Open) (rest : List Char) :
    run ⟨stack, m⟩ ("null".toList ++ rest) = run (place .null stack) rest := by
  have hb : step ⟨stack, m⟩ 'n' = some ⟨stack, .word "ull".toList .null⟩ := by
    rw [step_begin hm stack (by decide) (by decide)]
    rfl
  rw [show "null".toList ++ rest = 'n' :: 'u' :: 'l' :: 'l' :: rest from rfl, run_cons, hb]
  rfl

lemma run_word {m : Mode} (hm : m.opens) (stack : List Open) (b : Bool) (rest : List Char) :
    run ⟨stack, m⟩ (Writer.word b ++ rest) = run (place (.boolean b) stack) rest := by
  cases b with
  | true =>
    have hb : step ⟨stack, m⟩ 't' = some ⟨stack, .word "rue".toList (.boolean true)⟩ := by
      rw [step_begin hm stack (by decide) (by decide)]
      rfl
    rw [show Writer.word true ++ rest = 't' :: 'r' :: 'u' :: 'e' :: rest from rfl, run_cons, hb]
    rfl
  | false =>
    have hb : step ⟨stack, m⟩ 'f' = some ⟨stack, .word "alse".toList (.boolean false)⟩ := by
      rw [step_begin hm stack (by decide) (by decide)]
      rfl
    rw [show Writer.word false ++ rest = 'f' :: 'a' :: 'l' :: 's' :: 'e' :: rest from rfl, run_cons, hb]
    rfl

end Reader

end BrowserCheck.Json
