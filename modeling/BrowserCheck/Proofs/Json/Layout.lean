import BrowserCheck.Proofs.Json.Integers

set_option autoImplicit false

/-! Written documents are read back, on one line or indented. The two ways of writing differ in the
blanks between tokens and in nothing else. -/

namespace BrowserCheck.Json

open Reader

mutual

def Value.fits (room : Nat) : Value → Prop
  | .null => True
  | .boolean _ => True
  | .number x => x.fits
  | .text _ => True
  | .array items => 0 < room ∧ fitItems (room - 1) items
  | .object fields => 0 < room ∧ fitFields (room - 1) fields

def fitItems (room : Nat) : List Value → Prop
  | [] => True
  | v :: rest => v.fits room ∧ fitItems room rest

def fitFields (room : Nat) : List (String × Value) → Prop
  | [] => True
  | (_, v) :: rest => v.fits room ∧ fitFields room rest

end

structure Layout where
  gap : Nat → List Char
  colonGap : List Char
  gap_blank : ∀ level, ∀ c ∈ gap level, isSpace c = true
  colonGap_blank : ∀ c ∈ colonGap, isSpace c = true

namespace Layout

def oneLine : Layout where
  gap _ := []
  colonGap := []
  gap_blank := by simp
  colonGap_blank := by simp

def indented : Layout where
  gap := Writer.newline
  colonGap := [' ']
  gap_blank := by
    intro level c hc
    rcases List.mem_cons.mp hc with rfl | hc
    · rfl
    · rw [List.eq_of_mem_replicate hc]
      rfl
  colonGap_blank := by simp [isSpace]

variable (l : Layout)

def closingGap (level : Nat) (isEmpty : Bool) : List Char := if isEmpty then [] else l.gap level

lemma closingGap_blank (level : Nat) (isEmpty : Bool) : ∀ c ∈ l.closingGap level isEmpty, isSpace c = true := by
  cases isEmpty with
  | true => simp [closingGap]
  | false => exact l.gap_blank level

mutual

def write (level : Nat) : Value → List Char
  | .null => "null".toList
  | .boolean b => Writer.word b
  | .number x => x.toText
  | .text s => Writer.quote s
  | .array items =>
    '[' :: (writeItems (level + 1) true items ++ (l.closingGap level items.isEmpty ++ [']']))
  | .object fields =>
    '\x7b' :: (writeFields (level + 1) true fields ++ (l.closingGap level fields.isEmpty ++ ['\x7d']))

def writeItems (level : Nat) (first : Bool) : List Value → List Char
  | [] => []
  | v :: rest =>
    (if first then [] else [',']) ++ (l.gap level ++ (write level v ++ writeItems level false rest))

def writeFields (level : Nat) (first : Bool) : List (String × Value) → List Char
  | [] => []
  | (k, v) :: rest => (if first then [] else [',']) ++ (l.gap level ++ (Writer.quote k ++
      ':' :: (l.colonGap ++ (write level v ++ writeFields level false rest))))

end

lemma closingGap_oneLine (level : Nat) (isEmpty : Bool) : oneLine.closingGap level isEmpty = [] := by
  cases isEmpty <;> rfl

mutual

lemma write_oneLine (level : Nat) : ∀ v : Value, oneLine.write level v = Writer.compact v
  | .null | .boolean _ | .number _ | .text _ => by simp only [write, Writer.compact]
  | .array items => by
    rw [write, Writer.compact, writeItems_oneLine (level + 1) true items, closingGap_oneLine, List.nil_append]
  | .object fields => by
    rw [write, Writer.compact, writeFields_oneLine (level + 1) true fields, closingGap_oneLine, List.nil_append]

lemma writeItems_oneLine (level : Nat) (first : Bool) :
    ∀ items : List Value, oneLine.writeItems level first items = Writer.compactItems first items
  | [] => rfl
  | v :: rest => by
    rw [writeItems, Writer.compactItems, write_oneLine level v, writeItems_oneLine level false rest]
    simp [oneLine]

lemma writeFields_oneLine (level : Nat) (first : Bool) :
    ∀ fields : List (String × Value), oneLine.writeFields level first fields = Writer.compactFields first fields
  | [] => rfl
  | (k, v) :: rest => by
    rw [writeFields, Writer.compactFields, write_oneLine level v, writeFields_oneLine level false rest]
    simp [oneLine]

end

mutual

lemma write_indented (level : Nat) : ∀ v : Value, indented.write level v = Writer.pretty level v
  | .null | .boolean _ | .number _ | .text _ => by simp only [write, Writer.pretty]
  | .array items => by
    rw [write, Writer.pretty, writeItems_indented (level + 1) true items]
    cases items <;> simp [closingGap, indented, Writer.prettyItems]
  | .object fields => by
    rw [write, Writer.pretty, writeFields_indented (level + 1) true fields]
    cases fields <;> simp [closingGap, indented, Writer.prettyFields]

lemma writeItems_indented (level : Nat) (first : Bool) :
    ∀ items : List Value, indented.writeItems level first items = Writer.prettyItems level first items
  | [] => rfl
  | v :: rest => by
    rw [writeItems, Writer.prettyItems, write_indented level v, writeItems_indented level false rest]
    simp [indented]

lemma writeFields_indented (level : Nat) (first : Bool) :
    ∀ fields : List (String × Value), indented.writeFields level first fields = Writer.prettyFields level first fields
  | [] => rfl
  | (k, v) :: rest => by
    rw [writeFields, Writer.prettyFields, write_indented level v, writeFields_indented level false rest]
    simp [indented]

end

end Layout

end BrowserCheck.Json
