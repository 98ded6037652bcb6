import BrowserCheck.Proofs.Shell.Quoting

set_option autoImplicit false

/-! Quoted arguments inside a command line. Each character of the argument is protected, so that nothing in it is
expanded, and what stands behind the argument is read as if it stood alone. -/

namespace BrowserCheck.Shell

open Sandbox (shellQuote quoteChar)

def endsWord (c : Char) : Bool := [' ', '\t', '\n', ';', '&', '|', '<', '>', '(', ')'].contains c

def Parted (rest : String) : Prop := rest.toList.head?.all endsWord = true

instance (rest : String) : Decidable (Parted rest) := inferInstanceAs (Decidable (_ = true))

namespace Posix

/-- A character of a word. Tildes, patterns, assignments and reserved words are made of bare characters only. -/
inductive Glyph where
  | bare (c : Char)
  | quoted (c : Char)
deriving DecidableEq, Repr

inductive Quoting where
  | none
  | single
  | backslash

def add (g : Glyph) (r : Option (List Glyph × List Char)) : Option (List Glyph × List Char) :=
  r.map fun r => (g :: r.1, r.2)

def word? : Quoting → List Char → Option (List Glyph × List Char)
  | .none, [] => some ([], [])
  | .single, [] => none
  | .backslash, [] => none
  | .single, c :: rest => if c = '\'' then word? .none rest else add (.quoted c) (word? .single rest)
  | .backslash, c :: rest => if c = '\n' then word? .none rest else add (.quoted c) (word? .none rest)
  | .none, c :: rest =>
    if endsWord c then some ([], c :: rest)
    else if c = '\'' then word? .single rest
    else if c = '\\' then word? .backslash rest
    else if c = '"' ∨ c = '$' ∨ c = '`' then none
    else add (.bare c) (word? .none rest)

lemma word?_quoteChar (c : Char) (text : List Char) :
    word? .single (quoteChar c ++ text) = add (.quoted c) (word? .single text) := by
  rw [quoteChar]
  split
  next h =>
    subst h
    rfl
  next h =>
    rw [List.singleton_append, word?, if_neg h]

lemma word?_flatMap_quoteChar (s text : List Char) :
    word? .single (s.flatMap quoteChar ++ text) = (word? .single text).map fun r => (s.map .quoted ++ r.1, r.2) := by
  induction s with
  | nil => simp
  | cons c s ih =>
    rw [List.flatMap_cons, List.append_assoc, word?_quoteChar, ih, add, Option.map_map]
    rfl

lemma word?_parted {rest : String} (h : Parted rest) : word? .none rest.toList = some ([], rest.toList) := by
  rw [Parted] at h
  cases hr : rest.toList with
  | nil => rfl
  | cons c text =>
    rw [hr] at h
    have hc : endsWord c = true := h
    rw [word?, if_pos hc]

lemma word?_shellQuote (s : String) {rest : String} (h : Parted rest) :
    word? .none (shellQuote s ++ rest).toList = some (s.toList.map .quoted, rest.toList) := by
  have hopen (text : List Char) : word? .none ('\'' :: text) = word? .single text := rfl
  have hclose (text : List Char) : word? .single ('\'' :: text) = word? .none text := rfl
  rw [String.toList_append, toList_shellQuote, List.cons_append, hopen, List.append_assoc, word?_flatMap_quoteChar,
    List.singleton_append, hclose, word?_parted h]
  simp

end Posix

structure Word.Spells (w : Word) (s : String) : Prop where
  literal : ∀ p ∈ w, ∃ text, p = .text text
  field : ∀ value, w.expand value none = [s]
  target : ∀ value, w.join value = s
  plain : w.assignment? [] = none

lemma Word.join_ofTexts (value : String → String) (texts : List (List Char)) :
    ((ofTexts texts).flatMap fun
      | .text s => s
      | .parameter name _ => (value name).toList) = texts.flatten := by
  induction texts with
  | nil => rfl
  | cons text texts ih => exact congrArg (text ++ ·) ih

lemma Word.spells_ofTexts {text : List Char} {texts : List (List Char)}
    (h : (ofTexts (text :: texts)).assignment? [] = none) :
    (ofTexts (text :: texts)).Spells (String.ofList (text ++ texts.flatten)) where
  literal := by simp [ofTexts]
  field value := expand_ofTexts value text texts
  target value := congrArg String.ofList (join_ofTexts value (text :: texts))
  plain := h

lemma spells_quotedWord (s : String) : (quotedWord s).Spells s := by
  have h : (quotedWord s).Spells (String.ofList ([] ++ (s.toList.flatMap quotedTexts).flatten)) :=
    Word.spells_ofTexts rfl
  rwa [flatten_quotedTexts, List.nil_append, String.ofList_toList] at h

namespace Lexer

variable {l : Lexer} {c : Char} {older : List Token}

def after (older : List Token) (l : Lexer) : Lexer := { l with tokens := l.tokens ++ older }

@[simp] lemma mode_after : (l.after older).mode = l.mode := rfl

@[simp] lemma word_after : (l.after older).word = l.word := rfl

@[simp] lemma goTo_after (m : Mode) : (l.after older).goTo m = (l.goTo m).after older := rfl

@[simp] lemma addPiece_after (p : Piece) : (l.after older).addPiece p = (l.addPiece p).after older := rfl

@[simp] lemma addChar_after : (l.after older).addChar c = (l.addChar c).after older := rfl

@[simp] lemma addToken_after (t : Token) : (l.after older).addToken t = (l.addToken t).after older := rfl

@[simp] lemma addParameter_after (quoted : Bool) (read : List Char) :
    (l.after older).addParameter quoted read = (l.addParameter quoted read).after older := rfl

@[simp] lemma endWord_after : (l.after older).endWord = l.endWord.after older := by
  rw [endWord, endWord, word_after]
  split <;> rfl

@[simp] lemma openRedirect_after : (l.after older).openRedirect c = (l.openRedirect c).after older := by
  rw [openRedirect, openRedirect, word_after, endWord_after]
  split
  · split <;> rfl
  · rfl

@[simp] lemma stepPlain_after : (l.after older).stepPlain c = (l.stepPlain c).after older := by
  simp only [stepPlain, apply_ite (after older), endWord_after, goTo_after, addToken_after, addPiece_after,
    openRedirect_after, word_after, addChar_after]
  rfl

@[simp] lemma stepDouble_after : (l.after older).stepDouble c = (l.stepDouble c).after older := by
  simp only [stepDouble, apply_ite (after older), goTo_after, addChar_after]

@[simp] lemma stepAround_after (quoted : Bool) :
    (l.after older).stepAround quoted c = (l.stepAround quoted c).after older := by
  cases quoted
  · exact stepPlain_after
  · exact stepDouble_after

@[simp] lemma stepEscape_after (quoted : Bool) :
    (l.after older).stepEscape quoted c = (l.stepEscape quoted c).after older := by
  simp only [stepEscape, apply_ite (after older), goTo_after, addChar_after]

@[simp] lemma stepDollar_after (quoted : Bool) :
    (l.after older).stepDollar quoted c = (l.stepDollar quoted c).after older := by
  simp only [stepDollar, apply_ite (after older), goTo_after, addChar_after, addParameter_after, stepAround_after]

@[simp] lemma stepOperator_after (first : Char) :
    (l.after older).stepOperator first c = (l.stepOperator first c).after older := by
  simp only [stepOperator, apply_ite (after older), goTo_after, addToken_after, stepPlain_after]

@[simp] lemma stepRedirect_after (d : Nat) (first : Char) :
    (l.after older).stepRedirect d first c = (l.stepRedirect d first c).after older := by
  simp only [stepRedirect, apply_ite (after older), goTo_after, addToken_after, stepPlain_after]

lemma step_after : (l.after older).step c = (l.step c).after older := by
  simp only [step, mode_after]
  cases l.mode <;> simp <;> split_ifs <;> rfl

lemma foldl_after (text : List Char) : text.foldl step (l.after older) = (text.foldl step l).after older := by
  induction text generalizing l with
  | nil => rfl
  | cons c text ih => rw [List.foldl_cons, List.foldl_cons, step_after, ih]

lemma finish_after : (l.after older).finish = l.finish.map (older.reverse ++ ·) := by
  have htokens (l : Lexer) : (l.after older).endWord.tokens.reverse = older.reverse ++ l.endWord.tokens.reverse := by
    rw [endWord_after, after, List.reverse_append]
  simp only [finish, mode_after, addChar_after, addParameter_after, addToken_after, htokens]
  split <;> rfl

lemma endWord_endWord : l.endWord.endWord = l.endWord := by
  rw [endWord]
  by_cases h : l.word.isEmpty
  · simp [endWord, h]
  · simp [endWord, h]

lemma openRedirect_eq (h : ∀ d, l.word ≠ [.text [d]]) :
    l.openRedirect c = l.endWord.goTo (.redirect (if c = '<' then 0 else 1) c) := by
  rw [openRedirect]
  split
  next d hd => exact absurd hd (h d)
  next => rfl

lemma stepPlain_endWord (hc : endsWord c = true) (h : ∀ d, l.word ≠ [.text [d]]) :
    l.stepPlain c = l.endWord.stepPlain c := by
  have hended : ∀ d, l.endWord.word ≠ [.text [d]] := by
    intro d
    rw [endWord]
    split
    · exact h d
    · exact (List.cons_ne_nil _ _).symm
  simp only [endsWord, List.contains_iff_mem, List.mem_cons, List.not_mem_nil, or_false] at hc
  rcases hc with rfl | rfl | rfl | rfl | rfl | rfl | rfl | rfl | rfl | rfl <;>
    simp [stepPlain, endWord_endWord, openRedirect_eq h, openRedirect_eq hended]

lemma finish_foldl_parted {rest : String} (hrest : Parted rest) {w : Word} (hw : w ≠ []) (hd : ∀ d, w ≠ [.text [d]])
    (tokens : List Token) :
    (rest.toList.foldl step ⟨.plain, tokens, w.reverse⟩).finish =
      (rest.toList.foldl step start).finish.map ((tokens.reverse ++ [.word w]) ++ ·) := by
  have hended : (⟨.plain, tokens, w.reverse⟩ : Lexer).endWord = start.after (.word w :: tokens) := by
    simp [endWord, hw, start, after]
  have hdigit : ∀ d, (⟨.plain, tokens, w.reverse⟩ : Lexer).word ≠ [.text [d]] :=
    fun d he => hd d (by simpa using he)
  rw [Parted] at hrest
  cases hr : rest.toList with
  | nil => simp [finish, start, endWord, hw, Except.map]
  | cons c text =>
    rw [hr] at hrest
    have hstep : (⟨.plain, tokens, w.reverse⟩ : Lexer).step c = (start.step c).after (.word w :: tokens) := by
      have hplain : (⟨.plain, tokens, w.reverse⟩ : Lexer).step c =
          (⟨.plain, tokens, w.reverse⟩ : Lexer).endWord.stepPlain c := stepPlain_endWord hrest hdigit
      rw [hplain, hended, stepPlain_after]
      rfl
    rw [List.foldl_cons, List.foldl_cons, hstep, foldl_after, finish_after, List.reverse_cons]

end Lexer

lemma quotedWord_ne_nil (s : String) : quotedWord s ≠ [] := nofun

lemma quotedWord_ne_digit (s : String) (d : Char) : quotedWord s ≠ [.text [d]] := by
  intro h
  cases (List.cons.inj h).1

lemma tokens_argument {opening : String} {older : List Token}
    (h : opening.toList.foldl Lexer.step Lexer.start = ⟨.plain, older, []⟩) (s rest : String)
    (hrest : Parted rest) :
    tokens (opening ++ shellQuote s ++ rest) = (tokens rest).map ((older.reverse ++ [.word (quotedWord s)]) ++ ·) := by
  rw [tokens, String.toList_append, String.toList_append, List.foldl_append, List.foldl_append, h,
    Lexer.foldl_shellQuote, List.append_nil,
    Lexer.finish_foldl_parted hrest (quotedWord_ne_nil s) (quotedWord_ne_digit s)]
  rfl

end BrowserCheck.Shell
