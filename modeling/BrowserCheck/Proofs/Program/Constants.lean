import BrowserCheck.Program.Assembly
import BrowserCheck.Proofs.Program.StatementReader

set_option autoImplicit false

/-! Reading the constants of a program. The name of a constant and its value are told from its line alone,
also where the value is a list of texts that hold commas and brackets of their own. -/

namespace BrowserCheck.Program

open Text (readNumber? noDigitAhead)

lemma rest_lt_of_read? {quote : Char} {m : LiteralReader.Mode} {s rest : List Char} {out : List Nat}
    (h : LiteralReader.read? quote m s = some (out, rest)) : rest.length < s.length := by
  induction s generalizing m out with
  | nil => simp [LiteralReader.read?] at h
  | cons c s ih =>
    rw [LiteralReader.read?] at h
    split at h
    · cases h
    · obtain ⟨-, rfl⟩ : _ ∧ s = rest := by simpa using h
      simp
    · obtain ⟨p, hp, he⟩ := Option.map_eq_some_iff.mp h
      obtain ⟨-, rfl⟩ := Prod.mk.inj he
      exact Nat.lt_trans (ih hp) (Nat.lt_succ_self _)

lemma rest_lt_of_readQuoted? {s rest : List Char} {t : String} (h : readQuoted? '\'' s = some (t, rest)) :
    rest.length < s.length := by
  obtain ⟨p, hp, ht⟩ := Option.bind_eq_some_iff.mp h
  obtain ⟨cs, -, he⟩ := Option.map_eq_some_iff.mp ht
  obtain ⟨-, rfl⟩ := Prod.mk.inj he
  cases s with
  | nil => cases hp
  | cons c s =>
    rw [literalUnits?] at hp
    split at hp
    · exact Nat.lt_trans (rest_lt_of_read? hp) (Nat.lt_succ_self _)
    · cases hp

def readElements? (s : List Char) : Option (List String × List Char) :=
  match _h : readQuoted? '\'' s with
  | some (t, ']' :: rest) => some ([t], rest)
  | some (t, ',' :: rest) => (readElements? (rest.dropWhile (· == ' '))).map fun p => (t :: p.1, p.2)
  | _ => none
termination_by s.length
decreasing_by
  have hr := rest_lt_of_readQuoted? _h
  have hd : (rest.dropWhile (· == ' ')).length ≤ rest.length := (List.dropWhile_sublist _).length_le
  simp only [List.length_cons] at hr
  omega

def readTexts? : List Char → Option (List String × List Char)
  | '[' :: ']' :: rest => some ([], rest)
  | '[' :: s => readElements? s
  | _ => none

inductive Given where
  | text (s : String)
  | texts (ss : List String)
  | number (n : Nat)
  | flag (b : Bool)
deriving DecidableEq, Repr

namespace Given

def read? (s : List Char) : Option (Given × List Char) :=
  match s.head? with
  | some '\'' => (readQuoted? '\'' s).map fun p => (text p.1, p.2)
  | some '[' => (readTexts? s).map fun p => (texts p.1, p.2)
  | some 't' => (behind? "true" s).map (flag true, ·)
  | some 'f' => (behind? "false" s).map (flag false, ·)
  | _ => (readNumber? s).map fun p => (number p.1, p.2)

end Given

def isNameChar (c : Char) : Bool := c.isAlphanum || c == '_' || c == '$'

def readConstant? (line : List Char) : Option (String × Given) := do
  let s ← behind? "const " line
  let (v, rest) ← Given.read? (← behind? " = " (s.dropWhile isNameChar))
  if rest = [';'] then some (String.ofList (s.takeWhile isNameChar), v) else none

lemma readElements?_last {s rest : List Char} {t : String} (h : readQuoted? '\'' s = some (t, ']' :: rest)) :
    readElements? s = some ([t], rest) := by
  rw [readElements?]
  split <;> simp_all

lemma readElements?_next {s rest : List Char} {t : String} (h : readQuoted? '\'' s = some (t, ',' :: rest)) :
    readElements? s = (readElements? (rest.dropWhile (· == ' '))).map fun p => (t :: p.1, p.2) := by
  rw [readElements?]
  split <;> simp_all

def elementsText (ss : List String) : List Char := [',', ' '].intercalate (ss.map fun t => (literal t).toList)

lemma elementsText_singleton (s : String) : elementsText [s] = (literal s).toList := List.intercalate_singleton

lemma elementsText_cons_cons (s t : String) (ss : List String) :
    elementsText (s :: t :: ss) = (literal s).toList ++ ',' :: ' ' :: elementsText (t :: ss) := by
  simp only [elementsText, List.map_cons, List.intercalate_cons_cons, List.append_assoc, List.cons_append,
    List.nil_append]

lemma elementsText_eq_cons (s : String) (ss : List String) : ∃ tail, elementsText (s :: ss) = '\'' :: tail := by
  cases ss with
  | nil => exact ⟨_, (elementsText_singleton s).trans (toList_literal s)⟩
  | cons t ss =>
    rw [elementsText_cons_cons, toList_literal]
    exact ⟨_, rfl⟩

lemma readElements?_elementsText (s : String) (ss : List String) (rest : List Char) :
    readElements? (elementsText (s :: ss) ++ ']' :: rest) = some (s :: ss, rest) := by
  induction ss generalizing s with
  | nil =>
    rw [elementsText_singleton]
    exact readElements?_last (readQuoted?_literal s _)
  | cons t ss ih =>
    have hnext := readElements?_next (readQuoted?_literal s (',' :: ' ' :: (elementsText (t :: ss) ++ ']' :: rest)))
    have hblank : (' ' :: (elementsText (t :: ss) ++ ']' :: rest)).dropWhile (· == ' ') =
        elementsText (t :: ss) ++ ']' :: rest := by
      obtain ⟨tail, ht⟩ := elementsText_eq_cons t ss
      rw [ht]
      rfl
    rw [elementsText_cons_cons, List.append_assoc, List.cons_append, List.cons_append, hnext, hblank, ih]
    rfl

lemma toList_literalList (ss : List String) : (literalList ss).toList = '[' :: (elementsText ss ++ [']']) := by
  simp [literalList, elementsText, Function.comp_def]

lemma readTexts?_literalList (ss : List String) (rest : List Char) :
    readTexts? ((literalList ss).toList ++ rest) = some (ss, rest) := by
  rw [toList_literalList, List.cons_append, List.append_assoc, List.singleton_append]
  cases ss with
  | nil => rfl
  | cons s ss =>
    have hread := readElements?_elementsText s ss rest
    obtain ⟨tail, ht⟩ := elementsText_eq_cons s ss
    rw [ht] at hread ⊢
    exact hread

namespace Given

def code : Given → String
  | text s => literal s
  | texts ss => literalList ss
  | number n => toString n
  | flag b => if b then "true" else "false"

lemma read?_number (n : Nat) {rest : List Char} (h : noDigitAhead rest) :
    read? ((toString n).toList ++ rest) = some (number n, rest) := by
  rw [Text.toList_toString]
  have hread := Text.readNumber?_digits n h
  cases hds : Nat.toDigits 10 n with
  | nil => exact absurd hds Nat.toDigits_ne_nil
  | cons c ds =>
    have hc : c.isDigit = true := Text.isDigit_of_mem_digits (n := n) (by simp [hds])
    rw [hds] at hread
    have hother : ∀ x : Char, x.isDigit = false → c ≠ x := by
      rintro x hx rfl
      rw [hc] at hx
      cases hx
    simp only [read?, List.cons_append, List.head?_cons]
    split
    · next he => exact absurd (Option.some.inj he) (hother '\'' rfl)
    · next he => exact absurd (Option.some.inj he) (hother '[' rfl)
    · next he => exact absurd (Option.some.inj he) (hother 't' rfl)
    · next he => exact absurd (Option.some.inj he) (hother 'f' rfl)
    · exact congrArg (Option.map _) hread

lemma read?_code (v : Given) {rest : List Char} (h : noDigitAhead rest) :
    read? (v.code.toList ++ rest) = some (v, rest) := by
  cases v with
  | text s =>
    have hh : ((literal s).toList ++ rest).head? = some '\'' := by rw [toList_literal]; rfl
    simp only [read?, code, hh, readQuoted?_literal, Option.map_some]
  | texts ss =>
    have hh : ((literalList ss).toList ++ rest).head? = some '[' := by rw [toList_literalList]; rfl
    simp only [read?, code, hh, readTexts?_literalList, Option.map_some]
  | number n => exact read?_number n h
  | flag b =>
    cases b with
    | false => exact congrArg (Option.map _) (behind?_append "false" rest)
    | true => exact congrArg (Option.map _) (behind?_append "true" rest)

end Given

lemma toList_constant (name value : String) :
    (constant name value).toList = "const ".toList ++ (name.toList ++ (" = ".toList ++ (value.toList ++ [';']))) := by
  simp [constant]

lemma readConstant?_constant {name : String} (hn : name.toList.all isNameChar = true) (v : Given) :
    readConstant? (constant name v.code).toList = some (name, v) := by
  have hname : ∀ c ∈ name.toList, isNameChar c = true := List.all_eq_true.mp hn
  have hsemi : noDigitAhead [';'] := by simp
  have hv := v.read?_code hsemi
  have hd : (name.toList ++ (" = ".toList ++ (v.code.toList ++ [';']))).dropWhile isNameChar =
      " = ".toList ++ (v.code.toList ++ [';']) := by
    rw [List.dropWhile_append_of_pos hname]
    rfl
  have hk : (name.toList ++ (" = ".toList ++ (v.code.toList ++ [';']))).takeWhile isNameChar = name.toList := by
    rw [List.takeWhile_append_of_pos hname]
    exact List.append_nil _
  rw [readConstant?, toList_constant]
  simp only [behind?_append, Option.bind_eq_bind, Option.bind_some, hd, hk, hv, if_true, String.ofList_toList]

def declared (o : Options) (target : String) : List (String × Given) :=
  [("CDP_ENDPOINT", .text target),
   ("TRACE_START", .text "__TRACE_START__"),
   ("TRACE_END", .text "__TRACE_END__"),
   ("SPOTLIGHT_START", .text "__SPOTLIGHT_START__"),
   ("SPOTLIGHT_END", .text "__SPOTLIGHT_END__"),
   ("SCREENSHOT_QUALITY", .number (max 1 (min 100 o.screenshotQuality.toNat))),
   ("SPOTLIGHT_ENABLED", .flag o.telemetry.enabled),
   ("SPOTLIGHT_PORT", .number o.telemetry.port.toNat),
   ("SPOTLIGHT_URL", .text ("http://localhost:" ++ toString o.telemetry.port.toNat ++ "/stream")),
   ("SPOTLIGHT_BUFFER_SIZE", .number (max 1 o.telemetry.bufferCapacity.toNat)),
   ("SENTRY_BUNDLES", .texts o.telemetry.sentryBundles)]

lemma constants_eq (o : Options) (target : String) :
    constants o target = (declared o target).map fun d => constant d.1 d.2.code := rfl

lemma names_declared (o : Options) (target : String) : ∀ d ∈ declared o target, d.1.toList.all isNameChar = true := by
  have h : ∀ name ∈ (declared o target).map Prod.fst, name.toList.all isNameChar = true := by
    simp only [declared, List.map_cons, List.map_nil]
    decide
  exact fun d hd => h d.1 (List.mem_map_of_mem hd)

lemma readConstant?_constants (o : Options) (target : String) :
    (constants o target).map (fun line => readConstant? line.toList) = (declared o target).map some := by
  rw [constants_eq, List.map_map]
  refine List.map_congr_left fun d hd => ?_
  exact readConstant?_constant (names_declared o target d hd) d.2

end BrowserCheck.Program
