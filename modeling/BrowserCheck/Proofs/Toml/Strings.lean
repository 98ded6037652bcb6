import BrowserCheck.Proofs.Text.Digits
import BrowserCheck.Toml.Quoted
import BrowserCheck.Toml.Reader
import Mathlib.Tactic.Common

set_option autoImplicit false

namespace BrowserCheck.Toml

open Reader

lemma isInline_of_not_isControl {c : Char} (h : ¬isControl c) : isInline c = true := by
  simp only [isControl, Bool.or_eq_true, decide_eq_true_eq, beq_iff_eq, not_or] at h
  simp only [isInline, Bool.or_eq_true, Bool.and_eq_true, decide_eq_true_eq, bne_iff_ne]
  omega

section Escapes

inductive Reader.Escape.Ends : Escape → List Char → Char → Prop where
  | last {e : Escape} {x c : Char} (h : stepEscape? e x = some ([c], .plain)) : Ends e [x] c
  | more {e e' : Escape} {x c : Char} {text : List Char} (h : stepEscape? e x = some ([], e')) (hend : Ends e' text c) :
    Ends e (x :: text) c

lemma ends_units {c : Char} (hc : c.toNat < 0x100) :
    Escape.Ends .backslash ['u', '0', '0', hexDigit (c.toNat / 16), hexDigit (c.toNat % 16)] c := by
  have hhigh : Text.hexValue? (hexDigit _) = _ := (Text.hexValue?_hexDigit (c.toNat / 16) (by omega)).2
  have hlow : Text.hexValue? (hexDigit _) = _ := (Text.hexValue?_hexDigit (c.toNat % 16) (by omega)).2
  have hsum : c.toNat / 16 * 16 + c.toNat % 16 = c.toNat := by omega
  have hchar : charOf? c.toNat = some c := by
    rw [charOf?, if_pos (show c.toNat.isValidChar from c.valid), Char.ofNat_toNat]
  have hlast : (Escape.unit 0 (c.toNat / 16)).Ends [hexDigit (c.toNat % 16)] c :=
    .last (by simp [stepEscape?, hlow, hsum, hchar])
  have htwo : (Escape.unit 1 0).Ends [hexDigit (c.toNat / 16), hexDigit (c.toNat % 16)] c :=
    .more (by simp [stepEscape?, hhigh]) hlast
  have hthree : (Escape.unit 2 0).Ends ['0', hexDigit (c.toNat / 16), hexDigit (c.toNat % 16)] c := .more rfl htwo
  have hfour : (Escape.unit 3 0).Ends ['0', '0', hexDigit (c.toNat / 16), hexDigit (c.toNat % 16)] c := .more rfl hthree
  exact .more rfl hfour

lemma ends_escapeControl {c : Char} (hc : isControl c) :
    ∃ text, escapeControl c = '\\' :: text ∧ Escape.Ends .backslash text c := by
  have hsmall : c.toNat < 0x100 := by
    simp only [isControl, Bool.or_eq_true, decide_eq_true_eq, beq_iff_eq] at hc
    omega
  unfold escapeControl
  split
  case h_6 => exact ⟨_, rfl, ends_units hsmall⟩
  all_goals exact ⟨_, rfl, .last rfl⟩

lemma basic?_escape {e : Escape} {text : List Char} {c : Char} (h : e.Ends text c) (done rest : List Char) :
    basic? e done (text ++ rest) = basic? .plain (c :: done) rest := by
  induction h with
  | @last e x c h =>
    cases e with
    | plain => cases h
    | _ => simp [basic?, h]
  | @more e e' x c text h _ ih =>
    cases e with
    | plain => cases h
    | _ => simpa [basic?, h] using ih

lemma longBasic?_escape {e : Escape} {text : List Char} {c : Char} (h : e.Ends text c) (done rest : List Char) :
    longBasic? e 0 done (text ++ rest) = longBasic? .plain 0 (c :: done) rest := by
  induction h with
  | @last e x c h =>
    cases e with
    | plain => cases h
    | trim crossed => cases h
    | _ => simp [longBasic?, h]
  | @more e e' x c text h _ ih =>
    cases e with
    | plain => cases h
    | trim crossed => cases h
    | _ => simpa [longBasic?, h] using ih

end Escapes

section OneLine

lemma basic?_backslash {text : List Char} {c : Char} (h : Escape.Ends .backslash text c) (done rest : List Char) :
    basic? .plain done ('\\' :: (text ++ rest)) = basic? .plain (c :: done) rest := by
  rw [basic?, if_neg (by decide), if_pos rfl, basic?_escape h]

lemma basic?_writeBasic (done s rest : List Char) :
    basic? .plain done (writeBasic false 0 0 s ++ '"' :: rest) = some (done.reverse ++ s, rest) := by
  induction s generalizing done with
  | nil => simp [writeBasic, basic?]
  | cons c s ih =>
    have hread : done.reverse ++ c :: s = (c :: done).reverse ++ s := by simp
    rw [hread, ← ih, writeBasic]
    split_ifs with hquote hrun hbackslash hnewline hcontrol
    · exact absurd hrun (by decide)
    · subst hquote
      exact basic?_backslash (.last rfl) done _
    · subst hbackslash
      exact basic?_backslash (.last rfl) done _
    · cases hnewline.2
    · obtain ⟨text, htext, hends⟩ := ends_escapeControl hcontrol
      rw [htext, List.cons_append, List.cons_append, List.append_assoc]
      exact basic?_backslash hends done _
    · rw [List.cons_append, basic?, if_neg hquote, if_neg hbackslash, if_pos (isInline_of_not_isControl hcontrol)]

lemma literal?_append (done : List Char) {s : List Char} (h : ∀ c ∈ s, c ≠ '\'' ∧ isInline c = true)
    (rest : List Char) : literal? done (s ++ '\'' :: rest) = some (done.reverse ++ s, rest) := by
  induction s generalizing done with
  | nil => simp [literal?]
  | cons c s ih =>
    obtain ⟨⟨hquote, hinline⟩, hs⟩ := List.forall_mem_cons.mp h
    rw [List.cons_append, literal?, if_neg hquote, if_pos hinline, ih (c :: done) hs]
    simp

end OneLine

section Long

variable {quotes : Nat} {rest : List Char}

lemma closeLong_add (quote : Char) (quotes : Nat) (done rest : List Char) :
    closeLong quote (quotes + 3) done rest = (done.reverse ++ List.replicate quotes quote, rest) := by
  rw [closeLong, Nat.add_sub_cancel, List.reverse_append, List.reverse_replicate]

lemma replicate_succ_append (c : Char) (n : Nat) (s : List Char) :
    List.replicate (n + 1) c ++ s = List.replicate n c ++ c :: s := by
  rw [List.replicate_succ', List.append_assoc, List.singleton_append]

lemma longBasic?_close (done : List Char) (hquotes : quotes ≤ 2) (hrest : rest.head? ≠ some '"') :
    longBasic? .plain quotes done ("\"\"\"".toList ++ rest) =
      some (done.reverse ++ List.replicate quotes '"', rest) := by
  have hclosed (n : Nat) (hn : 3 ≤ n) : longBasic? .plain n done rest = some (closeLong '"' n done rest) := by
    cases rest with
    | nil => rw [longBasic?, if_pos hn]
    | cons c rest =>
      have hc : c ≠ '"' := fun he => hrest (congrArg some he)
      rw [longBasic?, if_neg hc, if_pos hn]
  rw [← closeLong_add]
  obtain rfl | rfl | rfl : quotes = 0 ∨ quotes = 1 ∨ quotes = 2 := by omega
  · exact hclosed 3 (by decide)
  · exact hclosed 4 (by decide)
  · rfl

lemma longLiteral?_close (done : List Char) (hquotes : quotes ≤ 2) (hrest : rest.head? ≠ some '\'') :
    longLiteral? quotes done ("'''".toList ++ rest) = some (done.reverse ++ List.replicate quotes '\'', rest) := by
  have hclosed (n : Nat) (hn : 3 ≤ n) : longLiteral? n done rest = some (closeLong '\'' n done rest) := by
    cases rest with
    | nil => rw [longLiteral?, if_pos hn]
    | cons c rest =>
      have hc : c ≠ '\'' := fun he => hrest (congrArg some he)
      rw [longLiteral?, if_neg hc, if_pos hn]
  rw [← closeLong_add]
  obtain rfl | rfl | rfl : quotes = 0 ∨ quotes = 1 ∨ quotes = 2 := by omega
  · exact hclosed 3 (by decide)
  · exact hclosed 4 (by decide)
  · rfl

lemma longBasic?_backslash {text : List Char} {c : Char} (h : Escape.Ends .backslash text c) (hquotes : quotes ≤ 2)
    (done rest : List Char) : longBasic? .plain quotes done ('\\' :: (text ++ rest)) =
      longBasic? .plain 0 (c :: (List.replicate quotes '"' ++ done)) rest := by
  rw [longBasic?, if_neg (by decide), if_neg (by omega), ← longBasic?_escape h]
  rfl

lemma longBasic?_char {c : Char} (hquote : c ≠ '"') (hbackslash : c ≠ '\\') (hc : c = '\n' ∨ isInline c = true)
    (hquotes : quotes ≤ 2) (done rest : List Char) : longBasic? .plain quotes done (c :: rest) =
      longBasic? .plain 0 (c :: (List.replicate quotes '"' ++ done)) rest := by
  rw [longBasic?, if_neg hquote, if_neg (by omega)]
  dsimp only
  rw [if_neg hbackslash, if_pos hc]

lemma longBasic?_writeBasic (done s : List Char) (hquotes : quotes ≤ 2) (hrest : rest.head? ≠ some '"') :
    longBasic? .plain quotes done (writeBasic true 2 quotes s ++ ("\"\"\"".toList ++ rest)) =
      some (done.reverse ++ List.replicate quotes '"' ++ s, rest) := by
  -- `quotes` is the run of quotes at the end of what was written and of what was read
  induction s generalizing done quotes with
  | nil => simpa [writeBasic] using longBasic?_close done hquotes hrest
  | cons c s ih =>
    have hread : done.reverse ++ List.replicate quotes '"' ++ c :: s =
        (c :: (List.replicate quotes '"' ++ done)).reverse ++ List.replicate 0 '"' ++ s := by simp
    rw [writeBasic]
    split_ifs with hquote hrun hbackslash hnewline hcontrol
    · subst hquote
      rw [List.cons_append, longBasic?, if_pos rfl, if_neg (by omega), ih done (by omega), List.append_assoc,
        replicate_succ_append, ← List.append_assoc]
    · subst hquote
      rw [hread, ← ih _ (by omega)]
      exact longBasic?_backslash (.last rfl) hquotes done _
    · subst hbackslash
      rw [hread, ← ih _ (by omega)]
      exact longBasic?_backslash (.last rfl) hquotes done _
    · rw [hread, ← ih _ (by omega), hnewline.1]
      exact longBasic?_char (by decide) (by decide) (.inl rfl) hquotes done _
    · obtain ⟨text, htext, hends⟩ := ends_escapeControl hcontrol
      rw [hread, ← ih _ (by omega), htext, List.cons_append, List.cons_append, List.append_assoc]
      exact longBasic?_backslash hends hquotes done _
    · rw [hread, ← ih _ (by omega)]
      exact longBasic?_char hquote hbackslash (.inr (isInline_of_not_isControl hcontrol)) hquotes done _

lemma le_longestRun (x : Char) (run : Nat) (s : List Char) : run ≤ longestRun x run s := by
  induction s generalizing run with
  | nil => exact Nat.le_refl run
  | cons c s ih =>
    rw [longestRun]
    split
    · exact Nat.le_of_succ_le (ih _)
    · exact Nat.le_max_left _ _

lemma longLiteral?_append (done : List Char) {s : List Char} (hrun : longestRun '\'' quotes s ≤ 2)
    (hs : ∀ c ∈ s, c = '\n' ∨ isInline c = true) (hrest : rest.head? ≠ some '\'') :
    longLiteral? quotes done (s ++ ("'''".toList ++ rest)) =
      some (done.reverse ++ List.replicate quotes '\'' ++ s, rest) := by
  induction s generalizing done quotes with
  | nil =>
    have hquotes : quotes ≤ 2 := hrun
    simpa using longLiteral?_close done hquotes hrest
  | cons c s ih =>
    obtain ⟨hc, hs⟩ := List.forall_mem_cons.mp hs
    have hquotes := Nat.le_trans (le_longestRun _ _ _) hrun
    rw [longestRun] at hrun
    split_ifs at hrun with hquote
    · rw [List.cons_append, longLiteral?, if_pos hquote, if_neg (by omega), ih done hrun hs, List.append_assoc,
        replicate_succ_append, ← List.append_assoc, hquote]
    · rw [List.cons_append, longLiteral?, if_neg hquote, if_neg (by omega)]
      dsimp only
      rw [if_pos hc, ih _ (Nat.le_trans (Nat.le_max_right _ _) hrun) hs]
      simp

end Long

section Chosen

variable {s rest : List Char}

lemma notMem_of_longestRun {x : Char} {run : Nat} (h : longestRun x run s = 0) : x ∉ s := by
  induction s generalizing run with
  | nil => exact List.not_mem_nil
  | cons c s ih =>
    rw [longestRun] at h
    split_ifs at h with hc
    · exact absurd (le_longestRun x (run + 1) s) (by omega)
    · have hrest : longestRun x 0 s = 0 := by omega
      exact fun hm => (List.mem_cons.mp hm).elim (fun he => hc he.symm) (ih hrest)

lemma isInline_of_not_needsEscape {c : Char} (h : ¬needsEscape c) : c = '\n' ∨ isInline c = true := by
  by_cases hc : isControl c
  · simp only [needsEscape, hc, Bool.true_and, Bool.and_eq_true, bne_iff_ne, not_and_or, not_not] at h
    rcases h with rfl | rfl
    · exact .inr rfl
    · exact .inl rfl
  · exact .inr (isInline_of_not_isControl hc)

lemma chooseQuotes_literal (h : chooseQuotes s = .literal) : ∀ c ∈ s, c ≠ '\'' ∧ isInline c = true := by
  unfold chooseQuotes at h
  dsimp only at h
  split_ifs at h with h1 h2
  obtain ⟨hcontrol, hsingles, hnewline⟩ := h2
  intro c hc
  have hinline := isInline_of_not_needsEscape fun he => hcontrol (List.any_eq_true.mpr ⟨c, hc, he⟩)
  refine ⟨fun he => notMem_of_longestRun hsingles (he ▸ hc), hinline.resolve_left fun he => hnewline ?_⟩
  exact List.contains_iff_mem.mpr (he ▸ hc)

lemma chooseQuotes_longLiteral (h : chooseQuotes s = .longLiteral) :
    longestRun '\'' 0 s ≤ 2 ∧ ∀ c ∈ s, c = '\n' ∨ isInline c = true := by
  unfold chooseQuotes at h
  dsimp only at h
  split_ifs at h with h1 h2 h3 h4
  exact ⟨h4.2, fun c hc => isInline_of_not_needsEscape fun he => h4.1 (List.any_eq_true.mpr ⟨c, hc, he⟩)⟩

lemma head_writeBasic (long : Bool) (limit run : Nat) :
    ∀ c ∈ (writeBasic long limit run s).head?, isControl c → c = '\n' ∧ '\n' ∈ s := by
  have hdouble : isControl '"' = false := by decide
  have hescape : isControl '\\' = false := by decide
  cases s with
  | nil => simp [writeBasic]
  | cons c s =>
    rw [writeBasic]
    split_ifs with hquote hrun hbackslash hnewline hcontrol
    · simpa using hdouble
    · simpa using hescape
    · simpa using hescape
    · simp [hnewline.1]
    · obtain ⟨text, htext, -⟩ := ends_escapeControl hcontrol
      simpa [htext] using hescape
    · simpa using fun h => absurd h hcontrol

def opensLong (s text : List Char) : Prop := ∀ c ∈ text.head?, c ≠ '\r' ∧ (c = '\n' → '\n' ∈ s)

lemma opensLong_append {body more : List Char} (hbody : opensLong s body) (hmore : opensLong s more) :
    opensLong s (body ++ more) := by
  cases body with
  | nil => exact hmore
  | cons c body => exact hbody

lemma opensLong_writeBasic : opensLong s (writeBasic true 2 0 s) := by
  intro c hc
  have hhead := head_writeBasic true 2 0 c hc
  exact ⟨fun he => absurd (he ▸ hhead (he ▸ rfl)).1 (by decide), fun he => (hhead (he ▸ rfl)).2⟩

lemma opensLong_self (h : ∀ c ∈ s, c = '\n' ∨ isInline c = true) : opensLong s s := by
  intro c hc
  have hmem := List.mem_of_mem_head? hc
  refine ⟨?_, fun he => he ▸ hmem⟩
  rintro rfl
  exact absurd (h _ hmem) (by decide)

lemma skipNewline_delimiter {text : List Char} (h : opensLong s text) :
    skipNewline ((if s.contains '\n' then ['\n'] else []) ++ text) = text := by
  split_ifs with hs
  · rfl
  · rw [List.nil_append]
    unfold skipNewline
    split
    · exact absurd (List.contains_iff_mem.mpr ((h '\n' rfl).2 rfl)) hs
    · exact absurd rfl (h '\r' rfl).1
    · rfl

lemma string?_basic {body : List Char} (h : ∀ more, body ≠ '"' :: '"' :: more) :
    string? ('"' :: body) = (basic? .plain [] body).map fun p => (String.ofList p.1, p.2) := by
  unfold string?
  split
  · next heq => exact absurd (List.cons.inj heq).2 (h _)
  · next heq => rw [(List.cons.inj heq).2]
  all_goals simp_all

lemma string?_literal {body : List Char} (h : ∀ more, body ≠ '\'' :: '\'' :: more) :
    string? ('\'' :: body) = (literal? [] body).map fun p => (String.ofList p.1, p.2) := by
  unfold string?
  split
  · next heq => cases heq
  · next heq => cases heq
  · next heq => exact absurd (List.cons.inj heq).2 (h _)
  · next heq => rw [(List.cons.inj heq).2]
  · next hne => exact absurd rfl (hne _)

lemma string?_longBasic {text : List Char} (h : opensLong s text) : string? (longDelimiter '"' s ++ text) =
    (longBasic? .plain 0 [] text).map fun p => (String.ofList p.1, p.2) := by
  rw [longDelimiter, List.append_assoc]
  change (longBasic? .plain 0 [] (skipNewline ((if s.contains '\n' then ['\n'] else []) ++ text))).map _ = _
  rw [skipNewline_delimiter h]

lemma string?_longLiteral {text : List Char} (h : opensLong s text) : string? (longDelimiter '\'' s ++ text) =
    (longLiteral? 0 [] text).map fun p => (String.ofList p.1, p.2) := by
  rw [longDelimiter, List.append_assoc]
  change (longLiteral? 0 [] (skipNewline ((if s.contains '\n' then ['\n'] else []) ++ text))).map _ = _
  rw [skipNewline_delimiter h]

lemma ne_two_quotes {quote : Char} {body : List Char} (hbody : body.head? ≠ some quote)
    (hrest : rest.head? ≠ some quote) (more : List Char) : body ++ quote :: rest ≠ quote :: quote :: more := by
  intro he
  cases body with
  | nil => exact hrest (by rw [(List.cons.inj he).2, List.head?_cons])
  | cons c body => exact hbody (by rw [(List.cons.inj he).1, List.head?_cons])

lemma head_writeBasic_short : (writeBasic false 0 0 s).head? ≠ some '"' := by
  cases s with
  | nil => simp [writeBasic]
  | cons c s =>
    rw [writeBasic]
    split_ifs with hquote hrun hbackslash hnewline hcontrol
    · exact absurd hrun (by decide)
    · simp
    · simp
    · cases hnewline.2
    · obtain ⟨text, htext, -⟩ := ends_escapeControl hcontrol
      simp [htext]
    · simpa using hquote

lemma string?_writeText (s : String) (hrest : ∀ c ∈ rest.head?, c ≠ '"' ∧ c ≠ '\'') :
    string? (writeText s.toList ++ rest) = some (s, rest) := by
  have hdouble : rest.head? ≠ some '"' := fun he => (hrest _ he).1 rfl
  have hsingle : rest.head? ≠ some '\'' := fun he => (hrest _ he).2 rfl
  rw [writeText]
  cases hq : chooseQuotes s.toList with
  | basic =>
    dsimp only
    rw [List.cons_append, List.append_assoc, List.singleton_append,
      string?_basic (ne_two_quotes head_writeBasic_short hdouble), basic?_writeBasic]
    simp
  | literal =>
    have hs := chooseQuotes_literal hq
    have hhead : s.toList.head? ≠ some '\'' := fun he => (hs _ (List.mem_of_mem_head? he)).1 rfl
    dsimp only
    rw [List.cons_append, List.append_assoc, List.singleton_append, string?_literal (ne_two_quotes hhead hsingle),
      literal?_append [] hs]
    simp
  | longBasic =>
    have hopens : opensLong s.toList ("\"\"\"".toList ++ rest) := by simp [opensLong]
    dsimp only
    rw [List.append_assoc, List.append_assoc, string?_longBasic (opensLong_append opensLong_writeBasic hopens),
      longBasic?_writeBasic [] _ (by decide) hdouble]
    simp
  | longLiteral =>
    have hopens : opensLong s.toList ("'''".toList ++ rest) := by simp [opensLong]
    obtain ⟨hrun, hs⟩ := chooseQuotes_longLiteral hq
    dsimp only
    rw [List.append_assoc, List.append_assoc, string?_longLiteral (opensLong_append (opensLong_self hs) hopens),
      longLiteral?_append [] hrun hs hsingle]
    simp

end Chosen

end BrowserCheck.Toml
