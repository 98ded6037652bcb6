import BrowserCheck.Proofs.Json.Tokens

set_option autoImplicit false

namespace BrowserCheck.Json

namespace Number

def fits : Number → Prop
  | .integer n => -2 ^ 63 ≤ n ∧ n < 2 ^ 64
  | .real _ => False

lemma naturalOf_digits (n : Nat) : naturalOf (Nat.toDigits 10 n) = n := by
  have h : naturalOf (Nat.toDigits 10 n) = Nat.ofDigitChars 10 (Nat.toDigits 10 n) 0 := by
    simp only [naturalOf, Text.digitValue, Nat.ofDigitChars, Nat.mul_comm 10]
  rw [h, Nat.ofDigitChars_ten_toDigits]

lemma takeWhile_all (n : Nat) : (Nat.toDigits 10 n).takeWhile Char.isDigit = Nat.toDigits 10 n := by
  simpa using Text.takeWhile_digits n Text.noDigitAhead_nil

lemma dropWhile_all (n : Nat) : (Nat.toDigits 10 n).dropWhile Char.isDigit = [] := by
  simpa using Text.dropWhile_digits n Text.noDigitAhead_nil

lemma head_digits (n : Nat) : ((Nat.toDigits 10 n).head? == some '-') = false := by
  cases h : Nat.toDigits 10 n with
  | nil => rfl
  | cons c ds =>
    have hd : c.isDigit = true := Text.isDigit_of_mem_digits (n := n) (by simp [h])
    have hne : c ≠ '-' := by rintro rfl; simp at hd
    simpa using hne

lemma ofNumeral?_natural {n : Nat} (hn : n < 2 ^ 64) :
    ofNumeral? (Nat.toDigits 10 n) = some (.integer n) := by
  have hg : n ≤ Scaled.greatest := by simp only [Scaled.greatest]; omega
  simp [ofNumeral?, head_digits, takeWhile_all, dropWhile_all, naturalOf_digits, hg]

lemma ofNumeral?_negative {n : Nat} (h0 : 0 < n) (hn : n ≤ 2 ^ 63) :
    ofNumeral? ('-' :: Nat.toDigits 10 n) = some (.integer (-n)) := by
  have hne : n ≠ 0 := by omega
  have hle : n ≤ 9223372036854775808 := hn
  simp [ofNumeral?, takeWhile_all, dropWhile_all, naturalOf_digits, hle, hne]

lemma toText_cases (n : Int) :
    (∃ m : Nat, n = m ∧ toText (.integer n) = Nat.toDigits 10 m) ∨
    ∃ m : Nat, 0 < m ∧ n = -m ∧ toText (.integer n) = '-' :: Nat.toDigits 10 m := by
  cases n with
  | ofNat m => exact .inl ⟨m, rfl, Text.toList_toString m⟩
  | negSucc m =>
    refine .inr ⟨m + 1, by omega, Int.negSucc_eq m, ?_⟩
    simp [toText, Int.repr]

end Number

namespace Reader

def endsNumber (rest : List Char) : Prop :=
  ∃ c tail, rest = c :: tail ∧ c.isDigit = false ∧ c ≠ '.' ∧ isMark c = false

lemma first?_digit {c : Char} (hd : c.isDigit = true) (h0 : c ≠ '0') : Digits.first? c = some .whole := by
  simp [Digits.first?, hd, h0]

lemma run_whole (stack : List Open) (done ds : List Char) (hd : ∀ c ∈ ds, c.isDigit = true) :
    run ⟨stack, .number done .whole⟩ ds = some ⟨stack, .number (ds.reverse ++ done) .whole⟩ := by
  induction ds generalizing done with
  | nil => rfl
  | cons c ds ih =>
    have hs : step ⟨stack, .number done .whole⟩ c = some ⟨stack, .number (c :: done) .whole⟩ := by
      simp [step, Digits.next?, hd c (by simp)]
    rw [run_cons, hs, Option.bind_some, ih _ fun d h => hd d (by simp [h])]
    simp

lemma run_digits (s : State) (stack : List Open) (done : List Char)
    (hs : ∀ c, c.isDigit = true → step s c = (Digits.first? c).map fun d => ⟨stack, .number (c :: done) d⟩)
    (n : Nat) : ∃ d, (d = .zero ∨ d = .whole) ∧
      run s (Nat.toDigits 10 n) = some ⟨stack, .number ((Nat.toDigits 10 n).reverse ++ done) d⟩ := by
  rcases Nat.eq_zero_or_pos n with rfl | hn
  · refine ⟨.zero, .inl rfl, ?_⟩
    rw [Nat.toDigits_zero, run_cons, hs '0' (by decide)]
    rfl
  · obtain ⟨c, ds, hc, hd, h0⟩ := Text.digits_eq_cons n hn
    have hds : ∀ d ∈ ds, d.isDigit = true := fun d h => Text.isDigit_of_mem_digits (n := n) (by simp [hc, h])
    refine ⟨.whole, .inr rfl, ?_⟩
    rw [hc, run_cons, hs c hd, first?_digit hd h0, Option.map_some, Option.bind_some, run_whole stack _ _ hds]
    simp

lemma begin?_digit (stack : List Open) {c : Char} (hd : c.isDigit = true) :
    begin? stack c = (Digits.first? c).map fun d => ⟨stack, .number [c] d⟩ := by
  have h : ∀ x : Char, x.isDigit = false → c ≠ x := by
    rintro x hx rfl
    rw [hd] at hx
    cases hx
  simp only [begin?, if_neg (h '"' rfl), if_neg (h '[' rfl), if_neg (h '\x7b' rfl), if_neg (h 'n' rfl),
    if_neg (h 't' rfl), if_neg (h 'f' rfl), if_neg (h '-' rfl)]

lemma isSpace_digit {c : Char} (hd : c.isDigit = true) : isSpace c = false := by
  by_contra h
  simp only [isSpace, Bool.not_eq_false, Bool.or_eq_true, beq_iff_eq] at h
  rcases h with ((rfl | rfl) | rfl) | rfl <;> simp at hd

lemma run_integer {m : Mode} (hm : m.opens) (stack : List Open) (n : Int) :
    ∃ numeral d, (d = .zero ∨ d = .whole) ∧ numeral.reverse = Number.toText (.integer n) ∧
      run ⟨stack, m⟩ (Number.toText (.integer n)) = some ⟨stack, .number numeral d⟩ := by
  rcases Number.toText_cases n with ⟨k, -, ht⟩ | ⟨k, -, -, ht⟩
  · obtain ⟨d, hd, hr⟩ := run_digits ⟨stack, m⟩ stack [] (fun c hc => by
      have hne : c ≠ ']' := by rintro rfl; simp at hc
      rw [step_begin hm stack (isSpace_digit hc) hne, begin?_digit stack hc]) k
    exact ⟨_, d, hd, by simp [ht], ht ▸ hr⟩
  · have hb : step ⟨stack, m⟩ '-' = some ⟨stack, .number ['-'] .sign⟩ := by
      rw [step_begin hm stack (by decide) (by decide)]
      rfl
    obtain ⟨d, hd, hr⟩ := run_digits ⟨stack, .number ['-'] .sign⟩ stack ['-']
      (fun c hc => by
        by_cases h0 : c = '0'
        · subst h0
          rfl
        · simp only [step, Digits.next?, first?_digit hc h0]
          rfl) k
    refine ⟨(Nat.toDigits 10 k).reverse ++ ['-'], d, hd, by simp [ht], ?_⟩
    rw [ht, run_cons, hb, Option.bind_some, hr]

lemma numberOf_toText {n : Int} (hn : (Number.integer n).fits) {numeral : List Char}
    (h : numeral.reverse = Number.toText (.integer n)) : numberOf numeral = .number (.integer n) := by
  obtain ⟨hl, hu⟩ := hn
  rw [numberOf, h]
  rcases Number.toText_cases n with ⟨k, rfl, ht⟩ | ⟨k, hk, rfl, ht⟩
  · rw [ht, Number.ofNumeral?_natural (by omega)]
  · rw [ht, Number.ofNumeral?_negative hk (by omega)]

lemma next?_end {d : Digits} (hd : d = .zero ∨ d = .whole) {c : Char} (hc : c.isDigit = false) (hp : c ≠ '.')
    (hm : isMark c = false) : d.next? c = none := by
  rcases hd with rfl | rfl <;> simp [Digits.next?, Digits.afterWhole?, hc, hp, hm]

lemma run_number {m : Mode} (hm : m.opens) (stack : List Open) {x : Number} (hx : x.fits) {rest : List Char}
    (hr : endsNumber rest) : run ⟨stack, m⟩ (x.toText ++ rest) = run (place (.number x) stack) rest := by
  cases x with
  | real x => exact hx.elim
  | integer n =>
    obtain ⟨numeral, d, hd, hrev, hrun⟩ := run_integer hm stack n
    obtain ⟨c, tail, rfl, hdig, hp, hmark⟩ := hr
    have hc : d.complete = true := by rcases hd with rfl | rfl <;> rfl
    have hs : step ⟨stack, .number numeral d⟩ c = step (place (.number (.integer n)) stack) c := by
      rw [between_place, ← numberOf_toText hx hrev]
      simp only [step, next?_end hd hdig hp hmark, hc, if_true]
    rw [run_append, hrun, Option.bind_some, run_cons, hs, ← run_cons]

end Reader

end BrowserCheck.Json
