import BrowserCheck.Text.Base64
import Mathlib.Tactic.Common

set_option autoImplicit false

namespace BrowserCheck.Text.Base64

def char (n : Nat) : Char := alphabet.getD (n % 64) 'A'

def number (a b c : UInt8) : Nat := (a.toNat * 256 + b.toNat) * 256 + c.toNat

def encode : Bytes → List Char
  | [] => []
  | [a] => [char (number a 0 0 / 262144), char (number a 0 0 / 4096), '=', '=']
  | [a, b] => [char (number a b 0 / 262144), char (number a b 0 / 4096), char (number a b 0 / 64), '=']
  | a :: b :: c :: rest =>
    char (number a b c / 262144) :: char (number a b c / 4096) :: char (number a b c / 64) :: char (number a b c) ::
      encode rest

lemma sextet?_char (n : Nat) : sextet? (char n) = some (n % 64) := by
  have hall : ∀ i < 64, sextet? (alphabet.getD i 'A') = some i := by decide +kernel
  exact hall _ (Nat.mod_lt n (by decide))

lemma char_ne_padding (n : Nat) : char n ≠ '=' := by
  intro h
  have hnone : sextet? '=' = none := by decide
  rw [← h, sextet?_char] at hnone
  cases hnone

lemma byte_eq {n : Nat} (a : UInt8) (h : n % 256 = a.toNat) : byte n = a :=
  UInt8.toNat_inj.mp (by rw [byte, Nat.toUInt8, UInt8.toNat_ofNat', h])

lemma decode?_group {a b c d : Char} (rest : List Char) (hd : d ≠ '=') : decode? (a :: b :: c :: d :: rest) = (do
    let n := (((← sextet? a) * 64 + (← sextet? b)) * 64 + (← sextet? c)) * 64 + (← sextet? d)
    let more ← decode? rest
    some (byte (n / 65536) :: byte (n / 256 % 256) :: byte (n % 256) :: more)) := by
  rw [decode?]
  · exact fun _ hd' _ => hd hd'
  · exact fun hd' _ => hd hd'

lemma decode?_encode (b : Bytes) : decode? (encode b) = some b := by
  have hzero : (0 : UInt8).toNat = 0 := rfl
  fun_induction encode b with
  | case1 => rfl
  | case2 a =>
    have ha := a.toNat_lt
    have hn : number a 0 0 / 262144 % 64 * 64 + number a 0 0 / 4096 % 64 = a.toNat * 16 := by
      rw [number, hzero]
      omega
    rw [decode?]
    simp only [sextet?_char, Option.bind_eq_bind, Option.bind_some]
    rw [hn, if_pos (by omega), byte_eq a (by omega)]
  | case3 a b =>
    have ha := a.toNat_lt
    have hb := b.toNat_lt
    have hn : (number a b 0 / 262144 % 64 * 64 + number a b 0 / 4096 % 64) * 64 + number a b 0 / 64 % 64 =
        (a.toNat * 256 + b.toNat) * 4 := by
      rw [number, hzero]
      omega
    rw [decode?]
    · simp only [sextet?_char, Option.bind_eq_bind, Option.bind_some]
      rw [hn, if_pos (by omega), byte_eq a (by omega), byte_eq b (by omega)]
    · exact char_ne_padding _
  | case4 a b c rest ih =>
    have ha := a.toNat_lt
    have hb := b.toNat_lt
    have hc := c.toNat_lt
    have hn : ((number a b c / 262144 % 64 * 64 + number a b c / 4096 % 64) * 64 + number a b c / 64 % 64) * 64 +
        number a b c % 64 = number a b c := by
      rw [number]
      omega
    rw [decode?_group _ (char_ne_padding _)]
    simp only [sextet?_char, Option.bind_eq_bind, Option.bind_some, ih]
    rw [hn, number, byte_eq a (by omega), byte_eq b (by omega), byte_eq c (by omega)]

example : encode [0xFF, 0xD8, 0xFF, 0xE0] = "/9j/4A==".toList := by decide

end BrowserCheck.Text.Base64
