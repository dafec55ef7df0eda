/-
# Hexadecimal numbers

Numbers in a fixed number of capital digits, and how they are read with a limit.
`parse_text` is the round trip.

The texts are those of the kernel's `%08X`; the reader is `from_str_radix`, which takes
small digits as well and refuses a number beyond its type.
-/

import Mathlib

namespace Hexadecimal

/-- `{:X}` of a digit. -/
def digit (n : ℕ) : Char := if n < 10 then Char.ofNat (48 + n) else Char.ofNat (55 + n)

/-- The value of a digit. -/
def digitValue (c : Char) : Option ℕ :=
  if '0' ≤ c ∧ c ≤ '9' then some (c.toNat - 48)
  else if 'a' ≤ c ∧ c ≤ 'f' then some (c.toNat - 87)
  else if 'A' ≤ c ∧ c ≤ 'F' then some (c.toNat - 55)
  else none

/-- The last digits of a number. -/
def text : ℕ → ℕ → List Char
  | 0, _ => []
  | w + 1, n => text w (n / 16) ++ [digit (n % 16)]

/-- One more digit of a number below a limit. -/
def readDigit (limit n : ℕ) (c : Char) : Option ℕ := do
  let d ← digitValue c
  if n * 16 + d < limit then some (n * 16 + d) else none

/-- A number below a limit. -/
def parse (limit : ℕ) (digits : List Char) : Option ℕ := digits.foldlM (readDigit limit) 0

/-- A digit is read as what it stands for. -/
theorem digitValue_digit {n : ℕ} (h : n < 16) : digitValue (digit n) = some n := by
  have hall : ∀ n : Fin 16, digitValue (digit n) = some n.val := by decide
  exact hall ⟨n, h⟩

/-- There are only digits in a text. -/
theorem exists_of_mem_text {w n : ℕ} {c : Char} (h : c ∈ text w n) : ∃ d < 16, c = digit d := by
  induction w generalizing n with
  | zero => cases h
  | succ w ih =>
      obtain h | h := List.mem_append.1 h
      · exact ih h
      · exact ⟨n % 16, Nat.mod_lt n (by omega), List.mem_singleton.1 h⟩

/-- What is no digit is not in a number. -/
theorem notMem_text {c : Char} (hc : digitValue c = none) (w n : ℕ) : c ∉ text w n := by
  intro hmem
  obtain ⟨d, hd, rfl⟩ := exists_of_mem_text hmem
  rw [digitValue_digit hd] at hc
  cases hc

/-- **What is written is read**, if it is below the limit. A text of more digits than
the number needs is read as well, with zeros in front. -/
theorem parse_text {limit w n : ℕ} (hlimit : 0 < limit) (h : n < 16 ^ w) :
    parse limit (text w n) = if n < limit then some n else none := by
  induction w generalizing n with
  | zero =>
      obtain rfl : n = 0 := by omega
      rw [if_pos hlimit]
      rfl
  | succ w ih =>
      have hsplit : n / 16 * 16 + n % 16 = n := Nat.div_add_mod' n 16
      have hrest := ih (n := n / 16) (by rw [Nat.pow_succ] at h; omega)
      rw [parse] at hrest
      rw [parse, text, List.foldlM_append, hrest]
      split_ifs with hdiv hn hn
      · simp [readDigit, digitValue_digit (Nat.mod_lt n (by omega)), hsplit, hn]
      · simp [readDigit, digitValue_digit (Nat.mod_lt n (by omega)), hsplit, hn]
      · omega
      · rfl

end Hexadecimal
