/-
# Whole numbers in decimal

How a whole number is written, and how one between two limits is read: an optional sign and
at least one digit.  `parse_text` is the round trip.  A number of which only the first
digits are there is read as a smaller one, if at all (`parse_le_of_prefix`).

The last is what is left of a file whose writing was cut off.
-/

import Mathlib

namespace Decimals

/-- A number. -/
def text (z : ℤ) : List Char := (toString z).toList

/-- At least one digit. -/
def natural (digits : List Char) : Option ℕ :=
  if digits ≠ [] ∧ digits.all Char.isDigit then some (Nat.ofDigitChars 10 digits 0) else none

/-- A number with an optional sign. -/
def signed : List Char → Option ℤ
  | '-' :: digits => (natural digits).map fun n : ℕ => -(n : ℤ)
  | '+' :: digits => (natural digits).map fun n : ℕ => (n : ℤ)
  | digits => (natural digits).map fun n : ℕ => (n : ℤ)

/-- A number from `low` to below `high`. -/
def parse (low high : ℤ) (cs : List Char) : Option ℤ :=
  (signed cs).filter fun z => low ≤ z ∧ z < high

/-- A number is its digits, with a sign before them if it is negative. -/
theorem text_eq (z : ℤ) :
    text z = if 0 ≤ z then Nat.toDigits 10 z.toNat else '-' :: Nat.toDigits 10 (-z).toNat := by
  rw [text, Int.toString_eq_repr, Int.repr_eq_if]
  split_ifs
  · exact Nat.toList_repr
  · rw [String.toList_append, Nat.toList_repr]
    rfl

/-- A text that starts with a digit has no sign. -/
theorem signed_of_isDigit {cs : List Char} (h : ∀ c ∈ cs, c.isDigit = true) :
    signed cs = (natural cs).map fun n : ℕ => (n : ℤ) := by
  unfold signed
  split
  · exact absurd (h '-' List.mem_cons_self) (by decide)
  · exact absurd (h '+' List.mem_cons_self) (by decide)
  · rfl

/-- The digits of a number are read as the number. -/
theorem natural_toDigits (n : ℕ) : natural (Nat.toDigits 10 n) = some n := by
  have hdigits : (Nat.toDigits 10 n).all Char.isDigit = true :=
    List.all_eq_true.2 fun _ hc => Nat.isDigit_of_mem_toDigits (by decide) (by decide) hc
  rw [natural, if_pos ⟨Nat.toDigits_ne_nil, hdigits⟩, Nat.ofDigitChars_ten_toDigits]

/-- **What is written is read.** A sign is read first, and then digits up to the end; a
number out of the range would be refused. -/
theorem parse_text {low high z : ℤ} (hlow : low ≤ z) (hhigh : z < high) :
    parse low high (text z) = some z := by
  have hsigned : signed (text z) = some z := by
    rw [text_eq]
    split_ifs with hz
    · rw [signed_of_isDigit fun _ hc => Nat.isDigit_of_mem_toDigits (by decide) (by decide) hc,
        natural_toDigits, Option.map_some]
      exact congrArg some (Int.toNat_of_nonneg hz)
    · rw [signed, natural_toDigits, Option.map_some, Int.toNat_of_nonneg (by omega), neg_neg]
  rw [parse, hsigned]
  simp [hlow, hhigh]

/-- More digits make a larger number. -/
theorem le_ofDigitChars (cs : List Char) (n : ℕ) : n ≤ Nat.ofDigitChars 10 cs n := by
  induction cs generalizing n with
  | nil => exact le_rfl
  | cons c cs ih =>
      rw [Nat.ofDigitChars_cons]
      exact le_trans (by omega) (ih _)

/-- A beginning of a number's digits is a number that is not larger.  What is read of a
file that is only written in part is one of these. -/
theorem le_of_natural_prefix {cs : List Char} {n m : ℕ} (hcs : cs <+: Nat.toDigits 10 n)
    (hm : natural cs = some m) : m ≤ n := by
  obtain ⟨rest, hrest⟩ := hcs
  have hn := Nat.ofDigitChars_ten_toDigits (n := n)
  rw [← hrest, Nat.ofDigitChars_append] at hn
  rw [natural] at hm
  split_ifs at hm
  obtain rfl := Option.some.inj hm
  rw [← hn]
  exact le_ofDigitChars rest _

/-- **The first digits of a number** are no larger number, and those of a negative one are
no positive number. -/
theorem parse_le_of_prefix {low high z v : ℤ} {cs : List Char} (hcs : cs <+: text z)
    (hv : parse low high cs = some v) : v ≤ max z 0 := by
  have hv : signed cs = some v := (Option.filter_eq_some_iff.1 hv).1
  rw [text_eq] at hcs
  split_ifs at hcs with hz
  · have hdigits : ∀ c ∈ cs, c.isDigit = true := fun c hc =>
      Nat.isDigit_of_mem_toDigits (by decide) (by decide) (hcs.subset hc)
    rw [signed_of_isDigit hdigits] at hv
    obtain ⟨m, hm, rfl⟩ := Option.map_eq_some_iff.1 hv
    have hle := le_of_natural_prefix hcs hm
    exact le_max_of_le_left (by omega)
  · obtain rfl | ⟨digits, rfl, -⟩ := List.prefix_cons_iff.1 hcs
    · cases hv
    · rw [signed] at hv
      obtain ⟨m, -, rfl⟩ := Option.map_eq_some_iff.1 hv
      exact le_max_of_le_right (by omega)

end Decimals
