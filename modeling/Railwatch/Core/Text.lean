/-
# Texts

The few `format!` and `str` operations the daemon's keys and messages use:
`starts_with`, `{:0n}` padding, and `{:.3}` of milliamperes read as amperes; and the
bytes of a text, from which it is read again if they are UTF-8.

The keys of a summary are compared and told apart as texts, and that rests on two facts
about numbers in them: a padded number has a fixed length (`length_zeroPad`) and
determines the number (`zeroPad_injective`).
-/

import Mathlib

namespace Railwatch

/-- `str::starts_with`. -/
def startsWith (s start : String) : Bool := start.toList.isPrefixOf s.toList

/-- A text that goes on begins as it did. -/
theorem head?_toList_append {s : String} {a : Char} (h : s.toList.head? = some a) (x : String) :
    (s ++ x).toList.head? = some a := by
  rw [String.toList_append, List.head?_append, h]
  rfl

/-- Texts with different first characters are different. -/
theorem ne_of_head?_ne {s t : String} {a b : Char} (hs : s.toList.head? = some a)
    (ht : t.toList.head? = some b) (hab : a ≠ b) : s ≠ t := by
  rintro rfl
  exact hab (Option.some.inj (hs.symm.trans ht))

/-- Texts with different first characters do not start alike. -/
theorem startsWith_eq_false_of_head {s start : String} {a b : Char} (hs : s.toList.head? = some a)
    (hb : start.toList.head? = some b) (hab : a ≠ b) : startsWith s start = false := by
  obtain ⟨s', hs'⟩ := List.head?_eq_some_iff.1 hs
  obtain ⟨t', ht'⟩ := List.head?_eq_some_iff.1 hb
  simp [startsWith, hs', ht', List.isPrefixOf, hab.symm]

/-- `{:0w}` of a natural number: padded with zeros on the left to `w` digits. -/
def zeroPad (w n : ℕ) : String :=
  String.ofList (List.replicate (w - (toString n).length) '0') ++ toString n

/-- `{:0w}` of a signed number: the sign counts as one of the `w` characters. -/
def zeroPadSigned (w : ℕ) (z : ℤ) : String :=
  if z < 0 then "-" ++ zeroPad (w - 1) z.natAbs else zeroPad w z.natAbs

/-- The zeros that fill the width, and then the digits. -/
theorem toList_zeroPad (w n : ℕ) : (zeroPad w n).toList =
    List.replicate (w - (toString n).length) '0' ++ Nat.toDigits 10 n := by
  rw [zeroPad, String.toList_append, String.toList_ofList]
  exact congrArg _ Nat.toList_repr

/-- The number can be read back. -/
theorem ofDigitChars_zeroPad (w n : ℕ) : Nat.ofDigitChars 10 (zeroPad w n).toList 0 = n := by
  rw [toList_zeroPad, Nat.ofDigitChars_append, Nat.ofDigitChars_replicate_zero, mul_zero,
    Nat.ofDigitChars_ten_toDigits]

/-- Two numbers of different value have different texts, whatever the width. -/
theorem zeroPad_injective (w : ℕ) : Function.Injective (zeroPad w) := fun n n' h => by
  rw [← ofDigitChars_zeroPad w n, h, ofDigitChars_zeroPad]

/-- There are only digits in it. -/
theorem isDigit_of_mem_zeroPad {w n : ℕ} {c : Char} (h : c ∈ (zeroPad w n).toList) :
    c.isDigit = true := by
  rw [toList_zeroPad] at h
  rcases List.mem_append.1 h with h | h
  · rw [List.eq_of_mem_replicate h]
    rfl
  · exact Nat.isDigit_of_mem_toDigits (by decide) (by decide) h

/-- A number that fits is padded to the width. -/
theorem length_zeroPad {w n : ℕ} (hw : 0 < w) (h : n < 10 ^ w) :
    (zeroPad w n).toList.length = w := by
  have hle : (toString n).length ≤ w := (Nat.length_repr_le_iff hw).2 h
  have hlen : (Nat.toDigits 10 n).length = (toString n).length := by
    rw [← Nat.toList_repr]
    rfl
  rw [toList_zeroPad, List.length_append, List.length_replicate, hlen]
  omega

/-- Texts that end in equally many characters are equal in both parts. -/
theorem append_inj_of_length {a b c d : String} (h : a ++ b = c ++ d)
    (hlen : b.toList.length = d.toList.length) : a = c ∧ b = d := by
  have h' := congrArg String.toList h
  rw [String.toList_append, String.toList_append] at h'
  obtain ⟨h₁, h₂⟩ := List.append_inj' h' hlen
  exact ⟨String.toList_injective h₁, String.toList_injective h₂⟩

/-- The digits of a whole number, with a sign when it is negative, say which number it
is. A sign is no digit, so a negative number is written like no other. -/
theorem toString_int_injective : Function.Injective (toString : ℤ → String) := by
  have hdigit (n : ℕ) : ∀ c ∈ n.repr.toList, c.isDigit = true := by
    intro c hc
    rw [Nat.toList_repr] at hc
    exact Nat.isDigit_of_mem_toDigits (by decide) (by decide) hc
  have hsign (n m : ℕ) : n.repr ≠ "-" ++ m.repr := by
    intro h
    have hmem : '-' ∈ n.repr.toList := by
      rw [h, String.toList_append]
      exact List.mem_append_left _ (by decide)
    exact absurd (hdigit n _ hmem) (by decide)
  intro a b h
  rw [Int.toString_eq_repr, Int.toString_eq_repr, Int.repr_eq_if, Int.repr_eq_if] at h
  split_ifs at h with ha hb hb
  · have := Nat.repr_inj.1 h
    omega
  · exact absurd h (hsign _ _)
  · exact absurd h.symm (hsign _ _)
  · have := Nat.repr_inj.1 ((String.append_right_inj _).1 h)
    omega

/-- `{:.3}` of `ma as f64 / 1000.0`: three decimals of a whole number of
thousandths. -/
def thousandths (ma : ℤ) : String :=
  (if ma < 0 then "-" else "") ++ toString (ma.natAbs / 1000) ++ "." ++
    zeroPad 3 (ma.natAbs % 1000)

example : thousandths 3050 = "3.050" ∧ zeroPad 2 7 = "07" := by decide +kernel

/-! ### Bytes -/

/-- The bytes of a text, in UTF-8. -/
def utf8 (s : String) : List UInt8 := s.toUTF8.data.toList

/-- The bytes of two texts, one after the other. -/
theorem utf8_append (s t : String) : utf8 (s ++ t) = utf8 s ++ utf8 t := by
  simp [utf8]

/-- The text that some bytes are, if they are UTF-8. -/
def ofUtf8 (bytes : List UInt8) : Option String := String.fromUTF8? ⟨bytes.toArray⟩

/-- Bytes are read as a text exactly if they are the bytes of this text: a text is its
bytes, with a proof that they are valid, and the reading checks just that. -/
theorem ofUtf8_eq_some_iff {bytes : List UInt8} {s : String} :
    ofUtf8 bytes = some s ↔ bytes = utf8 s := by
  have hbytes : bytes = utf8 s ↔ s.toByteArray = ⟨bytes.toArray⟩ := by
    rw [utf8, String.toUTF8_eq_toByteArray, ByteArray.ext_iff]
    constructor
    · rintro rfl
      simp
    · intro h
      rw [h]
  unfold ofUtf8 String.fromUTF8?
  rw [hbytes]
  split_ifs with h
  · rw [Option.some.injEq, ← String.toByteArray_inj]
    exact eq_comm
  · refine iff_of_false nofun fun heq => h ?_
    rw [← heq]
    exact s.isValidUTF8

/-- A text is read from its bytes. -/
theorem ofUtf8_utf8 (s : String) : ofUtf8 (utf8 s) = some s := ofUtf8_eq_some_iff.2 rfl

/-- Bytes behind a text are UTF-8 if they are by themselves. What follows the bytes of
whole characters is read as if it stood alone, so a text can be read piece by piece. -/
theorem ofUtf8_append (s : String) (bytes : List UInt8) :
    ofUtf8 (utf8 s ++ bytes) = (ofUtf8 bytes).map (s ++ ·) := by
  cases htail : ofUtf8 bytes with
  | some t =>
      rw [ofUtf8_eq_some_iff.1 htail, ← utf8_append, ofUtf8_utf8]
      rfl
  | none =>
      rw [Option.map_none, Option.eq_none_iff_forall_ne_some]
      intro u hu
      have hu := ofUtf8_eq_some_iff.1 hu
      have hprefix : s.toList <+: u.toList := by
        refine List.isPrefix_of_utf8Encode_append_eq_utf8Encode ⟨bytes.toArray⟩ ?_
        rw [String.utf8Encode_toList, String.utf8Encode_toList, ByteArray.ext_iff]
        apply Array.toList_inj.1
        simpa [utf8] using hu
      obtain ⟨rest, hrest⟩ := hprefix
      have hsplit : u = s ++ String.ofList rest := by
        rw [← String.toList_inj, String.toList_append, String.toList_ofList, hrest]
      rw [hsplit, utf8_append] at hu
      rw [List.append_cancel_left hu, ofUtf8_utf8] at htail
      cases htail

end Railwatch
