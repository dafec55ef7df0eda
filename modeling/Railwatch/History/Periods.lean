/-
# Period keys

`summary` groups the minutes by a text.  `samePeriod` says what it is meant to
group by: the same local hour under the same offset, the same local day, ISO
week, month or year.  `periodKey_eq_iff` says that the texts tell exactly these
periods apart, in any time zone.

The parts of a key can be read off it: the two-digit parts at its end have a
fixed length, and the date before the `T` of an hour holds no `T`.
-/

import Railwatch.History.Summary

namespace Railwatch

open Calendar

/-- Two instants fall in the same local period. An hour is one of the clock at one
offset, so that the hour which is repeated when the clock is set back is two periods; a
week is the one that the ISO calendar counts. -/
def samePeriod (period : Period) (zone : Zone) (a b : ℤ) : Prop :=
  match period with
  | .hour => localMs zone a / 3600000 = localMs zone b / 3600000 ∧ zone a = zone b
  | .day => localDay zone a = localDay zone b
  | .week => weekOf (localDay zone a) = weekOf (localDay zone b)
  | .month => (dateOf (localDay zone a)).year = (dateOf (localDay zone b)).year ∧
      (dateOf (localDay zone a)).month = (dateOf (localDay zone b)).month
  | .year => (dateOf (localDay zone a)).year = (dateOf (localDay zone b)).year

/-! ### Parts of a text -/

/-- Texts that start with equally many characters are equal in both parts. -/
theorem append_inj_of_length_left {a b c d : String} (h : a ++ b = c ++ d)
    (hlen : a.toList.length = c.toList.length) : a = c ∧ b = d := by
  have h' := congrArg String.toList h
  rw [String.toList_append, String.toList_append] at h'
  obtain ⟨h₁, h₂⟩ := List.append_inj h' hlen
  exact ⟨String.toList_injective h₁, String.toList_injective h₂⟩

/-- A separator and two digits at the end of a text. -/
theorem append_two_digits_inj {a b sep : String} {n m : ℕ} (hn : n < 100) (hm : m < 100)
    (h : a ++ (sep ++ zeroPad 2 n) = b ++ (sep ++ zeroPad 2 m)) : a = b ∧ n = m := by
  have hlen : (sep ++ zeroPad 2 n).toList.length = (sep ++ zeroPad 2 m).toList.length := by
    rw [String.toList_append, String.toList_append, List.length_append, List.length_append,
      length_zeroPad (by decide) hn, length_zeroPad (by decide) hm]
  obtain ⟨h₁, h₂⟩ := append_inj_of_length h hlen
  exact ⟨h₁, zeroPad_injective 2 ((String.append_right_inj _).1 h₂)⟩

/-- A sign is one character. -/
theorem toList_signText (z : ℤ) : (signText z).toList = [if z < 0 then '-' else '+'] := by
  unfold signText
  split_ifs <;> decide +kernel

/-- The sign of a number can be read off. -/
theorem signText_append_inj {x y : ℤ} {s t : String} (h : signText x ++ s = signText y ++ t) :
    (x < 0 ↔ y < 0) ∧ s = t := by
  obtain ⟨hsign, hrest⟩ :=
    append_inj_of_length_left h (by rw [toList_signText, toList_signText]; rfl)
  have hchar := congrArg String.toList hsign
  rw [toList_signText, toList_signText, List.cons.injEq] at hchar
  refine ⟨?_, hrest⟩
  by_cases hx : x < 0 <;> by_cases hy : y < 0 <;> simp [hx, hy] at hchar ⊢

/-- Digits alone are no signed number. -/
theorem zeroPad_ne_signText_append (w n : ℕ) (z : ℤ) (s : String) :
    zeroPad w n ≠ signText z ++ s := by
  intro h
  have hmem : (if z < 0 then '-' else '+') ∈ (zeroPad w n).toList := by
    rw [h, String.toList_append, toList_signText]
    exact List.mem_append_left _ (List.mem_singleton_self _)
  have hdigit := isDigit_of_mem_zeroPad hmem
  split_ifs at hdigit <;> cases hdigit

/-- Two years have different texts. -/
theorem yearText_injective : Function.Injective yearText := by
  intro x y h
  unfold yearText at h
  split_ifs at h with hx hy hy
  · have := zeroPad_injective 4 h
    omega
  · exact absurd h (zeroPad_ne_signText_append _ _ _ _)
  · exact absurd h.symm (zeroPad_ne_signText_append _ _ _ _)
  · obtain ⟨hsign, h⟩ := signText_append_inj h
    have := zeroPad_injective 4 h
    omega

/-- And two dates have, since their months and days have two digits. -/
theorem dateText_inj {d e : Date} (hd : d.month < 100 ∧ d.day < 100)
    (he : e.month < 100 ∧ e.day < 100) (h : dateText d = dateText e) : d = e := by
  obtain ⟨h, hday⟩ := append_two_digits_inj hd.2 he.2 h
  obtain ⟨h, hmonth⟩ := append_two_digits_inj hd.1 he.1 h
  have hyear := yearText_injective h
  cases d
  cases e
  simp_all

/-- Two offsets have different texts. -/
theorem offsetText_injective : Function.Injective offsetText := by
  intro x y h
  obtain ⟨hsign, h⟩ := signText_append_inj h
  obtain ⟨hhours, hminutes⟩ := append_two_digits_inj
    (by have := Nat.mod_lt x.natAbs (by decide : 0 < 60); omega)
    (by have := Nat.mod_lt y.natAbs (by decide : 0 < 60); omega) h
  have := zeroPad_injective 2 hhours
  omega

/-! ### No `T` but the separator -/

/-- A text of digits, signs and colons. -/
def Plain (s : String) : Prop :=
  s.toList.all (fun c => c.isDigit || c == '-' || c == '+' || c == ':') = true

/-- Plain texts stay plain when they are put together. -/
theorem Plain.append {a b : String} (ha : Plain a) (hb : Plain b) : Plain (a ++ b) := by
  unfold Plain at *
  rw [String.toList_append, List.all_append, ha, hb]
  rfl

/-- Digits are plain. -/
theorem plain_zeroPad (w n : ℕ) : Plain (zeroPad w n) := by
  refine List.all_eq_true.2 fun c hc => ?_
  rw [isDigit_of_mem_zeroPad hc]
  rfl

/-- So are signs. -/
theorem plain_signText (x : ℤ) : Plain (signText x) := by
  unfold Plain
  rw [toList_signText]
  split_ifs <;> decide

/-- And dates. -/
theorem plain_dateText (d : Date) : Plain (dateText d) := by
  have hdash : Plain "-" := by unfold Plain; decide +kernel
  have hpart (n : ℕ) : Plain ("-" ++ zeroPad 2 n) := hdash.append (plain_zeroPad 2 n)
  refine (Plain.append ?_ (hpart _)).append (hpart _)
  unfold yearText
  split_ifs
  · exact plain_zeroPad _ _
  · exact (plain_signText _).append (plain_zeroPad _ _)

/-- And hours with their offsets. -/
theorem plain_hour (hour : ℕ) (offset : ℤ) :
    Plain (zeroPad 2 hour ++ (":00" ++ offsetText offset)) := by
  have hcolon : Plain ":" := by unfold Plain; decide +kernel
  have hminutes : Plain ":00" := by unfold Plain; decide +kernel
  have hoffset : Plain (offsetText offset) := (plain_signText offset).append
    ((plain_zeroPad _ _).append (hcolon.append (plain_zeroPad _ _)))
  exact (plain_zeroPad _ _).append (hminutes.append hoffset)

/-- The key of an hour can be split at its `T`. -/
theorem hourKey_inj {d e : Date} {s t : String} (hs : Plain s)
    (h : dateText d ++ ("T" ++ s) = dateText e ++ ("T" ++ t)) :
    dateText d = dateText e ∧ s = t := by
  have hT : "T".toList = ['T'] := by decide +kernel
  have h' := congrArg String.toList h
  simp only [String.toList_append, hT, List.singleton_append] at h'
  have hno {s : String} (hs : Plain s) : 'T' ∉ s.toList := fun hmem =>
    absurd (List.all_eq_true.1 hs 'T' hmem) (by decide)
  obtain ⟨h₁, -, h₂⟩ :=
    (List.append_cons_inj_of_notMem (hno (plain_dateText d)) (hno hs)).1 h'
  exact ⟨String.toList_injective h₁, String.toList_injective h₂⟩

/-- The hour of a time has two digits. -/
theorem hourOfDay_lt (ms : ℤ) : hourOfDay ms < 100 := by
  unfold hourOfDay
  omega

/-- **The keys tell the periods apart.** Each part of a key can be read off it again,
because the parts are separated or of a fixed width. -/
theorem periodKey_eq_iff (period : Period) (zone : Zone) (a b : ℤ) :
    periodKey period zone a = periodKey period zone b ↔ samePeriod period zone a b := by
  have hlt := dateOf_lt (localDay zone a)
  have hlt' := dateOf_lt (localDay zone b)
  cases period with
  | hour =>
      simp only [periodKey, samePeriod]
      have hparts : localMs zone a / 3600000 = localMs zone b / 3600000 ↔
          localDay zone a = localDay zone b ∧
            hourOfDay (localMs zone a) = hourOfDay (localMs zone b) := by
        unfold localDay hourOfDay
        omega
      rw [hparts]
      constructor
      · intro h
        obtain ⟨hdate, h⟩ := hourKey_inj (plain_hour _ _) h
        obtain ⟨hhour, h⟩ := append_inj_of_length_left h (by
          rw [length_zeroPad (by decide) (hourOfDay_lt _),
            length_zeroPad (by decide) (hourOfDay_lt _)])
        exact ⟨⟨dateOf_injective (dateText_inj hlt hlt' hdate), zeroPad_injective 2 hhour⟩,
          offsetText_injective ((String.append_right_inj _).1 h)⟩
      · rintro ⟨⟨hday, hhour⟩, hoffset⟩
        rw [hday, hhour, hoffset]
  | day =>
      simp only [periodKey, samePeriod]
      exact ⟨fun h => dateOf_injective (dateText_inj hlt hlt' h), fun h => by rw [h]⟩
  | week =>
      simp only [periodKey, samePeriod]
      rw [← isoWeek_eq_iff]
      constructor
      · intro h
        obtain ⟨hyear, hweek⟩ := append_two_digits_inj (isoWeek_lt _) (isoWeek_lt _) h
        exact Prod.ext (toString_int_injective hyear) hweek
      · intro h
        rw [h]
  | month =>
      simp only [periodKey, samePeriod]
      constructor
      · intro h
        obtain ⟨hyear, hmonth⟩ := append_two_digits_inj hlt.1 hlt'.1 h
        exact ⟨toString_int_injective hyear, hmonth⟩
      · rintro ⟨hyear, hmonth⟩
        rw [hyear, hmonth]
  | year =>
      simp only [periodKey, samePeriod]
      exact toString_int_injective.eq_iff

end Railwatch
