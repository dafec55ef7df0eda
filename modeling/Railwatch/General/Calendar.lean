/-
# The civil calendar

The proleptic Gregorian calendar and the ISO 8601 weeks, over days counted from
1 January 1970.

`yearOf` finds the year of a day from an estimate that is off by at most one
(`daysBeforeYear_yearOf`), `walkMonths` its month.  A date determines its day
(`dateOf_injective`), and the ISO year and week number determine the week
(`isoWeek_eq_iff`): a week belongs to the year of its Thursday.  Within a year days
and weeks are in the order of their dates and numbers (`dateOf_lt_iff`,
`isoWeek_lt_iff`).
-/

import Mathlib

namespace Calendar

/-- The day 1 January of a year. -/
def daysBeforeYear (y : ℤ) : ℤ :=
  365 * (y - 1) + (y - 1) / 4 - (y - 1) / 100 + (y - 1) / 400 - 719162

/-- A later year begins on a later day. -/
theorem daysBeforeYear_mono : Monotone daysBeforeYear := by
  intro y y' h
  unfold daysBeforeYear
  omega

/-- A year with a 29 February. -/
def leap (y : ℤ) : Bool := y % 4 == 0 && (y % 100 != 0 || y % 400 == 0)

/-- The year of a day. -/
def yearOf (d : ℤ) : ℤ :=
  let y := (d + 719162) * 400 / 146097 + 1
  if d < daysBeforeYear y then y - 1 else if daysBeforeYear (y + 1) ≤ d then y + 1 else y

/-- **A day lies in its year.** The year is guessed from the average length of a year,
and corrected by one where the guess is wrong. -/
theorem daysBeforeYear_yearOf (d : ℤ) :
    daysBeforeYear (yearOf d) ≤ d ∧ d < daysBeforeYear (yearOf d + 1) := by
  unfold yearOf
  dsimp only
  generalize hq : (d + 719162) * 400 / 146097 = q
  split_ifs with h₁ h₂ <;> unfold daysBeforeYear at * <;> omega

/-- A later day is not in an earlier year. -/
theorem yearOf_mono : Monotone yearOf := by
  intro d d' h
  by_contra hlt
  have hnext := daysBeforeYear_mono (show yearOf d' + 1 ≤ yearOf d by omega)
  have h₁ := (daysBeforeYear_yearOf d).1
  have h₂ := (daysBeforeYear_yearOf d').2
  omega

/-- The next year begins 365 or 366 days later. -/
theorem daysBeforeYear_succ (y : ℤ) :
    daysBeforeYear (y + 1) = daysBeforeYear y + if leap y then 366 else 365 := by
  unfold daysBeforeYear leap
  split_ifs with h <;> simp only [Bool.and_eq_true, Bool.or_eq_true, beq_iff_eq, bne_iff_ne,
    not_and_or, ne_eq, not_or, not_not] at h <;> omega

/-- The lengths of the months. -/
def monthLengths (isLeap : Bool) : List ℕ :=
  [31, if isLeap then 29 else 28, 31, 30, 31, 30, 31, 31, 30, 31, 30, 31]

/-- How many months of these lengths have passed after some days, and the days
left over. -/
def walkMonths : List ℕ → ℕ → ℕ × ℕ
  | [], days => (0, days)
  | m :: ms, days =>
      if days < m then (0, days)
      else ((walkMonths ms (days - m)).1 + 1, (walkMonths ms (days - m)).2)

/-- No month is longer than 31 days. -/
theorem le_of_mem_monthLengths {isLeap : Bool} {m : ℕ} (h : m ∈ monthLengths isLeap) : m ≤ 31 := by
  have hall : ∀ isLeap, ∀ m ∈ monthLengths isLeap, m ≤ 31 := by decide
  exact hall isLeap m h

/-- The months that were walked through and the days that are left make all of the days. -/
theorem walkMonths_sum (ms : List ℕ) (days : ℕ) :
    (ms.take (walkMonths ms days).1).sum + (walkMonths ms days).2 = days := by
  induction ms generalizing days with
  | nil => simp [walkMonths]
  | cons m ms ih =>
      unfold walkMonths
      split_ifs with h
      · simp
      · have := ih (days - m)
        rw [List.take_succ_cons, List.sum_cons]
        omega

/-- The walk stops in a month that has the day. -/
theorem walkMonths_lt {ms : List ℕ} {days : ℕ} (h : days < ms.sum) :
    ∃ m, ms[(walkMonths ms days).1]? = some m ∧ (walkMonths ms days).2 < m := by
  induction ms generalizing days with
  | nil => simp at h
  | cons m ms ih =>
      unfold walkMonths
      rw [List.sum_cons] at h
      split_ifs with hlt
      · exact ⟨m, rfl, hlt⟩
      · exact ih (by omega)

/-- More days reach a later month, or a later day of the same month. -/
theorem walkMonths_strictMono (ms : List ℕ) {n n' : ℕ} (h : n < n') :
    (walkMonths ms n).1 < (walkMonths ms n').1 ∨
      (walkMonths ms n).1 = (walkMonths ms n').1 ∧ (walkMonths ms n).2 < (walkMonths ms n').2 := by
  induction ms generalizing n n' with
  | nil => exact .inr ⟨rfl, h⟩
  | cons m ms ih =>
      unfold walkMonths
      split_ifs with h₁ h₂
      · exact .inr ⟨rfl, h⟩
      · exact .inl (Nat.succ_pos _)
      · omega
      · have hrest := ih (show n - m < n' - m by omega)
        simp only [Nat.add_lt_add_iff_right, Nat.add_right_cancel_iff]
        exact hrest

/-- A date of the Gregorian calendar, which is extended to all years. -/
@[ext]
structure Date where
  year : ℤ
  month : ℕ
  day : ℕ
  deriving DecidableEq, Repr

/-- The date of a day. -/
def dateOf (d : ℤ) : Date :=
  let y := yearOf d
  let walked := walkMonths (monthLengths (leap y)) (d - daysBeforeYear y).toNat
  ⟨y, walked.1 + 1, walked.2 + 1⟩

/-- Months and days have at most two digits. -/
theorem dateOf_lt (d : ℤ) : (dateOf d).month < 100 ∧ (dateOf d).day < 100 := by
  obtain ⟨h₁, h₂⟩ := daysBeforeYear_yearOf d
  have hsum : (monthLengths (leap (yearOf d))).sum = if leap (yearOf d) then 366 else 365 := by
    cases leap (yearOf d) <;> rfl
  have hdays : (d - daysBeforeYear (yearOf d)).toNat < (monthLengths (leap (yearOf d))).sum := by
    rw [daysBeforeYear_succ] at h₂
    rw [hsum]
    split_ifs at h₂ ⊢ <;> omega
  obtain ⟨m, hm, hlt⟩ := walkMonths_lt hdays
  obtain ⟨hi, -⟩ := List.getElem?_eq_some_iff.1 hm
  have hm31 := le_of_mem_monthLengths (List.mem_of_getElem? hm)
  have hlen : (monthLengths (leap (yearOf d))).length = 12 := rfl
  simp only [dateOf]
  omega

/-- **A date determines its day.** The day is the number of days before the year, before
the month, and in the month. -/
theorem dateOf_injective : Function.Injective dateOf := by
  intro d d' h
  obtain ⟨hyear, hmonth, hday⟩ := Date.mk.inj h
  have h₁ := (daysBeforeYear_yearOf d).1
  have h₂ := (daysBeforeYear_yearOf d').1
  have hs := walkMonths_sum (monthLengths (leap (yearOf d))) (d - daysBeforeYear (yearOf d)).toNat
  have hs' := walkMonths_sum (monthLengths (leap (yearOf d')))
    (d' - daysBeforeYear (yearOf d')).toNat
  rw [Nat.add_right_cancel hmonth, Nat.add_right_cancel hday] at hs
  rw [hyear] at hs h₁
  omega

/-- **The days of a year are in the order of their dates.** Months are compared before
days, as they are in the text of a date. -/
theorem dateOf_lt_iff {d d' : ℤ} (h : (dateOf d).year = (dateOf d').year) :
    (dateOf d).month < (dateOf d').month ∨
      (dateOf d).month = (dateOf d').month ∧ (dateOf d).day < (dateOf d').day ↔ d < d' := by
  have hyear : yearOf d = yearOf d' := h
  have h₁ := (daysBeforeYear_yearOf d).1
  have h₂ := (daysBeforeYear_yearOf d').1
  simp only [dateOf, hyear, Nat.add_lt_add_iff_right, Nat.add_right_cancel_iff]
  rw [hyear] at h₁
  constructor
  · intro hlt
    by_contra hle
    rcases (not_lt.1 hle).eq_or_lt with rfl | hlt'
    · omega
    · have hmono := walkMonths_strictMono (monthLengths (leap (yearOf d')))
        (show (d' - daysBeforeYear (yearOf d')).toNat < (d - daysBeforeYear (yearOf d')).toNat by
          omega)
      omega
  · intro hlt
    exact walkMonths_strictMono _ (by omega)

/-- The number of the week of a day; weeks start on Mondays. -/
def weekOf (d : ℤ) : ℤ := (d + 3) / 7

/-- The year and the number of the ISO week of a day. -/
def isoWeek (d : ℤ) : ℤ × ℕ :=
  let thursday := weekOf d * 7
  let y := yearOf thursday
  (y, ((thursday - daysBeforeYear y) / 7 + 1).toNat)

/-- The number of a week has two digits at most. -/
theorem isoWeek_lt (d : ℤ) : (isoWeek d).2 < 100 := by
  obtain ⟨h₁, h₂⟩ := daysBeforeYear_yearOf (weekOf d * 7)
  rw [daysBeforeYear_succ] at h₂
  simp only [isoWeek]
  split_ifs at h₂ <;> omega

/-- **The ISO year and week number determine the week.** The ISO year of a week is that
of its Thursday, and the weeks of a year are counted without a gap. -/
theorem isoWeek_eq_iff {d d' : ℤ} : isoWeek d = isoWeek d' ↔ weekOf d = weekOf d' := by
  constructor
  · intro h
    obtain ⟨hyear, hweek⟩ := Prod.mk.inj h
    have h₁ := (daysBeforeYear_yearOf (weekOf d * 7)).1
    have h₂ := (daysBeforeYear_yearOf (weekOf d' * 7)).1
    rw [hyear] at h₁ hweek
    omega
  · intro h
    simp only [isoWeek, h]

/-- The weeks of an ISO year are in the order of their numbers. -/
theorem isoWeek_lt_iff {d d' : ℤ} (h : (isoWeek d).1 = (isoWeek d').1) :
    (isoWeek d).2 < (isoWeek d').2 ↔ weekOf d < weekOf d' := by
  have hyear : yearOf (weekOf d * 7) = yearOf (weekOf d' * 7) := h
  have h₁ := (daysBeforeYear_yearOf (weekOf d * 7)).1
  have h₂ := (daysBeforeYear_yearOf (weekOf d' * 7)).1
  simp only [isoWeek, hyear]
  rw [hyear] at h₁
  omega

example : dateOf 0 = ⟨1970, 1, 1⟩ ∧ dateOf 19782 = ⟨2024, 2, 29⟩ ∧ isoWeek 18628 = (2020, 53) := by
  decide

end Calendar
