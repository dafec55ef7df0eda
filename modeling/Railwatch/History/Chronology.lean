/-
# The order of the rows

`summary` lists its rows by their keys, which are texts.  `periodKey_lt_iff` reads
the order of two keys off the local clock: the year as it is written, then the
numbers behind it, and for an hour that is shown twice the sign and the size of
its offset.

What makes the texts go another way than time is `Misread`: years that are not of
equally many digits, a clock that is set back into an earlier period, and a repeated
hour whose offset falls to one of at least zero.  `rows_are_chronological_iff` says
that these are the only causes; in years of four digits, and while the clock is not set
back, there is none (`not_misread`).  In `Europe/Berlin` the repeated hour is misread
(`repeated_hour_is_listed_backwards`): its first offset, `+02:00`, is the greater one.
-/

import Railwatch.General.Lexicographic
import Railwatch.History.PriceText

namespace Railwatch

open Calendar Sql

/-! ### Comparing texts -/

/-- A first part of fixed length decides. -/
theorem append_lt_append_of_length {a b c d : String} (h : a.toList.length = c.toList.length) :
    a ++ b < c ++ d ↔ a < c ∨ a = c ∧ b < d := by
  simp only [String.lt_iff_toList_lt, String.toList_append, ← String.toList_inj]
  exact Lexicographic.append_lt_append_iff h

/-- A common first part does not. -/
theorem append_lt_append_left (a b d : String) : a ++ b < a ++ d ↔ b < d := by
  rw [append_lt_append_of_length rfl]
  simp

/-- A text of digits, of which the first may be a sign. Both signs are below all digits,
and so is what separates the parts of a key. -/
structure Numeral (s : String) : Prop where
  /-- There is a first character. -/
  ne : s.toList ≠ []
  /-- Behind it there are digits only. -/
  digits : ∀ c ∈ s.toList.tail, c.isDigit = true

/-- A year before a dash decides. -/
theorem Numeral.lt_iff {a b c d : String} (ha : Numeral a) (hc : Numeral c) :
    a ++ ("-" ++ b) < c ++ ("-" ++ d) ↔ a < c ∨ a = c ∧ b < d := by
  have habove {x : Char} (hx : x.isDigit = true) : '-' < x := by
    have := (Char.isDigit_iff_toNat.1 hx).1
    exact lt_of_lt_of_le (by decide : 45 < 48) this
  have hdash : "-".toList = ['-'] := by decide +kernel
  simp only [String.lt_iff_toList_lt, String.toList_append, ← String.toList_inj, hdash,
    List.singleton_append]
  exact Lexicographic.separated_lt_iff ha.ne hc.ne (fun x hx => habove (ha.digits x hx))
    fun x hx => habove (hc.digits x hx)

/-- Digits of equal number are in the order of their values: the first digit in which
they differ decides both, as the digits behind it are worth less than one of its steps. -/
theorem placeValue_lt_of_lt {a c : List Char} (ha : ∀ x ∈ a, x.isDigit = true)
    (hc : ∀ x ∈ c, x.isDigit = true) (hlen : a.length = c.length) (h : a < c) :
    placeValue a < placeValue c := by
  induction a generalizing c with
  | nil =>
      obtain rfl := List.eq_nil_of_length_eq_zero hlen.symm
      exact absurd h (lt_irrefl _)
  | cons x a ih =>
      cases c with
      | nil => cases hlen
      | cons y c =>
          have hlen' := Nat.succ.inj hlen
          have hda : ∀ z ∈ a, z.isDigit = true := fun z hz => ha z (List.mem_cons_of_mem x hz)
          have hdc : ∀ z ∈ c, z.isDigit = true := fun z hz => hc z (List.mem_cons_of_mem y hz)
          rw [placeValue_cons, placeValue_cons, hlen']
          rcases List.cons_lt_cons_iff.1 h with hxy | ⟨rfl, hrest⟩
          · have hx := Char.isDigit_iff_toNat.1 (ha x List.mem_cons_self)
            have hlt : x.toNat < y.toNat := hxy
            have hbound := placeValue_lt hda
            rw [hlen'] at hbound
            have hstep : (x.toNat - '0'.toNat + 1) * 10 ^ c.length ≤
                (y.toNat - '0'.toNat) * 10 ^ c.length := by
              refine Nat.mul_le_mul_right _ ?_
              have := hx.1
              omega
            rw [Nat.add_mul, Nat.one_mul] at hstep
            omega
          · exact Nat.add_lt_add_left (ih hda hdc hlen' hrest) _

/-- **Padded numbers are in the order of their texts.** Their texts are of the same
length, and at the same length the first digit that differs decides. -/
theorem zeroPad_lt_iff {w n m : ℕ} (hw : 0 < w) (hn : n < 10 ^ w) (hm : m < 10 ^ w) :
    zeroPad w n < zeroPad w m ↔ n < m := by
  have hlt {n m : ℕ} (hn : n < 10 ^ w) (hm : m < 10 ^ w) (h : zeroPad w n < zeroPad w m) :
      n < m := by
    have hvalue := placeValue_lt_of_lt (fun _ => isDigit_of_mem_zeroPad)
      (fun _ => isDigit_of_mem_zeroPad)
      (by rw [length_zeroPad hw hn, length_zeroPad hw hm]) (String.lt_iff_toList_lt.1 h)
    rwa [← ofDigitChars_eq_placeValue, ← ofDigitChars_eq_placeValue, ofDigitChars_zeroPad,
      ofDigitChars_zeroPad] at hvalue
  refine ⟨hlt hn hm, fun h => ?_⟩
  rcases lt_trichotomy (zeroPad w n) (zeroPad w m) with htext | htext | htext
  · exact htext
  · exact absurd (zeroPad_injective w htext) h.ne
  · exact absurd (hlt hm hn htext) h.asymm

/-- A part of two digits decides. -/
theorem two_digits_lt_iff {n m : ℕ} (hn : n < 100) (hm : m < 100) (b d : String) :
    zeroPad 2 n ++ b < zeroPad 2 m ++ d ↔ n < m ∨ n = m ∧ b < d := by
  rw [append_lt_append_of_length
    (by rw [length_zeroPad (by decide) hn, length_zeroPad (by decide) hm]),
    zeroPad_lt_iff (by decide) hn hm, (zeroPad_injective 2).eq_iff]

/-! ### The parts of a key -/

/-- The year of a key, as it is written: with four digits in dates, else as it
is. -/
def yearPart (period : Period) (zone : Zone) (at_ : ℤ) : String :=
  match period with
  | .hour | .day => yearText (dateOf (localDay zone at_)).year
  | .week => toString (isoWeek (localDay zone at_)).1
  | .month | .year => toString (dateOf (localDay zone at_)).year

/-- The numbers behind the year; an hour ends with the sign and the size of its
offset. -/
def clockParts (period : Period) (zone : Zone) (at_ : ℤ) : List ℕ :=
  let date := dateOf (localDay zone at_)
  match period with
  | .hour => [date.month, date.day, hourOfDay (localMs zone at_), if zone at_ < 0 then 1 else 0,
      (zone at_).natAbs]
  | .day => [date.month, date.day]
  | .week => [(isoWeek (localDay zone at_)).2]
  | .month => [date.month]
  | .year => []

/-- The local clock shows one period before another one. -/
def ShownBefore (period : Period) (zone : Zone) (a b : ℤ) : Prop :=
  yearPart period zone a < yearPart period zone b ∨
    yearPart period zone a = yearPart period zone b ∧
      clockParts period zone a < clockParts period zone b

/-- Digits, and a sign in front of them, are a numeral. -/
theorem numeral_of_digits {s : String} (hne : s.toList ≠ [])
    (hs : ∀ c ∈ s.toList, c.isDigit = true) :
    Numeral s ∧ ∀ sign : String, sign.toList.length = 1 → Numeral (sign ++ s) := by
  refine ⟨⟨hne, fun c hc => hs c (List.mem_of_mem_tail hc)⟩, fun sign hsign => ?_⟩
  obtain ⟨x, hx⟩ := List.length_eq_one_iff.1 hsign
  constructor <;> rw [String.toList_append, hx]
  · exact List.cons_ne_nil x _
  · exact hs

/-- The year of a date is a numeral: four digits, or more with a sign. -/
theorem numeral_yearText (y : ℤ) : Numeral (yearText y) := by
  obtain ⟨hplain, hsigned⟩ := numeral_of_digits (s := zeroPad 4 y.natAbs)
    (by rw [toList_zeroPad]; exact List.append_ne_nil_of_right_ne_nil _ Nat.toDigits_ne_nil)
    fun c => isDigit_of_mem_zeroPad
  unfold yearText
  split_ifs
  · exact hplain
  · exact hsigned _ (by rw [toList_signText]; rfl)

/-- The year of a week, month or year is one too, with as many digits as it has. -/
theorem numeral_toString (y : ℤ) : Numeral (toString y) := by
  obtain ⟨hplain, hsigned⟩ := numeral_of_digits (s := y.natAbs.repr)
    (by rw [Nat.toList_repr]; exact Nat.toDigits_ne_nil) fun c hc => by
      rw [Nat.toList_repr] at hc
      exact Nat.isDigit_of_mem_toDigits (by decide) (by decide) hc
  have hdash : "-".toList.length = 1 := by decide +kernel
  cases y with
  | ofNat n => exact hplain
  | negSucc n => exact hsigned "-" hdash

/-- The sign of an offset, and its size, in the order of the texts. A plus stands before
a minus, so the offsets east of Greenwich come first; among those west of it the order
of the texts is that of the sizes, which is not the order of the numbers. -/
theorem offsetText_lt_iff {x y : ℤ} (hx : -1440 < x ∧ x < 1440) (hy : -1440 < y ∧ y < 1440) :
    offsetText x < offsetText y ↔
      (if x < 0 then 1 else 0) < (if y < 0 then 1 else 0) ∨
        (if x < 0 then 1 else 0) = (if y < 0 then 1 else 0) ∧ x.natAbs < y.natAbs := by
  have hsign : signText x < signText y ↔ (if x < 0 then 1 else 0) < (if y < 0 then 1 else 0) := by
    rw [String.lt_iff_toList_lt, toList_signText, toList_signText]
    by_cases hx : x < 0 <;> by_cases hy : y < 0 <;> simp only [hx, hy, if_true, if_false] <;>
      decide
  have hsame : signText x = signText y ↔ (if x < 0 then 1 else 0) = (if y < 0 then 1 else 0) := by
    rw [← String.toList_inj, toList_signText, toList_signText]
    by_cases hx : x < 0 <;> by_cases hy : y < 0 <;> simp [hx, hy]
  have hx60 : x.natAbs % 60 < 100 := by omega
  have hy60 : y.natAbs % 60 < 100 := by omega
  rw [offsetText, offsetText, append_lt_append_of_length
    (by rw [toList_signText, toList_signText]; rfl), hsign, hsame,
    two_digits_lt_iff (by omega) (by omega), append_lt_append_left,
    zeroPad_lt_iff (by decide) hx60 hy60]
  refine or_congr Iff.rfl (and_congr Iff.rfl ?_)
  omega

/-- **Two keys are in the order in which the clock shows their periods.** The parts of a
key are compared from left to right: the year as a text, then numbers of fixed width,
and in an hour the sign and the size of the offset. -/
theorem periodKey_lt_iff (period : Period) {zone : Zone}
    (hoffset : ∀ at_, -1440 < zone at_ ∧ zone at_ < 1440) (a b : ℤ) :
    periodKey period zone a < periodKey period zone b ↔ ShownBefore period zone a b := by
  obtain ⟨hmonth, hday⟩ := dateOf_lt (localDay zone a)
  obtain ⟨hmonth', hday'⟩ := dateOf_lt (localDay zone b)
  cases period with
  | hour =>
      simp only [periodKey, dateText, ShownBefore, yearPart, clockParts, String.append_assoc,
        (numeral_yearText _).lt_iff (numeral_yearText _), two_digits_lt_iff hmonth hmonth',
        append_lt_append_left, two_digits_lt_iff hday hday',
        two_digits_lt_iff (hourOfDay_lt _) (hourOfDay_lt _),
        offsetText_lt_iff (hoffset a) (hoffset b), List.cons_lt_cons_iff, lt_irrefl, and_false,
        or_false]
  | day =>
      simp only [periodKey, dateText, ShownBefore, yearPart, clockParts, String.append_assoc,
        (numeral_yearText _).lt_iff (numeral_yearText _), two_digits_lt_iff hmonth hmonth',
        append_lt_append_left, zeroPad_lt_iff (by decide : 0 < 2) hday hday',
        List.cons_lt_cons_iff, lt_irrefl, and_false, or_false]
  | week =>
      have hsep : "-W" = "-" ++ "W" := by decide +kernel
      simp only [periodKey, ShownBefore, yearPart, clockParts, hsep, String.append_assoc,
        (numeral_toString _).lt_iff (numeral_toString _), append_lt_append_left,
        zeroPad_lt_iff (by decide : 0 < 2) (isoWeek_lt _) (isoWeek_lt _),
        List.cons_lt_cons_iff, lt_irrefl, and_false, or_false]
  | month =>
      simp only [periodKey, ShownBefore, yearPart, clockParts,
        (numeral_toString _).lt_iff (numeral_toString _),
        zeroPad_lt_iff (by decide : 0 < 2) hmonth hmonth', List.cons_lt_cons_iff, lt_irrefl,
        and_false, or_false]
  | year =>
      simp only [periodKey, ShownBefore, yearPart, clockParts, lt_irrefl, and_false, or_false]

/-! ### Periods that are misread -/

/-- The year that the key of a period starts with. -/
def keyYear (period : Period) (zone : Zone) (at_ : ℤ) : ℤ :=
  match period with
  | .week => (isoWeek (localDay zone at_)).1
  | .hour | .day | .month | .year => (dateOf (localDay zone at_)).year

/-- The number of a local period, which grows with the local time; a month is counted
within its year. -/
def periodNumber (period : Period) (zone : Zone) (at_ : ℤ) : ℤ :=
  match period with
  | .hour => localMs zone at_ / 3600000
  | .day => localDay zone at_
  | .week => weekOf (localDay zone at_)
  | .month => (dateOf (localDay zone at_)).month
  | .year => (dateOf (localDay zone at_)).year

/-- From `a` to `b` the clock is set back into a period before that of `a`. -/
def SetBackInto (period : Period) (zone : Zone) (a b : ℤ) : Prop :=
  periodNumber period zone b < periodNumber period zone a

/-- An offset that falls to one of at least zero, or rises from a negative one: the
texts of the two are in the other order. -/
def OffsetsMisread (x y : ℤ) : Prop := 0 ≤ y ∧ y < x ∨ x < 0 ∧ x < y

/-- The period of `b` is read as one before that of `a`: the text of its year is
smaller; or the years are the same, and the clock is set back into an earlier period,
or shows an hour again under an offset whose text is smaller. -/
def Misread (period : Period) (zone : Zone) (a b : ℤ) : Prop :=
  if keyYear period zone a = keyYear period zone b then
    SetBackInto period zone a b ∨
      period = .hour ∧ periodNumber period zone a = periodNumber period zone b ∧
        OffsetsMisread (zone a) (zone b)
  else yearPart period zone b < yearPart period zone a

/-- The texts of two years are the same only if the years are. -/
theorem yearPart_eq_iff (period : Period) (zone : Zone) (a b : ℤ) :
    yearPart period zone a = yearPart period zone b ↔
      keyYear period zone a = keyYear period zone b := by
  cases period
  case hour | day => exact yearText_injective.eq_iff
  case week | month | year =>
    exact ⟨fun h => toString_int_injective h, fun h => congrArg toString h⟩

/-- The sign and the size of an offset decide as their texts do. -/
theorem offsets_lt_iff (x y : ℤ) :
    ((if x < 0 then 1 else 0) < (if y < 0 then 1 else 0) ∨
      (if x < 0 then 1 else 0) = (if y < 0 then 1 else 0) ∧ x.natAbs < y.natAbs) ↔
        x ≠ y ∧ ¬OffsetsMisread x y := by
  unfold OffsetsMisread
  by_cases hx : x < 0 <;> by_cases hy : y < 0
  · rw [if_pos hx, if_pos hy]
    omega
  · rw [if_pos hx, if_neg hy]
    omega
  · rw [if_neg hx, if_pos hy]
    omega
  · rw [if_neg hx, if_neg hy]
    omega

/-- Within a year the numbers behind it are in the order of the local periods, and of
the offsets in an hour that is shown twice. -/
theorem clockParts_lt_iff (period : Period) (zone : Zone) {a b : ℤ}
    (hyear : keyYear period zone a = keyYear period zone b) :
    clockParts period zone a < clockParts period zone b ↔
      periodNumber period zone a < periodNumber period zone b ∨
        period = .hour ∧ periodNumber period zone a = periodNumber period zone b ∧
          zone a ≠ zone b ∧ ¬OffsetsMisread (zone a) (zone b) := by
  cases period with
  | hour =>
      have hyear : (dateOf (localDay zone a)).year = (dateOf (localDay zone b)).year := hyear
      have hdate := dateOf_lt_iff hyear
      have hsame : (dateOf (localDay zone a)).month = (dateOf (localDay zone b)).month ∧
          (dateOf (localDay zone a)).day = (dateOf (localDay zone b)).day ↔
            localDay zone a = localDay zone b :=
        ⟨fun h => dateOf_injective (Date.ext_iff.2 ⟨hyear, h.1, h.2⟩), fun h => by simp [h]⟩
      simp only [clockParts, periodNumber, List.cons_lt_cons_iff, lt_irrefl, and_false, or_false,
        true_and]
      -- the hours of a day are in order, and a day's hours before the next day's
      have hhours : localMs zone a / 3600000 < localMs zone b / 3600000 ↔
          localDay zone a < localDay zone b ∨ localDay zone a = localDay zone b ∧
            hourOfDay (localMs zone a) < hourOfDay (localMs zone b) := by
        unfold localDay hourOfDay
        omega
      have hhour : localMs zone a / 3600000 = localMs zone b / 3600000 ↔
          localDay zone a = localDay zone b ∧
            hourOfDay (localMs zone a) = hourOfDay (localMs zone b) := by
        unfold localDay hourOfDay
        omega
      have hoffsets := offsets_lt_iff (zone a) (zone b)
      rw [hhours, hhour, ← hdate, ← hsame, ← hoffsets]
      simp only [and_or_left, or_assoc, and_assoc]
  | day =>
      have hdate := dateOf_lt_iff hyear
      simp only [clockParts, periodNumber, List.cons_lt_cons_iff, lt_irrefl, and_false, or_false,
        hdate, reduceCtorEq, false_and]
  | week =>
      have hweek := isoWeek_lt_iff hyear
      simp only [clockParts, periodNumber, List.cons_lt_cons_iff, lt_irrefl, and_false, or_false,
        hweek, reduceCtorEq, false_and]
  | month =>
      simp only [clockParts, periodNumber, List.cons_lt_cons_iff, lt_irrefl, and_false, or_false,
        reduceCtorEq, false_and, Nat.cast_lt]
  | year =>
      have hsame : (dateOf (localDay zone a)).year = (dateOf (localDay zone b)).year := hyear
      simp only [clockParts, periodNumber, lt_irrefl, reduceCtorEq, false_and, or_false, hsame]

/-- **A period is shown before another one unless it is misread.** The two are the cases
of one comparison, for periods that are not the same. -/
theorem shownBefore_iff {period : Period} {zone : Zone} {a b : ℤ}
    (hne : ¬samePeriod period zone a b) :
    ShownBefore period zone a b ↔ ¬Misread period zone a b := by
  unfold ShownBefore Misread
  rw [yearPart_eq_iff]
  split_ifs with hyear
  · have hpart := (yearPart_eq_iff period zone a b).2 hyear
    rw [hpart, clockParts_lt_iff period zone hyear]
    have hoffset : period = .hour → periodNumber period zone a = periodNumber period zone b →
        zone a ≠ zone b := by
      rintro rfl hhour hzone
      exact hne ⟨hhour, hzone⟩
    have hother : period ≠ .hour → periodNumber period zone a ≠ periodNumber period zone b := by
      intro hperiod hnumber
      refine hne ?_
      cases period with
      | hour => exact absurd rfl hperiod
      | day | week | year => exact hnumber
      | month => exact ⟨hyear, Int.ofNat_inj.1 hnumber⟩
    simp only [lt_irrefl, false_or, hyear, true_and, SetBackInto]
    rcases lt_trichotomy (periodNumber period zone a) (periodNumber period zone b) with h | h | h
    · simp [h, h.ne, h.asymm]
    · rcases eq_or_ne period .hour with rfl | hperiod
      · simp [h, hoffset rfl h]
      · exact absurd h (hother hperiod)
    · simp [h, h.ne', h.asymm]
  · have hpart := mt (yearPart_eq_iff period zone a b).1 hyear
    rw [not_lt, le_iff_lt_or_eq]
    simp only [hyear, false_and, or_false, hpart]

/-- Years with four digits are in the order of their texts. Dates are written with a
sign or zeros in front of other years, and weeks, months and years without, so for all
of them the class is needed. -/
theorem yearPart_lt_iff {period : Period} {zone : Zone} {a b : ℤ}
    (ha : 1000 ≤ keyYear period zone a ∧ keyYear period zone a ≤ 9999)
    (hb : 1000 ≤ keyYear period zone b ∧ keyYear period zone b ≤ 9999) :
    yearPart period zone a < yearPart period zone b ↔
      keyYear period zone a < keyYear period zone b := by
  have htext {y : ℤ} (hy : 1000 ≤ y ∧ y ≤ 9999) :
      yearText y = zeroPad 4 y.toNat ∧ toString y = zeroPad 4 y.toNat := by
    obtain ⟨n, rfl⟩ := Int.eq_ofNat_of_zero_le (show 0 ≤ y by omega)
    refine ⟨if_pos ⟨by omega, by omega⟩, ?_⟩
    rw [toString_natCast, Int.toNat_natCast, ← String.toList_inj,
      toList_zeroPad]
    have hlength : (toString n).length = 4 := by
      have hle : (toString n).length ≤ 4 := (Nat.length_repr_le_iff (by decide)).2 (by omega)
      have hgt : ¬(toString n).length ≤ 3 := fun h =>
        absurd ((Nat.length_repr_le_iff (by decide)).1 h) (by omega)
      omega
    rw [hlength]
    exact Nat.toList_repr
  have hpart {at_ : ℤ} (hy : 1000 ≤ keyYear period zone at_ ∧ keyYear period zone at_ ≤ 9999) :
      yearPart period zone at_ = zeroPad 4 (keyYear period zone at_).toNat := by
    cases period
    case hour | day => exact (htext hy).1
    case week | month | year => exact (htext hy).2
  rw [hpart ha, hpart hb, zeroPad_lt_iff (by decide) (by omega) (by omega)]
  omega

/-- The year of a later local time is not an earlier one, and within the year neither
is its period. -/
theorem keyYear_mono (period : Period) {zone : Zone} {a b : ℤ}
    (h : localMs zone a ≤ localMs zone b) :
    keyYear period zone a ≤ keyYear period zone b ∧
      (keyYear period zone a = keyYear period zone b →
        periodNumber period zone a ≤ periodNumber period zone b) := by
  have hday : localDay zone a ≤ localDay zone b := Int.ediv_le_ediv (by decide) h
  have hweek : weekOf (localDay zone a) ≤ weekOf (localDay zone b) :=
    Int.ediv_le_ediv (by decide) (by omega)
  cases period with
  | hour => exact ⟨yearOf_mono hday, fun _ => Int.ediv_le_ediv (by decide) h⟩
  | day => exact ⟨yearOf_mono hday, fun _ => hday⟩
  | week => exact ⟨yearOf_mono (by omega), fun _ => hweek⟩
  | month =>
      refine ⟨yearOf_mono hday, fun hyear => ?_⟩
      have hdate := (dateOf_lt_iff hyear.symm).not.2 (not_lt.2 hday)
      simp only [periodNumber]
      omega
  | year => exact ⟨yearOf_mono hday, fun hyear => hyear.le⟩

/-- **Nothing is misread in years of four digits while the clock is not set back**, if
an offset that is negative rises by an hour at least. -/
theorem not_misread {period : Period} {zone : Zone} {a b : ℤ} (hlt : a < b)
    (ha : 1000 ≤ keyYear period zone a ∧ keyYear period zone a ≤ 9999)
    (hb : 1000 ≤ keyYear period zone b ∧ keyYear period zone b ≤ 9999)
    (hforward : zone a ≤ zone b)
    (hnegative : zone a < 0 → zone a = zone b ∨ zone a + 60 ≤ zone b) :
    ¬Misread period zone a b := by
  have hlocal : localMs zone a < localMs zone b := by
    unfold localMs
    omega
  obtain ⟨hyear, hnumber⟩ := keyYear_mono period hlocal.le
  unfold Misread
  split_ifs with hsame
  · rintro (hback | ⟨rfl, hhour, hfalls | hrises⟩)
    · exact absurd hback (not_lt.2 (hnumber hsame))
    · omega
    · -- an hour later the clock shows another hour
      rcases hnegative hrises.1 with heq | hjump
      · omega
      · simp only [periodNumber, localMs] at hhour
        omega
  · rw [yearPart_lt_iff hb ha]
    omega

/-! ### The rows -/

/-- The stored minutes with one key all precede those with another one. -/
def KeyPrecedes (key : ℤ × EnergyRow → String) (minutes : List (ℤ × EnergyRow)) (k k' : String) :
    Prop :=
  ∀ m ∈ minutes, ∀ m' ∈ minutes, key m = k → key m' = k' → m.1 < m'.1

/-- If all stored minutes of one row precede those of another one, it comes
first. -/
def Chronological (key : ℤ × EnergyRow → String) (minutes : List (ℤ × EnergyRow))
    (rows : List EnergySummary) : Prop :=
  ∀ (i j : ℕ) (A B : EnergySummary), rows[i]? = some A → rows[j]? = some B →
    KeyPrecedes key minutes A.period B.period → i < j

/-- The stored minutes in the period of one minute all precede those in the period
of another one. -/
def PeriodPrecedes (period : Period) (zone : Zone) (minutes : List (ℤ × EnergyRow)) (a b : ℤ) :
    Prop :=
  ∀ m ∈ minutes, ∀ m' ∈ minutes, samePeriod period zone m.1 a → samePeriod period zone m'.1 b →
    m.1 < m'.1

/-- **The rows are sorted by their keys.** A tree map lists its entries in the order of
its keys, and each row is named by its own. -/
theorem sorted_of_buckets {tariffs : List Tariff} {minutes : List (ℤ × EnergyRow)}
    {key : ℤ × EnergyRow → String} {buckets : Std.TreeMap String (EnergySummary × ℤ)}
    (h : Buckets.Holds key (fun key => (({ period := key } : EnergySummary), (0 : ℤ)))
      (addMinute tariffs) minutes buckets) :
    (buckets.toList.map fun b => finishSummary b.2).Pairwise
      fun A B : EnergySummary => A.period < B.period := by
  have hsorted : ((buckets.toList.map fun b => finishSummary b.2).map
      EnergySummary.period).Pairwise (· < ·) := by
    rw [periods_of_buckets h, List.pairwise_map]
    exact Std.TreeMap.ordered_keys_toList.imp fun hlt => compare_lt_iff_lt.1 hlt
  exact List.pairwise_map.1 hsorted

/-- Rows that are sorted by their keys, and have minutes, are in the order of time
exactly if the keys of preceding minutes are smaller. -/
theorem chronological_iff {tariffs : List Tariff} {minutes : List (ℤ × EnergyRow)}
    {key : ℤ × EnergyRow → String} {rows : List EnergySummary}
    (hrows : SummaryRows tariffs minutes key rows)
    (hsorted : rows.Pairwise fun A B => A.period < B.period) :
    Chronological key minutes rows ↔
      ∀ a ∈ minutes, ∀ b ∈ minutes, KeyPrecedes key minutes (key a) (key b) → key a < key b := by
  have hindex {i j : ℕ} {A B : EnergySummary} (hA : rows[i]? = some A) (hB : rows[j]? = some B)
      (hlt : i < j) : A.period < B.period := by
    obtain ⟨hi, rfl⟩ := List.getElem?_eq_some_iff.1 hA
    obtain ⟨hj, rfl⟩ := List.getElem?_eq_some_iff.1 hB
    exact List.pairwise_iff_getElem.1 hsorted i j hi hj hlt
  constructor
  · intro hchron a ha b hb hprecedes
    obtain ⟨A, hA, hkeyA⟩ := hrows.complete a ha
    obtain ⟨B, hB, hkeyB⟩ := hrows.complete b hb
    obtain ⟨i, hi⟩ := List.mem_iff_getElem?.1 hA
    obtain ⟨j, hj⟩ := List.mem_iff_getElem?.1 hB
    rw [← hkeyA, ← hkeyB] at hprecedes ⊢
    exact hindex hi hj (hchron i j A B hi hj hprecedes)
  · intro hkeys i j A B hi hj hprecedes
    obtain ⟨a, ha, hkeyA⟩ := hrows.inhabited A (List.mem_of_getElem? hi)
    obtain ⟨b, hb, hkeyB⟩ := hrows.inhabited B (List.mem_of_getElem? hj)
    rw [hkeyA, hkeyB] at hprecedes
    have hlt := hkeys a ha b hb hprecedes
    rw [← hkeyA, ← hkeyB] at hlt
    rcases lt_trichotomy i j with h | rfl | h
    · exact h
    · rw [Option.some.inj (hi.symm.trans hj)] at hlt
      exact absurd hlt (lt_irrefl _)
    · exact absurd (hindex hj hi h) hlt.asymm

/-- **The rows are in the order of time exactly if no period is misread.**  For every
table and every range: a row all of whose stored minutes precede those of another row
comes before it, if and only if no such pair of periods is misread.  In particular the
rows are in order if the years have four digits and the offset never falls between
stored minutes, and rises by an hour at least when it is negative. -/
theorem rows_are_chronological_iff (zones : String → Except String Zone) (db : Database)
    (device : String) (fromMs toMs : ℤ) (name timezone : String) (period : Period) (zone : Zone)
    (rows : List EnergySummary) (hperiod : Period.parse name = some period)
    (hzone : zones timezone = .ok zone)
    (hoffset : ∀ at_, -1440 < zone at_ ∧ zone at_ < 1440)
    (hrows : db.summary zones device fromMs toMs name timezone = .ok rows) :
    let minutes := db.minuteRows device fromMs toMs
    (Chronological (fun m => periodKey period zone m.1) minutes rows ↔
      ∀ a ∈ minutes, ∀ b ∈ minutes, PeriodPrecedes period zone minutes a.1 b.1 →
        ¬Misread period zone a.1 b.1) ∧
    ((∀ a ∈ minutes, 1000 ≤ keyYear period zone a.1 ∧ keyYear period zone a.1 ≤ 9999) →
      (∀ a ∈ minutes, ∀ b ∈ minutes, a.1 < b.1 → zone a.1 ≤ zone b.1 ∧
        (zone a.1 < 0 → zone a.1 = zone b.1 ∨ zone a.1 + 60 ≤ zone b.1)) →
      Chronological (fun m => periodKey period zone m.1) minutes rows) := by
  intro minutes
  obtain ⟨period', zone', tariffs, buckets, hperiod', hzone', -, -, -, hholds, rfl⟩ :=
    Database.summary_buckets hrows
  obtain rfl := Option.some.inj (hperiod.symm.trans hperiod')
  obtain rfl := Except.ok.inj (hzone.symm.trans hzone')
  -- periods one of which precedes the other are not the same
  have hprecedes : ∀ a ∈ minutes, ∀ b ∈ minutes, PeriodPrecedes period zone minutes a.1 b.1 →
      a.1 < b.1 ∧ ¬samePeriod period zone a.1 b.1 := by
    intro a ha b hb hprecedes
    have hrefl (x : ℤ) : samePeriod period zone x x := (periodKey_eq_iff ..).1 rfl
    refine ⟨hprecedes a ha b hb (hrefl a.1) (hrefl b.1), fun hsame => ?_⟩
    exact lt_irrefl _ (hprecedes a ha a ha (hrefl a.1) hsame)
  have hiff : Chronological (fun m => periodKey period zone m.1) minutes
      (buckets.toList.map fun b => finishSummary b.2) ↔
      ∀ a ∈ minutes, ∀ b ∈ minutes, PeriodPrecedes period zone minutes a.1 b.1 →
        ¬Misread period zone a.1 b.1 := by
    rw [chronological_iff (summaryRows_of_holds hholds) (sorted_of_buckets hholds)]
    simp only [KeyPrecedes, periodKey_eq_iff, periodKey_lt_iff period hoffset]
    refine forall₂_congr fun a ha => forall₂_congr fun b hb => forall_congr' fun h => ?_
    exact shownBefore_iff (hprecedes a ha b hb h).2
  refine ⟨hiff, fun hyears hoffsets => hiff.2 fun a ha b hb h => ?_⟩
  have hlt := (hprecedes a ha b hb h).1
  obtain ⟨hforward, hnegative⟩ := hoffsets a ha b hb hlt
  exact not_misread hlt (hyears a ha) (hyears b hb) hforward hnegative

/-- Two minutes of energy. -/
def twoMinutes (a b : ℤ) : Database :=
  { energy := ((∅ : EnergyTable).upsert ("psu", a) ⟨1, 1, 60000, 60000⟩ id).upsert ("psu", b)
      ⟨1, 1, 60000, 60000⟩ id }

/-- A clock that is set back once. -/
def setBack (change before after : ℤ) : Zone := fun at_ => if at_ < change then before else after

/-- A summary that succeeds has rows. -/
theorem rows_of_periods {result : Except String (List EnergySummary)} {periods : List String}
    (h : result.toOption.map (List.map EnergySummary.period) = some periods) :
    ∃ rows, result = .ok rows ∧ rows.map EnergySummary.period = periods := by
  obtain ⟨rows, hrows, hmap⟩ := Option.map_eq_some_iff.1 h
  cases result with
  | error e => cases hrows
  | ok rows' =>
      obtain rfl := Option.some.inj hrows
      exact ⟨rows', rfl, hmap⟩

/-- In `America/New_York` the two hours from 01:00 are in order: the offset of summer is
smaller in size than that of winter, and both are negative. -/
theorem repeated_hour_is_listed_in_order :
    let db := twoMinutes 1762059600000 1762063200000
    let zone := setBack 1762063200000 (-240) (-300)
    ∃ rows, db.summary (fun _ => .ok zone) "psu" 1762059600000 1762066800000 "hour"
        "America/New_York" = .ok rows ∧
      rows.map EnergySummary.period = ["2025-11-02T01:00-04:00", "2025-11-02T01:00-05:00"] ∧
      Chronological (fun m => periodKey .hour zone m.1)
        (db.minuteRows "psu" 1762059600000 1762066800000) rows := by
  intro db zone
  have hperiods : (db.summary (fun _ => .ok zone) "psu" 1762059600000 1762066800000 "hour"
      "America/New_York").toOption.map (List.map EnergySummary.period) =
        some ["2025-11-02T01:00-04:00", "2025-11-02T01:00-05:00"] := by decide +kernel
  obtain ⟨rows, hrows, hmap⟩ := rows_of_periods hperiods
  refine ⟨rows, hrows, hmap, ?_⟩
  refine (rows_are_chronological_iff _ db "psu" _ _ "hour" "America/New_York" .hour zone rows
    rfl rfl (fun at_ => ?_) hrows).1.2 ?_
  · unfold zone setBack
    split_ifs <;> decide
  · unfold PeriodPrecedes samePeriod Misread SetBackInto OffsetsMisread
    decide +kernel

/-- The row at a place has the period of this place. -/
theorem row_of_periods {rows : List EnergySummary} {periods : List String}
    (h : rows.map EnergySummary.period = periods) {i : ℕ} {s : String} (hs : periods[i]? = some s) :
    ∃ A, rows[i]? = some A ∧ A.period = s := by
  rw [← h, List.getElem?_map] at hs
  exact Option.map_eq_some_iff.1 hs

/-- **The repeated hour is listed backwards** in `Europe/Berlin`: the offset falls
from `+02:00` to `+01:00`, and the later hour comes first. -/
theorem repeated_hour_is_listed_backwards :
    let db := twoMinutes 1761436800000 1761440400000
    let zone := setBack 1761440400000 120 60
    ∃ rows, db.summary (fun _ => .ok zone) "psu" 1761436800000 1761444000000 "hour"
        "Europe/Berlin" = .ok rows ∧
      rows.map EnergySummary.period = ["2025-10-26T02:00+01:00", "2025-10-26T02:00+02:00"] ∧
      ¬Chronological (fun m => periodKey .hour zone m.1)
        (db.minuteRows "psu" 1761436800000 1761444000000) rows := by
  intro db zone
  have hperiods : (db.summary (fun _ => .ok zone) "psu" 1761436800000 1761444000000 "hour"
      "Europe/Berlin").toOption.map (List.map EnergySummary.period) =
        some ["2025-10-26T02:00+01:00", "2025-10-26T02:00+02:00"] := by decide +kernel
  obtain ⟨rows, hrows, hmap⟩ := rows_of_periods hperiods
  refine ⟨rows, hrows, hmap, fun hchron => ?_⟩
  obtain ⟨A, hrowA, hA⟩ := row_of_periods hmap (i := 0) rfl
  obtain ⟨B, hrowB, hB⟩ := row_of_periods hmap (i := 1) rfl
  have hprecedes : KeyPrecedes (fun m => periodKey .hour zone m.1)
      (db.minuteRows "psu" 1761436800000 1761444000000) "2025-10-26T02:00+02:00"
        "2025-10-26T02:00+01:00" := by
    unfold KeyPrecedes
    decide +kernel
  rw [← hA, ← hB] at hprecedes
  exact absurd (hchron 1 0 B A hrowB hrowA hprecedes) (by decide)

end Railwatch
