/-
# Prices as text

`parse_price` of `crates/core/src/pricing.rs`: a whole part, and after a point
at most six digits, to whole microcurrency.  The whole part is held against the
limit without the fraction, so that a price between `1000000` and `1000001` is
accepted although `set_tariff` rejects it; every other text is read exactly.

The arithmetic is that of `i64`, wrapping.

A text that is accepted is a decimal in one of its spellings (`IsDecimal`), and
`decimalValue` is what it stands for, without a machine in it.  The condition for an
exact reading is the one of the limit, and the single price that is accepted above it is
shown to be one.
-/

import Railwatch.History.Reference

namespace Railwatch

/-- `bytes().all(|b| b.is_ascii_digit())`; the bytes of other characters are not
ASCII. -/
def digits (cs : List Char) : Bool := cs.all Char.isDigit

/-- `str::parse::<i64>` of a text of digits. -/
def parseI64 (cs : List Char) : Except String ℤ :=
  if Nat.ofDigitChars 10 cs 0 < 2 ^ 63 then .ok (Nat.ofDigitChars 10 cs 0)
  else .error "number too large to fit in target type"

/-- What `i64` arithmetic leaves of an exact result. -/
def wrapI64 (z : ℤ) : ℤ := z.bmod (2 ^ 64)

/-- `price.split_once('.').unwrap_or((price, ""))`. -/
def splitPoint (price : String) : List Char × List Char :=
  (price.toList.takeWhile (· ≠ '.'), (price.toList.dropWhile (· ≠ '.')).drop 1)

/-- `frac` of `parse_price`. -/
def parseFraction (cs : List Char) : Except String ℤ :=
  if cs.isEmpty then .ok 0 else parseI64 cs

/-- The message for a text that is not a price. -/
def notAPrice : String :=
  "price must be a nonnegative decimal with at most six fractional digits"

/-- `parse_price`. The text is split at its first point; both parts are digits, of which
the first has one at least and the second six at most. The two products and their sum
wrap, as they do in a build without overflow checks. -/
def parsePrice (price : String) : Except String ℤ :=
  let (whole, fraction) := splitPoint price
  let fractionLen := (String.ofList fraction).utf8ByteSize
  if !(!whole.isEmpty && digits whole && decide (fractionLen ≤ 6) && digits fraction) then
    .error notAPrice
  else do
    let whole ← parseI64 whole
    if ¬whole ≤ 1000000 then .error "price exceeds supported range"
    else
      let frac ← parseFraction fraction
      .ok (wrapI64 (wrapI64 (whole * 1000000) + wrapI64 (frac * 10 ^ (6 - fractionLen))))

/-! ### Decimals -/

/-- The value of a list of digits, each at its place. -/
def placeValue (cs : List Char) : ℕ :=
  ∑ i : Fin cs.length, ((cs.get i).toNat - '0'.toNat) * 10 ^ (cs.length - 1 - i)

/-- A text is digits, and after a point, if there is one, at most six more. There is one
digit at least before the point. -/
structure IsDecimal (s : String) (whole fraction : List Char) : Prop where
  /-- Its parts are put together with a point, if there is one. -/
  text : (s.toList = whole ∧ fraction = []) ∨ s.toList = whole ++ '.' :: fraction
  /-- There is a digit before the point. -/
  whole_ne : whole ≠ []
  /-- Before it there is nothing but digits. -/
  whole_digit : ∀ c ∈ whole, c.isDigit = true
  /-- And behind it. -/
  fraction_digit : ∀ c ∈ fraction, c.isDigit = true
  /-- A millionth is the smallest part. -/
  fraction_length : fraction.length ≤ 6

/-- The number that a decimal writes. -/
def decimalValue (whole fraction : List Char) : ℚ :=
  placeValue whole + placeValue fraction / 10 ^ fraction.length

/-- What `parse_price` is to do with a text: an accepted one is a decimal, its
price is exact and one that `set_tariff` takes, and a decimal up to a million is
accepted. -/
structure ReadsExactly (s : String) : Prop where
  /-- What is accepted is exact, in millionths, and `set_tariff` takes it. -/
  exact : ∀ v, parsePrice s = .ok v → ∃ whole fraction, IsDecimal s whole fraction ∧
    (v : ℚ) = decimalValue whole fraction * 10 ^ 6 ∧ 0 ≤ v ∧ v ≤ 10 ^ 12
  /-- A decimal up to a million is accepted. -/
  accepts : ∀ whole fraction, IsDecimal s whole fraction →
    decimalValue whole fraction ≤ 1000000 → ∃ v, parsePrice s = .ok v

/-- A decimal above a million whose whole part is a million. -/
def JustAboveMillion (s : String) : Prop :=
  ∃ whole fraction, IsDecimal s whole fraction ∧ placeValue whole = 1000000 ∧
    placeValue fraction ≠ 0

/-- The first digit counts for its place. -/
theorem placeValue_cons (c : Char) (cs : List Char) :
    placeValue (c :: cs) = (c.toNat - '0'.toNat) * 10 ^ cs.length + placeValue cs := by
  refine (Fin.sum_univ_succ _).trans (congrArg₂ _ (by simp) (Finset.sum_congr rfl fun i _ => ?_))
  have hplace : (c :: cs).length - 1 - (i.succ : Fin (cs.length + 1)) = cs.length - 1 - i := by
    rw [Fin.val_succ, List.length_cons]
    omega
  rw [hplace, List.get_cons_succ']

/-- Reading the digits one after the other gives each its place. -/
theorem ofDigitChars_eq_placeValue (cs : List Char) :
    Nat.ofDigitChars 10 cs 0 = placeValue cs := by
  induction cs with
  | nil => rfl
  | cons c cs ih =>
      rw [Nat.ofDigitChars_cons, Nat.ofDigitChars_eq_ofDigitChars_zero, ih, placeValue_cons]
      ring

/-- A number of so many digits is below the power of ten. -/
theorem placeValue_lt {cs : List Char} (h : ∀ c ∈ cs, c.isDigit = true) :
    placeValue cs < 10 ^ cs.length := by
  induction cs with
  | nil => decide
  | cons c cs ih =>
      have hc : c.toNat - '0'.toNat ≤ 9 := by
        have := (Char.isDigit_iff_toNat.1 (h c List.mem_cons_self)).2
        change c.toNat ≤ 57 at this
        change c.toNat - 48 ≤ 9
        omega
      have hcs := ih fun d hd => h d (List.mem_cons_of_mem c hd)
      have hmul := Nat.mul_le_mul_right (10 ^ cs.length) hc
      rw [placeValue_cons, List.length_cons, pow_succ]
      omega

/-- Digits take one byte each. -/
theorem utf8ByteSize_of_digits {cs : List Char} (h : ∀ c ∈ cs, c.isDigit = true) :
    (String.ofList cs).utf8ByteSize = cs.length := by
  induction cs with
  | nil => rfl
  | cons c cs ih =>
      have hc : c.utf8Size = 1 := by
        have := (Char.isDigit_iff_toNat.1 (h c List.mem_cons_self)).2
        change c.toNat ≤ 57 at this
        exact Char.utf8Size_eq_one_iff.2 (UInt32.le_iff_toNat_le.2 (this.trans (by decide)))
      rw [String.ofList_cons, String.utf8ByteSize_append, String.utf8ByteSize_singleton, hc,
        ih fun d hd => h d (List.mem_cons_of_mem c hd), List.length_cons]
      exact Nat.add_comm ..

/-- A text of digits has nothing but digits. -/
theorem digits_iff {cs : List Char} : digits cs = true ↔ ∀ c ∈ cs, c.isDigit = true :=
  List.all_eq_true

/-- The point is no digit. -/
theorem ne_point_of_isDigit {c : Char} (h : c.isDigit = true) : c ≠ '.' := by
  rintro rfl
  exact absurd h (by decide)

/-- A decimal is split at its point. -/
theorem splitPoint_of_isDecimal {s : String} {whole fraction : List Char}
    (h : IsDecimal s whole fraction) : splitPoint s = (whole, fraction) := by
  have hwhole : ∀ c ∈ whole, decide (c ≠ '.') = true := fun c hc =>
    decide_eq_true (ne_point_of_isDigit (h.whole_digit c hc))
  unfold splitPoint
  rcases h.text with ⟨hs, rfl⟩ | hs
  · rw [hs, List.takeWhile_eq_self_iff.2 hwhole, List.dropWhile_eq_nil_iff.2 hwhole]
    rfl
  · rw [hs, List.takeWhile_append_of_pos hwhole, List.dropWhile_append_of_pos hwhole]
    simp

/-- The text before and after the first point, if there is one; without a point all of
it is before, and the fraction is empty. -/
theorem splitPoint_text (s : String) :
    (s.toList = (splitPoint s).1 ∧ (splitPoint s).2 = []) ∨
      s.toList = (splitPoint s).1 ++ '.' :: (splitPoint s).2 := by
  have happend := List.takeWhile_append_dropWhile (p := (· ≠ '.')) (l := s.toList)
  unfold splitPoint
  cases hd : s.toList.dropWhile (· ≠ '.') with
  | nil =>
      rw [hd, List.append_nil] at happend
      exact .inl ⟨happend.symm, rfl⟩
  | cons c rest =>
      have hc : c = '.' := by
        have := List.head?_dropWhile_not (· ≠ '.') s.toList
        rw [hd] at this
        simpa using this
      rw [hd, hc] at happend
      exact .inr happend.symm

/-- The check `parse_price` makes first says that the text is a decimal: digits, and
perhaps a point and six digits at most. The source counts the bytes of the fraction,
which are its characters once all of them are digits. -/
theorem isDecimal_splitPoint_iff (s : String) :
    (!(splitPoint s).1.isEmpty && digits (splitPoint s).1 &&
      decide ((String.ofList (splitPoint s).2).utf8ByteSize ≤ 6) &&
        digits (splitPoint s).2) = true ↔
      IsDecimal s (splitPoint s).1 (splitPoint s).2 := by
  simp only [Bool.and_eq_true, Bool.not_eq_true', List.isEmpty_eq_false_iff, digits_iff,
    decide_eq_true_eq]
  constructor
  · rintro ⟨⟨⟨hne, hwhole⟩, hlen⟩, hfraction⟩
    rw [utf8ByteSize_of_digits hfraction] at hlen
    exact ⟨splitPoint_text s, hne, hwhole, hfraction, hlen⟩
  · intro h
    refine ⟨⟨⟨h.whole_ne, h.whole_digit⟩, ?_⟩, h.fraction_digit⟩
    rw [utf8ByteSize_of_digits h.fraction_digit]
    exact h.fraction_length

/-- Digits are read as their number as long as this is an `i64`. -/
theorem parseI64_of_lt {cs : List Char} (h : placeValue cs < 2 ^ 63) :
    parseI64 cs = .ok (placeValue cs) := by
  rw [parseI64, ofDigitChars_eq_placeValue, if_pos h]

/-- A number that `i64` holds is left as it is. -/
theorem wrapI64_natCast {n : ℕ} (h : n < 2 ^ 63) : wrapI64 n = n := by
  unfold wrapI64
  exact Int.bmod_eq_of_le (by omega) (by omega)

/-- The scaled fraction stays below one. -/
theorem scaled_lt {fraction : List Char} (hfraction : ∀ c ∈ fraction, c.isDigit = true)
    (hlen : fraction.length ≤ 6) : placeValue fraction * 10 ^ (6 - fraction.length) < 1000000 :=
  calc placeValue fraction * 10 ^ (6 - fraction.length)
      < 10 ^ fraction.length * 10 ^ (6 - fraction.length) :=
        Nat.mul_lt_mul_of_pos_right (placeValue_lt hfraction) (by positivity)
    _ = 10 ^ 6 := by rw [← pow_add, Nat.add_sub_cancel' hlen]
    _ = 1000000 := by norm_num

/-- **What `parse_price` makes of a decimal** depends on its whole part: up to a
million its price is exact, and no step of the arithmetic overflows. -/
theorem parsePrice_of_isDecimal {s : String} {whole fraction : List Char}
    (h : IsDecimal s whole fraction) :
    (placeValue whole ≤ 1000000 → parsePrice s = .ok
      ((placeValue whole * 1000000 + placeValue fraction * 10 ^ (6 - fraction.length) : ℕ) : ℤ)) ∧
    (1000000 < placeValue whole → ∃ e, parsePrice s = .error e) := by
  have hsplit := splitPoint_of_isDecimal h
  have hcheck := (isDecimal_splitPoint_iff s).2 (by rw [hsplit]; exact h)
  have hfrac : placeValue fraction < 10 ^ fraction.length := placeValue_lt h.fraction_digit
  have hscale := scaled_lt h.fraction_digit h.fraction_length
  rw [hsplit] at hcheck
  unfold parsePrice
  rw [hsplit]
  dsimp only
  rw [hcheck, utf8ByteSize_of_digits h.fraction_digit]
  simp only [Bool.not_true, Bool.false_eq_true, if_false]
  constructor
  · intro hle
    have hpow : 10 ^ fraction.length ≤ 10 ^ 6 :=
      Nat.pow_le_pow_right (by norm_num) h.fraction_length
    have hfraction : parseFraction fraction = .ok (placeValue fraction : ℤ) := by
      cases fraction with
      | nil => rfl
      | cons c cs => exact parseI64_of_lt (by omega)
    rw [parseI64_of_lt (by omega), hfraction]
    refine (if_neg (by simpa using hle)).trans (congrArg Except.ok ?_)
    -- the scaled parts are far inside the range, so nothing wraps
    have hw : wrapI64 ((placeValue whole : ℤ) * 1000000) = (placeValue whole * 1000000 : ℕ) := by
      have := wrapI64_natCast (n := placeValue whole * 1000000) (by omega)
      push_cast at this ⊢
      exact this
    have hf : wrapI64 ((placeValue fraction : ℤ) * 10 ^ (6 - fraction.length)) =
        (placeValue fraction * 10 ^ (6 - fraction.length) : ℕ) := by
      have := wrapI64_natCast (n := placeValue fraction * 10 ^ (6 - fraction.length)) (by omega)
      push_cast at this ⊢
      exact this
    rw [hw, hf, ← Nat.cast_add]
    exact wrapI64_natCast (by omega)
  · intro hlt
    cases hwhole : parseI64 whole with
    | error e => exact ⟨e, rfl⟩
    | ok w =>
        unfold parseI64 at hwhole
        split_ifs at hwhole
        obtain rfl := Except.ok.inj hwhole
        rw [ofDigitChars_eq_placeValue]
        exact ⟨_, if_pos (by simpa using hlt)⟩

/-- A text that is accepted is a decimal number, with its parts on both sides of the
point. -/
theorem isDecimal_of_parsePrice {s : String} {v : ℤ} (h : parsePrice s = .ok v) :
    IsDecimal s (splitPoint s).1 (splitPoint s).2 := by
  rw [← isDecimal_splitPoint_iff]
  by_contra hno
  rw [Bool.not_eq_true] at hno
  unfold parsePrice at h
  dsimp only at h
  rw [hno] at h
  exact absurd h (by simp)

/-- The price of a decimal in millionths, as a fraction and as a whole number. -/
theorem decimalValue_mul {whole fraction : List Char} (h : fraction.length ≤ 6) :
    decimalValue whole fraction * 10 ^ 6 =
      ((placeValue whole * 1000000 +
        placeValue fraction * 10 ^ (6 - fraction.length) : ℕ) : ℚ) := by
  have hpow : (10 : ℚ) ^ 6 = 10 ^ (6 - fraction.length) * 10 ^ fraction.length := by
    rw [← pow_add, Nat.sub_add_cancel h]
  have hne : (10 : ℚ) ^ fraction.length ≠ 0 := by positivity
  calc decimalValue whole fraction * 10 ^ 6
      = placeValue whole * 10 ^ 6 + placeValue fraction * 10 ^ (6 - fraction.length) := by
        rw [decimalValue, add_mul, div_mul_eq_mul_div, hpow, ← mul_assoc (placeValue fraction : ℚ),
          mul_div_cancel_right₀ _ hne]
    _ = _ := by
        push_cast
        norm_num

/-- A decimal is up to a million, or above it by its whole part, or just above
it. -/
theorem le_million_iff {whole fraction : List Char}
    (hfraction : ∀ c ∈ fraction, c.isDigit = true) :
    decimalValue whole fraction ≤ 1000000 ↔ placeValue whole < 1000000 ∨
      placeValue whole = 1000000 ∧ placeValue fraction = 0 := by
  have hpos : (0 : ℚ) < 10 ^ fraction.length := by positivity
  have hlt : (placeValue fraction : ℚ) / 10 ^ fraction.length < 1 := by
    rw [div_lt_one hpos]
    exact_mod_cast placeValue_lt hfraction
  have hnonneg : (0 : ℚ) ≤ placeValue fraction / 10 ^ fraction.length := by positivity
  unfold decimalValue
  constructor
  · intro hle
    rcases Nat.lt_or_ge (placeValue whole) 1000000 with hw | hw
    · exact .inl hw
    · have hw' : (1000000 : ℚ) ≤ placeValue whole := by exact_mod_cast hw
      have hzero : (placeValue fraction : ℚ) / 10 ^ fraction.length = 0 := by linarith
      have hweq : (placeValue whole : ℚ) = 1000000 := by linarith
      refine .inr ⟨by exact_mod_cast hweq, ?_⟩
      rcases div_eq_zero_iff.1 hzero with h0 | h0
      · exact_mod_cast h0
      · exact absurd h0 hpos.ne'
  · rintro (hw | ⟨hw, hf⟩)
    · have hw' : (placeValue whole : ℚ) + 1 ≤ 1000000 := by exact_mod_cast hw
      linarith
    · rw [hw, hf]
      norm_num

/-- The texts that are read exactly. A fraction behind 1000000 is the one exception: the
whole part passes the check for the maximum, and with the fraction the price is above
it. -/
theorem readsExactly_iff (s : String) : ReadsExactly s ↔ ¬JustAboveMillion s := by
  constructor
  · rintro h ⟨whole, fraction, hdec, hwhole, hfraction⟩
    have hparse := (parsePrice_of_isDecimal hdec).1 hwhole.le
    obtain ⟨-, -, -, -, -, hle⟩ := h.exact _ hparse
    have hscale := Nat.mul_pos (Nat.pos_of_ne_zero hfraction)
      (Nat.pow_pos (n := 6 - fraction.length) (by norm_num : 0 < 10))
    rw [hwhole] at hle
    push_cast at hle
    zify at hscale
    omega
  · intro hno
    refine ⟨fun v hv => ?_, fun whole fraction hdec hle => ?_⟩
    · have hdec := isDecimal_of_parsePrice hv
      obtain ⟨hok, herror⟩ := parsePrice_of_isDecimal hdec
      rcases Nat.lt_or_ge 1000000 (placeValue (splitPoint s).1) with hbig | hsmall
      · obtain ⟨e, he⟩ := herror hbig
        rw [he] at hv
        cases hv
      · obtain rfl := Except.ok.inj ((hok hsmall).symm.trans hv)
        refine ⟨_, _, hdec, ?_, Int.natCast_nonneg _, ?_⟩
        · rw [decimalValue_mul hdec.fraction_length]
          push_cast
          rfl
        · have hscale := scaled_lt hdec.fraction_digit hdec.fraction_length
          rcases hsmall.lt_or_eq with hlt | heq
          · norm_num
            norm_cast
            omega
          · have hzero : placeValue (splitPoint s).2 = 0 := by
              by_contra hne
              exact hno ⟨_, _, hdec, heq, hne⟩
            rw [heq, hzero]
            norm_num
    · have hsmall : placeValue whole ≤ 1000000 := by
        rcases (le_million_iff hdec.fraction_digit).1 hle with h | h <;> omega
      exact ⟨_, (parsePrice_of_isDecimal hdec).1 hsmall⟩

/-- The text of an amount of money is its decimal with six places. -/
theorem isDecimal_sixDecimals (n : ℕ) : IsDecimal (sixDecimals n)
    (Nat.toDigits 10 (n / 1000000)) (zeroPad 6 (n % 1000000)).toList where
  text := .inr (by
    rw [sixDecimals, String.toList_append, String.toList_append, List.append_assoc]
    exact congrArg₂ _ Nat.toList_repr rfl)
  whole_ne := Nat.toDigits_ne_nil
  whole_digit _ h := Nat.isDigit_of_mem_toDigits (by decide) (by decide) h
  fraction_digit _ h := isDigit_of_mem_zeroPad h
  fraction_length := (length_zeroPad (by norm_num) (Nat.mod_lt _ (by norm_num))).le

/-- What `summary` writes for money is read back. -/
theorem parsePrice_microText {v : ℤ} (hnonneg : 0 ≤ v) (hle : v ≤ 10 ^ 12) :
    parsePrice (microText v) = .ok v := by
  obtain ⟨n, rfl⟩ := Int.eq_ofNat_of_zero_le hnonneg
  have hlen : (zeroPad 6 (n % 1000000)).toList.length = 6 :=
    length_zeroPad (by norm_num) (Nat.mod_lt _ (by norm_num))
  have hwhole : placeValue (Nat.toDigits 10 (n / 1000000)) = n / 1000000 := by
    rw [← ofDigitChars_eq_placeValue, Nat.ofDigitChars_ten_toDigits]
  have hfraction : placeValue (zeroPad 6 (n % 1000000)).toList = n % 1000000 := by
    rw [← ofDigitChars_eq_placeValue, ofDigitChars_zeroPad]
  rw [microText_natCast, (parsePrice_of_isDecimal (isDecimal_sixDecimals n)).1 (by omega),
    hwhole, hfraction, hlen]
  refine congrArg (fun m : ℕ => Except.ok (m : ℤ)) ?_
  rw [Nat.sub_self, pow_zero, mul_one]
  exact Nat.div_add_mod' n 1000000

/-- **Every price is read exactly but those just above a million**, and the
texts that `summary` writes for money are read back. -/
theorem prices_parse_exactly (s : String) :
    (ReadsExactly s ↔ ¬JustAboveMillion s) ∧
      ∀ v : ℤ, 0 ≤ v → v ≤ 10 ^ 12 → parsePrice (microText v) = .ok v :=
  ⟨readsExactly_iff s, fun _ => parsePrice_microText⟩

/-- A price with two decimals, and the text of an amount of money. -/
theorem prices_parse_exactly_of_a_price :
    ReadsExactly "1.25" ∧ parsePrice (microText 1250000) = .ok 1250000 := by
  obtain ⟨hreads, hround⟩ := prices_parse_exactly "1.25"
  refine ⟨hreads.2 ?_, hround _ (by decide) (by decide)⟩
  rintro ⟨whole, fraction, hdec, hwhole, -⟩
  have hsplit : splitPoint "1.25" = (['1'], ['2', '5']) := by decide +kernel
  obtain rfl : whole = ['1'] :=
    congrArg Prod.fst ((splitPoint_of_isDecimal hdec).symm.trans hsplit)
  rw [← ofDigitChars_eq_placeValue] at hwhole
  revert hwhole
  decide

/-- A million and a half is a price for `parse_price` and none for
`set_tariff`. -/
theorem price_above_million_is_accepted :
    parsePrice "1000000.5" = .ok 1000000500000 ∧ ¬ReadsExactly "1000000.5" ∧
      ∀ db : Database, db.setTariff ⟨0, 1000000500000, "BRL"⟩ false =
        .error "invalid electricity price" := by
  have hparse : parsePrice "1000000.5" = .ok 1000000500000 := by decide +kernel
  refine ⟨hparse, fun h => ?_, fun db => by simp [Database.setTariff]⟩
  obtain ⟨-, -, -, -, -, hle⟩ := h.exact _ hparse
  norm_num at hle

end Railwatch
