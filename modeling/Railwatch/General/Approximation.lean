/-
# Errors of machine arithmetic

How far the result of a computation in binary64 is from the number it stands for.

A rounding is `Accurate` if it moves no number by more than half of its last place,
which is a share of `2 ^ (-53)` of it, or a share of the smallest number of all.
`Approx n size x t` says that `x` stands for `t`: it is off by at most `n` such shares
of `size`, which `t` does not exceed.  Sums and multiples of approximations are
approximations with the same number of shares (`Approx.add`, `Approx.scale`), a
quotient by a rounded divisor costs two and a little more (`Approx.div`), and every
rounded operation one and a little more (`Approx.op`), so that the error of a program
is counted by its operations.
-/

import Railwatch.General.Machine

namespace Machine

/-! ### One rounding -/

/-- Rounding to the nearest integer moves a number by half at most. -/
theorem abs_roundEven_sub_le (x : ℚ) : |(roundEven x : ℚ) - x| ≤ 1 / 2 := by
  have hlow := Int.floor_le x
  have hhigh := Int.lt_floor_add_one x
  unfold roundEven
  split_ifs <;> rw [abs_le] <;> push_cast <;> constructor <;> linarith

/-- The last place of a number is a share of the number, or the smallest of all. -/
theorem two_zpow_lastPlace_le {x : ℚ} (hx : x ≠ 0) :
    (2 : ℚ) ^ lastPlace x ≤ |x| / 2 ^ 52 + 2 ^ (-1074 : ℤ) := by
  have hshare : 0 ≤ |x| / 2 ^ 52 := by positivity
  have htiny : (0 : ℚ) ≤ 2 ^ (-1074 : ℤ) := by positivity
  unfold lastPlace
  rcases max_choice (Int.log 2 |x| - 52) (-1074) with heq | heq <;> rw [heq]
  · have hlog : (2 : ℚ) ^ Int.log 2 |x| ≤ |x| :=
      Int.zpow_log_le_self Nat.one_lt_two (abs_pos.2 hx)
    have hplace : (2 : ℚ) ^ Int.log 2 |x| / 2 ^ (52 : ℤ) ≤ |x| / 2 ^ 52 :=
      div_le_div_of_nonneg_right hlog (by positivity)
    rw [zpow_sub₀ two_ne_zero]
    linarith
  · linarith

/-- **Rounding moves a number by half of its last place at most.** The last place is `2
^ (-53)` of the number, and `2 ^ (-1074)` for the smallest ones, whose places do not get
any smaller. -/
theorem abs_round64_sub_le (x : ℚ) : |round64 x - x| ≤ |x| / 2 ^ 53 + 2 ^ (-1075 : ℤ) := by
  rcases eq_or_ne x 0 with rfl | hx
  · have hzero : round64 0 = 0 := round64_of_eq (n := 0) (by rw [zero_div, Int.cast_zero])
    rw [hzero, sub_zero, abs_zero]
    positivity
  have hpow : (0 : ℚ) < 2 ^ lastPlace x := by positivity
  have hround := abs_roundEven_sub_le (x / 2 ^ lastPlace x)
  have hscaled : round64 x - x =
      (roundEven (x / 2 ^ lastPlace x) - x / 2 ^ lastPlace x) * 2 ^ lastPlace x := by
    rw [round64, sub_mul, div_mul_cancel₀ _ hpow.ne']
  have htiny : (2 : ℚ) ^ (-1074 : ℤ) = 2 ^ (-1075 : ℤ) * 2 := zpow_add_one₀ two_ne_zero (-1075)
  calc |round64 x - x|
      ≤ 1 / 2 * 2 ^ lastPlace x := by
        rw [hscaled, abs_mul, abs_of_pos hpow]
        exact mul_le_mul_of_nonneg_right hround hpow.le
    _ ≤ 1 / 2 * (|x| / 2 ^ 52 + 2 ^ (-1074 : ℤ)) :=
        mul_le_mul_of_nonneg_left (two_zpow_lastPlace_le hx) (by norm_num)
    _ = |x| / 2 ^ 53 + 2 ^ (-1075 : ℤ) := by
        rw [htiny]
        ring

/-- A rounding to the nearest number with 53 bits. -/
def Rounding.Accurate (r : Rounding) : Prop :=
  ∀ x : ℚ, |r.apply x - x| ≤ |x| / 2 ^ 53 + 2 ^ (-1075 : ℤ)

/-- **Binary64 is accurate**, which is what the bounds below are for. -/
theorem binary64_accurate : binary64.Accurate := abs_round64_sub_le

/-! ### Approximations -/

/-- `x` stands for `t`, and is off by at most `n` shares of `size`. A share is `2 ^
(-53)`, so that `n` is the number of roundings in `x`, and a little more. -/
structure Approx (n size x t : ℚ) : Prop where
  /-- What `x` stands for is not larger than the size. -/
  size_le : |t| ≤ size
  /-- And `x` is not far from it. -/
  error_le : |x - t| ≤ n * size / 2 ^ 53

namespace Approx

variable {n size size' x x' t t' : ℚ}

/-- A number stands for itself. -/
theorem refl (h : |t| ≤ size) : Approx 0 size t t where
  size_le := h
  error_le := by
    rw [sub_self, abs_zero, zero_mul, zero_div]

/-- A size is not negative. -/
theorem size_nonneg (h : Approx n size x t) : 0 ≤ size := (abs_nonneg t).trans h.size_le

/-- More shares, and of something larger. -/
theorem mono {n' : ℚ} (h : Approx n size x t) (hn : n ≤ n') (hn' : 0 ≤ n') (hsize : size ≤ size') :
    Approx n' size' x t where
  size_le := h.size_le.trans hsize
  error_le := by
    refine h.error_le.trans (div_le_div_of_nonneg_right ?_ (by positivity))
    exact mul_le_mul hn hsize h.size_nonneg hn'

/-- A sum has the shares of its terms, of the sum of their sizes. -/
theorem add (h : Approx n size x t) (h' : Approx n size' x' t') :
    Approx n (size + size') (x + x') (t + t') where
  size_le := (abs_add_le t t').trans (add_le_add h.size_le h'.size_le)
  error_le := by
    have hsplit : x + x' - (t + t') = (x - t) + (x' - t') := by ring
    rw [hsplit, mul_add, add_div]
    exact (abs_add_le _ _).trans (add_le_add h.error_le h'.error_le)

/-- A multiple. -/
theorem scale (h : Approx n size x t) (c : ℚ) : Approx n (size * |c|) (x * c) (t * c) where
  size_le := by
    rw [abs_mul]
    exact mul_le_mul_of_nonneg_right h.size_le (abs_nonneg c)
  error_le := by
    rw [← sub_mul, abs_mul, ← mul_assoc, mul_div_right_comm]
    exact mul_le_mul_of_nonneg_right h.error_le (abs_nonneg c)

/-- A known number is added, which may make the size smaller. -/
theorem const_add (h : Approx n size x t) (c : ℚ) (hsize : |c + t| ≤ size) :
    Approx n size (c + x) (c + t) where
  size_le := hsize
  error_le := by
    rw [add_sub_add_left_eq_sub]
    exact h.error_le

/-- An approximation is not much larger than what it stands for. -/
theorem abs_le_size (h : Approx n size x t) (hn : n ≤ 2 ^ 20) : |x| ≤ (1 + 1 / 2 ^ 33) * size := by
  have herror : n * size / 2 ^ 53 ≤ 1 / 2 ^ 33 * size := by
    rw [div_le_iff₀ (by positivity)]
    have hshares := mul_le_mul_of_nonneg_right hn h.size_nonneg
    norm_num at hshares ⊢
    linarith
  have hsum : |x| ≤ |x - t| + |t| := by
    have hadd := abs_add_le (x - t) t
    rwa [sub_add_cancel] at hadd
  linarith [h.error_le, h.size_le]

/-- **A share of a whole**, both of them rounded: the shares add up. The denominator is
not zero since it is near the whole, and the sixteenth pays for the product of the two
errors. -/
theorem div {n' whole y : ℚ} (h : Approx n size x t) (h' : Approx n' whole y whole)
    (hwhole : 0 < whole) (hsize : size ≤ whole) (hn : 0 ≤ n ∧ n ≤ 2 ^ 10)
    (hn' : 0 ≤ n' ∧ n' ≤ 2 ^ 10) : Approx (n + n' + 1 / 16) 1 (x / y) (t / whole) := by
  have hwhole_error := h'.error_le
  have hshares : n' * whole / 2 ^ 53 ≤ 1 / 2 ^ 43 * whole := by
    have hmul := mul_le_mul_of_nonneg_right hn'.2 hwhole.le
    rw [div_le_iff₀ (by positivity)]
    norm_num at hmul ⊢
    linarith
  have hy : (1 - 1 / 2 ^ 43) * whole ≤ y := by
    have hlow := (abs_le.1 hwhole_error).1
    linarith
  have hy_pos : 0 < y := lt_of_lt_of_le (mul_pos (by norm_num) hwhole) hy
  refine ⟨?_, ?_⟩
  · rw [abs_div, abs_of_pos hwhole, div_le_one hwhole]
    exact h.size_le.trans hsize
  have hsplit : x / y - t / whole = ((x - t) * whole - t * (y - whole)) / (y * whole) := by
    rw [div_sub_div _ _ hy_pos.ne' hwhole.ne']
    ring
  have hnumerator : |(x - t) * whole - t * (y - whole)| ≤
      (n + n') / 2 ^ 53 * (whole * whole) := by
    have hleft : |(x - t) * whole| ≤ n * whole / 2 ^ 53 * whole := by
      rw [abs_mul, abs_of_pos hwhole]
      refine mul_le_mul_of_nonneg_right (h.error_le.trans ?_) hwhole.le
      exact div_le_div_of_nonneg_right (mul_le_mul_of_nonneg_left hsize hn.1) (by positivity)
    have hright : |t * (y - whole)| ≤ whole * (n' * whole / 2 ^ 53) := by
      rw [abs_mul]
      exact mul_le_mul (h.size_le.trans hsize) hwhole_error (abs_nonneg _) hwhole.le
    have hsub := abs_sub ((x - t) * whole) (t * (y - whole))
    calc |(x - t) * whole - t * (y - whole)|
        ≤ n * whole / 2 ^ 53 * whole + whole * (n' * whole / 2 ^ 53) := by linarith
      _ = (n + n') / 2 ^ 53 * (whole * whole) := by ring
  -- the divisor is smaller than the whole by a factor that the sixteenth covers
  have hfactor : (n + n') * whole ≤ (n + n' + 1 / 16) * y := by
    have hsum : 0 ≤ n + n' + 1 / 16 := by linarith [hn.1, hn'.1]
    have hmul := mul_le_mul_of_nonneg_left hy hsum
    have hcover : 0 ≤ (1 / 16 - (n + n' + 1 / 16) / 2 ^ 43) * whole :=
      mul_nonneg (by linarith [hn.2, hn'.2]) hwhole.le
    linarith
  rw [hsplit, abs_div, abs_of_pos (mul_pos hy_pos hwhole), div_le_iff₀ (mul_pos hy_pos hwhole)]
  refine hnumerator.trans ?_
  have hmul := mul_le_mul_of_nonneg_right hfactor hwhole.le
  calc (n + n') / 2 ^ 53 * (whole * whole)
      = (n + n') * whole * whole / 2 ^ 53 := by ring
    _ ≤ (n + n' + 1 / 16) * y * whole / 2 ^ 53 :=
        div_le_div_of_nonneg_right hmul (by positivity)
    _ = (n + n' + 1 / 16) * 1 / 2 ^ 53 * (y * whole) := by ring

/-- **A rounded operation costs one share and a little more.** The sixteenth pays for
the rounding of the error that was there before. The bounds on the size keep the result
away from the largest and from the smallest numbers. -/
theorem op {r : Rounding} (hr : r.Accurate) {m : ℚ} (h : Approx n size x t)
    (hn : 0 ≤ n ∧ n + 17 / 16 ≤ m ∧ m ≤ 2 ^ 20) (hsmall : size = 0 ∨ 1 / 1000 ≤ size)
    (hlarge : size ≤ 2 ^ 200) : ∃ y, r.op x = some y ∧ Approx m size y t := by
  obtain ⟨hn₀, hm, hm₁⟩ := hn
  have hx := h.abs_le_size (by linarith)
  have hbound : |x| ≤ 2 ^ 201 := by
    have hdouble : (2 : ℚ) ^ 201 = 2 * 2 ^ 200 := by rw [pow_succ]; ring
    have hnonneg := h.size_nonneg
    linarith
  obtain ⟨hop, -⟩ := r.op_of_abs_le (by norm_num) hbound
  refine ⟨r.apply x, hop, h.size_le, ?_⟩
  rcases hsmall with rfl | hsmall
  · -- only zero stands for a number of size zero, and it is kept
    obtain rfl : t = 0 := abs_nonpos_iff.1 h.size_le
    obtain rfl : x = 0 := by
      have herror := h.error_le
      rw [mul_zero, zero_div, sub_zero] at herror
      exact abs_nonpos_iff.1 herror
    have hzero : r.apply 0 = 0 := by simpa using r.intCast 0 (by norm_num)
    rw [hzero, sub_zero, abs_zero, mul_zero, zero_div]
  · have hround := hr x
    have herror := h.error_le
    have htiny : (2 : ℚ) ^ (-1075 : ℤ) ≤ 1 / 32 * size / 2 ^ 53 := by
      have hpow : (2 : ℚ) ^ (-1075 : ℤ) ≤ 2 ^ (-100 : ℤ) :=
        zpow_le_zpow_right₀ one_le_two (by norm_num)
      refine hpow.trans ?_
      norm_num
      linarith
    have hshare : |x| / 2 ^ 53 ≤ (1 + 1 / 2 ^ 33) * size / 2 ^ 53 :=
      div_le_div_of_nonneg_right hx (by positivity)
    have hadd := abs_add_le (r.apply x - x) (x - t)
    rw [sub_add_sub_cancel] at hadd
    have hnonneg := h.size_nonneg
    -- half a unit of the result, the subnormal part, and the error so far
    calc |r.apply x - t|
        ≤ (1 + 1 / 2 ^ 33) * size / 2 ^ 53 + 1 / 32 * size / 2 ^ 53 + n * size / 2 ^ 53 := by
          linarith
      _ = (n + (1 + 1 / 2 ^ 33 + 1 / 32)) * size / 2 ^ 53 := by ring
      _ ≤ m * size / 2 ^ 53 := by
          refine div_le_div_of_nonneg_right (mul_le_mul_of_nonneg_right ?_ hnonneg)
            (by positivity)
          linarith

end Approx

end Machine
