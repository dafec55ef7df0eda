/-
# Machine arithmetic

Operations on integers of a fixed width, and on binary64 numbers.  An operation
has a result if the machine's is what it should be: the exact integer, if it fits
(`checked`), or the exact rational number, rounded, if it is finite
(`Rounding.op`).  Otherwise the machine wraps, panics, or goes on with an infinity.

`binary64` is the rounding to the nearest number with 53 bits, ties to even.  All
that a bound on a computation needs is that a rounding does not leave an interval
that ends with such numbers, and keeps the whole numbers among them.

`Rounding` states these two properties once, so that a computation is bounded for any
rounding that has them, and exact arithmetic, which has them as well, is the reference
that it is compared with.
-/

import Mathlib

namespace Machine

/-! ### Integers -/

/-- A signed integer of a width. -/
def Fits (width : ℕ) (x : ℤ) : Prop := -2 ^ (width - 1) ≤ x ∧ x < 2 ^ (width - 1)

/-- Two comparisons decide it. -/
instance instDecidableFits (width : ℕ) (x : ℤ) : Decidable (Fits width x) := by
  unfold Fits
  infer_instance

/-- A result of an operation, if it fits. -/
def checked (width : ℕ) (x : ℤ) : Option ℤ := if Fits width x then some x else none

/-- A result that is known to be small. -/
theorem checked_of_abs_lt {width : ℕ} {x : ℤ} (h : |x| < 2 ^ (width - 1)) :
    checked width x = some x := by
  obtain ⟨hlow, hhigh⟩ := abs_lt.1 h
  exact if_pos ⟨hlow.le, hhigh⟩

/-- An `i64`. -/
abbrev i64 (x : ℤ) : Option ℤ := checked 64 x

/-- An `i64` holds a number between its bounds, which are written out for `omega`. -/
theorem i64_eq {x : ℤ} (hlow : -9223372036854775808 ≤ x) (hhigh : x < 9223372036854775808) :
    i64 x = some x := if_pos ⟨hlow, hhigh⟩

/-- An `i128`. -/
abbrev i128 (x : ℤ) : Option ℤ := checked 128 x

/-- A cast to `u32` that keeps the number. -/
def u32 (x : ℤ) : Option ℕ := if 0 ≤ x ∧ x < 2 ^ 32 then some x.toNat else none

/-- A `u32` holds a number between its bounds. -/
theorem u32_eq {x : ℤ} (hlow : 0 ≤ x) (hhigh : x < 4294967296) : u32 x = some x.toNat :=
  if_pos ⟨hlow, hhigh⟩

/-- A result that is there is passed on. -/
theorem some_bind {α β : Type} (a : α) (f : α → Option β) : (some a >>= f) = f a := rfl

/-- The sum that a loop forms. -/
def sum (width : ℕ) (l : List ℤ) : Option ℤ := l.foldlM (fun total x => checked width (total + x)) 0

/-- Sums of small numbers do not overflow on the way: the bound counts the terms. -/
theorem foldlM_checked_add {width : ℕ} {l : List ℤ} {bound : ℤ} (hl : ∀ x ∈ l, |x| ≤ bound)
    {total : ℤ} (hbound : |total| + l.length * bound < 2 ^ (width - 1)) :
    l.foldlM (fun total x => checked width (total + x)) total = some (total + l.sum) := by
  induction l generalizing total with
  | nil => rw [List.sum_nil, add_zero]; rfl
  | cons x l ih =>
      have hx := hl x List.mem_cons_self
      have hadd := abs_add_le total x
      have hrest : (0 : ℤ) ≤ l.length * bound :=
        mul_nonneg (Int.natCast_nonneg _) ((abs_nonneg x).trans hx)
      rw [List.length_cons, Nat.cast_succ, add_one_mul] at hbound
      rw [List.foldlM_cons, checked_of_abs_lt (by omega), List.sum_cons, ← add_assoc]
      exact ih (fun y hy => hl y (List.mem_cons_of_mem x hy)) (by omega)

/-- **A sum of small terms.** The partial sums are bounded by the length of the list
times the bound, so that none of them leaves the type either. -/
theorem sum_of_abs_le {width : ℕ} {l : List ℤ} {bound : ℤ} (hl : ∀ x ∈ l, |x| ≤ bound)
    (hbound : l.length * bound < 2 ^ (width - 1)) : sum width l = some l.sum := by
  rw [sum, foldlM_checked_add hl (by rwa [abs_zero, zero_add]), zero_add]

/-! ### Programs that may fail -/

section Fail

variable {ε σ α β : Type}

/-- A program for each element, each of which has a result. -/
theorem mapM_eq_some {f : α → Option β} {g : α → β} {l : List α}
    (h : ∀ a ∈ l, f a = some (g a)) : l.mapM f = some (l.map g) := by
  induction l with
  | nil => rfl
  | cons a l ih =>
      rw [List.mapM_cons, h a List.mem_cons_self, ih fun b hb => h b (List.mem_cons_of_mem a hb)]
      rfl

/-- A program that goes on. -/
theorem run_bind_ok {x : ExceptT ε Option α} {a : α} (h : x.run = some (.ok a))
    (f : α → ExceptT ε Option β) : (x >>= f).run = (f a).run := by
  rw [ExceptT.run_bind, h]
  rfl

/-- A program that ends with an error. -/
theorem run_bind_error {x : ExceptT ε Option α} {e : ε} (h : x.run = some (.error e))
    (f : α → ExceptT ε Option β) : (x >>= f).run = some (.error e) := by
  rw [ExceptT.run_bind, h]
  rfl

/-- A loop of operations none of which overflows. -/
theorem mapM_lift {f : α → Option β} {g : α → β} {l : List α} (h : ∀ a ∈ l, f a = some (g a)) :
    (l.mapM fun a => (ExceptT.lift (f a) : ExceptT ε Option β)).run = some (.ok (l.map g)) := by
  induction l with
  | nil => rfl
  | cons a l ih =>
      have hhead : (ExceptT.lift (f a) : ExceptT ε Option β).run = some (.ok (g a)) := by
        rw [h a List.mem_cons_self]
        rfl
      rw [List.mapM_cons, run_bind_ok hhead,
        run_bind_ok (ih fun b hb => h b (List.mem_cons_of_mem a hb))]
      rfl

/-- **A loop whose turns have results has one.**  The invariant counts the turns, of
which there are at most `limit`; where each turn does what `g` does, so does the
loop. -/
theorem foldlM_spec {f : σ → α → ExceptT ε Option σ} {g : σ → α → Except ε σ}
    {I : ℕ → σ → Prop} {E : Prop} {limit : ℕ} {l : List α}
    (hstep : ∀ n s, n < limit → I n s → ∀ a ∈ l, ∃ x, (f s a).run = some x ∧
      (∀ s', x = .ok s' → I (n + 1) s') ∧ (E → x = g s a))
    {n : ℕ} {s : σ} (h : I n s) (hlimit : n + l.length ≤ limit) :
    ∃ x, (l.foldlM f s).run = some x ∧ (∀ s', x = .ok s' → I (n + l.length) s') ∧
      (E → x = l.foldlM g s) := by
  induction l generalizing n s with
  | nil =>
      refine ⟨.ok s, rfl, fun s' hs' => ?_, fun _ => rfl⟩
      obtain rfl := Except.ok.inj hs'
      exact h
  | cons a l ih =>
      rw [List.length_cons] at hlimit
      obtain ⟨x, hx, hinv, hexact⟩ := hstep n s (by omega) h a List.mem_cons_self
      rw [List.foldlM_cons, List.foldlM_cons]
      cases x with
      | error e =>
          refine ⟨.error e, run_bind_error hx _, fun s' hs' => (by cases hs'), fun he => ?_⟩
          rw [← hexact he]
          rfl
      | ok s' =>
          obtain ⟨y, hy, hinv', hexact'⟩ := ih
            (fun n s hn hs b hb => hstep n s hn hs b (List.mem_cons_of_mem a hb))
            (hinv s' rfl) (by omega)
          refine ⟨y, (run_bind_ok hx _).trans hy, fun s'' hs'' => ?_, fun he => ?_⟩
          · rw [List.length_cons, Nat.add_comm l.length, ← Nat.add_assoc]
            exact hinv' s'' hs''
          · rw [← hexact he]
            exact hexact' he

end Fail

/-! ### Binary64 -/

/-- The nearest whole number, the even one of two. -/
def roundEven (x : ℚ) : ℤ :=
  if x - ⌊x⌋ < 1 / 2 then ⌊x⌋
  else if 1 / 2 < x - ⌊x⌋ then ⌊x⌋ + 1
  else if ⌊x⌋ % 2 = 0 then ⌊x⌋ else ⌊x⌋ + 1

/-- Rounding does not pass an integer from below. -/
theorem roundEven_le {x : ℚ} {n : ℤ} (h : x ≤ n) : roundEven x ≤ n := by
  have hfloor : ⌊x⌋ ≤ n := Int.floor_le_iff.2 (by linarith)
  rcases hfloor.lt_or_eq with hlt | heq
  · unfold roundEven
    split_ifs <;> omega
  · rw [roundEven, heq, if_pos (by linarith)]

/-- Nor from above. -/
theorem le_roundEven {x : ℚ} {n : ℤ} (h : (n : ℚ) ≤ x) : n ≤ roundEven x := by
  have hfloor : n ≤ ⌊x⌋ := Int.le_floor.2 h
  unfold roundEven
  split_ifs <;> omega

/-- So it keeps a bound that is an integer. -/
theorem abs_roundEven_le {x : ℚ} {n : ℤ} (h : |x| ≤ n) : |roundEven x| ≤ n := by
  obtain ⟨hlow, hhigh⟩ := abs_le.1 h
  exact abs_le.2 ⟨le_roundEven (by push_cast; exact hlow), roundEven_le hhigh⟩

/-- An integer is kept. -/
theorem roundEven_intCast (n : ℤ) : roundEven n = n :=
  le_antisymm (roundEven_le le_rfl) (le_roundEven le_rfl)

/-- The exponent of the last place of a number. -/
def lastPlace (x : ℚ) : ℤ := max (Int.log 2 |x| - 52) (-1074)

/-- The nearest number with 53 bits. -/
def round64 (x : ℚ) : ℚ := roundEven (x / 2 ^ lastPlace x) * 2 ^ lastPlace x

/-- A number that is a whole number of last places is kept. -/
theorem round64_of_eq {x : ℚ} {n : ℤ} (h : x / 2 ^ lastPlace x = n) : round64 x = x := by
  have hpow : (2 : ℚ) ^ lastPlace x ≠ 0 := by positivity
  rw [round64, h, roundEven_intCast, ← h, div_mul_cancel₀ _ hpow]

/-- The last place of a number below `2 ^ (53 + k)`, or of that number. The bound itself
is one binary digit longer than all the numbers below it, which is the one exception. -/
theorem lastPlace_le {x : ℚ} {k : ℕ} (h : |x| ≤ 2 ^ (53 + k)) :
    lastPlace x ≤ k ∨ lastPlace x = k + 1 ∧ |x| = 2 ^ (53 + k) := by
  rcases eq_or_ne x 0 with rfl | hx
  · rw [lastPlace, abs_zero, Int.log_zero_right]
    exact .inl (by omega)
  have hlow : (2 : ℚ) ^ Int.log 2 |x| ≤ |x| :=
    Int.zpow_log_le_self Nat.one_lt_two (abs_pos.2 hx)
  have hlog : Int.log 2 |x| ≤ ((53 + k : ℕ) : ℤ) := by
    rw [← zpow_le_zpow_iff_right₀ (one_lt_two : (1 : ℚ) < 2), zpow_natCast]
    exact hlow.trans h
  unfold lastPlace
  rcases hlog.lt_or_eq with hlt | heq
  · exact .inl (by omega)
  · rw [heq, zpow_natCast] at hlow
    exact .inr ⟨by omega, le_antisymm h hlow⟩

/-- At a last place that is not too far to the left the bound is a whole number of such
places, and rounding to the nearest one does not pass it. -/
theorem abs_round64_le {x : ℚ} {m k : ℕ} (hplace : lastPlace x ≤ k) (h : |x| ≤ m * 2 ^ k) :
    |round64 x| ≤ m * 2 ^ k := by
  obtain ⟨j, hj⟩ := Int.eq_ofNat_of_zero_le (sub_nonneg.2 hplace)
  have hpow : (0 : ℚ) < 2 ^ lastPlace x := by positivity
  have hk : (2 : ℚ) ^ k = 2 ^ j * 2 ^ lastPlace x := by
    rw [← zpow_natCast, ← zpow_natCast, ← zpow_add₀ two_ne_zero]
    congr 1
    omega
  have hscaled : |x / 2 ^ lastPlace x| ≤ ((m * 2 ^ j : ℤ) : ℚ) := by
    rw [abs_div, abs_of_pos hpow, div_le_iff₀ hpow]
    push_cast
    rwa [mul_assoc, ← hk]
  have hround : ((|roundEven (x / 2 ^ lastPlace x)| : ℤ) : ℚ) ≤ ((m * 2 ^ j : ℤ) : ℚ) :=
    Int.cast_le.2 (abs_roundEven_le hscaled)
  push_cast at hround
  rw [round64, abs_mul, abs_of_pos hpow, hk, ← mul_assoc]
  exact mul_le_mul_of_nonneg_right hround hpow.le

/-- A power of two is kept. -/
theorem round64_of_abs_eq {x : ℚ} {k : ℕ} (hplace : lastPlace x = k + 1)
    (h : |x| = 2 ^ (53 + k)) : round64 x = x := by
  have hpow : (2 : ℚ) ^ (53 + k) = 2 ^ 52 * 2 ^ ((k : ℤ) + 1) := by
    rw [zpow_add_one₀ two_ne_zero, zpow_natCast]
    ring
  have hne : (2 : ℚ) ^ ((k : ℤ) + 1) ≠ 0 := by positivity
  rcases (abs_eq (by positivity)).1 h with heq | heq
  · refine round64_of_eq (n := 2 ^ 52) ?_
    rw [hplace, heq, hpow, mul_div_cancel_right₀ _ hne]
    norm_num
  · refine round64_of_eq (n := -2 ^ 52) ?_
    rw [hplace, heq, hpow, neg_div, mul_div_cancel_right₀ _ hne]
    norm_num

/-- A rounding, by what it keeps: bounds that are numbers of 53 bits with any exponent,
and integers of 53 bits. -/
structure Rounding where
  apply : ℚ → ℚ
  /-- It does not leave an interval that ends with numbers of 53 bits. -/
  bound : ∀ (x : ℚ) (m k : ℕ), m ≤ 2 ^ 53 → |x| ≤ m * 2 ^ k → |apply x| ≤ m * 2 ^ k
  /-- It keeps whole numbers of 53 bits. -/
  intCast : ∀ n : ℤ, |n| ≤ 2 ^ 53 → apply n = n

namespace Rounding

/-- Exact arithmetic. -/
def exact : Rounding where
  apply := id
  bound _ _ _ _ h := h
  intCast _ _ := rfl

/-- The result of an operation, if it is finite. -/
def op (r : Rounding) (x : ℚ) : Option ℚ :=
  if |r.apply x| < 2 ^ 1024 then some (r.apply x) else none

/-- **A result that is known to be small.** The bound is a number of 53 bits at most, so
rounding does not pass it, and it is far from the largest one. -/
theorem op_spec (r : Rounding) {x : ℚ} {m k : ℕ} (hm : m ≤ 2 ^ 53) (hk : k ≤ 900)
    (h : |x| ≤ m * 2 ^ k) : r.op x = some (r.apply x) ∧ |r.apply x| ≤ m * 2 ^ k := by
  have hbound := r.bound x m k hm h
  have hm' : (m : ℚ) ≤ 2 ^ 53 := by exact_mod_cast hm
  have hk' : (2 : ℚ) ^ k ≤ 2 ^ 900 := pow_le_pow_right₀ (by norm_num) hk
  refine ⟨if_pos (hbound.trans_lt ?_), hbound⟩
  calc (m : ℚ) * 2 ^ k ≤ 2 ^ 53 * 2 ^ 900 := mul_le_mul hm' hk' (by positivity) (by positivity)
    _ = 2 ^ 953 := (pow_add ..).symm
    _ < 2 ^ 1024 := pow_lt_pow_right₀ (by norm_num) (by norm_num)

/-- An operation on numbers of moderate size has a result, and it keeps a bound that is
a power of two. -/
theorem op_of_abs_le (r : Rounding) {x : ℚ} {k : ℕ} (hk : k ≤ 900) (h : |x| ≤ 2 ^ k) :
    r.op x = some (r.apply x) ∧ |r.apply x| ≤ 2 ^ k := by
  have hspec := r.op_spec (m := 1) (by norm_num) hk (by simpa using h)
  simpa using hspec

/-- A whole number is converted as it is. -/
theorem op_intCast (r : Rounding) {n : ℤ} (h : |n| ≤ 2 ^ 53) : r.op n = some (n : ℚ) := by
  have habs : |(n : ℚ)| ≤ (2 ^ 53 : ℕ) * 2 ^ 0 := by
    rw [pow_zero, mul_one]
    exact_mod_cast h
  rw [(r.op_spec le_rfl (Nat.zero_le _) habs).1, r.intCast n h]

end Rounding

/-- **Rounding to the nearest number with 53 bits.** It keeps every bound that is itself
such a number, and every integer of at most 53 bits; these are the two properties of a
`Rounding`. The largest number is no part of it: `Rounding.op` looks for results that
are too large. -/
def binary64 : Rounding where
  apply := round64
  bound x m k hm h := by
    have hm' : (m : ℚ) ≤ 2 ^ 53 := by exact_mod_cast hm
    have hpow : |x| ≤ 2 ^ (53 + k) := by
      rw [pow_add]
      exact h.trans (mul_le_mul_of_nonneg_right hm' (by positivity))
    rcases lastPlace_le hpow with hplace | ⟨hplace, heq⟩
    · exact abs_round64_le hplace h
    · rwa [round64_of_abs_eq hplace heq]
  intCast n h := by
    have hpow : |(n : ℚ)| ≤ 2 ^ (53 + 0) := by exact_mod_cast h
    rcases lastPlace_le hpow with hplace | ⟨hplace, heq⟩
    · obtain ⟨j, hj⟩ := Int.eq_ofNat_of_zero_le (sub_nonneg.2 hplace)
      refine round64_of_eq (n := n * 2 ^ j) ?_
      have hinv : (2 : ℚ) ^ lastPlace (n : ℚ) = (2 ^ j)⁻¹ := by
        rw [← zpow_natCast, ← zpow_neg]
        congr 1
        push_cast at hj
        omega
      rw [hinv, div_inv_eq_mul]
      push_cast
      rfl
    · exact round64_of_abs_eq hplace heq

end Machine
