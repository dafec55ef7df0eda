/-
# Rounded trapezoids

The area under a straight line over an interval is its trapezoid, so over a
tiling the trapezoids add up to the one of the whole interval
(`sum_trapezoid`).  Rounding one of them to a whole number costs at most one half
(`abs_roundAway_sub_le`), and such errors add up (`abs_sum_map_sub_le`).

`roundAway` rounds halves away from zero, as `f64::round` does.  It is monotone, so that
bounds on the area are bounds on what is stored.
-/

import Railwatch.General.Intervals

namespace Intervals

/-- The nearest whole number, halves away from zero. -/
def roundAway (x : ℚ) : ℤ := if 0 ≤ x then ⌊x + 1 / 2⌋ else ⌈x - 1 / 2⌉

/-- Rounding moves a number by half at most. -/
theorem abs_roundAway_sub_le (x : ℚ) : |(roundAway x : ℚ) - x| ≤ 1 / 2 := by
  unfold roundAway
  split_ifs with h
  · have h₁ := Int.floor_le (x + 1 / 2)
    have h₂ := Int.lt_floor_add_one (x + 1 / 2)
    rw [abs_le]
    constructor <;> linarith
  · have h₁ := Int.le_ceil (x - 1 / 2)
    have h₂ := Int.ceil_lt_add_one (x - 1 / 2)
    rw [abs_le]
    constructor <;> linarith

/-- It keeps the sign. -/
theorem roundAway_nonneg {x : ℚ} (h : 0 ≤ x) : 0 ≤ roundAway x := by
  rw [roundAway, if_pos h]
  exact Int.floor_nonneg.2 (by linarith)

/-- A larger number is not rounded to a smaller one. -/
theorem roundAway_mono : Monotone roundAway := by
  intro x y h
  unfold roundAway
  split_ifs with hx hy hy
  · exact Int.floor_mono (by linarith)
  · exact absurd (hx.trans h) hy
  · have hle : ⌈x - 1 / 2⌉ ≤ 0 := Int.ceil_le.2 (by push_cast; linarith)
    exact hle.trans (Int.floor_nonneg.2 (by linarith))
  · exact Int.ceil_mono (by linarith)

/-- It does not pass an integer. -/
theorem roundAway_le {x : ℚ} {n : ℤ} (h : 0 ≤ x) (hn : x ≤ n) : roundAway x ≤ n := by
  rw [roundAway, if_pos h, ← Int.lt_add_one_iff, Int.floor_lt]
  push_cast
  linarith

/-- An integer is kept. -/
theorem roundAway_intCast (n : ℤ) : roundAway n = n := by
  unfold roundAway
  split_ifs
  · rw [Int.floor_eq_iff]
    constructor <;> linarith
  · rw [Int.ceil_eq_iff]
    constructor <;> linarith

/-- So it keeps a bound that is an integer. -/
theorem abs_roundAway_le {x : ℚ} {n : ℤ} (h : |x| ≤ n) : |roundAway x| ≤ n := by
  obtain ⟨hlow, hhigh⟩ := abs_le.1 h
  refine abs_le.2 ⟨?_, ?_⟩
  · rw [← roundAway_intCast (-n)]
    exact roundAway_mono (by push_cast; exact hlow)
  · rw [← roundAway_intCast n]
    exact roundAway_mono hhigh

/-- Errors of terms add up to an error of the sum. -/
theorem abs_sum_map_sub_le {α : Type*} {l : List α} {f g e : α → ℚ}
    (h : ∀ a ∈ l, |f a - g a| ≤ e a) : |(l.map f).sum - (l.map g).sum| ≤ (l.map e).sum := by
  induction l with
  | nil => simp
  | cons a l ih =>
      have hhead := h a List.mem_cons_self
      have htail := ih fun b hb => h b (List.mem_cons_of_mem a hb)
      rw [List.map_cons, List.map_cons, List.map_cons, List.sum_cons, List.sum_cons,
        List.sum_cons, add_sub_add_comm]
      exact (abs_add_le _ _).trans (add_le_add hhead htail)

/-- The trapezoid under `f` over an interval. -/
def trapezoid (f : ℚ → ℚ) (p : Piece) : ℚ := (f p.start + f p.stop) / 2 * (p.stop - p.start)

/-- Under a straight line it is a difference of a primitive. -/
theorem trapezoid_affine (c d : ℚ) (p : Piece) :
    trapezoid (fun x => c + d * x) p =
      (c * p.stop + d * p.stop ^ 2 / 2) - (c * p.start + d * p.start ^ 2 / 2) := by
  unfold trapezoid
  ring

/-- **The trapezoids under a straight line add up over a tiling.** They are the
differences of one quadratic function at the ends of the tiles, and these telescope. -/
theorem Tiles.sum_trapezoid {ps : List Piece} {a b : ℤ} (h : Tiles ps a b) (c d : ℚ) :
    (ps.map (trapezoid fun x => c + d * x)).sum = trapezoid (fun x => c + d * x) ⟨a, b⟩ := by
  rw [trapezoid_affine, ← h.sum_sub fun x : ℤ => c * x + d * (x : ℚ) ^ 2 / 2]
  exact congrArg List.sum (List.map_congr_left fun p _ => trapezoid_affine c d p)

/-- A trapezoid under the higher ends is not smaller. -/
theorem trapezoid_le {f g : ℚ → ℚ} {p : Piece} (hp : p.start ≤ p.stop)
    (hs : f p.start ≤ g p.start) (he : f p.stop ≤ g p.stop) : trapezoid f p ≤ trapezoid g p := by
  have hlen : (0 : ℚ) ≤ p.stop - p.start := by exact_mod_cast sub_nonneg.2 hp
  exact mul_le_mul_of_nonneg_right (by linarith) hlen

/-- A trapezoid between two levels. -/
theorem trapezoid_bounds {f : ℚ → ℚ} {p : Piece} {lo hi : ℚ} (hp : p.start ≤ p.stop)
    (hs : lo ≤ f p.start ∧ f p.start ≤ hi) (he : lo ≤ f p.stop ∧ f p.stop ≤ hi) :
    lo * p.length ≤ trapezoid f p ∧ trapezoid f p ≤ hi * p.length := by
  have hlen : (0 : ℚ) ≤ p.stop - p.start := by exact_mod_cast sub_nonneg.2 hp
  unfold trapezoid Piece.length
  push_cast
  constructor <;> refine mul_le_mul_of_nonneg_right ?_ hlen <;> linarith [hs.1, hs.2, he.1, he.2]

end Intervals
