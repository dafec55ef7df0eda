/-
# Spread and deviation

How far numbers lie apart, and how far they lie from their mean.  To stay with
whole numbers the deviation is scaled with how many there are (`scaled`), and
`le_relative_iff` says that a threshold on it is one on the deviation relative to
the mean.  Nothing here depends on the order of the numbers (`*_comp`).

The mean itself is a rational number and appears in statements only; a maximum is
bounded by `largest_le_iff` and reached by `exists_eq_largest`.
-/

import Mathlib

namespace Deviation

variable {ι : Type*} [Fintype ι]

/-- The sum of some numbers. -/
def total (f : ι → ℤ) : ℤ := ∑ i, f i

/-- Their mean. -/
def mean (f : ι → ℤ) : ℚ := total f / Fintype.card ι

variable [Nonempty ι]

/-- The largest of some values. -/
def largest {β : Type*} [LinearOrder β] (f : ι → β) : β :=
  Finset.univ.sup' Finset.univ_nonempty f

/-- The distance of the largest number from the smallest. -/
def spread (f : ι → ℤ) : ℤ := largest f - Finset.univ.inf' Finset.univ_nonempty f

/-- The largest deviation from the mean, times the number of the numbers. -/
def scaled (f : ι → ℤ) : ℤ := largest fun i => |Fintype.card ι * f i - total f|

/-- The largest deviation from the mean, relative to it. -/
def relative (f : ι → ℤ) : ℚ := (largest fun i => |f i - mean f|) / mean f

/-! ### The largest value -/

/-- No value is above the largest. -/
theorem le_largest {β : Type*} [LinearOrder β] (f : ι → β) (i : ι) : f i ≤ largest f :=
  Finset.le_sup' f (Finset.mem_univ i)

/-- A bound of the largest value is one of all of them. -/
theorem largest_le_iff {β : Type*} [LinearOrder β] {f : ι → β} {b : β} :
    largest f ≤ b ↔ ∀ i, f i ≤ b := by
  simp [largest]

/-- The largest value is one of the values. -/
theorem exists_eq_largest {β : Type*} [LinearOrder β] (f : ι → β) : ∃ i, f i = largest f := by
  obtain ⟨i, -, hi⟩ := Finset.exists_mem_eq_sup' Finset.univ_nonempty f
  exact ⟨i, hi.symm⟩

/-- It does not depend on the order of the values. -/
theorem largest_comp {β : Type*} [LinearOrder β] (f : ι → β) (σ : Equiv.Perm ι) :
    largest (f ∘ σ) = largest f := by
  refine le_antisymm (largest_le_iff.2 fun i => le_largest f (σ i)) (largest_le_iff.2 fun i => ?_)
  have := le_largest (f ∘ σ) (σ.symm i)
  rwa [Function.comp_apply, Equiv.apply_symm_apply] at this

/-- A monotone map may be applied to the largest value. -/
theorem map_largest {β γ : Type*} [LinearOrder β] [LinearOrder γ] {g : β → γ} (hg : Monotone g)
    (f : ι → β) : g (largest f) = largest fun i => g (f i) :=
  map_finset_sup' (OrderHom.mk g hg) Finset.univ_nonempty f

/-! ### Order does not matter -/

omit [Nonempty ι] in
/-- Nor does the total. -/
theorem total_comp (f : ι → ℤ) (σ : Equiv.Perm ι) : total (f ∘ σ) = total f :=
  Equiv.sum_comp σ f

/-- Nor the spread. -/
theorem spread_comp (f : ι → ℤ) (σ : Equiv.Perm ι) : spread (f ∘ σ) = spread f := by
  have hmin : Finset.univ.inf' Finset.univ_nonempty (f ∘ σ) =
      Finset.univ.inf' Finset.univ_nonempty f := largest_comp (β := ℤᵒᵈ) f σ
  rw [spread, spread, largest_comp, hmin]

/-- Nor the deviation. -/
theorem scaled_comp (f : ι → ℤ) (σ : Equiv.Perm ι) : scaled (f ∘ σ) = scaled f := by
  rw [scaled, scaled, total_comp]
  exact largest_comp (fun i => |Fintype.card ι * f i - total f|) σ

/-! ### Bounds and thresholds -/

/-- **Of several numbers none of which is negative, none deviates by more than all
the others together.** -/
theorem scaled_le [Nontrivial ι] {f : ι → ℤ} (hf : ∀ i, 0 ≤ f i) :
    scaled f ≤ (Fintype.card ι - 1) * total f := by
  have hcard : (2 : ℤ) ≤ Fintype.card ι := by
    exact_mod_cast Nat.succ_le_of_lt (Fintype.one_lt_card (α := ι))
  have htotal : 0 ≤ total f := Finset.sum_nonneg fun i _ => hf i
  refine largest_le_iff.2 fun i => abs_le.2 ⟨?_, ?_⟩
  · have hpos : 0 ≤ (Fintype.card ι : ℤ) * f i := mul_nonneg (by omega) (hf i)
    have hgrow : total f ≤ (Fintype.card ι - 1) * total f :=
      le_mul_of_one_le_left htotal (by omega)
    linarith
  · have hle : f i ≤ total f := Finset.single_le_sum (fun j _ => hf j) (Finset.mem_univ i)
    have hmul := mul_le_mul_of_nonneg_left hle (by omega : (0 : ℤ) ≤ Fintype.card ι)
    rw [sub_mul, one_mul]
    linarith

/-- The scaled deviation is the deviation from the mean. -/
theorem scaled_eq (f : ι → ℤ) :
    (scaled f : ℚ) = Fintype.card ι * largest fun i => |f i - mean f| := by
  have hcard : (0 : ℚ) < Fintype.card ι := by exact_mod_cast Fintype.card_pos
  have hcast : Monotone fun z : ℤ => (z : ℚ) := Int.cast_mono
  have hscale : Monotone fun q : ℚ => Fintype.card ι * q := fun _ _ h =>
    mul_le_mul_of_nonneg_left h hcard.le
  rw [scaled, map_largest hcast, map_largest hscale]
  refine congrArg largest (funext fun i => ?_)
  have hi : (Fintype.card ι : ℚ) * f i - total f = Fintype.card ι * (f i - mean f) := by
    rw [mul_sub, mean, mul_div_cancel₀ _ hcard.ne']
  push_cast
  rw [hi, abs_mul, abs_of_pos hcard]

/-- **A threshold on the relative deviation is one between whole numbers.** Multiplying
by the sum, which is positive, clears both divisions. -/
theorem le_relative_iff {f : ι → ℤ} (h : 0 < total f) (d : ℤ) :
    (d : ℚ) / 100 ≤ relative f ↔ d * total f ≤ 100 * scaled f := by
  have hcard : (0 : ℚ) < Fintype.card ι := by exact_mod_cast Fintype.card_pos
  have htotal : (0 : ℚ) < total f := by exact_mod_cast h
  have hmean : 0 < mean f := div_pos htotal hcard
  have hproduct : (Fintype.card ι : ℚ) * mean f = total f := mul_div_cancel₀ _ hcard.ne'
  rw [relative, div_le_div_iff₀ (by norm_num) hmean, ← mul_le_mul_iff_of_pos_left hcard]
  have hleft : (Fintype.card ι : ℚ) * (d * mean f) = d * total f := by
    rw [← hproduct]
    ring
  have hright : (Fintype.card ι : ℚ) * ((largest fun i => |f i - mean f|) * 100) =
      100 * scaled f := by
    rw [scaled_eq]
    ring
  rw [hleft, hright]
  exact_mod_cast Iff.rfl

/-! ### Lists -/

/-- The largest element of a list. -/
theorem max?_ofFn {β : Type*} [LinearOrder β] {n : ℕ} (f : Fin (n + 1) → β) :
    (List.ofFn f).max? = some (largest f) := by
  rw [List.max?_eq_some_iff]
  obtain ⟨i, hi⟩ := exists_eq_largest f
  refine ⟨(List.mem_ofFn' f _).2 ⟨i, hi⟩, fun b hb => ?_⟩
  obtain ⟨j, rfl⟩ := (List.mem_ofFn' f b).1 hb
  exact le_largest f j

/-- The smallest element of a list. -/
theorem min?_ofFn {n : ℕ} (f : Fin (n + 1) → ℤ) :
    (List.ofFn f).min? = some (Finset.univ.inf' Finset.univ_nonempty f) := by
  rw [List.min?_eq_some_iff]
  obtain ⟨i, -, hi⟩ := Finset.exists_mem_eq_inf' Finset.univ_nonempty f
  refine ⟨(List.mem_ofFn' f _).2 ⟨i, hi.symm⟩, fun b hb => ?_⟩
  obtain ⟨j, rfl⟩ := (List.mem_ofFn' f b).1 hb
  exact Finset.inf'_le f (Finset.mem_univ j)

end Deviation
