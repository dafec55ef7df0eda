/-
# The imbalance rule

`imbalance` avoids the mean by scaling with six and truncates a percentage, and
the policy compares this percentage with two thresholds.  `assertedUnder_iff`
says that no precision is lost: the assertion is the rule over whole numbers,
which is the one over the mean (`assertedUnder_iff_relative`).

The general facts about spread and deviation are those of `General/Deviation`, at
families of six currents; what is special here is that the sums are small, so that the
casts of the source change nothing, and that the percentage is truncated once only.
-/

import Railwatch.Alerts.Sustained
import Railwatch.General.Deviation

namespace Railwatch

open Deviation

/-- The conductor currents of a connector. -/
def conductor (values : Vector ℤ 6) (i : Fin 6) : ℤ := values[i]

/-- The same currents in another order. -/
def permuted (σ : Equiv.Perm (Fin 6)) (values : Vector ℤ 6) : Vector ℤ 6 :=
  Vector.ofFn (conductor values ∘ σ)

/-- The currents a connector can have. -/
def CurrentsInRange (values : Vector ℤ 6) : Prop :=
  ∀ i, 0 ≤ conductor values i ∧ conductor values i ≤ 50000

/-- The currents as a list, in the order of the conductors. -/
theorem toList_eq_ofFn (values : Vector ℤ 6) : values.toList = List.ofFn (conductor values) := by
  refine List.ext_getElem (by simp) fun i h₁ h₂ => ?_
  rw [List.getElem_ofFn, Vector.getElem_toList]
  rfl

/-- Permuting the currents permutes the conductors. -/
theorem conductor_permuted (σ : Equiv.Perm (Fin 6)) (values : Vector ℤ 6) :
    conductor (permuted σ values) = conductor values ∘ σ := by
  funext i
  simp [conductor, permuted]

/-- The sum that `observe` and `imbalance` form. -/
theorem sum_toList (values : Vector ℤ 6) : values.toList.sum = total (conductor values) := by
  rw [toList_eq_ofFn, List.sum_ofFn]
  rfl

/-- What holds of the six conductors holds of the list that the code goes through. -/
theorem CurrentsInRange.mem {values : Vector ℤ 6} (h : CurrentsInRange values) {c : ℤ}
    (hc : c ∈ values.toList) : 0 ≤ c ∧ c ≤ 50000 := by
  rw [toList_eq_ofFn] at hc
  obtain ⟨i, rfl⟩ := List.mem_ofFn.1 hc
  exact h i

/-- Six conductors of at most 50 A make at most 300 A. -/
theorem CurrentsInRange.sum_le {values : Vector ℤ 6} (h : CurrentsInRange values) :
    values.toList.sum ≤ 300000 := by
  rw [sum_toList]
  exact (Finset.sum_le_card_nsmul _ _ 50000 fun i _ => (h i).2).trans (by simp)

/-- **`imbalance` over the currents as a whole.** The deviation is that of the sixfold
currents from their sum, so it is a whole number until the last division, which is cut
off. -/
theorem imbalance_eq (values : Vector ℤ 6) :
    imbalance values =
      if total (conductor values) ≤ 0 then (0, 0)
      else (spread (conductor values),
        asU32 ((scaled (conductor values) * 100).tdiv (total (conductor values)))) := by
  have hmax : (values.toList.map fun c => |c * 6 - total (conductor values)|).max? =
      some (scaled (conductor values)) := by
    rw [toList_eq_ofFn, List.map_ofFn, max?_ofFn, scaled]
    simp only [Function.comp_def, Fintype.card_fin, mul_comm (conductor values _)]
    rfl
  simp only [imbalance, sum_toList, hmax]
  rw [toList_eq_ofFn, max?_ofFn, min?_ofFn]
  rfl

/-- The total of currents that are not negative is not negative. -/
theorem total_nonneg {values : Vector ℤ 6} (h : ∀ i, 0 ≤ conductor values i) :
    0 ≤ total (conductor values) := Finset.sum_nonneg fun i _ => h i

/-- **The percentage fits its `u32`**: it is the truncated quotient, and not above
500. -/
theorem imbalance_percent {values : Vector ℤ 6} (h : ∀ i, 0 ≤ conductor values i) :
    ((imbalance values).2 : ℤ) = 100 * scaled (conductor values) / total (conductor values) ∧
      (imbalance values).2 ≤ 500 := by
  have htotal := total_nonneg h
  have hscaled := scaled_le h
  have hnonneg : 0 ≤ scaled (conductor values) :=
    (abs_nonneg _).trans (le_largest (fun i => |(Fintype.card (Fin 6) : ℤ) * conductor values i -
      total (conductor values)|) 0)
  rw [Fintype.card_fin] at hscaled
  rw [imbalance_eq]
  split_ifs with hzero
  · rw [le_antisymm hzero htotal, Int.ediv_zero]
    exact ⟨rfl, Nat.zero_le _⟩
  · have hle : 100 * scaled (conductor values) / total (conductor values) ≤ 500 := by
      refine Int.ediv_le_of_le_mul (by omega) ?_
      push_cast at hscaled
      linarith
    have hquotient := Int.ediv_nonneg (by omega : 0 ≤ 100 * scaled (conductor values)) htotal
    rw [Int.tdiv_eq_ediv_of_nonneg (by omega), mul_comm]
    simp only [asU32]
    omega

/-- **The assertion is the rule over whole numbers.** The percentage that `imbalance`
returns is cut off, and a threshold that is a whole number is reached by it exactly if
it is reached by the quotient. -/
theorem assertedUnder_iff {values : Vector ℤ 6} (h : ∀ i, 0 ≤ conductor values i) {p : Policy}
    (hvalid : p.validate = .ok ()) :
    assertedUnder p values = true ↔
      p.imbalanceEnabled = true ∧ p.minimumConnectorMa ≤ total (conductor values) ∧
        p.minimumSpreadMa ≤ spread (conductor values) ∧
        p.deviationPercent * total (conductor values) ≤ 100 * scaled (conductor values) := by
  obtain ⟨⟨hmin, -⟩, -⟩ := Policy.bounds_of_validate hvalid
  simp only [assertedUnder, Bool.and_eq_true, decide_eq_true_eq, sum_toList, and_assoc]
  refine and_congr_right fun _ => and_congr_right fun hloaded => ?_
  have hpos : 0 < total (conductor values) := by omega
  have hspread : (imbalance values).1 = spread (conductor values) := by
    rw [imbalance_eq, if_neg (by omega)]
  rw [hspread, ← Nat.cast_le (α := ℤ), (imbalance_percent h).1, Int.le_ediv_iff_mul_le hpos]

/-- **The assertion is the rule over the mean**: the largest deviation, relative to
the mean current, reaches the percentage. -/
theorem assertedUnder_iff_relative {values : Vector ℤ 6} (h : ∀ i, 0 ≤ conductor values i)
    {p : Policy} (hvalid : p.validate = .ok ()) :
    assertedUnder p values = true ↔
      p.imbalanceEnabled = true ∧ p.minimumConnectorMa ≤ total (conductor values) ∧
        p.minimumSpreadMa ≤ spread (conductor values) ∧
        (p.deviationPercent : ℚ) / 100 ≤ relative (conductor values) := by
  obtain ⟨⟨hmin, -⟩, -⟩ := Policy.bounds_of_validate hvalid
  rw [assertedUnder_iff h hvalid]
  refine and_congr_right fun _ => and_congr_right fun hloaded => and_congr_right fun _ => ?_
  have hpos : 0 < total (conductor values) := by omega
  have hrelative := (le_relative_iff hpos (p.deviationPercent : ℤ)).symm
  rwa [Int.cast_natCast] at hrelative

/-- **Trigger and clear exclude each other.** A valid policy has its clear threshold
below its trigger, so that a deviation between the two is neither. -/
theorem not_clearUnder_of_assertedUnder {values : Vector ℤ 6} {p : Policy}
    (hvalid : p.validate = .ok ()) (hasserted : assertedUnder p values = true) :
    clearUnder p values = false := by
  obtain ⟨-, -, hhysteresis, -⟩ := Policy.bounds_of_validate hvalid
  simp only [assertedUnder, Bool.and_eq_true, decide_eq_true_eq] at hasserted
  obtain ⟨⟨⟨henabled, hloaded⟩, hspread⟩, hdeviation⟩ := hasserted
  simp only [clearUnder, henabled, hloaded, decide_true, Bool.not_true, Bool.false_or,
    Bool.or_eq_false_iff, decide_eq_false_iff_not]
  omega

/-- **The order of the conductors does not matter.** Sum, spread and deviation are those
of the six currents as a family, and a permutation of its indices leaves them as they
are. -/
theorem imbalance_permuted (σ : Equiv.Perm (Fin 6)) (values : Vector ℤ 6) :
    imbalance (permuted σ values) = imbalance values ∧
      (permuted σ values).toList.sum = values.toList.sum := by
  rw [imbalance_eq, imbalance_eq, sum_toList, sum_toList, conductor_permuted, total_comp,
    spread_comp, scaled_comp]
  exact ⟨rfl, rfl⟩

/-- It does not matter which conductor carries which current. -/
theorem imbalanceCondition_permuted (p : Policy) (c : ℕ) (σ : Equiv.Perm (Fin 6))
    (values : Vector ℤ 6) :
    imbalanceCondition p c (permuted σ values) = imbalanceCondition p c values := by
  obtain ⟨himbalance, hsum⟩ := imbalance_permuted σ values
  simp only [imbalanceCondition, assertedUnder, clearUnder, himbalance, hsum]

/-- One conductor with more current than the other five, at a given percentage. -/
def uneven (percent : ℕ) : Vector ℤ 6 :=
  Vector.ofFn fun i => if i = 0 then 500 + 5 * percent else 500 - percent

/-- **Every percentage up to 500 is reached** by currents a connector can have. So a
threshold of a valid policy is never out of reach, and 500 is the largest that makes
sense. -/
theorem imbalance_uneven {percent : ℕ} (h : percent ≤ 500) :
    CurrentsInRange (uneven percent) ∧ (imbalance (uneven percent)).2 = percent := by
  have hconductor (i : Fin 6) : conductor (uneven percent) i =
      if i = 0 then 500 + 5 * (percent : ℤ) else 500 - percent := by
    simp [conductor, uneven]
  have hrange : CurrentsInRange (uneven percent) := fun i => by
    rw [hconductor]
    split_ifs <;> omega
  have htotal : total (conductor (uneven percent)) = 3000 := by
    simp only [total, hconductor, Fin.sum_univ_succ, Fin.sum_univ_zero]
    simp [Fin.ext_iff]
    ring
  have hscaled : scaled (conductor (uneven percent)) = 30 * percent := by
    refine le_antisymm (largest_le_iff.2 fun i => ?_) ?_
    · rw [hconductor, htotal, Fintype.card_fin, abs_le]
      split_ifs <;> push_cast <;> constructor <;> omega
    · refine le_trans ?_ (le_largest _ 0)
      rw [hconductor, htotal, Fintype.card_fin, if_pos rfl]
      refine le_trans ?_ (le_abs_self _)
      push_cast
      linarith
  refine ⟨hrange, ?_⟩
  have hpercent := (imbalance_percent fun i => (hrange i).1).1
  rw [htotal, hscaled] at hpercent
  omega

/-- **The imbalance rule is decided exactly.**  For all currents a connector can
have and every policy that is accepted: the percentage is the truncated quotient
and at most 500, every percentage up to 500 is reached, `observe` asserts the
connector exactly by the rule over whole numbers and never asserts and clears it
together, and it decides the same in any order of the conductors. -/
theorem imbalance_is_decided_exactly (t : Telemetry) (p : Policy) (c : ℕ) (values : Vector ℤ 6)
    (hvalues : t.connectorCurrentsMa[c]? = some values) (hrange : CurrentsInRange values)
    (hvalid : p.validate = .ok ()) :
    (((imbalance values).2 : ℤ) =
        100 * scaled (conductor values) / total (conductor values) ∧
      (imbalance values).2 ≤ 500) ∧
    (∀ percent ≤ 500, ∃ currents, CurrentsInRange currents ∧
      (imbalance currents).2 = percent) ∧
    ∃ condition, (conditions t p)[imbalanceKind c]? = some condition ∧
      (condition.asserted = true ↔
        p.imbalanceEnabled = true ∧ p.minimumConnectorMa ≤ total (conductor values) ∧
          p.minimumSpreadMa ≤ spread (conductor values) ∧
          p.deviationPercent * total (conductor values) ≤ 100 * scaled (conductor values)) ∧
      ¬(condition.asserted = true ∧ condition.clear = true) ∧
      ∀ (σ : Equiv.Perm (Fin 6)) (t' : Telemetry),
        t'.connectorCurrentsMa[c]? = some (permuted σ values) →
          (conditions t' p)[imbalanceKind c]? = some condition := by
  have hpos := fun i => (hrange i).1
  refine ⟨imbalance_percent hpos, fun percent h => ⟨_, imbalance_uneven h⟩,
    imbalanceCondition p c values, conditions_imbalanceKind hvalues p,
    assertedUnder_iff hpos hvalid, ?_, fun σ t' ht' => ?_⟩
  · rintro ⟨hasserted, hclear⟩
    exact Bool.false_ne_true ((not_clearUnder_of_assertedUnder hvalid hasserted).symm.trans hclear)
  · rw [conditions_imbalanceKind ht' p, imbalanceCondition_permuted]

/-- A connector one of whose conductors carries nothing. -/
theorem imbalance_is_decided_exactly_of_a_loose_conductor :
    ∃ condition,
      (conditions (simulatedSample 0 true) default)[imbalanceKind 1]? = some condition ∧
        condition.asserted = true ∧ condition.clear = false := by
  obtain ⟨-, -, condition, hcondition, hasserted, hclear, -⟩ :=
    imbalance_is_decided_exactly (simulatedSample 0 true) default 1
      #v[0, 3000, 3000, 3000, 3000, 3000] rfl (by unfold CurrentsInRange conductor; decide) rfl
  have htrue : condition.asserted = true := hasserted.2 ⟨rfl, by decide, by decide, by decide⟩
  exact ⟨condition, hcondition, htrue, Bool.eq_false_iff.2 fun h => hclear ⟨htrue, h⟩⟩

end Railwatch
