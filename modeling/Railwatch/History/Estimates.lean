/-
# Estimated input and delivered output

The wall input of a piece is integrated from the estimates of its two samples,
the output from their powers.  An estimate is a power over an efficiency of at
most 100%, so it is not below the power, and every step from the readings to a
row keeps this order: the straight line (`powerLine_le`), its trapezoid
(`Intervals.trapezoid_le`), the rounding (`Intervals.roundAway_mono`) and the
saturating cast.

Where a sample has no estimate the piece has output and no input.  A sum of
pieces is ordered all the same if its input is observed for all of the observed
time, since then each of its pieces has an estimate (`EnergyRow.Plausible.add`).
-/

import Railwatch.History.Coverage

namespace Railwatch

open Sql Intervals

/-! ### Monotonicity -/

/-- The saturating cast keeps the order. -/
theorem saturateI64_mono : Monotone saturateI64 := fun _ _ h =>
  max_le_max le_rfl (min_le_min h le_rfl)

section Integrate

variable {start wall left right left' right' : ℤ} {piece : Piece} (hwall : 0 < wall)
  (h₁ : start ≤ piece.start) (h₂ : piece.start ≤ piece.stop) (h₃ : piece.stop ≤ start + wall)
include hwall h₁ h₂ h₃

/-- **Higher readings integrate to more energy.** The power between them is on a line
that is higher at both ends, and rounding is monotone. -/
theorem integrate_le_integrate (hl : left ≤ left') (hr : right ≤ right') :
    integrate start wall piece.start piece.stop left right ≤
      integrate start wall piece.start piece.stop left' right' := by
  rw [integrate_eq_trapezoid hwall.ne', integrate_eq_trapezoid hwall.ne']
  refine saturateI64_mono (roundAway_mono (div_le_div_of_nonneg_right ?_ (by norm_num)))
  exact trapezoid_le h₂ (powerLine_le hwall hl hr h₁ (h₂.trans h₃))
    (powerLine_le hwall hl hr (h₁.trans h₂) h₃)

/-- The energy of powers that are not negative is not negative. -/
theorem integrate_nonneg (hl : 0 ≤ left) (hr : 0 ≤ right) :
    0 ≤ integrate start wall piece.start piece.stop left right := by
  have hhalf : ⌊(2 : ℚ)⁻¹⌋ = 0 := by norm_num
  have hzero : integrate start wall piece.start piece.stop 0 0 = 0 := by
    simp [integrate, roundAway, saturateI64, hhalf]
  rw [← hzero]
  exact integrate_le_integrate hwall h₁ h₂ h₃ hl hr

end Integrate

/-- An estimate is not below the power. -/
theorem Telemetry.powerUw_le_estimatedInputUw {t : Telemetry} {a : ℤ} (ht : 0 ≤ t.powerUw)
    (ha : t.estimatedInputUw = some a) : t.powerUw ≤ a := by
  unfold Telemetry.estimatedInputUw at ha
  split_ifs at ha with h
  obtain rfl := Option.some.inj ha
  rw [Int.tdiv_eq_ediv_of_nonneg (by omega), Int.le_ediv_iff_mul_le h.1]
  exact mul_le_mul_of_nonneg_left h.2 ht

/-! ### Rows -/

/-- Energies are not negative, and where the input is observed all the time it
is not below the output. -/
structure EnergyRow.Plausible (r : EnergyRow) : Prop where
  /-- A power supply gives energy. -/
  output : 0 ≤ r.outputUj
  /-- And takes it. -/
  input : 0 ≤ r.inputUj
  /-- The input is not observed longer than the output. -/
  within : r.InputWithinOutput
  /-- What it gives it has taken, as far as both were observed. -/
  order : r.inputObservedMs = r.observedMs → r.outputUj ≤ r.inputUj

/-- A row with nothing in it is plausible. -/
theorem EnergyRow.plausible_zero : (0 : EnergyRow).Plausible :=
  ⟨le_rfl, le_rfl, EnergyRow.inputWithinOutput_zero, fun _ => le_rfl⟩

/-- If the input of a sum is observed all the time, that of each part is. -/
theorem EnergyRow.Plausible.add {a b : EnergyRow} (ha : a.Plausible) (hb : b.Plausible) :
    (a + b).Plausible := by
  obtain ⟨-, ha'⟩ := ha.within
  obtain ⟨-, hb'⟩ := hb.within
  refine ⟨add_nonneg ha.output hb.output, add_nonneg ha.input hb.input, ha.within.add hb.within,
    fun h => ?_⟩
  rw [EnergyRow.add_inputObservedMs, EnergyRow.add_observedMs] at h
  exact add_le_add (ha.order (by omega)) (hb.order (by omega))

/-- A piece of an interval between two powers in range has plausible energies: none is
negative, and with a full estimate the input is at least the output, because an estimate
is never below the power it is made from. -/
theorem plausible_minuteRow {p s : Telemetry} (hp : 0 ≤ p.powerUw ∧ p.powerUw ≤ 2500000000)
    (hs : 0 ≤ s.powerUw ∧ s.powerUw ≤ 2500000000) (hwall : p.capturedAtMs < s.capturedAtMs)
    {piece : Piece} (hpiece : piece ∈ minutePieces p s) :
    (minuteRow p s piece.start piece.stop).Plausible := by
  obtain ⟨h₁, h₂, h₃, -⟩ := minutePieces_mem hwall hpiece
  have hwall' : 0 < s.capturedAtMs - p.capturedAtMs := sub_pos.2 hwall
  have hend : piece.stop ≤ p.capturedAtMs + (s.capturedAtMs - p.capturedAtMs) := by omega
  have houtput := integrate_nonneg hwall' h₁ h₂.le hend hp.1 hs.1
  by_cases husable : p.usableEfficiency ∧ s.usableEfficiency
  · obtain ⟨a, ha⟩ := Option.isSome_iff_exists.1 (p.estimatedInputUw_isSome.2 husable.1)
    obtain ⟨b, hb⟩ := Option.isSome_iff_exists.1 (s.estimatedInputUw_isSome.2 husable.2)
    obtain ⟨hinput, hobserved⟩ := minuteRow_of_estimates ha hb piece.start piece.stop
    refine ⟨houtput, ?_, ?_, fun _ => ?_⟩
    · rw [hinput]
      exact integrate_nonneg hwall' h₁ h₂.le hend (Telemetry.estimatedInputUw_bounds hp ha).1
        (Telemetry.estimatedInputUw_bounds hs hb).1
    · rw [EnergyRow.InputWithinOutput, hobserved]
      exact ⟨sub_nonneg.2 h₂.le, le_rfl⟩
    · rw [hinput]
      exact integrate_le_integrate hwall' h₁ h₂.le hend
        (Telemetry.powerUw_le_estimatedInputUw hp.1 ha)
        (Telemetry.powerUw_le_estimatedInputUw hs.1 hb)
  · obtain ⟨hinput, hobserved⟩ := minuteRow_of_not_usable husable piece.start piece.stop
    refine ⟨houtput, hinput.ge, ?_, fun heq => ?_⟩
    · rw [EnergyRow.InputWithinOutput, hobserved]
      exact ⟨le_rfl, sub_nonneg.2 h₂.le⟩
    · -- the piece is not empty, so this cannot be
      rw [hobserved] at heq
      exact absurd heq (sub_pos.2 h₂).ne

/-- **Estimated wall energy is never below delivered energy.**  After any
sequence of calls whose samples have powers in the decoder's range, whatever
their efficiencies: no row has a negative energy, and a row whose input is
observed for all of its observed time has at least as much input as output. -/
theorem estimated_input_is_not_below_output (ops : List HistoryOp)
    (hpower : ∀ t ∈ deliveredSamples ops, 0 ≤ t.powerUw ∧ t.powerUw ≤ 2500000000) :
    ∀ k r, (History.run {} ops).db.energy.find? k = some r →
      0 ≤ r.outputUj ∧ 0 ≤ r.inputUj ∧
        (r.inputObservedMs = r.observedMs → r.outputUj ≤ r.inputUj) := by
  rintro ⟨device, minute⟩ r h
  have hrow : r.Plausible := by
    rw [row_eq_sum_pairRow h]
    refine List.sum_induction EnergyRow.Plausible (fun _ _ => EnergyRow.Plausible.add)
      EnergyRow.plausible_zero fun x hx => ?_
    obtain ⟨⟨p, s⟩, hpair, rfl⟩ := List.mem_map.1 hx
    obtain ⟨hp, hs, -⟩ := History.integratedPairs_mem hpair
    refine List.sum_induction EnergyRow.Plausible (fun _ _ => EnergyRow.Plausible.add)
      EnergyRow.plausible_zero fun x hx => ?_
    obtain ⟨piece, hpiece, rfl⟩ := List.mem_map.1 hx
    split_ifs
    · exact plausible_minuteRow (hpower p hp) (hpower s hs) (wall_of_mem_integratedPairs hpair)
        hpiece
    · exact EnergyRow.plausible_zero
  exact ⟨hrow.output, hrow.input, hrow.order⟩

/-- Two samples at an efficiency of 90%, a second apart. -/
theorem estimated_input_is_not_below_output_of_a_second :
    let ops : List HistoryOp :=
      [.record (steadySample 1 0) 3500, .record (steadySample 2 1000) 3500]
    ∃ r, (History.run {} ops).db.energy.find? ("demo-ai1600ts", 0) = some r ∧
      r.inputObservedMs = r.observedMs ∧ r.outputUj ≤ r.inputUj := by
  intro ops
  have hrow : ((History.run {} ops).db.energy.find? ("demo-ai1600ts", 0)).any
      (fun r => r.inputObservedMs = r.observedMs) = true := by decide +kernel
  obtain ⟨r, hfind, hr⟩ := (Option.any_eq_true _ _).1 hrow
  have hr := of_decide_eq_true hr
  exact ⟨r, hfind, hr,
    (estimated_input_is_not_below_output ops (by decide +kernel) _ r hfind).2.2 hr⟩

end Railwatch
