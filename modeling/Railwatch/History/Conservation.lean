/-
# Energy is conserved

A call to `record` credits the energy of one interval: all of it, once, and to
the minutes it belongs to.

The pieces of the minute loop tile the interval (`Intervals.tiles_cut`), so the
credited times add up to the wall time without an error.  The energy of a piece is
computed in binary64, and `Machine.Approx` counts the rounded operations: they come to
less than sixteen shares of `2 ^ (-53)` of the energy at the higher of the two powers
(`integrate_approx`).  Rounding to whole microjoules adds one half a piece.

An operation that overflows has no result here.  With clocks that are more than a minute
from the ends of an `i64` only the sums of the table can do so, when a row grows beyond
the integers of its columns (`UpsertsFit`); everything else that a call computes has a
result (`step_record`).
-/

import Railwatch.General.Approximation
import Railwatch.History.Arithmetic

namespace Railwatch
namespace Checked

open Machine Sql Intervals

/-! ### The energy of a piece -/

/-- The higher of two powers is a size that approximations may have. -/
theorem highest_size {left right : ℤ} (hl : 0 ≤ left ∧ left ≤ maxPowerUw)
    (hr : 0 ≤ right ∧ right ≤ maxPowerUw) :
    (0 : ℚ) ≤ (max left right : ℤ) ∧
      (((max left right : ℤ) : ℚ) = 0 ∨ 1 ≤ ((max left right : ℤ) : ℚ)) ∧
      ((max left right : ℤ) : ℚ) ≤ 2 ^ 48 := by
  unfold maxPowerUw at hl hr
  have hsmall : max left right = 0 ∨ 1 ≤ max left right := by omega
  have hlarge : max left right ≤ 2 ^ 48 := by omega
  refine ⟨by exact_mod_cast le_max_of_le_left hl.1, ?_, by exact_mod_cast hlarge⟩
  exact hsmall.imp (fun h => by exact_mod_cast h) fun h => by exact_mod_cast h

section Integrate

variable {r : Rounding} (hr : r.Accurate) {start wall at_ end_ left right : ℤ}
include hr

/-- A whole number is converted to within its share. -/
theorem convert_approx {n : ℤ} (hlow : 0 ≤ n) (hhigh : n < 2 ^ 63) :
    ∃ x, r.op n = some x ∧ Approx (17 / 16) n x n := by
  have hnonneg : (0 : ℚ) ≤ n := by exact_mod_cast hlow
  have hlarge : (n : ℚ) ≤ 2 ^ 200 := by
    have h : (n : ℚ) < 2 ^ 63 := by exact_mod_cast hhigh
    linarith [show (2 : ℚ) ^ 63 ≤ 2 ^ 200 by norm_num]
  have hsmall : (n : ℚ) = 0 ∨ 1 / 1000 ≤ (n : ℚ) := by
    rcases hlow.eq_or_lt with rfl | hpos
    · exact .inl Int.cast_zero
    · have hone : (1 : ℚ) ≤ n := by exact_mod_cast hpos
      exact .inr (by linarith)
  exact (Approx.refl (abs_of_nonneg hnonneg).le).op hr (by norm_num) hsmall hlarge

/-- The share that has passed, up to a few units in its last place: two conversions and
a division have been rounded. -/
theorem share_approx (hwall : 0 < wall ∧ wall < 2 ^ 63) {x : ℤ} (hlow : start ≤ x)
    (hhigh : x ≤ start + wall) :
    ∃ a, share r start wall x = some a ∧ Approx (13 / 4) 1 a ((x - start) / wall) := by
  obtain ⟨hpos, hsmall⟩ := hwall
  obtain ⟨passed, hpassed, hpassedApprox⟩ := convert_approx hr (n := x - start) (by omega)
    (by omega)
  obtain ⟨whole, hwhole, hwholeApprox⟩ := convert_approx hr hpos.le hsmall
  have hwall_pos : (0 : ℚ) < wall := by exact_mod_cast hpos
  have hle : ((x - start : ℤ) : ℚ) ≤ wall := by
    have h : x - start ≤ wall := by omega
    exact_mod_cast h
  obtain ⟨a, ha, happrox⟩ := (hpassedApprox.div hwholeApprox hwall_pos hle (by norm_num)
    (by norm_num)).op hr (m := 13 / 4) (by norm_num) (.inr (by norm_num)) (by norm_num)
  refine ⟨a, ?_, ?_⟩
  · unfold share
    rw [i64_eq (by omega) (by omega), some_bind, hpassed, some_bind, hwhole, some_bind, ha]
  · rwa [← Int.cast_sub]

/-- The power behind a share, with the rounding of the product and the sum added to what
the share brings along. It stays below the larger of the two powers, in whose units the
error is counted. -/
theorem powerAt_approx (hl : 0 ≤ left ∧ left ≤ maxPowerUw) (hr' : 0 ≤ right ∧ right ≤ maxPowerUw)
    {a s : ℚ} (ha : Approx (13 / 4) 1 a s) (hs : 0 ≤ s) :
    ∃ power, powerAt r left right a = some power ∧
      Approx (11 / 2) (max left right : ℤ) power (left + (right - left) * s) := by
  obtain ⟨-, hsmall, hlarge⟩ := highest_size hl hr'
  unfold maxPowerUw at hl hr'
  have hs₁ : s ≤ 1 := (le_abs_self s).trans ha.size_le
  have hdifference : |((right - left : ℤ) : ℚ)| ≤ (max left right : ℤ) := by
    have h : |right - left| ≤ max left right := abs_le.2 ⟨by omega, by omega⟩
    exact_mod_cast h
  have hline : |(left : ℚ) + s * ((right - left : ℤ) : ℚ)| ≤ (max left right : ℤ) := by
    have hl₀ : (0 : ℚ) ≤ left := by exact_mod_cast hl.1
    have hr₀ : (0 : ℚ) ≤ right := by exact_mod_cast hr'.1
    have hl₁ : (left : ℚ) ≤ (max left right : ℤ) := by exact_mod_cast le_max_left left right
    have hr₁ : (right : ℚ) ≤ (max left right : ℤ) := by exact_mod_cast le_max_right left right
    have hconvex : (left : ℚ) + s * ((right - left : ℤ) : ℚ) = left * (1 - s) + right * s := by
      push_cast
      ring
    rw [hconvex, abs_of_nonneg (add_nonneg (mul_nonneg hl₀ (by linarith)) (mul_nonneg hr₀ hs))]
    linarith [mul_le_mul_of_nonneg_right hl₁ (sub_nonneg.2 hs₁),
      mul_le_mul_of_nonneg_right hr₁ hs]
  have hscaled : Approx (13 / 4) (max left right : ℤ) (a * ((right - left : ℤ) : ℚ))
      (s * ((right - left : ℤ) : ℚ)) :=
    (ha.scale _).mono le_rfl (by norm_num) (by rwa [one_mul])
  obtain ⟨product, hproduct, hproductApprox⟩ := hscaled.op hr (m := 69 / 16) (by norm_num)
    (hsmall.imp_right fun h => by linarith) (by linarith)
  obtain ⟨power, hpower, happrox⟩ := (hproductApprox.const_add left hline).op hr (m := 11 / 2)
    (by norm_num) (hsmall.imp_right fun h => by linarith) (by linarith)
  refine ⟨power, ?_, ?_⟩
  · have hleft : |left| ≤ 2 ^ 53 := abs_le.2 ⟨by omega, by omega⟩
    have hright : |right - left| ≤ 2 ^ 53 := abs_le.2 ⟨by omega, by omega⟩
    unfold powerAt
    rw [i64_eq (by omega) (by omega), some_bind, r.op_intCast hleft, some_bind,
      r.op_intCast hright, some_bind, mul_comm, hproduct, some_bind, hpower]
  · have htarget : (left : ℚ) + s * ((right - left : ℤ) : ℚ) = left + (right - left) * s := by
      push_cast
      ring
    rwa [← htarget]

/-- **The energy between two powers**, over the length of a piece: their mean, the area
below it, and the microjoules. -/
theorem energy_approx {highest length leftAt rightAt leftPower rightPower : ℚ}
    (hhighest : 0 ≤ highest ∧ (highest = 0 ∨ 1 ≤ highest) ∧ highest ≤ 2 ^ 48)
    (hlength : 0 ≤ length ∧ (length = 0 ∨ 1 ≤ length) ∧ length ≤ 60000)
    (hleft : Approx (11 / 2) highest leftAt leftPower)
    (hright : Approx (11 / 2) highest rightAt rightPower) :
    ∃ total mean area energy, r.op (leftAt + rightAt) = some total ∧
      r.op (total * (1 / 2)) = some mean ∧ r.op (mean * length) = some area ∧
      r.op (area * (1 / 1000)) = some energy ∧
      Approx 16 (highest * length / 1000) energy
        ((leftPower + rightPower) * (1 / 2) * length * (1 / 1000)) := by
  obtain ⟨hnonneg, hsmall, hlarge⟩ := hhighest
  obtain ⟨hlen₀, hlenSmall, hlen₁⟩ := hlength
  -- the mean of the two ends
  obtain ⟨total, htotal, htotalApprox⟩ := (hleft.add hright).op hr (m := 53 / 8)
    (by norm_num) (hsmall.imp (fun h => by rw [h, add_zero]) fun h => by linarith) (by linarith)
  have hhalf : (highest + highest) * |1 / 2| ≤ highest := by norm_num; linarith
  obtain ⟨mean, hmean, hmeanApprox⟩ := ((htotalApprox.scale (1 / 2)).mono le_rfl (by norm_num)
    hhalf).op hr (m := 123 / 16) (by norm_num) (hsmall.imp_right fun h => by linarith)
      (by linarith)
  -- the area below it
  have harea_small : highest * length = 0 ∨ 1 ≤ highest * length := by
    rcases hsmall with h | h
    · exact .inl (by rw [h, zero_mul])
    · rcases hlenSmall with h' | h'
      · exact .inl (by rw [h', mul_zero])
      · exact .inr (one_le_mul_of_one_le_of_one_le h h')
  have harea_nonneg : 0 ≤ highest * length := mul_nonneg hnonneg hlen₀
  have harea_large : highest * length ≤ 2 ^ 48 * 60000 :=
    mul_le_mul hlarge hlen₁ hlen₀ (by norm_num)
  have hlength : highest * |length| ≤ highest * length := by rw [abs_of_nonneg hlen₀]
  obtain ⟨area, harea, hareaApprox⟩ := ((hmeanApprox.scale length).mono le_rfl (by norm_num)
    hlength).op hr (m := 35 / 4) (by norm_num) (harea_small.imp_right fun h => by linarith)
      (by linarith)
  -- the energy, in microjoules
  have hthousandth : highest * length * |1 / 1000| ≤ highest * length / 1000 := by
    norm_num
    linarith
  obtain ⟨energy, henergy, henergyApprox⟩ := ((hareaApprox.scale (1 / 1000)).mono le_rfl
    (by norm_num) hthousandth).op hr (m := 16) (by norm_num)
      (harea_small.imp (fun h => by rw [h, zero_div]) fun h => by linarith) (by linarith)
  exact ⟨total, mean, area, energy, htotal, hmean, harea, henergy, henergyApprox⟩

/-- **The energy of a piece** is that of its trapezoid, to half a microjoule and a share
of the energy at the higher power. -/
theorem integrate_approx (hwall : 0 < wall ∧ wall < 2 ^ 63) (hlow : start ≤ at_)
    (hpiece : at_ ≤ end_) (hhigh : end_ ≤ start + wall) (hlength : end_ - at_ ≤ 60000)
    (hl : 0 ≤ left ∧ left ≤ maxPowerUw) (hr' : 0 ≤ right ∧ right ≤ maxPowerUw) :
    ∃ energy, integrate r start wall at_ end_ left right = some energy ∧
      |(energy : ℚ) - trapezoid (powerLine start wall left right) ⟨at_, end_⟩ / 1000| ≤
        1 / 2 + (max left right : ℤ) * (end_ - at_) / 1000 / 2 ^ 49 := by
  have hhighest := highest_size hl hr'
  obtain ⟨a, ha, haApprox⟩ := share_approx hr hwall hlow (hpiece.trans hhigh)
  obtain ⟨b, hb, hbApprox⟩ := share_approx hr hwall (hlow.trans hpiece) hhigh
  obtain ⟨leftAt, hleftAt, hleftApprox⟩ := powerAt_approx hr hl hr' haApprox
    (share_mem hwall.1 hlow (hpiece.trans hhigh)).1
  obtain ⟨rightAt, hrightAt, hrightApprox⟩ := powerAt_approx hr hl hr' hbApprox
    (share_mem hwall.1 (hlow.trans hpiece) hhigh).1
  rw [← powerLine_apply hwall.1.ne'] at hleftApprox hrightApprox
  have hlength₁ : |end_ - at_| ≤ 2 ^ 53 := abs_le.2 ⟨by omega, by omega⟩
  have hlen : (0 : ℚ) ≤ (end_ - at_ : ℤ) ∧
      (((end_ - at_ : ℤ) : ℚ) = 0 ∨ 1 ≤ ((end_ - at_ : ℤ) : ℚ)) ∧
      ((end_ - at_ : ℤ) : ℚ) ≤ 60000 := by
    have h : end_ - at_ = 0 ∨ 1 ≤ end_ - at_ := by omega
    refine ⟨?_, ?_, ?_⟩
    · exact_mod_cast sub_nonneg.2 hpiece
    · exact h.imp (fun h => by exact_mod_cast h) fun h => by exact_mod_cast h
    · exact_mod_cast hlength
  have htrapezoid : trapezoid (powerLine start wall left right) ⟨at_, end_⟩ / 1000 =
      (powerLine start wall left right at_ + powerLine start wall left right end_) * (1 / 2) *
        ((end_ - at_ : ℤ) : ℚ) * (1 / 1000) := by
    rw [trapezoid, Int.cast_sub]
    ring
  obtain ⟨total, mean, area, energy, htotal, hmean, harea, henergy, henergyApprox⟩ :=
    energy_approx hr hhighest hlen hleftApprox hrightApprox
  rw [htrapezoid, ← Int.cast_sub]
  have hround : |roundAway energy| ≤ 2 ^ 60 := by
    have hsize := henergyApprox.abs_le_size (by norm_num)
    have hbound := mul_le_mul hhighest.2.2 hlen.2.2 hlen.1 (by norm_num)
    exact abs_roundAway_le (by push_cast; linarith)
  have hround' := abs_le.1 hround
  refine ⟨roundAway energy, ?_, ?_⟩
  · unfold integrate
    rw [ha, some_bind, hb, some_bind, hleftAt, some_bind, hrightAt, some_bind,
      i64_eq (by omega) (by omega), some_bind, htotal, some_bind, hmean, some_bind,
      r.op_intCast hlength₁, some_bind, harea, some_bind, div_eq_mul_one_div, henergy,
      some_bind, i64_eq (by omega) (by omega)]
  · have hrounded := abs_roundAway_sub_le energy
    have herror := henergyApprox.error_le
    have hadd := abs_sub_le ((roundAway energy : ℤ) : ℚ) energy
      ((powerLine start wall left right at_ + powerLine start wall left right end_) * (1 / 2) *
        ((end_ - at_ : ℤ) : ℚ) * (1 / 1000))
    linarith

end Integrate

/-! ### The row of a piece -/

/-- The row of a piece, as a turn of the minute loop computes it. -/
def pieceRow (r : Rounding) (p sample : Telemetry) (piece : Piece) : EnergyRow :=
  (turn r p sample (sample.capturedAtMs - p.capturedAtMs) piece.start).elim 0 fun t => t.2.2

/-- Two samples that `record` may integrate between without leaving the machine's
integers: the minutes of the interval end before the last `i64`. -/
structure Span (p sample : Telemetry) : Prop where
  /-- Both powers are in the decoder's range. -/
  powers : (0 ≤ p.powerUw ∧ p.powerUw ≤ 2500000000) ∧
    0 ≤ sample.powerUw ∧ sample.powerUw ≤ 2500000000
  /-- The minutes of both ends are inside of the `i64`. -/
  clocks : -2 ^ 63 + 60000 ≤ p.capturedAtMs ∧ sample.capturedAtMs < 2 ^ 63 - 60000
  /-- The clock goes on, and the difference is an `i64`. -/
  wall : 0 < sample.capturedAtMs - p.capturedAtMs ∧
    sample.capturedAtMs - p.capturedAtMs < 2 ^ 63

/-- An energy is that of a piece of the straight line between two powers. -/
def NearTrapezoid (p sample : Telemetry) (piece : Piece) (left right energy : ℤ) : Prop :=
  |(energy : ℚ) - trapezoid (powerLine p.capturedAtMs (sample.capturedAtMs - p.capturedAtMs)
    left right) piece / 1000| ≤
      1 / 2 + (max left right : ℤ) * (piece.stop - piece.start) / 1000 / 2 ^ 49

/-- What the row of a piece holds: its time, and its energy as far as it is known. An
input without an estimate is zero, for no time at all. -/
structure RowOf (p sample : Telemetry) (piece : Piece) (row : EnergyRow) : Prop where
  /-- All of the piece was observed. -/
  observed : row.observedMs = piece.stop - piece.start
  /-- The input was observed for all of it if both samples have a usable efficiency. -/
  inputObserved : row.inputObservedMs =
    if p.usableEfficiency ∧ sample.usableEfficiency then piece.stop - piece.start else 0
  /-- The output is near the trapezoid of the powers. -/
  output : NearTrapezoid p sample piece p.powerUw sample.powerUw row.outputUj
  /-- The input is near that of the estimates. -/
  input : ∀ a b, p.estimatedInputUw = some a → sample.estimatedInputUw = some b →
    NearTrapezoid p sample piece a b row.inputUj
  /-- Without two estimates it is nothing. -/
  noInput : ¬(p.usableEfficiency ∧ sample.usableEfficiency) → row.inputUj = 0

section Loop

variable {r : Rounding} (hr : r.Accurate) {p sample : Telemetry} (h : Span p sample)
include hr h

/-- The energy of the estimates, near its trapezoid when both samples have a usable
efficiency, and none otherwise. -/
theorem input_approx {at_ end_ : ℤ} (hlow : p.capturedAtMs ≤ at_) (hpiece : at_ ≤ end_)
    (hhigh : end_ ≤ sample.capturedAtMs) (hlength : end_ - at_ ≤ 60000) :
    ∃ energy, input r p sample (sample.capturedAtMs - p.capturedAtMs) at_ end_ = some energy ∧
      (energy.isSome ↔ p.usableEfficiency ∧ sample.usableEfficiency) ∧
      ∀ a b, p.estimatedInputUw = some a → sample.estimatedInputUw = some b →
        NearTrapezoid p sample ⟨at_, end_⟩ a b (energy.getD 0) := by
  obtain ⟨⟨hp, hs⟩, -, hwall⟩ := h
  unfold input
  rw [estimatedInputUw_eq hp, some_bind, estimatedInputUw_eq hs, some_bind]
  by_cases husable : p.usableEfficiency ∧ sample.usableEfficiency
  · obtain ⟨a, ha⟩ := Option.isSome_iff_exists.1 (p.estimatedInputUw_isSome.2 husable.1)
    obtain ⟨b, hb⟩ := Option.isSome_iff_exists.1 (sample.estimatedInputUw_isSome.2 husable.2)
    obtain ⟨energy, henergy, hnear⟩ := integrate_approx hr hwall hlow hpiece (by omega) hlength
      (Telemetry.estimatedInputUw_bounds hp ha) (Telemetry.estimatedInputUw_bounds hs hb)
    refine ⟨some energy, ?_, by simp [husable], fun a' b' ha' hb' => ?_⟩
    · rw [ha, hb]
      dsimp only [Option.bind_some, Option.map_some]
      rw [Option.mapM_some, henergy]
      rfl
    · obtain rfl := Option.some.inj (ha.symm.trans ha')
      obtain rfl := Option.some.inj (hb.symm.trans hb')
      exact hnear
  · refine ⟨none, by rw [estimates_eq_none husable]; rfl, by simp [husable], fun a b ha hb => ?_⟩
    refine absurd ⟨p.estimatedInputUw_isSome.1 ?_, sample.estimatedInputUw_isSome.1 ?_⟩ husable
    · rw [ha]; rfl
    · rw [hb]; rfl

/-- **A turn of the minute loop** credits a piece to its minute. The times have no
error, and the energy has that of the sixteen shares and of one rounding. -/
theorem turn_approx {at_ : ℤ} (hlow : p.capturedAtMs ≤ at_) (hhigh : at_ < sample.capturedAtMs) :
    let piece : Piece := ⟨at_, min (cell 60000 at_ + 60000) sample.capturedAtMs⟩
    turn r p sample (sample.capturedAtMs - p.capturedAtMs) at_ =
        some (cell 60000 at_, piece.stop, pieceRow r p sample piece) ∧
      RowOf p sample piece (pieceRow r p sample piece) := by
  intro piece
  have hcell := cell_le (w := 60000) (by norm_num) at_
  have hcell' := lt_cell_add (w := 60000) (by norm_num) at_
  have hstop : piece.stop = min (cell 60000 at_ + 60000) sample.capturedAtMs := rfl
  have hpiece : at_ ≤ piece.stop := by omega
  obtain ⟨energy, henergy, hsome, hinput⟩ := input_approx hr h hlow hpiece (by omega) (by omega)
  obtain ⟨⟨hp, hs⟩, ⟨hclock₀, hclock₁⟩, hwall⟩ := h
  have hbounds {x : ℤ} (hx : 0 ≤ x ∧ x ≤ 2500000000) : 0 ≤ x ∧ x ≤ maxPowerUw :=
    ⟨hx.1, hx.2.trans (by decide)⟩
  obtain ⟨output, houtput, houtputNear⟩ := integrate_approx hr hwall hlow hpiece
    (by omega) (by omega) (hbounds hp) (hbounds hs)
  have hturn : turn r p sample (sample.capturedAtMs - p.capturedAtMs) at_ =
      some (cell 60000 at_, piece.stop, ⟨output, energy.getD 0, piece.stop - at_,
        if energy.isSome then piece.stop - at_ else 0⟩) := by
    unfold turn
    unfold cell at *
    rw [i64_eq (by omega) (by omega), some_bind, i64_eq (by omega) (by omega), some_bind,
      i64_eq (by omega) (by omega), some_bind]
    dsimp only
    rw [← hstop, houtput, some_bind, henergy, some_bind, i64_eq (by omega) (by omega)]
    rfl
  have hrow : pieceRow r p sample piece = ⟨output, energy.getD 0, piece.stop - at_,
      if energy.isSome then piece.stop - at_ else 0⟩ := by
    unfold pieceRow
    rw [show piece.start = at_ from rfl, hturn]
    rfl
  rw [hturn, hrow]
  refine ⟨rfl, rfl, ?_, houtputNear, hinput, fun hno => ?_⟩
  · exact if_congr hsome rfl rfl
  · rw [← hsome, Option.not_isSome_iff_eq_none] at hno
    rw [hno]
    rfl

/-- The row of each piece of the interval. -/
theorem piece_approx {piece : Piece} (hpiece : piece ∈ minutePieces p sample) :
    turn r p sample (sample.capturedAtMs - p.capturedAtMs) piece.start =
        some (cell 60000 piece.start, piece.stop, pieceRow r p sample piece) ∧
      RowOf p sample piece (pieceRow r p sample piece) := by
  obtain ⟨h₁, h₂, h₃, -⟩ := minutePieces_mem (sub_pos.1 h.wall.1) hpiece
  have hstop := stop_of_mem_cut (by decide) hpiece
  have hturn := turn_approx hr h h₁ (by omega)
  rwa [← hstop] at hturn

end Loop

/-- An upsert whose sums fit: the four checked sums are those of the model without
overflow, so the table is the one that it makes. -/
theorem credit_eq {energy : EnergyTable} {key : String × ℤ} {row : EnergyRow}
    (hsums : RowFits (energyAt energy key + row)) :
    credit energy key row = some (energy.upsert key row row.add) := by
  unfold credit
  unfold energyAt at hsums
  cases hfind : energy.find? key with
  | none =>
      refine congrArg some (Table.upsert_congr (fun old hold => ?_) row)
      rw [hfind] at hold
      cases hold
  | some old =>
      rw [hfind, Option.getD_some] at hsums
      have hadd : add row old = some (old + row) := by
        have houtput : i64 (old.outputUj + row.outputUj) = some _ := if_pos (hsums .outputUj)
        have hinput : i64 (old.inputUj + row.inputUj) = some _ := if_pos (hsums .inputUj)
        have hobserved : i64 (old.observedMs + row.observedMs) = some _ :=
          if_pos (hsums .observedMs)
        have hinputObserved : i64 (old.inputObservedMs + row.inputObservedMs) = some _ :=
          if_pos (hsums .inputObservedMs)
        unfold add
        rw [houtput, some_bind, hinput, some_bind, hobserved, some_bind, hinputObserved]
        rfl
      dsimp only
      rw [hadd]
      refine congrArg some (Table.upsert_congr (fun old' hold' => ?_) row)
      rw [hfind] at hold'
      obtain rfl := Option.some.inj hold'
      rfl

/-- The table after the pieces of an interval are credited. -/
def creditPieces (r : Rounding) (p sample : Telemetry) (pieces : List Piece)
    (energy : EnergyTable) : EnergyTable :=
  pieces.foldl (fun energy piece => energy.upsert (pieceKey sample piece)
    (pieceRow r p sample piece) (pieceRow r p sample piece).add) energy

/-- **The minute loop ends, and credits every piece**, if the sums fit. By induction on
the pieces; no piece is credited to a minute of another one, so that the sums are those
with the table as it was. -/
theorem creditMinutes_approx {r : Rounding} (hr : r.Accurate) {p sample : Telemetry}
    (h : Span p sample) {turns : ℕ} {energy : EnergyTable} {at_ : ℤ} (hlow : p.capturedAtMs ≤ at_)
    (hturns : (cut 60000 (by decide) at_ sample.capturedAtMs).length < turns)
    (hsums : ∀ piece ∈ cut 60000 (by decide) at_ sample.capturedAtMs,
      RowFits (energyAt energy (pieceKey sample piece) + pieceRow r p sample piece)) :
    ∃ made, creditMinutes r p sample (sample.capturedAtMs - p.capturedAtMs) turns energy at_ =
      some (creditPieces r p sample (cut 60000 (by decide) at_ sample.capturedAtMs) energy,
        made) := by
  induction turns generalizing energy at_ with
  | zero => exact absurd hturns (Nat.not_lt_zero _)
  | succ turns ih =>
      rw [cut] at hturns hsums ⊢
      rw [creditMinutes]
      split_ifs at hturns hsums ⊢ with hhigh
      · have hlt := lt_cell_add (w := 60000) (by decide) at_
        have hturn := (turn_approx hr h hlow hhigh).1
        have hcredit := credit_eq (hsums _ List.mem_cons_self)
        generalize hpiece : (⟨at_, min (cell 60000 at_ + 60000) sample.capturedAtMs⟩ : Piece) =
          piece at *
        have hkey : pieceKey sample piece = (sample.deviceId, cell 60000 at_) := by
          rw [← hpiece, pieceKey]
        obtain ⟨made, hloop⟩ := @ih (energy.upsert (pieceKey sample piece)
          (pieceRow r p sample piece) (pieceRow r p sample piece).add) _ (hlow.trans (by omega))
          (Nat.lt_of_succ_lt_succ hturns) fun later hlater => by
            -- later pieces are in other minutes
            have hother : pieceKey sample later ≠ pieceKey sample piece := fun heq => by
              rw [hkey] at heq
              exact cell_ne_of_mem_cut (by decide) hlater (Prod.mk.inj heq).2
            rw [energyAt_upsert, if_neg hother, add_zero]
            exact hsums later (List.mem_cons_of_mem _ hlater)
        have hstop : piece.stop = min (cell 60000 at_ + 60000) sample.capturedAtMs := by
          rw [← hpiece]
        refine ⟨made + 1, ?_⟩
        rw [hturn, some_bind]
        dsimp only
        rw [← hkey, hcredit, some_bind, hstop, hloop, some_bind]
        rfl
      · exact ⟨0, rfl⟩

/-! ### A call -/

/-- The sums that the upserts of a call form are integers of their columns. -/
def UpsertsFit (r : Rounding) (state : Option History) (op : HistoryOp) : Prop :=
  ∀ h p sample, state = some h → h.integrated op = some (p, sample) →
    ∀ piece ∈ minutePieces p sample,
      RowFits (energyAt h.db.energy (pieceKey sample piece) + pieceRow r p sample piece)

/-- The energy table after a call. -/
def energyAfter (r : Rounding) (h : History) (op : HistoryOp) : EnergyTable :=
  (h.integrated op).elim h.db.energy fun pair =>
    creditPieces r pair.1 pair.2 (minutePieces pair.1 pair.2) h.db.energy

/-- The energy table after a sample that is not stored yet. The difference of the times,
the test whether the interval counts, and the loop over its minutes are compared with
those of the model one by one, and none of the checked operations fails. -/
theorem recordEnergy_eq {r : Rounding} (hr : r.Accurate) {h : History} {sample : Telemetry}
    {maxGapMs : ℕ} (hnew : h.inserted (.record sample maxGapMs) = some sample)
    (hgap : maxGapMs < 2 ^ 62)
    (hfits : ∀ p, h.previous = some p → Fits 64 (sample.capturedAtMs - p.capturedAtMs))
    (hspan : ∀ p, h.previous = some p → Railwatch.integrates p sample maxGapMs → Span p sample)
    (hsums : UpsertsFit r (some h) (.record sample maxGapMs)) :
    recordEnergy r h.previous sample maxGapMs h.db.energy =
      some (energyAfter r h (.record sample maxGapMs)) := by
  have hpair : h.integrated (.record sample maxGapMs) = h.previous.bind fun p =>
      if Railwatch.integrates p sample maxGapMs then some (p, sample) else none := by
    rw [History.integrated, hnew, Option.bind_some]
  unfold recordEnergy energyAfter
  cases hprevious : h.previous with
  | none => rw [hpair, hprevious]; rfl
  | some p =>
      have hwall : i64 (sample.capturedAtMs - p.capturedAtMs) =
          some (sample.capturedAtMs - p.capturedAtMs) := if_pos (hfits p hprevious)
      rw [hprevious, Option.bind_some] at hpair
      dsimp only
      rw [hwall, some_bind, integrates_eq (hfits p hprevious) hgap.le, some_bind]
      by_cases hguard : Railwatch.integrates p sample maxGapMs
      · rw [if_pos hguard] at hpair
        have hturns : (minutePieces p sample).length <
            (sample.capturedAtMs - p.capturedAtMs).toNat + 1 :=
          Nat.lt_succ_of_le (length_cut_le (by decide) _ _)
        obtain ⟨made, hloop⟩ := creditMinutes_approx hr (hspan p hprevious hguard) le_rfl hturns
          (hsums h p sample rfl hpair)
        rw [if_pos (decide_eq_true hguard), hloop, hpair]
        rfl
      · rw [if_neg hguard] at hpair
        rw [if_neg (by simpa using hguard), hpair]
        rfl

/-- **A call has a result** if the sums fit. It is the table with the pieces credited,
or the table as it was if the guard does not hold. -/
theorem step_record {r : Rounding} (hr : r.Accurate) {h : History} {sample : Telemetry}
    {maxGapMs : ℕ} (hgap : maxGapMs < 2 ^ 62)
    (hfits : ∀ p, h.previous = some p → Fits 64 (sample.capturedAtMs - p.capturedAtMs))
    (hspan : ∀ p, h.previous = some p → Railwatch.integrates p sample maxGapMs → Span p sample)
    (hsums : UpsertsFit r (some h) (.record sample maxGapMs)) :
    ∃ after, step r (some h) (.record sample maxGapMs) = some after ∧
      after.db.energy = energyAfter r h (.record sample maxGapMs) ∧
      ∀ p, after.previous = some p → h.previous = some p ∨ p = sample := by
  have hsame (hold : h.inserted (.record sample maxGapMs) = none) :
      energyAfter r h (.record sample maxGapMs) = h.db.energy := by
    rw [energyAfter, History.integrated, hold]
    rfl
  unfold step record
  dsimp only
  split_ifs with hsequence hkey
  · refine ⟨h, rfl, (hsame ?_).symm, fun p hp => .inl hp⟩
    exact if_neg fun hc => absurd hc.1 (not_lt.2 hsequence)
  · refine ⟨h, rfl, (hsame ?_).symm, fun p hp => .inl hp⟩
    exact if_neg fun hc => hc.2 hkey
  · have hnew : h.inserted (.record sample maxGapMs) = some sample :=
      if_pos ⟨not_le.1 hsequence, hkey⟩
    rw [recordEnergy_eq hr hnew hgap hfits hspan hsums]
    exact ⟨_, rfl, rfl, fun p hp => .inr (Option.some.inj hp).symm⟩

/-! ### Any number of calls -/

/-- The numbers of the calls: powers that the decoder accepts, clocks that are more than
a minute from the ends of an `i64` and whose differences fit in one. -/
structure InRange (ops : List HistoryOp) : Prop where
  /-- What the decoder accepts. -/
  powers : ∀ t ∈ deliveredSamples ops, 0 ≤ t.powerUw ∧ t.powerUw ≤ 2500000000
  /-- Times whose minutes are inside of the `i64`. -/
  clocks : ∀ t ∈ deliveredSamples ops,
    -2 ^ 63 + 60000 ≤ t.capturedAtMs ∧ t.capturedAtMs < 2 ^ 63 - 60000
  /-- `sample.captured_at_ms - p.captured_at_ms` does not overflow. -/
  differences : ∀ t ∈ deliveredSamples ops, ∀ t' ∈ deliveredSamples ops,
    Fits 64 (t'.capturedAtMs - t.capturedAtMs)
  /-- The largest gap is below `2 ^ 62`. -/
  gaps : ∀ sample maxGapMs, HistoryOp.record sample maxGapMs ∈ ops → maxGapMs < 2 ^ 62

/-- The samples of a run and of one more call. -/
theorem mem_deliveredSamples_concat {ops : List HistoryOp} {op : HistoryOp} {t : Telemetry} :
    t ∈ deliveredSamples (ops ++ [op]) ↔
      t ∈ deliveredSamples ops ∨ t ∈ deliveredSamples [op] := by
  rw [deliveredSamples, List.filterMap_append, List.mem_append]
  rfl

/-- The numbers of a run are in range before its last call, too. -/
theorem InRange.of_concat {ops : List HistoryOp} {op : HistoryOp} (h : InRange (ops ++ [op])) :
    InRange ops where
  powers t ht := h.powers t (mem_deliveredSamples_concat.2 (.inl ht))
  clocks t ht := h.clocks t (mem_deliveredSamples_concat.2 (.inl ht))
  differences t ht t' ht' := h.differences t (mem_deliveredSamples_concat.2 (.inl ht)) t'
    (mem_deliveredSamples_concat.2 (.inl ht'))
  gaps sample maxGapMs hmem := h.gaps sample maxGapMs (List.mem_append_left _ hmem)

/-- Two samples of a run that the guard lets pass. -/
theorem InRange.span {ops : List HistoryOp} (h : InRange ops) {p sample : Telemetry}
    {maxGapMs : ℕ} (hp : p ∈ deliveredSamples ops) (hsample : sample ∈ deliveredSamples ops)
    (hguard : Railwatch.integrates p sample maxGapMs) : Span p sample where
  powers := ⟨h.powers p hp, h.powers sample hsample⟩
  clocks := ⟨(h.clocks p hp).1, (h.clocks sample hsample).2⟩
  wall := ⟨hguard.2.2.2.2.2.1, (h.differences p hp sample hsample).2⟩

/-- The store after a sequence of calls, with the numbers of the machine. -/
def run (r : Rounding) (ops : List HistoryOp) : Option History :=
  Transition.run (step r) (some {}) ops

/-- **A run has a result** as long as the sums fit, and remembers a delivered sample.
The sums of a call are formed with the table that the calls before have left. -/
theorem run_spec {r : Rounding} (hr : r.Accurate) {ops : List HistoryOp} (hrange : InRange ops)
    (hsums : Transition.Along (step r) (UpsertsFit r) (some {}) ops) :
    ∃ h, run r ops = some h ∧ ∀ p, h.previous = some p → p ∈ deliveredSamples ops := by
  induction ops using List.reverseRecOn with
  | nil => exact ⟨{}, rfl, fun p hp => by cases hp⟩
  | append_singleton ops op ih =>
      rw [Transition.along_concat] at hsums
      obtain ⟨h, hrun, hprevious⟩ := ih hrange.of_concat hsums.1
      have hsums := hsums.2
      unfold run at hrun ⊢
      rw [Transition.run_concat, hrun] at *
      cases op with
      | reopen => exact ⟨_, rfl, fun p hp => by cases hp⟩
      | record sample maxGapMs =>
          have hdelivered : sample ∈ deliveredSamples (ops ++ [.record sample maxGapMs]) :=
            mem_deliveredSamples_concat.2 (.inr List.mem_cons_self)
          have hmem (p : Telemetry) (hp : h.previous = some p) :
              p ∈ deliveredSamples (ops ++ [.record sample maxGapMs]) :=
            mem_deliveredSamples_concat.2 (.inl (hprevious p hp))
          obtain ⟨after, hstep, -, hafter⟩ := step_record hr
            (hrange.gaps sample maxGapMs (List.mem_append_right _ List.mem_cons_self))
            (fun p hp => hrange.differences p (hmem p hp) sample hdelivered)
            (fun p hp => hrange.span (hmem p hp) hdelivered) hsums
          refine ⟨after, hstep, fun p hp => ?_⟩
          rcases hafter p hp with hp | rfl
          · exact hmem p hp
          · exact hdelivered

/-- The energies of the pieces against the trapezoid of the interval. Each piece has its
own half microjoule of rounding to a whole number, and the errors of binary64 add up to
a share of the whole, as the lengths of the pieces do. -/
theorem sum_nearTrapezoid {p sample : Telemetry} (hwall : p.capturedAtMs < sample.capturedAtMs)
    {left right : ℤ} (energy : Piece → ℤ) (h : ∀ piece ∈ minutePieces p sample,
      NearTrapezoid p sample piece left right (energy piece)) :
    |(((minutePieces p sample).map energy).sum : ℚ) -
      (left + right) / 2 * (sample.capturedAtMs - p.capturedAtMs : ℤ) / 1000| ≤
        ((minutePieces p sample).length : ℚ) / 2 +
          (max left right : ℤ) * (sample.capturedAtMs - p.capturedAtMs : ℤ) / 1000 / 2 ^ 49 := by
  rw [Int.cast_sub]
  have herrors := abs_sum_map_sub_le h
  have hlength : ((minutePieces p sample).map fun piece => ((1 : ℚ) / 2 +
      (max left right : ℤ) * (piece.stop - piece.start) / 1000 / 2 ^ 49)).sum =
      ((minutePieces p sample).length : ℚ) / 2 +
        (max left right : ℤ) * (sample.capturedAtMs - p.capturedAtMs) / 1000 / 2 ^ 49 := by
    have hobserved : ((minutePieces p sample).map fun piece =>
        ((piece.stop : ℚ) - piece.start)).sum = sample.capturedAtMs - p.capturedAtMs :=
      (tiles_minutePieces hwall).sum_sub fun x : ℤ => (x : ℚ)
    rw [List.sum_map_add, ← hobserved]
    simp only [List.map_const', List.sum_replicate, nsmul_eq_mul, div_eq_mul_inv,
      List.sum_map_mul_right, List.sum_map_mul_left, one_mul]
  rw [trapezoid_pieces hwall, hlength] at herrors
  rw [Int.cast_list_sum, List.map_map]
  exact herrors

/-- **Energy conservation in `record`**, with the integers and the binary64 numbers of
the machine.  After any sequence of calls, with powers in the decoder's range and clocks
that are more than a minute from the ends of an `i64`: as long as the sums of the table
fit, every call has a result.  A call changes the energy table only if it inserts a new
sample that follows the remembered sample `p` in the same session of the same device,
within the gap and with both clocks in agreement.  Then it cuts the wall interval at the
minutes and credits each piece to its own minute, with the row that the turn of the
minute loop computes.  The credited times add up to the wall time, those with an
estimated input to the wall time or to nothing, and the credited energies miss the
trapezoid of the whole interval by at most half a microjoule a piece, and a share of
`2 ^ (-49)` of the energy at the higher power. -/
theorem record_conserves_energy (ops : List HistoryOp) (sample : Telemetry) (maxGapMs : ℕ)
    (hrange : InRange (ops ++ [.record sample maxGapMs]))
    (hsums : Transition.Along (step binary64) (UpsertsFit binary64) (some {})
      (ops ++ [.record sample maxGapMs])) :
    ∃ before after, run binary64 ops = some before ∧
      run binary64 (ops ++ [.record sample maxGapMs]) = some after ∧
      (after.db.energy ≠ before.db.energy →
        sample.key ∉ before.db.samples.keys ∧ ∃ p, before.previous = some p ∧
          (p.deviceId = sample.deviceId ∧ p.sessionId = sample.sessionId ∧
            p.sequence < sample.sequence) ∧
          (p.monotonicMs < sample.monotonicMs ∧ sample.monotonicMs - p.monotonicMs ≤ maxGapMs) ∧
          p.capturedAtMs < sample.capturedAtMs ∧
          |(sample.capturedAtMs - p.capturedAtMs) -
            ((sample.monotonicMs : ℤ) - p.monotonicMs)| ≤ 100 ∧
          ∃ pieces, Tiles pieces p.capturedAtMs sample.capturedAtMs ∧
            (∀ piece ∈ pieces, InCell 60000 piece ∧
              turn binary64 p sample (sample.capturedAtMs - p.capturedAtMs) piece.start =
                some (cell 60000 piece.start, piece.stop, pieceRow binary64 p sample piece)) ∧
            (∀ k, energyAt after.db.energy k = energyAt before.db.energy k +
              (pieces.map fun piece => if k = (sample.deviceId, cell 60000 piece.start) then
                pieceRow binary64 p sample piece else 0).sum) ∧
            (let wall := sample.capturedAtMs - p.capturedAtMs
            let added := fun column => deviceTotal after.db.energy sample.deviceId column -
              deviceTotal before.db.energy sample.deviceId column
            added .observedMs = wall ∧
            added .inputObservedMs =
              (if p.usableEfficiency ∧ sample.usableEfficiency then wall else 0) ∧
            |(added .outputUj : ℚ) - (p.powerUw + sample.powerUw) / 2 * wall / 1000| ≤
              (pieces.length : ℚ) / 2 +
                (max p.powerUw sample.powerUw : ℤ) * wall / 1000 / 2 ^ 49 ∧
            (∀ a b, p.estimatedInputUw = some a → sample.estimatedInputUw = some b →
              |(added .inputUj : ℚ) - (a + b) / 2 * wall / 1000| ≤
                (pieces.length : ℚ) / 2 + (max a b : ℤ) * wall / 1000 / 2 ^ 49) ∧
            (¬(p.usableEfficiency ∧ sample.usableEfficiency) → added .inputUj = 0))) := by
  have hrun := hsums
  rw [Transition.along_concat] at hrun
  obtain ⟨before, hbefore, hdelivered⟩ := run_spec binary64_accurate hrange.of_concat hrun.1
  have hsample : sample ∈ deliveredSamples (ops ++ [.record sample maxGapMs]) :=
    mem_deliveredSamples_concat.2 (.inr List.mem_cons_self)
  have hmem (p : Telemetry) (hp : before.previous = some p) :
      p ∈ deliveredSamples (ops ++ [.record sample maxGapMs]) :=
    mem_deliveredSamples_concat.2 (.inl (hdelivered p hp))
  have hgap := hrange.gaps sample maxGapMs (List.mem_append_right _ List.mem_cons_self)
  have hstate := hbefore
  rw [run] at hstate
  rw [hstate] at hrun
  obtain ⟨after, hstep, henergy, -⟩ := step_record binary64_accurate hgap
    (fun p hp => hrange.differences p (hmem p hp) sample hsample)
    (fun p hp => hrange.span (hmem p hp) hsample) hrun.2
  refine ⟨before, after, hbefore, ?_, fun hchanged => ?_⟩
  · rw [run, Transition.run_concat, hstate, hstep]
  rw [energyAfter] at henergy
  obtain ⟨⟨p, s⟩, hpair⟩ : ∃ pair, before.integrated (.record sample maxGapMs) = some pair := by
    by_contra hno
    have hnone := Option.not_isSome_iff_eq_none.1 (mt Option.isSome_iff_exists.1 hno)
    rw [hnone] at henergy
    exact hchanged henergy
  obtain ⟨g, hop, hins, hprevious, hguard⟩ := History.integrated_eq_some hpair
  obtain ⟨rfl, rfl⟩ := HistoryOp.record.inj hop
  rw [hpair, Option.elim_some, creditPieces] at henergy
  have hspan := hrange.span (hmem p hprevious) hsample hguard
  obtain ⟨hsession, hdevice, hseq, hpos, hmax, hwall, habs⟩ := hguard
  rw [asI64_of_lt (by omega), Nat.cast_sub (by omega)] at habs
  have hwall' : p.capturedAtMs < sample.capturedAtMs := sub_pos.1 hwall
  have hrow (piece : Piece) (hpiece : piece ∈ minutePieces p sample) :=
    piece_approx binary64_accurate hspan hpiece
  refine ⟨(History.inserted_record hins).2.2, p, hprevious, ⟨hdevice, hsession, hseq⟩,
    ⟨by omega, hmax⟩, hwall', habs, minutePieces p sample, tiles_minutePieces hwall', ?_⟩
  -- how the rows are computed does not matter any more
  generalize pieceRow binary64 p sample = row at *
  have hadded (column : EnergyColumn) :
      deviceTotal after.db.energy sample.deviceId column -
        deviceTotal before.db.energy sample.deviceId column =
      ((minutePieces p sample).map fun piece =>
        column.get (row piece)).sum := by
    rw [henergy, deviceTotal_foldl_upsert, if_pos rfl]
    ring
  refine ⟨fun piece hpiece => ⟨inCell_of_mem_cut (by decide) hpiece, (hrow piece hpiece).1⟩,
    fun k => ?_, ?_, ?_, ?_, fun a b ha hb => ?_, fun hno => ?_⟩
  · rw [henergy]
    exact energyAt_foldl_upsert sample _ _ _ k
  · refine (hadded .observedMs).trans ?_
    rw [← observed_pieces hwall']
    exact congrArg List.sum (List.map_congr_left fun piece hpiece => (hrow piece hpiece).2.observed)
  · refine (hadded .inputObservedMs).trans ?_
    have hcolumn : (minutePieces p sample).map (fun piece =>
        EnergyColumn.inputObservedMs.get (row piece)) =
        (minutePieces p sample).map fun piece =>
          if p.usableEfficiency ∧ sample.usableEfficiency then piece.stop - piece.start else 0 :=
      List.map_congr_left fun piece hpiece => (hrow piece hpiece).2.inputObserved
    rw [hcolumn]
    split_ifs
    · exact observed_pieces hwall'
    · exact List.sum_map_zero
  · beta_reduce
    rw [hadded .outputUj]
    exact sum_nearTrapezoid hwall' (fun piece => (row piece).outputUj) fun piece hpiece =>
      (hrow piece hpiece).2.output
  · beta_reduce
    rw [hadded .inputUj]
    exact sum_nearTrapezoid hwall' (fun piece => (row piece).inputUj) fun piece hpiece =>
      (hrow piece hpiece).2.input a b ha hb
  · beta_reduce
    rw [hadded .inputUj]
    refine List.sum_eq_zero fun x hx => ?_
    obtain ⟨piece, hpiece, rfl⟩ := List.mem_map.1 hx
    exact (hrow piece hpiece).2.noInput hno

/-- Two samples of a second that the edge of a minute divides. -/
def beforeEdge : Telemetry :=
  { simulatedSample 1 false with capturedAtMs := 59500, monotonicMs := 7000 }

/-- The later one. -/
def afterEdge : Telemetry :=
  { simulatedSample 2 false with capturedAtMs := 60500, monotonicMs := 8000 }

/-- The first call remembers its sample and credits nothing, and the second call
integrates the pair. -/
theorem run_beforeEdge : ∃ h, run binary64 [.record beforeEdge 3500] = some h ∧
    h.previous = some beforeEdge ∧
    h.integrated (.record afterEdge 3500) = some (beforeEdge, afterEdge) ∧
    h.db.energy.keys = [] := by
  have hresult : (run binary64 [.record beforeEdge 3500]).map (fun h =>
      (h.previous, h.integrated (.record afterEdge 3500))) =
        some (some beforeEdge, some (beforeEdge, afterEdge)) := by decide +kernel
  have hkeys : (run binary64 [.record beforeEdge 3500]).map (fun h => h.db.energy.keys) =
      some [] := by decide +kernel
  obtain ⟨h, hrun, hresult⟩ := Option.map_eq_some_iff.1 hresult
  rw [hrun, Option.map_some] at hkeys
  obtain ⟨hprevious, hpair⟩ := Prod.mk.inj hresult
  exact ⟨h, hrun, hprevious, hpair, Option.some.inj hkeys⟩

/-- A second over a minute's edge is credited in full: half of it to each of the two
minutes, and 1000 ms altogether. -/
theorem record_conserves_energy_over_edge :
    ∃ before after, run binary64 [.record beforeEdge 3500] = some before ∧
      run binary64 [.record beforeEdge 3500, .record afterEdge 3500] = some after ∧
      deviceTotal after.db.energy "demo-ai1600ts" .observedMs -
        deviceTotal before.db.energy "demo-ai1600ts" .observedMs = 1000 := by
  have hrange : InRange ([.record beforeEdge 3500] ++ [.record afterEdge 3500]) := by
    refine ⟨by decide +kernel, by decide +kernel, by decide +kernel, fun s g hmem => ?_⟩
    rcases List.mem_pair.1 hmem with heq | heq <;> cases heq <;> decide
  obtain ⟨state, hstate, hprevious, hpair, hkeys⟩ := run_beforeEdge
  have hpieces : minutePieces beforeEdge afterEdge = [⟨59500, 60000⟩, ⟨60000, 60500⟩] := by
    simp [minutePieces, cut, cell, beforeEdge, afterEdge]
  have hsums : Transition.Along (step binary64) (UpsertsFit binary64) (some {})
      ([.record beforeEdge 3500] ++ [.record afterEdge 3500]) := by
    refine ⟨fun h p s heq hnone => ?_, fun h p s heq hsome piece hpiece => ?_, trivial⟩
    · obtain rfl := Option.some.inj heq
      cases hnone
    · obtain rfl := Option.some.inj (hstate.symm.trans heq)
      obtain ⟨rfl, rfl⟩ := Prod.mk.inj (Option.some.inj (hpair.symm.trans hsome))
      have hzero : energyAt state.db.energy (pieceKey afterEdge piece) = 0 := by
        rw [energyAt, Table.find?_eq_none_iff.2 (by rw [hkeys]; exact List.not_mem_nil)]
        rfl
      rw [hpieces] at hpiece
      rw [hzero, zero_add]
      intro column
      rcases List.mem_pair.1 hpiece with rfl | rfl <;> cases column <;> decide +kernel
  obtain ⟨before, after, hbefore, hafter, hconserved⟩ :=
    record_conserves_energy [.record beforeEdge 3500] afterEdge 3500 hrange hsums
  obtain rfl : state = before := Option.some.inj (hstate.symm.trans hbefore)
  have hkeys' : (run binary64 ([.record beforeEdge 3500] ++ [.record afterEdge 3500])).map
      (fun h => h.db.energy.keys) = some [("demo-ai1600ts", 0), ("demo-ai1600ts", 60000)] := by
    decide +kernel
  have hchanged : after.db.energy ≠ state.db.energy := fun heq => by
    rw [hafter, Option.map_some, heq, hkeys] at hkeys'
    cases hkeys'
  obtain ⟨-, p, hp, -, -, -, -, pieces, -, -, -, hadded⟩ := hconserved hchanged
  obtain rfl : beforeEdge = p := Option.some.inj (hprevious.symm.trans hp)
  exact ⟨state, after, hbefore, hafter, hadded.1⟩

/-- A reading of almost 2500 W at an efficiency of one thousandth of a percent. Both
values are within the limits of the decoder, and the estimate of the input is near 250
MW. -/
def extremeReading (sequence : ℕ) (at_ : ℤ) (monotonicMs : ℕ) : Telemetry :=
  { Telemetry.blank with
    deviceId := "psu"
    sequence := sequence
    capturedAtMs := at_
    monotonicMs := monotonicMs
    powerUw := 2499999993
    efficiencyMillipercent := 1 }

/-- Calls with a clock that is set back by a minute before every second one. -/
def rewound : ℕ → List HistoryOp
  | 0 => []
  | k + 1 => rewound k ++
      [.record (extremeReading (2 * k + 1) 0 (120000 * k)) 60000,
        .record (extremeReading (2 * k + 2) 60000 (120000 * k + 60000)) 60000]

/-- What they credit each time, to the same minute. -/
def extremeRow : EnergyRow := ⟨149999999580, 14999999958000002, 60000, 60000⟩

/-- A turn of the minute loop looks at the clocks, the powers and the efficiencies. -/
theorem turn_congr (r : Rounding) (p p' sample sample' : Telemetry) (wall at_ : ℤ)
    (hp : p.capturedAtMs = p'.capturedAtMs ∧ p.powerUw = p'.powerUw ∧
      p.efficiencyMillipercent = p'.efficiencyMillipercent)
    (hs : sample.capturedAtMs = sample'.capturedAtMs ∧ sample.powerUw = sample'.powerUw ∧
      sample.efficiencyMillipercent = sample'.efficiencyMillipercent) :
    turn r p sample wall at_ = turn r p' sample' wall at_ := by
  unfold turn input estimatedInputUw
  rw [hp.1, hp.2.1, hp.2.2, hs.1, hs.2.1, hs.2.2]

/-- Whatever their sequence numbers and boot clocks, two extreme readings a minute apart
make the same row. -/
theorem turn_extremeReading (m n m' n' : ℕ) :
    turn binary64 (extremeReading m 0 m') (extremeReading n 60000 n') 60000 0 =
      some (0, 60000, extremeRow) := by
  rw [turn_congr binary64 (extremeReading m 0 m') (extremeReading 1 0 0)
    (extremeReading n 60000 n') (extremeReading 2 60000 60000) 60000 0 ⟨rfl, rfl, rfl⟩
    ⟨rfl, rfl, rfl⟩]
  decide +kernel

/-- A clock that is set back is not integrated over. -/
theorem recordEnergy_rewound {p : Telemetry} (hp : p.capturedAtMs = 60000) (m m' : ℕ)
    (energy : EnergyTable) :
    recordEnergy binary64 (some p) (extremeReading m 0 m') 60000 energy = some energy := by
  have hwall : i64 ((extremeReading m 0 m').capturedAtMs - p.capturedAtMs) = some (-60000) := by
    rw [hp]
    rfl
  have hguard : Checked.integrates p (extremeReading m 0 m') 60000 = some false := by
    unfold Checked.integrates
    rw [hwall, some_bind, if_neg (by omega)]
    rfl
  unfold recordEnergy
  dsimp only
  rw [hwall, some_bind, hguard, some_bind]
  rfl

/-- A loop of one turn. -/
theorem creditMinutes_one {r : Rounding} {p sample : Telemetry} {wall at_ minute end_ : ℤ}
    {row : EnergyRow} {turns : ℕ} {energy : EnergyTable} (hat : at_ < sample.capturedAtMs)
    (hturn : turn r p sample wall at_ = some (minute, end_, row))
    (hend : sample.capturedAtMs ≤ end_) :
    creditMinutes r p sample wall (turns + 1 + 1) energy at_ =
      (credit energy (sample.deviceId, minute) row).map fun energy => (energy, 1) := by
  rw [creditMinutes, if_pos hat, hturn, some_bind]
  dsimp only
  cases credit energy (sample.deviceId, minute) row with
  | none => rfl
  | some energy =>
      rw [some_bind, creditMinutes, if_neg (not_lt.2 hend)]
      rfl

/-- A minute between two readings is credited with the same row each time, whatever the
table holds already, so the run can be followed without computing it. -/
theorem recordEnergy_extremeReading {m n m' : ℕ} (hsequence : m < n) (energy : EnergyTable) :
    recordEnergy binary64 (some (extremeReading m 0 m')) (extremeReading n 60000 (m' + 60000))
      60000 energy = credit energy ("psu", 0) extremeRow := by
  have hwall : i64 ((extremeReading n 60000 (m' + 60000)).capturedAtMs -
      (extremeReading m 0 m').capturedAtMs) = some 60000 := rfl
  have hguard : Checked.integrates (extremeReading m 0 m') (extremeReading n 60000 (m' + 60000))
      60000 = some true := by
    have helapsed : (extremeReading n 60000 (m' + 60000)).monotonicMs -
        (extremeReading m 0 m').monotonicMs = 60000 := Nat.add_sub_cancel_left m' 60000
    unfold Checked.integrates
    rw [hwall, some_bind, helapsed, if_pos ⟨rfl, rfl, hsequence, by decide, le_rfl, by decide⟩]
    rfl
  unfold recordEnergy
  dsimp only
  rw [hwall, some_bind, hguard, some_bind, if_pos rfl]
  change (creditMinutes binary64 (extremeReading m 0 m') (extremeReading n 60000 (m' + 60000)) 60000
    (59999 + 1 + 1) energy 0 >>= fun credited => pure credited.1) = _
  have hat : 0 < (extremeReading n 60000 (m' + 60000)).capturedAtMs := by simp [extremeReading]
  rw [creditMinutes_one hat (turn_extremeReading m n m' (m' + 60000)) le_rfl]
  change Option.map _ (credit energy ("psu", 0) extremeRow) >>= _ = _
  cases credit energy ("psu", 0) extremeRow <;> rfl

/-- The store after a number of pairs. One minute holds their sum, and the next pair has
larger numbers than all that are stored. -/
structure Rewound (k : ℕ) (h : History) : Prop where
  /-- The last sample was at the end of the minute. -/
  previous : ∀ p, h.previous = some p → p.capturedAtMs = 60000
  /-- Each pair had two sequence numbers. -/
  sequences : ∀ key ∈ h.db.samples.keys, key.2.2 ≤ 2 * k
  /-- And one row. -/
  credited : energyAt h.db.energy ("psu", 0) = k • extremeRow

/-- The store after a new sample, with the energy table that comes of it. -/
def stored (h : History) (sample : Telemetry) (energy : EnergyTable) : History where
  db := { h.db with
    samples := h.db.samples.insertOrIgnore sample.key ⟨sample.capturedAtMs, sample⟩
    energy := energy }
  previous := some sample

/-- A call with a new sample. -/
theorem step_of_new {r : Rounding} {h : History} {sample : Telemetry} {maxGapMs : ℕ}
    (hsequence : sample.sequence < 2 ^ 63) (hnew : sample.key ∉ h.db.samples.keys) :
    step r (some h) (.record sample maxGapMs) =
      (recordEnergy r h.previous sample maxGapMs h.db.energy).map (stored h sample) := by
  unfold step record
  dsimp only
  rw [if_neg (not_le.2 hsequence), if_neg hnew]
  cases recordEnergy r h.previous sample maxGapMs h.db.energy <;> rfl

/-- The sequence numbers of the table stay below the next one. -/
theorem sequence_le_of_mem_stored {h : History} {sample : Telemetry} {energy : EnergyTable}
    {n : ℤ} (hkeys : ∀ key ∈ h.db.samples.keys, key.2.2 ≤ n) (hsample : sample.sequence ≤ n)
    {key : String × String × ℤ} (hkey : key ∈ (stored h sample energy).db.samples.keys) :
    key.2.2 ≤ n := by
  unfold stored at hkey
  rw [Sql.Table.keys_insertOrIgnore] at hkey
  split_ifs at hkey
  · exact hkeys key hkey
  · rcases List.mem_append.1 hkey with hkey | hkey
    · exact hkeys key hkey
    · obtain rfl := List.mem_singleton.1 hkey
      exact hsample

/-- **A pair of calls** is one more credit, or has no result. The first one only sets
the clock back, since its wall time is negative; the second one is a minute later. -/
theorem Rewound.run {k : ℕ} {h : History} (hstate : Rewound k h) (hk : k < 2 ^ 60) :
    ∃ h', h'.db.energy = h.db.energy ∧
      (∀ key ∈ h'.db.samples.keys, key.2.2 ≤ 2 * ((k + 1 : ℕ) : ℤ)) ∧
      Transition.run (step binary64) (some h)
        [.record (extremeReading (2 * k + 1) 0 (120000 * k)) 60000,
          .record (extremeReading (2 * k + 2) 60000 (120000 * k + 60000)) 60000] =
        (credit h.db.energy ("psu", 0) extremeRow).map
          (stored h' (extremeReading (2 * k + 2) 60000 (120000 * k + 60000))) := by
  have hnew {n : ℕ} {at_ : ℤ} {m : ℕ} (hn : 2 * k < n) :
      (extremeReading n at_ m).key ∉ h.db.samples.keys := fun hmem => by
    have hle : (n : ℤ) ≤ 2 * k := hstate.sequences _ hmem
    omega
  have henergy : recordEnergy binary64 h.previous (extremeReading (2 * k + 1) 0 (120000 * k))
      60000 h.db.energy = some h.db.energy := by
    cases hprevious : h.previous with
    | none => rfl
    | some p => exact recordEnergy_rewound (hstate.previous p hprevious) _ _ _
  have hfirst : step binary64 (some h)
      (.record (extremeReading (2 * k + 1) 0 (120000 * k)) 60000) =
        some (stored h (extremeReading (2 * k + 1) 0 (120000 * k)) h.db.energy) := by
    rw [step_of_new (show 2 * k + 1 < 2 ^ 63 by omega) (hnew (by omega)), henergy]
    rfl
  have hsequences {key : String × String × ℤ} (hkey : key ∈ (stored h
      (extremeReading (2 * k + 1) 0 (120000 * k)) h.db.energy).db.samples.keys) :
      key.2.2 ≤ 2 * k + 1 :=
    sequence_le_of_mem_stored (n := 2 * (k : ℤ) + 1)
      (fun key hkey => (hstate.sequences key hkey).trans (by omega)) (by simp [extremeReading]) hkey
  refine ⟨stored h (extremeReading (2 * k + 1) 0 (120000 * k)) h.db.energy, rfl,
    fun key hkey => (hsequences hkey).trans (by omega), ?_⟩
  rw [Transition.run_cons, Transition.run_cons, Transition.run_nil, hfirst,
    step_of_new (show 2 * k + 2 < 2 ^ 63 by omega) fun hmem => ?_]
  · exact congrArg _ (recordEnergy_extremeReading (by omega) _)
  · have hle := hsequences hmem
    have hkey : (extremeReading (2 * k + 2) 60000 (120000 * k + 60000)).key.2.2 = 2 * k + 2 := by
      simp [Telemetry.key, extremeReading]
    omega

/-- The row after a number of credits. -/
theorem smul_extremeRow (k : ℕ) :
    k • extremeRow = ⟨k * 149999999580, k * 14999999958000002, k * 60000, k * 60000⟩ := by
  induction k with
  | zero => rfl
  | succ k ih => rw [succ_nsmul, ih]; ext <;> simp [extremeRow] <;> ring

/-- **A minute can be credited 614 times**, with the highest estimate there is. By
induction, with one more pair of calls each time. -/
theorem run_rewound {k : ℕ} (hk : k ≤ 614) :
    ∃ h, run binary64 (rewound k) = some h ∧ Rewound k h := by
  induction k with
  | zero => exact ⟨{}, rfl, fun p hp => (by cases hp), fun key hkey => (by cases hkey), rfl⟩
  | succ k ih =>
      obtain ⟨h, hrun, hstate⟩ := ih (by omega)
      obtain ⟨h', henergy, hsequences, hpair⟩ := hstate.run (by omega)
      have hfits : RowFits (energyAt h.db.energy ("psu", 0) + extremeRow) := by
        rw [hstate.credited, ← succ_nsmul, smul_extremeRow]
        intro column
        cases column <;> constructor <;> simp [EnergyColumn.get] <;> omega
      refine ⟨stored h' (extremeReading (2 * k + 2) 60000 (120000 * k + 60000))
        (h.db.energy.upsert ("psu", 0) extremeRow extremeRow.add), ?_, fun p hp => ?_,
        fun key hkey => ?_, ?_⟩
      · rw [run, rewound, Transition.run_append]
        rw [run] at hrun
        rw [hrun, hpair, credit_eq hfits]
        rfl
      · obtain rfl := Option.some.inj hp
        rfl
      · exact sequence_le_of_mem_stored hsequences (by simp [extremeReading]; omega) hkey
      · show energyAt (h.db.energy.upsert _ _ _) _ = _
        rw [energyAt_upsert, if_pos rfl, hstate.credited, succ_nsmul]

/-- **The next credit has no sum in an `i64`.** Every reading up to there is within the
range of the numbers, and only the sum is not. -/
theorem run_rewound_overflow : run binary64 (rewound 615) = none := by
  obtain ⟨h, hrun, hstate⟩ := run_rewound le_rfl
  obtain ⟨h', henergy, hsequences, hpair⟩ := hstate.run (by norm_num)
  have hcredit : credit h.db.energy ("psu", 0) extremeRow = none := by
    have hcredited := hstate.credited
    rw [smul_extremeRow] at hcredited
    unfold energyAt at hcredited
    unfold credit
    cases hfind : h.db.energy.find? ("psu", 0) with
    | none =>
        rw [hfind] at hcredited
        cases hcredited
    | some old =>
        rw [hfind, Option.getD_some] at hcredited
        rw [hcredited]
        rfl
  rw [run, rewound, Transition.run_append]
  rw [run] at hrun
  rw [hrun, hpair, hcredit]
  rfl

/-- The calls are those of extreme readings in the first minute. -/
theorem mem_rewound {k : ℕ} {op : HistoryOp} (h : op ∈ rewound k) :
    ∃ n m at_, (0 ≤ at_ ∧ at_ ≤ 60000) ∧ op = .record (extremeReading n at_ m) 60000 := by
  induction k with
  | zero => cases h
  | succ k ih =>
      rcases List.mem_append.1 h with h | h
      · exact ih h
      · rcases List.mem_pair.1 h with rfl | rfl
        · exact ⟨_, _, 0, by decide, rfl⟩
        · exact ⟨_, _, 60000, by decide, rfl⟩

/-- All of it is in the range of the numbers that a run may have: the powers are below
the limit of the device and the times within a minute, however often the clock is set
back. -/
theorem inRange_rewound (k : ℕ) : InRange (rewound k) := by
  have hmem {t : Telemetry} (ht : t ∈ deliveredSamples (rewound k)) :
      t.powerUw = 2499999993 ∧ 0 ≤ t.capturedAtMs ∧ t.capturedAtMs ≤ 60000 := by
    obtain ⟨op, hop, hsample⟩ := List.mem_filterMap.1 ht
    obtain ⟨n, m, at_, hat, rfl⟩ := mem_rewound hop
    obtain rfl := Option.some.inj hsample
    exact ⟨rfl, hat⟩
  refine ⟨fun t ht => ?_, fun t ht => ?_, fun t ht t' ht' => ?_, fun sample gap hop => ?_⟩
  · obtain ⟨hpower, -⟩ := hmem ht
    omega
  · obtain ⟨-, hlow, hhigh⟩ := hmem ht
    omega
  · obtain ⟨-, hlow, hhigh⟩ := hmem ht
    obtain ⟨-, hlow', hhigh'⟩ := hmem ht'
    constructor <;> norm_num <;> omega
  · obtain ⟨n, m, at_, -, heq⟩ := mem_rewound hop
    obtain ⟨-, rfl⟩ := HistoryOp.record.inj heq
    norm_num

/-- **One piece may be off by more than half a microjoule.**  At the highest powers the
area of a whole minute is no number of 53 bits, and the estimate comes out two
microjoules too high.  In the last minute that an `i64` can count the end of the minute
is beyond it, in the first one the start, and the call has no result.  Nor has a call
whose minute has been credited 614 times already, by a clock that is set back again and
again. -/
theorem record_misses_half_a_microjoule :
    (∃ before after,
      run binary64 [.record (extremeReading 1 0 0) 60000] = some before ∧
      run binary64 [.record (extremeReading 1 0 0) 60000,
        .record (extremeReading 2 60000 60000) 60000] = some after ∧
      minutePieces (extremeReading 1 0 0) (extremeReading 2 60000 60000) = [⟨0, 60000⟩] ∧
      (extremeReading 1 0 0).estimatedInputUw = some 249999999300000 ∧
      (extremeReading 2 60000 60000).estimatedInputUw = some 249999999300000 ∧
      ¬|((deviceTotal after.db.energy "psu" .inputUj -
          deviceTotal before.db.energy "psu" .inputUj : ℤ) : ℚ) -
        (249999999300000 + 249999999300000) / 2 * 60000 / 1000| ≤ 1 / 2) ∧
    run binary64 [.record (extremeReading 1 (2 ^ 63 - 1001) 0) 60000,
      .record (extremeReading 2 (2 ^ 63 - 1) 1000) 60000] = none ∧
    run binary64 [.record (extremeReading 1 (-2 ^ 63) 0) 60000,
      .record (extremeReading 2 (-2 ^ 63 + 1000) 1000) 60000] = none ∧
    InRange (rewound 615) ∧ run binary64 (rewound 615) = none := by
  have hbefore : (run binary64 [.record (extremeReading 1 0 0) 60000]).map
      (fun h => deviceTotal h.db.energy "psu" .inputUj) = some 0 := by decide +kernel
  have hafter : (run binary64 [.record (extremeReading 1 0 0) 60000,
      .record (extremeReading 2 60000 60000) 60000]).map
      (fun h => deviceTotal h.db.energy "psu" .inputUj) = some 14999999958000002 := by
    decide +kernel
  obtain ⟨before, hrun, hbefore⟩ := Option.map_eq_some_iff.1 hbefore
  obtain ⟨after, hrun', hafter⟩ := Option.map_eq_some_iff.1 hafter
  refine ⟨⟨before, after, hrun, hrun', ?_, by decide, by decide, ?_⟩, ?_, ?_, inRange_rewound 615,
    run_rewound_overflow⟩
  · simp [minutePieces, cut, cell, extremeReading]
  · rw [hbefore, hafter]
    norm_num
  · exact Option.isNone_iff_eq_none.1 (by decide +kernel)
  · exact Option.isNone_iff_eq_none.1 (by decide +kernel)

end Checked
end Railwatch
