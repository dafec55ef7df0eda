/-
# The power between two samples

`record` takes the power between two samples to move on a straight line, `powerLine`,
and cuts the interval at the minutes.  The pieces tile it, so the credited times
telescope to the wall time (`observed_pieces`), and the trapezoids below the line add
up to the trapezoid of the whole interval (`trapezoid_pieces`).

In exact arithmetic the closure `integrate` is the rounded trapezoid of a piece
(`integrate_eq`): no power that the decoder accepts makes it leave an `i64`.

That the pieces are trapezoids of one line is the reason that cutting loses nothing.
The machine's energies are near these, as `History/Conservation` says.
-/

import Railwatch.History.Accounts

namespace Railwatch

open Sql Intervals

/-- The samples a sequence of calls delivers. -/
def deliveredSamples (ops : List HistoryOp) : List Telemetry :=
  ops.filterMap fun
    | .record sample _ => some sample
    | .reopen => none

/-- The remembered sample is one that was delivered, so whatever holds of all delivered
samples holds of it. -/
theorem History.previous_mem {ops : List HistoryOp} {p : Telemetry}
    (h : (History.run {} ops).previous = some p) : p ∈ deliveredSamples ops := by
  induction ops using List.reverseRecOn with
  | nil => cases h
  | append_singleton ops op ih =>
      rw [deliveredSamples, List.filterMap_append]
      rw [History.run_concat] at h
      cases op with
      | reopen => cases h
      | record sample maxGapMs =>
          rcases (History.run {} ops).step_record sample maxGapMs with ⟨-, hstep⟩ | ⟨-, hstep⟩
          · rw [hstep] at h
            exact List.mem_append_left _ (ih h)
          · rw [hstep] at h
            exact List.mem_append_right _ (by simp [Option.some.inj h])

/-! ### One interval -/

/-- The power between two readings, on a straight line. -/
def powerLine (start wall left right : ℤ) : ℚ → ℚ := fun x =>
  (left - (right - left) * start / wall) + (right - left) / wall * x

/-- The power at a time, on the straight line between the two readings. -/
theorem powerLine_apply {wall : ℤ} (hwall : wall ≠ 0) (start left right : ℤ) (x : ℚ) :
    powerLine start wall left right x = left + (right - left) * ((x - start) / wall) := by
  have : (wall : ℚ) ≠ 0 := by exact_mod_cast hwall
  unfold powerLine
  field_simp
  ring

/-- The share of an interval that has passed. -/
theorem share_mem {start wall x : ℤ} (hwall : 0 < wall) (hx : start ≤ x)
    (hx' : x ≤ start + wall) :
    (0 : ℚ) ≤ (x - start) / wall ∧ ((x - start) / wall : ℚ) ≤ 1 := by
  have hw : (0 : ℚ) < wall := by exact_mod_cast hwall
  refine ⟨div_nonneg (by exact_mod_cast sub_nonneg.2 hx) hw.le, ?_⟩
  rw [div_le_one hw]
  have hpassed : x - start ≤ wall := by omega
  exact_mod_cast hpassed

/-- Between its ends the line stays between the readings' bounds, as each of its values
is a mean of the two readings with shares that add up to one. -/
theorem powerLine_bounds {start wall left right hi : ℤ} (hwall : 0 < wall)
    (hl : 0 ≤ left ∧ left ≤ hi) (hr : 0 ≤ right ∧ right ≤ hi) {x : ℤ} (hx : start ≤ x)
    (hx' : x ≤ start + wall) :
    (0 : ℚ) ≤ powerLine start wall left right x ∧
      powerLine start wall left right x ≤ (hi : ℚ) := by
  obtain ⟨hl₀, hl₁⟩ : (0 : ℚ) ≤ left ∧ (left : ℚ) ≤ hi := by exact_mod_cast hl
  obtain ⟨hr₀, hr₁⟩ : (0 : ℚ) ≤ right ∧ (right : ℚ) ≤ hi := by exact_mod_cast hr
  obtain ⟨hs₀, hs₁⟩ := share_mem hwall hx hx'
  rw [powerLine_apply hwall.ne']
  generalize ((x - start) / wall : ℚ) = s at hs₀ hs₁
  have h : (left : ℚ) + (right - left) * s = left * (1 - s) + right * s := by ring
  rw [h]
  constructor
  · exact add_nonneg (mul_nonneg hl₀ (by linarith)) (mul_nonneg hr₀ hs₀)
  · nlinarith [mul_le_mul_of_nonneg_right hl₁ (sub_nonneg.2 hs₁),
      mul_le_mul_of_nonneg_right hr₁ hs₀]

/-- Higher readings give a higher line. -/
theorem powerLine_le {start wall left right left' right' : ℤ} (hwall : 0 < wall) (hl : left ≤ left')
    (hr : right ≤ right') {x : ℤ} (hx : start ≤ x) (hx' : x ≤ start + wall) :
    powerLine start wall left right x ≤ powerLine start wall left' right' x := by
  have hl' : (left : ℚ) ≤ left' := by exact_mod_cast hl
  have hr' : (right : ℚ) ≤ right' := by exact_mod_cast hr
  obtain ⟨hs₀, hs₁⟩ := share_mem hwall hx hx'
  rw [powerLine_apply hwall.ne', powerLine_apply hwall.ne']
  generalize ((x - start) / wall : ℚ) = s at hs₀ hs₁
  have h (a b : ℚ) : a + (b - a) * s = a * (1 - s) + b * s := by ring
  rw [h, h]
  exact add_le_add (mul_le_mul_of_nonneg_right hl' (sub_nonneg.2 hs₁))
    (mul_le_mul_of_nonneg_right hr' hs₀)

/-- The closure integrates the line by its trapezoid. -/
theorem integrate_eq_trapezoid {start wall : ℤ} (hwall : wall ≠ 0) (piece : Piece)
    (left right : ℤ) : integrate start wall piece.start piece.stop left right =
      saturateI64 (roundAway (trapezoid (powerLine start wall left right) piece / 1000)) := by
  have hvalue : trapezoid (powerLine start wall left right) piece / 1000 =
      ((left + (right - left) * (((piece.start : ℚ) - start) / wall)) +
        (left + (right - left) * (((piece.stop : ℚ) - start) / wall))) * (1 / 2) *
          (piece.stop - piece.start) / 1000 := by
    rw [trapezoid, powerLine_apply hwall, powerLine_apply hwall]
    ring
  rw [hvalue]
  rfl

/-- The largest power that is integrated: the decoder's largest output over the
smallest usable efficiency. -/
def maxPowerUw : ℤ := 250000000000000

/-- Within a minute no energy reaches the limit of `i64`, so saturation changes nothing,
and the energy is the rounded trapezoid of its piece. -/
theorem integrate_eq {start wall left right : ℤ} {piece : Piece} (hwall : 0 < wall)
    (hl : 0 ≤ left ∧ left ≤ maxPowerUw) (hr : 0 ≤ right ∧ right ≤ maxPowerUw)
    (h₁ : start ≤ piece.start) (h₂ : piece.start ≤ piece.stop)
    (h₃ : piece.stop ≤ start + wall) (hlen : piece.length ≤ 60000) :
    integrate start wall piece.start piece.stop left right =
      roundAway (trapezoid (powerLine start wall left right) piece / 1000) := by
  have hb := trapezoid_bounds h₂ (powerLine_bounds hwall hl hr h₁ (h₂.trans h₃))
    (powerLine_bounds hwall hl hr (h₁.trans h₂) h₃)
  rw [zero_mul] at hb
  have hle : trapezoid (powerLine start wall left right) piece / 1000 ≤
      ((15000000000000000 : ℤ) : ℚ) := by
    have hlen' : (piece.length : ℚ) ≤ 60000 := by exact_mod_cast hlen
    have hmax : ((maxPowerUw : ℤ) : ℚ) = 250000000000000 := by norm_num [maxPowerUw]
    rw [hmax] at hb
    push_cast
    linarith [hb.2]
  have hnonneg : 0 ≤ trapezoid (powerLine start wall left right) piece / 1000 :=
    div_nonneg hb.1 (by norm_num)
  have h₄ := roundAway_nonneg hnonneg
  have h₅ := roundAway_le hnonneg hle
  rw [integrate_eq_trapezoid hwall.ne', saturateI64]
  omega

section Interval

variable {p sample : Telemetry} (hwall : p.capturedAtMs < sample.capturedAtMs)
include hwall

/-- The pieces of an interval tile it. -/
theorem tiles_minutePieces : Tiles (minutePieces p sample) p.capturedAtMs sample.capturedAtMs :=
  tiles_cut _ hwall.le

/-- Each of them lies inside of the interval, and is a minute long at most. -/
theorem minutePieces_mem {piece : Piece} (h : piece ∈ minutePieces p sample) :
    p.capturedAtMs ≤ piece.start ∧ piece.start < piece.stop ∧
      piece.stop ≤ sample.capturedAtMs ∧ piece.length ≤ 60000 := by
  obtain ⟨h₁, h₂, h₃⟩ := (tiles_minutePieces hwall).mem_bounds h
  obtain ⟨h₄, h₅⟩ := inCell_of_mem_cut (by decide) h
  refine ⟨h₁, h₂, h₃, ?_⟩
  unfold Piece.length
  omega

/-- The trapezoids of the pieces add up to that of the interval, as the power between
two samples is one line, and the pieces tile the interval. -/
theorem trapezoid_pieces (left right : ℤ) :
    ((minutePieces p sample).map fun piece => trapezoid (powerLine p.capturedAtMs
      (sample.capturedAtMs - p.capturedAtMs) left right) piece / 1000).sum =
      (left + right) / 2 * (sample.capturedAtMs - p.capturedAtMs) / 1000 := by
  have hw : 0 < sample.capturedAtMs - p.capturedAtMs := sub_pos.2 hwall
  have hsum := (tiles_minutePieces hwall).sum_trapezoid
    (left - (right - left) * p.capturedAtMs / ((sample.capturedAtMs - p.capturedAtMs : ℤ) : ℚ))
    ((right - left) / ((sample.capturedAtMs - p.capturedAtMs : ℤ) : ℚ))
  have hends : trapezoid (powerLine p.capturedAtMs (sample.capturedAtMs - p.capturedAtMs) left
      right) ⟨p.capturedAtMs, sample.capturedAtMs⟩ =
      (left + right) / 2 * (sample.capturedAtMs - p.capturedAtMs) := by
    have hne : ((sample.capturedAtMs - p.capturedAtMs : ℤ) : ℚ) ≠ 0 := by exact_mod_cast hw.ne'
    rw [trapezoid, powerLine_apply hw.ne', powerLine_apply hw.ne']
    push_cast at hne ⊢
    rw [sub_self, zero_div, mul_zero, add_zero, div_self hne]
    ring
  simp only [div_eq_mul_inv _ (1000 : ℚ), List.sum_map_mul_right]
  rw [← hends]
  exact congrArg (· * (1000 : ℚ)⁻¹) hsum

/-- The pieces' times add up to the wall time. -/
theorem observed_pieces :
    ((minutePieces p sample).map fun piece => piece.stop - piece.start).sum =
      sample.capturedAtMs - p.capturedAtMs :=
  (tiles_minutePieces hwall).sum_length

end Interval

/-! ### The columns of the pieces -/

/-- The efficiency allows an estimate of the input. -/
def Telemetry.usableEfficiency (t : Telemetry) : Prop :=
  0 < t.efficiencyMillipercent ∧ t.efficiencyMillipercent ≤ 100000

instance (t : Telemetry) : Decidable t.usableEfficiency := by
  unfold Telemetry.usableEfficiency
  infer_instance

/-- The input of a piece, where both samples have an estimate. -/
theorem minuteRow_of_estimates {p sample : Telemetry} {a b : ℤ} (ha : p.estimatedInputUw = some a)
    (hb : sample.estimatedInputUw = some b) (at_ end_ : ℤ) :
    (minuteRow p sample at_ end_).inputUj =
        integrate p.capturedAtMs (sample.capturedAtMs - p.capturedAtMs) at_ end_ a b ∧
      (minuteRow p sample at_ end_).inputObservedMs = end_ - at_ := by
  simp [minuteRow, ha, hb]

/-- There is no pair of estimates if one of the efficiencies allows none. -/
theorem estimates_eq_none {p sample : Telemetry}
    (h : ¬(p.usableEfficiency ∧ sample.usableEfficiency)) :
    (p.estimatedInputUw.bind fun a => sample.estimatedInputUw.map fun b => (a, b)) = none := by
  by_contra hne
  obtain ⟨ab, hab⟩ := Option.ne_none_iff_exists'.1 hne
  obtain ⟨a, ha, hb⟩ := Option.bind_eq_some_iff.1 hab
  obtain ⟨b, hb, -⟩ := Option.map_eq_some_iff.1 hb
  exact h ⟨p.estimatedInputUw_isSome.1 (by rw [ha]; rfl),
    sample.estimatedInputUw_isSome.1 (by rw [hb]; rfl)⟩

/-- And where one of them has none. -/
theorem minuteRow_of_not_usable {p sample : Telemetry}
    (h : ¬(p.usableEfficiency ∧ sample.usableEfficiency)) (at_ end_ : ℤ) :
    (minuteRow p sample at_ end_).inputUj = 0 ∧
      (minuteRow p sample at_ end_).inputObservedMs = 0 := by
  simp [minuteRow, estimates_eq_none h]

/-- An estimate from a power in the decoder's range. -/
theorem Telemetry.estimatedInputUw_bounds {t : Telemetry} {a : ℤ}
    (ht : 0 ≤ t.powerUw ∧ t.powerUw ≤ 2500000000) (ha : t.estimatedInputUw = some a) :
    0 ≤ a ∧ a ≤ maxPowerUw := by
  unfold Telemetry.estimatedInputUw at ha
  split_ifs at ha with h
  obtain rfl := Option.some.inj ha
  have h₀ : 0 ≤ t.powerUw * 100000 := by omega
  rw [Int.tdiv_eq_ediv_of_nonneg h₀]
  refine ⟨Int.ediv_nonneg h₀ h.1.le, (Int.ediv_le_self _ h₀).trans ?_⟩
  unfold maxPowerUw
  omega

end Railwatch
