/-
# Recording a sample

`History::record`: a new sample is stored, and the energy of the interval from
the sample recorded before it is credited to the minutes the interval covers.

`integrates` is the guard, `creditMinutes` the minute loop and `integrate` the
closure inside it.  Here an `i64` is an integer and an `f64` the exact rational number,
so the only rounding is the one the source writes out, `round() as i64`.  This is the
reading for what does not depend on the last digits of an energy: the times of the
rows, their order and their keys, and the order of two energies.  What the machine
computes is `Checked.record`.

`creditMinutes_eq_foldl` turns the loop into a fold of `creditPiece` over the
pieces of `Intervals.cut`, and `History.step_record` says what a call does to the store.
-/

import Railwatch.History.Store
import Railwatch.General.Quadrature

namespace Railwatch

open Sql Intervals

/-- The condition under which `record` integrates from `p` to `sample`. -/
def integrates (p sample : Telemetry) (maxGapMs : ℕ) : Prop :=
  let elapsed := sample.monotonicMs - p.monotonicMs
  let wall := sample.capturedAtMs - p.capturedAtMs
  p.sessionId = sample.sessionId ∧ p.deviceId = sample.deviceId ∧ p.sequence < sample.sequence ∧
    0 < elapsed ∧ elapsed ≤ maxGapMs ∧ 0 < wall ∧ |wall - asI64 elapsed| ≤ 100

instance (p sample : Telemetry) (maxGapMs : ℕ) : Decidable (integrates p sample maxGapMs) := by
  unfold integrates
  infer_instance

/-- `as i64` of a rounded `f64`, which saturates. -/
def saturateI64 (n : ℤ) : ℤ := max (-2 ^ 63) (min n (2 ^ 63 - 1))

/-- The closure `integrate`, in exact arithmetic: the energy in microjoules from `at_`
to `end_` of a power that moves from `left` to `right` while the wall clock moves from
`start` by `wall` milliseconds.  `Checked.integrate` computes it in binary64. -/
def integrate (start wall at_ end_ left right : ℤ) : ℤ :=
  let a : ℚ := (at_ - start) / wall
  let b : ℚ := (end_ - start) / wall
  let leftAt : ℚ := left + (right - left) * a
  let rightAt : ℚ := left + (right - left) * b
  saturateI64 (roundAway ((leftAt + rightAt) * (1 / 2) * (end_ - at_) / 1000))

/-- What one turn of the minute loop adds. -/
def minuteRow (p sample : Telemetry) (at_ end_ : ℤ) : EnergyRow :=
  let wall := sample.capturedAtMs - p.capturedAtMs
  let output := integrate p.capturedAtMs wall at_ end_ p.powerUw sample.powerUw
  let input := (p.estimatedInputUw.bind fun a => sample.estimatedInputUw.map fun b => (a, b)).map
    fun ab => integrate p.capturedAtMs wall at_ end_ ab.1 ab.2
  ⟨output, input.getD 0, end_ - at_, if input.isSome then end_ - at_ else 0⟩

/-- `DO UPDATE SET output_uj=output_uj+excluded.output_uj,…`. -/
def EnergyRow.add (excluded r : EnergyRow) : EnergyRow :=
  ⟨r.outputUj + excluded.outputUj, r.inputUj + excluded.inputUj,
    r.observedMs + excluded.observedMs, r.inputObservedMs + excluded.inputObservedMs⟩

/-- The minute loop of `record`, from `at_` on.  A minute is the multiple of its width
at or below `at_`, also before 1970, where `div_euclid` rounds down. -/
def creditMinutes (p sample : Telemetry) (energy : Table (String × ℤ) EnergyRow) (at_ : ℤ) :
    Table (String × ℤ) EnergyRow :=
  if h : at_ < sample.capturedAtMs then
    let minute := at_ / 60000 * 60000
    let end_ := min (minute + 60000) sample.capturedAtMs
    let row := minuteRow p sample at_ end_
    creditMinutes p sample (energy.upsert (sample.deviceId, minute) row row.add) end_
  else energy
termination_by (sample.capturedAtMs - at_).toNat

/-- `History::record`.  A sample that is stored already changes nothing, not even the
sample the store remembers; a sequence number beyond an `INTEGER` is refused before the
transaction writes anything. -/
def History.record (h : History) (sample : Telemetry) (maxGapMs : ℕ) : Except String History :=
  if 2 ^ 63 ≤ sample.sequence then
    .error "out of range integral type conversion attempted"
  else
    let key := (sample.deviceId, sample.sessionId, (sample.sequence : ℤ))
    if key ∈ h.db.samples.keys then .ok h
    else
      let energy := match h.previous with
        | some p =>
            if integrates p sample maxGapMs then
              creditMinutes p sample h.db.energy p.capturedAtMs
            else h.db.energy
        | none => h.db.energy
      .ok
        { db := { h.db with
            samples := h.db.samples.insertOrIgnore key ⟨sample.capturedAtMs, sample⟩
            energy := energy }
          previous := some sample }

end Railwatch
