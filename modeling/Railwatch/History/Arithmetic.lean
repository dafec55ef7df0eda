/-
# The arithmetic of a sample

`estimated_input_uw`, `imbalance` and the arithmetic of `record`, with the numbers
of the machine.  A function here has a result if no operation in it overflows or
panics and no cast changes its number; then it is the result of the function that
it stands beside.

The interpolation of `record` is in binary64.  Its rounding is a parameter, so that
exact arithmetic is one instance, for which the two agree.

Results are bounded with some room: estimates of at most 250 MW, energies of at most `2
^ 40` microjoules a millisecond, and pieces of at most a minute, so that what is made of
them stays below the limits however it is rounded.
-/

import Railwatch.Alerts.Imbalance
import Railwatch.General.Machine
import Railwatch.History.Trapezoids
import Railwatch.Protocol.Layout

namespace Railwatch
namespace Checked

open Machine Sql Intervals

/-! ### The programs -/

/-- `estimated_input_uw`. -/
def estimatedInputUw (t : Telemetry) : Option (Option ℤ) :=
  if 0 < t.efficiencyMillipercent ∧ t.efficiencyMillipercent ≤ 100000 then do
    let scaled ← i64 (t.powerUw * 100000)
    let estimate ← i64 (scaled.tdiv t.efficiencyMillipercent)
    return some estimate
  else return none

/-- `imbalance`, with a result if no operation leaves its type: the sum, the sixfold
currents and their differences, the product with a hundred, and the quotient, which is
cast to a `u32`. -/
def imbalance (currents : Vector ℤ 6) : Option (ℤ × ℕ) := do
  let total ← sum 64 currents.toList
  if total ≤ 0 then return (0, 0)
  else
    let spread ← i64 (currents.toList.max?.getD 0 - currents.toList.min?.getD 0)
    let deviations ← currents.toList.mapM fun c => do
      let scaled ← i64 (c * 6)
      let difference ← i64 (scaled - total)
      i64 |difference|
    let product ← i64 (deviations.max?.getD 0 * 100)
    let quotient ← i64 (product.tdiv total)
    let percent ← u32 quotient
    return (spread, percent)

/-- The condition under which `record` integrates, if its operations have results. The
clocks are compared from left to right, so that the difference of a wall time that is
not positive is never formed. -/
def integrates (p sample : Telemetry) (maxGapMs : ℕ) : Option Bool := do
  let elapsed := sample.monotonicMs - p.monotonicMs
  let wall ← i64 (sample.capturedAtMs - p.capturedAtMs)
  if p.sessionId = sample.sessionId ∧ p.deviceId = sample.deviceId ∧
      p.sequence < sample.sequence ∧ 0 < elapsed ∧ elapsed ≤ maxGapMs ∧ 0 < wall then
    let elapsed ← i64 elapsed
    let difference ← i64 (wall - elapsed)
    let distance ← i64 |difference|
    return distance ≤ 100
  else return false

/-- `a` and `b` of `integrate`: the share of the interval that has passed. -/
def share (r : Rounding) (start wall x : ℤ) : Option ℚ := do
  let passed ← i64 (x - start)
  r.op ((← r.op passed) / (← r.op wall))

/-- `left_at` and `right_at` of `integrate`: the power behind a share. -/
def powerAt (r : Rounding) (left right : ℤ) (share : ℚ) : Option ℚ := do
  let difference ← i64 (right - left)
  r.op ((← r.op left) + (← r.op ((← r.op difference) * share)))

/-- The closure `integrate`, in binary64. The ends of the piece as shares of the wall
time, the power there on the line between the two samples, their mean, and the energy
over the length of the piece, rounded to microjoules; every operation is rounded by
itself. -/
def integrate (r : Rounding) (start wall at_ end_ left right : ℤ) : Option ℤ := do
  let a ← share r start wall at_
  let b ← share r start wall end_
  let leftAt ← powerAt r left right a
  let rightAt ← powerAt r left right b
  let length ← i64 (end_ - at_)
  let mean ← r.op ((← r.op (leftAt + rightAt)) * (1 / 2))
  let energy ← r.op ((← r.op (mean * (← r.op length))) / 1000)
  i64 (roundAway energy)

/-- `input`: the energy of the estimates, if both samples have one. -/
def input (r : Rounding) (p sample : Telemetry) (wall at_ end_ : ℤ) : Option (Option ℤ) := do
  let left ← estimatedInputUw p
  let right ← estimatedInputUw sample
  (left.bind fun a => right.map fun b => (a, b)).mapM fun ab =>
    integrate r p.capturedAtMs wall at_ end_ ab.1 ab.2

/-- One turn of the minute loop: the minute, the end of the piece, and its row. The next
minute is computed before the end of the piece is, so that it has to be an `i64` also
where the piece ends earlier. -/
def turn (r : Rounding) (p sample : Telemetry) (wall at_ : ℤ) : Option (ℤ × ℤ × EnergyRow) := do
  let index ← i64 (at_ / 60000)
  let minute ← i64 (index * 60000)
  let next ← i64 (minute + 60000)
  let end_ := min next sample.capturedAtMs
  let output ← integrate r p.capturedAtMs wall at_ end_ p.powerUw sample.powerUw
  let input ← input r p sample wall at_ end_
  let observed ← i64 (end_ - at_)
  return (minute, end_, ⟨output, input.getD 0, observed, if input.isSome then observed else 0⟩)

/-- `DO UPDATE SET output_uj=output_uj+excluded.output_uj,…`. -/
def add (excluded r : EnergyRow) : Option EnergyRow := do
  return ⟨← i64 (r.outputUj + excluded.outputUj), ← i64 (r.inputUj + excluded.inputUj),
    ← i64 (r.observedMs + excluded.observedMs),
    ← i64 (r.inputObservedMs + excluded.inputObservedMs)⟩

/-- The upsert of a turn. -/
def credit (energy : EnergyTable) (key : String × ℤ) (row : EnergyRow) : Option EnergyTable :=
  match energy.find? key with
  | some old => (add row old).map fun new => energy.upsert key row fun _ => new
  | none => some (energy.upsert key row id)

/-- The minute loop, and its turns; it is given a number of them. Without a turn left
there is no result, so a result says that the loop has ended; each turn credits its row
before the next one starts. -/
def creditMinutes (r : Rounding) (p sample : Telemetry) (wall : ℤ) :
    ℕ → EnergyTable → ℤ → Option (EnergyTable × ℕ)
  | 0, _, _ => none
  | turns + 1, energy, at_ =>
      if at_ < sample.capturedAtMs then do
        let (minute, end_, row) ← turn r p sample wall at_
        let energy ← credit energy (sample.deviceId, minute) row
        let (energy, made) ← creditMinutes r p sample wall turns energy end_
        return (energy, made + 1)
      else return (energy, 0)

/-- What `record` makes of the energy table.  A turn of the minute loop takes a
millisecond at least, so there are not more turns than milliseconds. -/
def recordEnergy (r : Rounding) (previous : Option Telemetry) (sample : Telemetry)
    (maxGapMs : ℕ) (energy : EnergyTable) : Option EnergyTable :=
  match previous with
  | none => some energy
  | some p => do
      let wall ← i64 (sample.capturedAtMs - p.capturedAtMs)
      if ← integrates p sample maxGapMs then
        let (energy, _) ← creditMinutes r p sample wall (wall.toNat + 1) energy p.capturedAtMs
        return energy
      else return energy

/-- `History::record`, with a result if no operation overflows. The sample is inserted
first; one that is stored already ends the call there, and is not remembered. Otherwise
the interval since the sample before is credited, and the sample takes its place. -/
def record (r : Rounding) (h : History) (sample : Telemetry) (maxGapMs : ℕ) :
    Option (Except String History) :=
  if 2 ^ 63 ≤ sample.sequence then
    some (.error "out of range integral type conversion attempted")
  else if sample.key ∈ h.db.samples.keys then some (.ok h)
  else (recordEnergy r h.previous sample maxGapMs h.db.energy).map fun energy => .ok
    { db := { h.db with
        samples := h.db.samples.insertOrIgnore sample.key ⟨sample.capturedAtMs, sample⟩
        energy := energy }
      previous := some sample }

/-- The store after a call; one that fails leaves it as it was.  There is none after
an operation that has no result. -/
def step (r : Rounding) : Option History → HistoryOp → Option History
  | none, _ => none
  | some h, .record sample maxGapMs =>
      (record r h sample maxGapMs).map fun result => result.toOption.getD h
  | some h, .reopen => some { h with previous := none }

/-- A row that the integers of the columns can hold. -/
def RowFits (row : EnergyRow) : Prop := ∀ column : EnergyColumn, Fits 64 (column.get row)

/-! ### Readings -/

/-- The readings of a sample come from a report that the decoder accepts. -/
def Decoded (t : Telemetry) : Prop :=
  ∃ report raw, Wire.decodeTsTelemetry report = .ok raw ∧ t.powerUw = raw.powerUw ∧
    t.efficiencyMillipercent = raw.efficiencyMillipercent ∧
    t.connectorCurrentsMa = raw.connectorCurrentsMa.toList

/-- The clock of a sample is in the years from 1970 to 9999. -/
def Dated (t : Telemetry) : Prop := 0 ≤ t.capturedAtMs ∧ t.capturedAtMs < 253402300800000

/-- Readings are not negative. -/
theorem linear11_nonneg (w : UInt16) (scale : Wire.Scale) : 0 ≤ Wire.linear11 w scale :=
  Wire.unsignedLinear11_eq w scale ▸ (Wire.unsignedLinear11_fits w scale).1

/-- **What a decoded sample reads.** The decoder refuses larger values, and its numbers
are never negative. -/
theorem Decoded.range {t : Telemetry} (h : Decoded t) :
    (0 ≤ t.powerUw ∧ t.powerUw ≤ 2500000000) ∧
      ∀ c ∈ t.connectorCurrentsMa, CurrentsInRange c := by
  obtain ⟨report, raw, hraw, hpower, -, hconnectors⟩ := h
  rw [Wire.decodeTsTelemetry_eq] at hraw
  split_ifs at hraw with hreport hecho hbusy hlimits
  obtain rfl := Except.ok.inj hraw
  refine ⟨hpower ▸ ⟨linear11_nonneg _ _, hlimits.power⟩, fun c hc i => ?_⟩
  rw [hconnectors, Vector.mem_toList_iff] at hc
  refine ⟨?_, hlimits.connectors c hc _ (Vector.getElem_mem i.2)⟩
  obtain ⟨k, hk, rfl⟩ := Vector.mem_ofFn.1 hc
  simp only [conductor, Fin.getElem_fin, Vector.getElem_ofFn]
  exact linear11_nonneg _ _

/-! ### One sample -/

/-- **The estimate**: even an efficiency of one thousandth of a percent does not make
it too large. -/
theorem estimatedInputUw_eq {t : Telemetry} (h : 0 ≤ t.powerUw ∧ t.powerUw ≤ 2500000000) :
    estimatedInputUw t = some t.estimatedInputUw := by
  unfold estimatedInputUw Telemetry.estimatedInputUw
  split_ifs with husable
  · have hscaled : i64 (t.powerUw * 100000) = some (t.powerUw * 100000) :=
      i64_eq (by omega) (by omega)
    obtain ⟨hlow, hhigh⟩ := Telemetry.estimatedInputUw_bounds h (if_pos husable)
    have hestimate : i64 ((t.powerUw * 100000).tdiv t.efficiencyMillipercent) =
        some ((t.powerUw * 100000).tdiv t.efficiencyMillipercent) := by
      unfold maxPowerUw at hhigh
      exact i64_eq (by omega) (by omega)
    rw [hscaled, some_bind, hestimate]
    rfl
  · rfl

/-- What holds of some numbers and of zero holds of the largest of them. -/
theorem max?_getD {l : List ℤ} {P : ℤ → Prop} (h : ∀ x ∈ l, P x) (hzero : P 0) :
    P (l.max?.getD 0) := by
  cases hmax : l.max? with
  | none => exact hzero
  | some m => exact h m (List.max?_mem hmax)

/-- The same of the smallest. -/
theorem min?_getD {l : List ℤ} {P : ℤ → Prop} (h : ∀ x ∈ l, P x) (hzero : P 0) :
    P (l.min?.getD 0) := by
  cases hmin : l.min? with
  | none => exact hzero
  | some m => exact h m (List.min?_mem hmin)

section Imbalance

variable {currents : Vector ℤ 6} (h : CurrentsInRange currents)
include h

/-- The sum that `observe` and `imbalance` form. -/
theorem sum_eq : sum 64 currents.toList = some currents.toList.sum := by
  have hsmall : ∀ c ∈ currents.toList, |c| ≤ 50000 := fun c hc => by
    obtain ⟨hlow, hhigh⟩ := h.mem hc
    exact abs_le.2 ⟨by omega, hhigh⟩
  refine sum_of_abs_le hsmall ?_
  rw [Vector.length_toList]
  norm_num

/-- **The imbalance.** Six currents of 50 A have a small sum, and the percentage is 500
at most. -/
theorem imbalance_eq : imbalance currents = some (Railwatch.imbalance currents) := by
  have hlarge := h.sum_le
  unfold imbalance Railwatch.imbalance
  rw [sum_eq h, some_bind]
  dsimp only
  split_ifs with htotal
  · rfl
  generalize currents.toList.sum = total at *
  have hmax := max?_getD (fun c => h.mem) ⟨le_rfl, by norm_num⟩
  have hmin := min?_getD (fun c => h.mem) ⟨le_rfl, by norm_num⟩
  have hdeviation (c : ℤ) (hc : c ∈ currents.toList) : |c * 6 - total| ≤ 600000 := by
    have hc := h.mem hc
    exact abs_le.2 ⟨by omega, by omega⟩
  have hdeviations : (currents.toList.mapM fun c => do
      let scaled ← i64 (c * 6)
      let difference ← i64 (scaled - total)
      i64 |difference|) = some (currents.toList.map fun c => |c * 6 - total|) := by
    refine mapM_eq_some fun c hmem => ?_
    have hc := h.mem hmem
    have hd := hdeviation c hmem
    have habs := abs_nonneg (c * 6 - total)
    rw [i64_eq (by omega) (by omega), some_bind,
      i64_eq (by omega) (by omega), some_bind, i64_eq (by omega) (by omega)]
  have hlargest : 0 ≤ (currents.toList.map fun c => |c * 6 - total|).max?.getD 0 ∧
      (currents.toList.map fun c => |c * 6 - total|).max?.getD 0 ≤ 600000 := by
    refine max?_getD (P := fun d => 0 ≤ d ∧ d ≤ 600000) (fun d hd => ?_) ⟨le_rfl, by norm_num⟩
    obtain ⟨c, hc, rfl⟩ := List.mem_map.1 hd
    exact ⟨abs_nonneg _, hdeviation c hc⟩
  rw [i64_eq (by omega) (by omega), some_bind, hdeviations, some_bind]
  generalize (currents.toList.map fun c => |c * 6 - total|).max?.getD 0 = largest at *
  have hproduct : 0 ≤ largest * 100 := by omega
  have hquotient : 0 ≤ (largest * 100).tdiv total ∧ (largest * 100).tdiv total ≤ 60000000 := by
    rw [Int.tdiv_eq_ediv_of_nonneg hproduct]
    exact ⟨Int.ediv_nonneg hproduct (by omega), (Int.ediv_le_self _ hproduct).trans (by omega)⟩
  rw [i64_eq (by omega) (by omega), some_bind, i64_eq (by omega) (by omega),
    some_bind, u32_eq hquotient.1 (by omega), some_bind, asU32,
    Int.emod_eq_of_lt hquotient.1 (by omega)]
  rfl

end Imbalance

/-! ### An interval -/

/-- **The guard of `record`**, if the clocks' difference fits. The elapsed time is only
cast where it is at most the largest gap. -/
theorem integrates_eq {p sample : Telemetry}
    (hwall : Fits 64 (sample.capturedAtMs - p.capturedAtMs)) {maxGapMs : ℕ}
    (hgap : maxGapMs ≤ 2 ^ 62) :
    integrates p sample maxGapMs = some (decide (Railwatch.integrates p sample maxGapMs)) := by
  obtain ⟨hwall₀, hwall₁⟩ := hwall
  norm_num at hwall₀ hwall₁
  unfold integrates Railwatch.integrates
  rw [i64_eq (by omega) (by omega), some_bind]
  dsimp only
  split_ifs with hguard
  · obtain ⟨hsession, hdevice, hsequence, hpos, hle, hwall⟩ := hguard
    have hdistance : |sample.capturedAtMs - p.capturedAtMs -
        ((sample.monotonicMs - p.monotonicMs : ℕ) : ℤ)| ≤ 9223372036854775807 :=
      abs_le.2 ⟨by omega, by omega⟩
    have habs := abs_nonneg (sample.capturedAtMs - p.capturedAtMs -
      ((sample.monotonicMs - p.monotonicMs : ℕ) : ℤ))
    have hcast : asI64 (sample.monotonicMs - p.monotonicMs) =
        (sample.monotonicMs - p.monotonicMs : ℕ) := asI64_of_lt (by omega)
    rw [i64_eq (by omega) (by omega), some_bind, i64_eq (by omega) (by omega), some_bind,
      i64_eq (by omega) (by omega), some_bind]
    simp only [hsession, hdevice, hsequence, hpos, hle, hwall, hcast, true_and]
    rfl
  · refine congrArg some (decide_eq_false fun h => hguard ?_).symm
    exact ⟨h.1, h.2.1, h.2.2.1, h.2.2.2.1, h.2.2.2.2.1, h.2.2.2.2.2.1⟩

/-- The difference of two clocks. -/
theorem Dated.fits {p sample : Telemetry} (hp : Dated p) (hsample : Dated sample) :
    Fits 64 (sample.capturedAtMs - p.capturedAtMs) := by
  obtain ⟨hp₀, hp₁⟩ := hp
  obtain ⟨hs₀, hs₁⟩ := hsample
  constructor <;> norm_num <;> omega

section Integrate

variable (r : Rounding) {start wall at_ end_ left right : ℤ}

/-- The power behind a share. It stays far below the places where a conversion or a
product could fail, and without rounding it is the value on the line between the two
powers. -/
theorem powerAt_spec (hleft : 0 ≤ left ∧ left ≤ maxPowerUw)
    (hright : 0 ≤ right ∧ right ≤ maxPowerUw) {share : ℚ} (hshare : |share| ≤ 1) :
    ∃ power, powerAt r left right share = some power ∧ |power| ≤ 2 ^ 49 ∧
      (r = .exact → power = left + (right - left) * share) := by
  unfold maxPowerUw at hleft hright
  have hl : |left| ≤ 2 ^ 48 := abs_le.2 ⟨by omega, by omega⟩
  have hd : |right - left| ≤ 2 ^ 48 := abs_le.2 ⟨by omega, by omega⟩
  have hproduct : |((right - left : ℤ) : ℚ) * share| ≤ 2 ^ 48 := by
    rw [abs_mul, ← mul_one (2 ^ 48 : ℚ)]
    exact mul_le_mul (by exact_mod_cast hd) hshare (abs_nonneg _) (by norm_num)
  obtain ⟨hop, hbound⟩ := r.op_of_abs_le (by norm_num) hproduct
  have hsum : |(left : ℚ) + r.apply (((right - left : ℤ) : ℚ) * share)| ≤ 2 ^ 49 := by
    have hl' : |(left : ℚ)| ≤ 2 ^ 48 := by exact_mod_cast hl
    have hadd := abs_add_le (left : ℚ) (r.apply (((right - left : ℤ) : ℚ) * share))
    linarith
  obtain ⟨hop', hbound'⟩ := r.op_of_abs_le (by norm_num) hsum
  refine ⟨_, ?_, hbound', fun hexact => ?_⟩
  · unfold powerAt
    rw [i64_eq (by omega) (by omega), some_bind, r.op_intCast (hl.trans (by norm_num)), some_bind,
      r.op_intCast (hd.trans (by norm_num)), some_bind, hop, some_bind, hop']
  · subst hexact
    push_cast
    rfl

/-- The mean of two powers. -/
theorem mean_spec {a b : ℚ} (ha : |a| ≤ 2 ^ 49) (hb : |b| ≤ 2 ^ 49) :
    ∃ total mean, r.op (a + b) = some total ∧ r.op (total * (1 / 2)) = some mean ∧
      |mean| ≤ 2 ^ 49 ∧ (r = .exact → mean = (a + b) * (1 / 2)) := by
  have hsum : |a + b| ≤ 2 ^ 50 := by
    have hadd := abs_add_le a b
    linarith
  obtain ⟨hop, hbound⟩ := r.op_of_abs_le (by norm_num) hsum
  have hhalf : |r.apply (a + b) * (1 / 2)| ≤ 2 ^ 49 := by
    rw [abs_mul, abs_of_pos (by norm_num : (0 : ℚ) < 1 / 2)]
    linarith
  obtain ⟨hop', hbound'⟩ := r.op_of_abs_le (by norm_num) hhalf
  refine ⟨_, _, hop, hop', hbound', fun hexact => ?_⟩
  subst hexact
  rfl

/-- The energy of a mean power, before it is a whole number: below `2 ^ 40` for each
millisecond, which leaves room for the sums of the minute. -/
theorem energy_spec {mean : ℚ} (hmean : |mean| ≤ 2 ^ 49) {length : ℕ} (hlength : length ≤ 2 ^ 20) :
    ∃ area energy, r.op (mean * length) = some area ∧ r.op (area / 1000) = some energy ∧
      |energy| ≤ length * 2 ^ 40 ∧ (r = .exact → energy = mean * length / 1000) := by
  have hnonneg : (0 : ℚ) ≤ length := Nat.cast_nonneg _
  have harea : |mean * length| ≤ length * 2 ^ 49 := by
    rw [abs_mul, Nat.abs_cast, mul_comm]
    exact mul_le_mul_of_nonneg_left hmean hnonneg
  obtain ⟨hop, hbound⟩ := r.op_spec (by omega) (by norm_num) harea
  have henergy : |r.apply (mean * length) / 1000| ≤ length * 2 ^ 40 := by
    rw [abs_div, abs_of_pos (by norm_num : (0 : ℚ) < 1000), div_le_iff₀ (by norm_num)]
    linarith
  obtain ⟨hop', hbound'⟩ := r.op_spec (by omega) (by norm_num) henergy
  refine ⟨_, _, hop, hop', hbound', fun hexact => ?_⟩
  subst hexact
  rfl

variable (hwall : 0 < wall ∧ wall ≤ 2 ^ 20)
include hwall

/-- The share that has passed: a number between -1 and 1, whatever the rounding, since 1
is a number that rounding keeps. -/
theorem share_spec {x : ℤ} (hlow : start ≤ x) (hhigh : x ≤ start + wall) :
    ∃ a, share r start wall x = some a ∧ |a| ≤ 1 ∧ (r = .exact → a = (x - start) / wall) := by
  obtain ⟨hpos, hsmall⟩ := hwall
  have hpassed : |x - start| ≤ 2 ^ 53 := abs_le.2 ⟨by omega, by omega⟩
  have hwhole : |wall| ≤ 2 ^ 53 := abs_le.2 ⟨by omega, by omega⟩
  have hshare : |((x - start : ℤ) : ℚ) / wall| ≤ 2 ^ 0 := by
    obtain ⟨hnonneg, hone⟩ := share_mem hpos hlow hhigh
    rwa [Int.cast_sub, abs_of_nonneg hnonneg, pow_zero]
  obtain ⟨hop, hbound⟩ := r.op_of_abs_le (Nat.zero_le _) hshare
  refine ⟨_, ?_, hbound.trans (pow_zero _).le, fun hexact => ?_⟩
  · unfold share
    rw [i64_eq (by omega) (by omega), some_bind, r.op_intCast hpassed, some_bind,
      r.op_intCast hwhole, some_bind, hop]
  · subst hexact
    push_cast
    rfl

/-- **The energy of a piece**: at most `2 ^ 40` microjoules a millisecond. The shares
are between zero and one, and the powers on the line between those of the two samples,
each within its rounding. -/
theorem integrate_spec (hstart : start ≤ at_) (hpiece : at_ ≤ end_) (hend : end_ ≤ start + wall)
    (hleft : 0 ≤ left ∧ left ≤ maxPowerUw) (hright : 0 ≤ right ∧ right ≤ maxPowerUw) :
    ∃ energy, integrate r start wall at_ end_ left right = some energy ∧
      |energy| ≤ 2 ^ 40 * (end_ - at_) ∧
      (r = .exact → energy = Railwatch.integrate start wall at_ end_ left right) := by
  obtain ⟨a, ha, ha₁, haexact⟩ := share_spec r hwall hstart (hpiece.trans hend)
  obtain ⟨b, hb, hb₁, hbexact⟩ := share_spec r hwall (hstart.trans hpiece) hend
  obtain ⟨leftAt, hleftAt, hleftAt₁, hleftExact⟩ := powerAt_spec r hleft hright ha₁
  obtain ⟨rightAt, hrightAt, hrightAt₁, hrightExact⟩ := powerAt_spec r hleft hright hb₁
  obtain ⟨length, hlength⟩ : ∃ length : ℕ, end_ - at_ = length :=
    Int.eq_ofNat_of_zero_le (by omega)
  have hsmall : length ≤ 2 ^ 20 := by
    obtain ⟨-, hwall⟩ := hwall
    omega
  have hlength' : |(length : ℤ)| ≤ 2 ^ 53 := by
    rw [Nat.abs_cast]
    exact_mod_cast hsmall.trans (by norm_num)
  obtain ⟨total, mean, htotal, hmean, hmean₁, hmeanExact⟩ := mean_spec r hleftAt₁ hrightAt₁
  obtain ⟨area, energy, harea, henergy, henergy₁, henergyExact⟩ := energy_spec r hmean₁ hsmall
  have hround := abs_roundAway_le (n := length * 2 ^ 40) (by push_cast; exact henergy₁)
  have hround' := abs_le.1 hround
  refine ⟨roundAway energy, ?_, ?_, fun hexact => ?_⟩
  · unfold integrate
    rw [ha, some_bind, hb, some_bind, hleftAt, some_bind, hrightAt, some_bind, hlength,
      i64_eq (by omega) (by omega), some_bind, htotal, some_bind, hmean, some_bind,
      r.op_intCast hlength', some_bind, Int.cast_natCast, harea, some_bind, henergy, some_bind,
      i64_eq (by omega) (by omega)]
  · rw [hlength, mul_comm (2 ^ 40 : ℤ)]
    exact hround
  · have hsaturate : saturateI64 (roundAway energy) = roundAway energy := by
      unfold saturateI64
      omega
    unfold Railwatch.integrate
    dsimp only
    rw [← haexact hexact, ← hbexact hexact, ← hleftExact hexact, ← hrightExact hexact,
      ← Int.cast_sub, hlength, Int.cast_natCast, ← hmeanExact hexact, ← henergyExact hexact,
      hsaturate]

end Integrate

/-! ### Rows -/

/-- The energies of a row are those of its observed time, at `2 ^ 40` microjoules
a millisecond at most. -/
structure Bounded (row : EnergyRow) : Prop where
  /-- The output, of either sign. -/
  output : |row.outputUj| ≤ 2 ^ 40 * row.observedMs
  /-- The estimated input. -/
  input : |row.inputUj| ≤ 2 ^ 40 * row.observedMs
  /-- The input is observed for a part of the time. -/
  observed : 0 ≤ row.inputObservedMs ∧ row.inputObservedMs ≤ row.observedMs

/-- The sum of two bounded rows is bounded. -/
theorem Bounded.add {a b : EnergyRow} (ha : Bounded a) (hb : Bounded b) : Bounded (a + b) where
  output := by
    rw [EnergyRow.add_outputUj, EnergyRow.add_observedMs, mul_add]
    exact (abs_add_le _ _).trans (add_le_add ha.output hb.output)
  input := by
    rw [EnergyRow.add_inputUj, EnergyRow.add_observedMs, mul_add]
    exact (abs_add_le _ _).trans (add_le_add ha.input hb.input)
  observed := by
    obtain ⟨ha₀, ha₁⟩ := ha.observed
    obtain ⟨hb₀, hb₁⟩ := hb.observed
    rw [EnergyRow.add_inputObservedMs, EnergyRow.add_observedMs]
    omega

/-- The numbers of a row of a few minutes. -/
theorem Bounded.small {row : EnergyRow} (h : Bounded row) {n : ℤ} (hn : row.observedMs ≤ n) :
    |row.outputUj| ≤ 2 ^ 40 * n ∧ |row.inputUj| ≤ 2 ^ 40 * n ∧
      |row.observedMs| ≤ n ∧ |row.inputObservedMs| ≤ n := by
  obtain ⟨houtput, hinput, hobserved⟩ := h
  refine ⟨by omega, by omega, ?_, ?_⟩ <;> exact abs_le.2 ⟨by omega, by omega⟩

/-- Rows of a few minutes add up. -/
theorem add_eq {old row : EnergyRow} (hold : Bounded old) (hrow : Bounded row)
    (hsmall : old.observedMs + row.observedMs ≤ 2 ^ 22) : add row old = some (old + row) := by
  obtain ⟨houtput, hinput, hobserved, hinputObserved⟩ := (hold.add hrow).small hsmall
  rw [EnergyRow.add_outputUj] at houtput
  rw [EnergyRow.add_inputUj] at hinput
  rw [EnergyRow.add_observedMs] at hobserved
  rw [EnergyRow.add_inputObservedMs] at hinputObserved
  unfold add i64
  rw [checked_of_abs_lt (by omega), some_bind, checked_of_abs_lt (by omega), some_bind,
    checked_of_abs_lt (by omega), some_bind, checked_of_abs_lt (by omega)]
  rfl

/-! ### The minute loop -/

/-- An interval that `record` integrates, between two decoded samples of the calendar's
years: the clock has moved forward, and by a minute at most. -/
structure Interval (p sample : Telemetry) : Prop where
  /-- The sample before it, as the decoder makes it. -/
  earlier : Decoded p
  /-- The sample behind it. -/
  later : Decoded sample
  /-- Both have times that the calendar knows. -/
  dated : Dated p ∧ Dated sample
  /-- The clock was not set back. -/
  forward : p.capturedAtMs < sample.capturedAtMs
  /-- The guard lets a minute pass at most. -/
  short : sample.capturedAtMs - p.capturedAtMs ≤ 60000

section Loop

variable (r : Rounding) {p sample : Telemetry} (h : Interval p sample)
include h

omit r in
/-- The wall time of an interval that `record` integrates over: the guard bounds it. -/
theorem Interval.wall : 0 < sample.capturedAtMs - p.capturedAtMs ∧
    sample.capturedAtMs - p.capturedAtMs ≤ 2 ^ 20 :=
  ⟨sub_pos.2 h.forward, h.short.trans (by norm_num)⟩

/-- The energy of the estimates: none unless both samples have an estimate, and then the
area below the line between the two. The estimates are in range because the powers and
efficiencies are. -/
theorem input_spec {at_ end_ : ℤ} (hlow : p.capturedAtMs ≤ at_) (hpiece : at_ ≤ end_)
    (hhigh : end_ ≤ sample.capturedAtMs) :
    ∃ energy, input r p sample (sample.capturedAtMs - p.capturedAtMs) at_ end_ = some energy ∧
      |energy.getD 0| ≤ 2 ^ 40 * (end_ - at_) ∧
      (r = .exact → energy = (p.estimatedInputUw.bind fun a =>
        sample.estimatedInputUw.map fun b => (a, b)).map fun ab =>
          Railwatch.integrate p.capturedAtMs (sample.capturedAtMs - p.capturedAtMs) at_ end_
            ab.1 ab.2) := by
  have hp := h.earlier.range.1
  have hs := h.later.range.1
  have hforward := h.forward
  unfold input
  rw [estimatedInputUw_eq hp, some_bind, estimatedInputUw_eq hs, some_bind]
  cases hpair : p.estimatedInputUw.bind fun a => sample.estimatedInputUw.map fun b => (a, b) with
  | none =>
      refine ⟨none, rfl, ?_, fun _ => rfl⟩
      rw [Option.getD_none, abs_zero]
      omega
  | some ab =>
      obtain ⟨a, ha, hmap⟩ := Option.bind_eq_some_iff.1 hpair
      obtain ⟨b, hb, rfl⟩ := Option.map_eq_some_iff.1 hmap
      obtain ⟨energy, henergy, hbound, hexact⟩ := integrate_spec r h.wall hlow hpiece (by omega)
        (Telemetry.estimatedInputUw_bounds hp ha) (Telemetry.estimatedInputUw_bounds hs hb)
      refine ⟨some energy, ?_, hbound, fun h => congrArg some (hexact h)⟩
      rw [Option.mapM_some, henergy]
      rfl

/-- **One turn.** All of its numbers fit, since the piece is a minute at most and its
power is bounded. -/
theorem turn_spec {at_ : ℤ} (hlow : p.capturedAtMs ≤ at_) (hhigh : at_ < sample.capturedAtMs) :
    let minute := at_ / 60000 * 60000
    let end_ := min (minute + 60000) sample.capturedAtMs
    ∃ row, turn r p sample (sample.capturedAtMs - p.capturedAtMs) at_ =
        some (minute, end_, row) ∧
      Bounded row ∧ row.observedMs = end_ - at_ ∧
      (r = .exact → row = minuteRow p sample at_ end_) := by
  intro minute end_
  obtain ⟨⟨hp₀, hp₁⟩, hs₀, hs₁⟩ := h.dated
  have hforward := h.forward
  have hshort := h.short
  have hpower := h.earlier.range.1
  have hpower' := h.later.range.1
  have hmax : (2500000000 : ℤ) ≤ maxPowerUw := by decide
  have hminute : minute = at_ / 60000 * 60000 := rfl
  have hend : end_ = min (minute + 60000) sample.capturedAtMs := rfl
  have hpiece : at_ ≤ end_ := by omega
  obtain ⟨output, houtput, houtputBound, houtputExact⟩ := integrate_spec r h.wall hlow hpiece
    (by omega) ⟨hpower.1, hpower.2.trans hmax⟩ ⟨hpower'.1, hpower'.2.trans hmax⟩
  obtain ⟨energy, henergy, hinputBound, hinputExact⟩ := input_spec r h hlow hpiece (by omega)
  refine ⟨⟨output, energy.getD 0, end_ - at_, if energy.isSome then end_ - at_ else 0⟩, ?_,
    ⟨houtputBound, hinputBound, ?_⟩, rfl, fun hexact => ?_⟩
  · unfold turn
    rw [i64_eq (by omega) (by omega), some_bind, i64_eq (by omega) (by omega), some_bind,
      i64_eq (by omega) (by omega), some_bind]
    dsimp only
    rw [← hminute, ← hend, houtput, some_bind, henergy, some_bind, i64_eq (by omega) (by omega)]
    rfl
  · dsimp only
    split_ifs <;> omega
  · unfold minuteRow
    dsimp only
    rw [houtputExact hexact, hinputExact hexact]

end Loop

/-- A row that the upserts of turns add up to, for its minute. The first turn inserts
it, and each later one adds to it. -/
inductive Credited (r : Rounding) (minute : ℤ) : EnergyRow → Prop
  | piece {p sample : Telemetry} {at_ end_ : ℤ} {row : EnergyRow} : Interval p sample →
      p.capturedAtMs ≤ at_ → at_ < sample.capturedAtMs →
      turn r p sample (sample.capturedAtMs - p.capturedAtMs) at_ = some (minute, end_, row) →
      Credited r minute row
  | add {old row : EnergyRow} : Credited r minute old → Credited r minute row →
      Credited r minute (old + row)

/-- What is credited is bounded, and dated. -/
theorem Credited.spec {r : Rounding} {minute : ℤ} {row : EnergyRow} (h : Credited r minute row) :
    Bounded row ∧ 0 ≤ minute ∧ minute < 253402300800000 := by
  induction h with
  | @piece p sample at_ _ _ h hlow hhigh hturn =>
      obtain ⟨⟨hp₀, hp₁⟩, hs₀, hs₁⟩ := h.dated
      obtain ⟨row, hrow, hbounded, -, -⟩ := turn_spec r h hlow hhigh
      rw [hrow] at hturn
      obtain ⟨rfl, -, rfl⟩ : _ = _ ∧ _ = _ ∧ _ = _ := by simpa using hturn
      exact ⟨hbounded, by omega, by omega⟩
  | add _ _ hold hrow => exact ⟨hold.1.add hrow.1, hold.2⟩

/-- A table of credited rows, none of which has observed more than some time. -/
def CreditedTable (r : Rounding) (energy : EnergyTable) (budget : ℤ) : Prop :=
  ∀ key row, energy.find? key = some row → Credited r key.2 row ∧ row.observedMs ≤ budget

/-- The upsert of a turn. The sums of the row and the old one fit, as the observed time
of a minute bounds its energies, and a table with such rows stays one. The budget is the
time that a row may have by now; a turn adds a minute to it. -/
theorem credit_spec {r : Rounding} {energy : EnergyTable} {budget : ℤ} {row : EnergyRow}
    {key : String × ℤ} (htable : CreditedTable r energy budget) (hrow : Credited r key.2 row)
    (hobserved : 0 ≤ row.observedMs ∧ row.observedMs ≤ 60000)
    (hnonneg : 0 ≤ budget) (hbudget : budget + 60000 ≤ 2 ^ 22) :
    credit energy key row = some (energy.upsert key row row.add) ∧
      CreditedTable r (energy.upsert key row row.add) (budget + 60000) := by
  constructor
  · unfold credit
    cases hfind : energy.find? key with
    | none =>
        refine congrArg some (Table.upsert_congr (fun old hold => ?_) row)
        rw [hfind] at hold
        cases hold
    | some old =>
        obtain ⟨hold, hsmall⟩ := htable key old hfind
        dsimp only
        rw [add_eq hold.spec.1 hrow.spec.1 (by omega)]
        refine congrArg some (Table.upsert_congr (fun old' hold' => ?_) row)
        rw [hfind] at hold'
        obtain rfl := Option.some.inj hold'
        rfl
  · intro key' row' hfind
    rw [Table.find?_upsert] at hfind
    split_ifs at hfind with hkey
    · subst hkey
      obtain rfl := Option.some.inj hfind
      cases hold : energy.find? key' with
      | none => exact ⟨hrow, by simp only [Option.elim_none]; omega⟩
      | some old =>
          obtain ⟨hcredited, hsmall⟩ := htable key' old hold
          refine ⟨.add hcredited hrow, ?_⟩
          simp only [Option.elim_some, EnergyRow.add_eq, EnergyRow.add_observedMs]
          omega
    · obtain ⟨hcredited, hsmall⟩ := htable key' row' hfind
      exact ⟨hcredited, by omega⟩

/-- **The minute loop** ends after as many turns as there are minutes to reach. Each
turn adds a minute's worth to the budget of what a row may hold. -/
theorem creditMinutes_spec (r : Rounding) {p sample : Telemetry} (h : Interval p sample)
    {turns : ℕ} {energy : EnergyTable} {at_ budget : ℤ} (hlow : p.capturedAtMs ≤ at_)
    (hturns : at_ < sample.capturedAtMs →
      sample.capturedAtMs ≤ at_ / 60000 * 60000 + turns * 60000)
    (htable : CreditedTable r energy budget) (hnonneg : 0 ≤ budget)
    (hbudget : budget + turns * 60000 ≤ 2 ^ 22) :
    ∃ energy' made, creditMinutes r p sample (sample.capturedAtMs - p.capturedAtMs) (turns + 1)
        energy at_ = some (energy', made) ∧ made ≤ turns ∧
      CreditedTable r energy' (budget + turns * 60000) ∧
      (r = .exact → energy' = Railwatch.creditMinutes p sample energy at_) := by
  induction turns generalizing energy at_ budget with
  | zero =>
      have hdone : ¬at_ < sample.capturedAtMs := fun hhigh => by
        have hturns := hturns hhigh
        omega
      rw [creditMinutes, if_neg hdone, Railwatch.creditMinutes, dif_neg hdone]
      exact ⟨energy, 0, rfl, le_rfl, by simpa using htable, fun _ => rfl⟩
  | succ turns ih =>
      by_cases hhigh : at_ < sample.capturedAtMs
      · have hturns := hturns hhigh
        obtain ⟨row, hturn, hbounded, hobserved, hexact⟩ := turn_spec r h hlow hhigh
        have hcredited : Credited r (sample.deviceId, at_ / 60000 * 60000).2 row :=
          .piece h hlow hhigh hturn
        obtain ⟨hcredit, htable⟩ := credit_spec htable hcredited ⟨by omega, by omega⟩ hnonneg
          (by omega)
        have hlow' : p.capturedAtMs ≤
            min (at_ / 60000 * 60000 + 60000) sample.capturedAtMs := by omega
        obtain ⟨energy', made, hloop, hmade, htable', hloopExact⟩ :=
          ih hlow' (fun _ => by omega) htable (by omega) (by omega)
        refine ⟨energy', made + 1, ?_, by omega, fun key row hfind => ?_, fun hr => ?_⟩
        · rw [creditMinutes, if_pos hhigh, hturn, some_bind]
          dsimp only
          rw [hcredit, some_bind, hloop]
          rfl
        · obtain ⟨hcredited, hsmall⟩ := htable' key row hfind
          exact ⟨hcredited, by omega⟩
        · rw [hloopExact hr, Railwatch.creditMinutes.eq_def p sample energy, dif_pos hhigh,
            hexact hr]
      · rw [creditMinutes, if_neg hhigh, Railwatch.creditMinutes, dif_neg hhigh]
        refine ⟨energy, 0, rfl, Nat.zero_le _, fun key row hfind => ?_, fun _ => rfl⟩
        obtain ⟨hcredited, hsmall⟩ := htable key row hfind
        exact ⟨hcredited, by omega⟩

end Checked
end Railwatch
