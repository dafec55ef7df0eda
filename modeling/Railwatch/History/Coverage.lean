/-
# Coverage of the minutes

How much observed time a minute can be credited with.

A row holds what the intervals of its device's pairs have in common with its
minute (`observedMs_eq`), for each pair looks at the wall clock of its own two
samples only.  Intervals that are apart from each other fill a minute once
(`Intervals.sum_overlap_le`), and they are apart if the wall clock never steps
back between the samples that are stored (`devicePairs_apart`).  When it does
step back, the same minute is observed again and its row counts both
(`minute_is_observed_twice`).
-/

import Railwatch.History.Delivery
import Railwatch.History.Reference

namespace Railwatch

open Sql Intervals

/-- The pairs of a device that a sequence of calls integrates. -/
def devicePairs (device : String) (ops : List HistoryOp) : List (Telemetry × Telemetry) :=
  (History.integratedPairs {} ops).filter fun pair => pair.2.deviceId = device

/-- The wall interval of a pair. -/
def wallPiece (pair : Telemetry × Telemetry) : Piece :=
  ⟨pair.1.capturedAtMs, pair.2.capturedAtMs⟩

/-- The samples of a device that a sequence of calls stores, in that order. -/
def storedSamples (device : String) (ops : List HistoryOp) : List Telemetry :=
  (Transition.outputs History.step (fun h op => (h.inserted op).toList) {} ops).filter
    (·.deviceId = device)

/-- The wall clock never steps back between the samples of a device. -/
def ClockForward (device : String) (ops : List HistoryOp) : Prop :=
  (storedSamples device ops).Pairwise fun a b => a.capturedAtMs ≤ b.capturedAtMs

instance (device : String) (ops : List HistoryOp) : Decidable (ClockForward device ops) := by
  unfold ClockForward
  infer_instance

/-! ### Minutes and pairs -/

/-- The pairs of a device, and that of one more call. -/
theorem devicePairs_concat (device : String) (ops : List HistoryOp) (op : HistoryOp) :
    devicePairs device (ops ++ [op]) = devicePairs device ops ++
      ((History.run {} ops).integrated op).toList.filter fun pair =>
        pair.2.deviceId = device := by
  rw [devicePairs, History.integratedPairs_concat, List.filter_append]
  rfl

/-- The samples of a device, and that of one more call. -/
theorem storedSamples_concat (device : String) (ops : List HistoryOp) (op : HistoryOp) :
    storedSamples device (ops ++ [op]) = storedSamples device ops ++
      ((History.run {} ops).inserted op).toList.filter (·.deviceId = device) := by
  rw [storedSamples, Transition.outputs_concat, List.filter_append]
  rfl

/-- The wall clock moves forward over a pair. -/
theorem wall_of_mem_integratedPairs {ops : List HistoryOp} {p s : Telemetry}
    (h : (p, s) ∈ History.integratedPairs {} ops) : p.capturedAtMs < s.capturedAtMs := by
  obtain ⟨-, -, -, -, g, -, hguard⟩ := History.integratedPairs_mem h
  exact sub_pos.1 hguard.2.2.2.2.2.1

/-- Every row is filed under the start of a minute, since the loop credits cells of the
grid only. So rows of different minutes of a device cover different times. -/
theorem History.minute_of_mem_keys {ops : List HistoryOp} {k : String × ℤ}
    (h : k ∈ (History.run {} ops).db.energy.keys) : k.2 % 60000 = 0 := by
  refine Transition.run_induction History.step (s := ({} : History))
    (I := fun h => ∀ k ∈ h.db.energy.keys, k.2 % 60000 = 0)
    (fun k hk => absurd hk List.not_mem_nil) ?_
    ops k h
  intro h op hkeys k hk
  rw [h.energy_step] at hk
  cases hi : h.integrated op with
  | none =>
      rw [hi] at hk
      exact hkeys k hk
  | some pair =>
      rw [hi] at hk
      rcases mem_keys_foldl hk with hk | ⟨piece, -, rfl⟩
      · exact hkeys k hk
      · exact cell_emod _

/-- What a pair adds to the observed time of a minute of its device: the part of its
interval that lies in that minute. The pieces of the interval tile it, each within one
minute. -/
theorem observedMs_pairRow {p s : Telemetry} (hwall : p.capturedAtMs < s.capturedAtMs)
    {minute : ℤ} (hminute : minute % 60000 = 0) (device : String) :
    (pairRow (device, minute) (p, s)).observedMs =
      if s.deviceId = device then (wallPiece (p, s)).overlap ⟨minute, minute + 60000⟩ else 0 := by
  have hsum : (pairRow (device, minute) (p, s)).observedMs =
      ((minutePieces p s).map fun piece => if (device, minute) = pieceKey s piece then
        piece.length else 0).sum := by
    change EnergyColumn.observedMs.get (pairRow (device, minute) (p, s)) = _
    rw [pairRow, map_list_sum, List.map_map]
    refine congrArg List.sum (List.map_congr_left fun piece _ => ?_)
    dsimp only [Function.comp_apply]
    split_ifs <;> rfl
  rw [hsum]
  split_ifs with hdevice
  · rw [wallPiece, ← (tiles_minutePieces hwall).sum_in_cell (by decide)
      (fun piece => inCell_of_mem_cut (by decide)) hminute]
    refine congrArg List.sum (List.map_congr_left fun piece _ => ?_)
    simp only [pieceKey, hdevice, Prod.mk.injEq, true_and, eq_comm]
  · refine List.sum_eq_zero fun x hx => ?_
    obtain ⟨piece, -, rfl⟩ := List.mem_map.1 hx
    exact if_neg fun heq => hdevice (Prod.mk.inj heq).1.symm

/-! ### Rows -/

/-- Input is observed for a part of the observed time. -/
def EnergyRow.InputWithinOutput (r : EnergyRow) : Prop :=
  0 ≤ r.inputObservedMs ∧ r.inputObservedMs ≤ r.observedMs

/-- A row with nothing in it has no more input than output. -/
theorem EnergyRow.inputWithinOutput_zero : (0 : EnergyRow).InputWithinOutput := ⟨le_rfl, le_rfl⟩

/-- The input stays within the output when rows are added. -/
theorem EnergyRow.InputWithinOutput.add {a b : EnergyRow} (ha : a.InputWithinOutput)
    (hb : b.InputWithinOutput) : (a + b).InputWithinOutput :=
  ⟨add_nonneg ha.1 hb.1, add_le_add ha.2 hb.2⟩

/-- What a pair brings to a row. -/
theorem inputWithinOutput_pairRow (pair : Telemetry × Telemetry)
    (hwall : pair.1.capturedAtMs < pair.2.capturedAtMs) (k : String × ℤ) :
    (pairRow k pair).InputWithinOutput := by
  refine List.sum_induction EnergyRow.InputWithinOutput (fun _ _ => EnergyRow.InputWithinOutput.add)
    EnergyRow.inputWithinOutput_zero fun x hx => ?_
  obtain ⟨piece, hpiece, rfl⟩ := List.mem_map.1 hx
  have hlt := (minutePieces_mem hwall hpiece).2.1
  split_ifs
  · simp only [EnergyRow.InputWithinOutput, minuteRow]
    split_ifs <;> omega
  · exact EnergyRow.inputWithinOutput_zero

/-- What pairs that run forward bring to a row. -/
theorem inputWithinOutput_sum {pairs : List (Telemetry × Telemetry)}
    (h : ∀ pair ∈ pairs, pair.1.capturedAtMs < pair.2.capturedAtMs) (k : String × ℤ) :
    (pairs.map (pairRow k)).sum.InputWithinOutput := by
  refine List.sum_induction EnergyRow.InputWithinOutput (fun _ _ => EnergyRow.InputWithinOutput.add)
    EnergyRow.inputWithinOutput_zero fun x hx => ?_
  obtain ⟨pair, hpair, rfl⟩ := List.mem_map.1 hx
  exact inputWithinOutput_pairRow pair (h pair hpair) k

section Rows

variable {ops : List HistoryOp} {device : String} {minute : ℤ} {r : EnergyRow}
  (h : (History.run {} ops).db.energy.find? (device, minute) = some r)
include h

/-- A row is the sum of what the pairs have credited to its minute. -/
theorem row_eq_sum_pairRow :
    r = ((History.integratedPairs {} ops).map (pairRow (device, minute))).sum := by
  have hrun := History.energyAt_run {} ops (device, minute)
  rw [energyAt, h, Option.getD_some] at hrun
  exact hrun.trans (zero_add _)

/-- **A row holds the overlaps of its device's intervals with its minute.** The pieces
of an interval that are in the minute add up to its overlap with it. -/
theorem observedMs_eq : r.observedMs =
    (((devicePairs device ops).map wallPiece).map
      (Piece.overlap · ⟨minute, minute + 60000⟩)).sum := by
  have hminute : minute % 60000 = 0 :=
    History.minute_of_mem_keys (k := (device, minute)) (Table.find?_isSome_iff.1 (by rw [h]; rfl))
  have hsum : r.observedMs = ((History.integratedPairs {} ops).map fun pair =>
      if pair.2.deviceId = device then
        (wallPiece pair).overlap ⟨minute, minute + 60000⟩ else 0).sum := by
    rw [row_eq_sum_pairRow h]
    change EnergyColumn.observedMs.get _ = _
    rw [map_list_sum, List.map_map]
    refine congrArg List.sum (List.map_congr_left fun pair hpair => ?_)
    exact observedMs_pairRow (wall_of_mem_integratedPairs hpair) hminute device
  rw [hsum, devicePairs, List.map_map, List.sum_map_ite]
  simp [Function.comp_def]

/-- Input is only observed where output is. -/
theorem inputWithinOutput : r.InputWithinOutput := by
  rw [row_eq_sum_pairRow h]
  exact inputWithinOutput_sum (fun _ hpair => wall_of_mem_integratedPairs hpair) _

/-- Intervals apart from each other fill the minute once at most. -/
theorem observedMs_le (hapart : ((devicePairs device ops).map wallPiece).Pairwise Piece.Apart) :
    r.observedMs ≤ 60000 := by
  rw [observedMs_eq h]
  refine (sum_overlap_le hapart (by dsimp only; omega)).trans_eq ?_
  simp [Piece.length]

end Rows

/-! ### A clock that does not step back -/

/-- The sample a store remembers is the last it stored of its device. A sample that is
refused as known is not remembered, and after a reopening nothing is. -/
theorem previous_eq_last {ops : List HistoryOp} {p : Telemetry}
    (h : (History.run {} ops).previous = some p) :
    ∃ before, storedSamples p.deviceId ops = before ++ [p] := by
  induction ops using List.reverseRecOn with
  | nil => cases h
  | append_singleton ops op ih =>
      rw [History.run_concat] at h
      rw [storedSamples_concat]
      cases op with
      | reopen => cases h
      | record sample maxGapMs =>
          rcases (History.run {} ops).step_record sample maxGapMs with ⟨hi, hstep⟩ | ⟨hi, hstep⟩
          · rw [hstep] at h
            rw [hi]
            obtain ⟨before, hbefore⟩ := ih h
            exact ⟨before, by simpa using hbefore⟩
          · rw [hstep] at h
            obtain rfl := Option.some.inj h
            rw [hi]
            exact ⟨_, congrArg _ (by simp)⟩

/-- The later sample of a pair is stored. -/
theorem mem_storedSamples {device : String} {ops : List HistoryOp} {p s : Telemetry}
    (h : (p, s) ∈ devicePairs device ops) : s ∈ storedSamples device ops := by
  induction ops using List.reverseRecOn with
  | nil => cases h
  | append_singleton ops op ih =>
      rw [devicePairs_concat] at h
      rw [storedSamples_concat]
      rcases List.mem_append.1 h with h | h
      · exact List.mem_append_left _ (ih h)
      · obtain ⟨hi, hdevice⟩ := List.mem_filter.1 h
        obtain ⟨-, -, hins, -⟩ := History.integrated_eq_some (Option.mem_toList.1 hi)
        refine List.mem_append_right _ (List.mem_filter.2 ⟨?_, hdevice⟩)
        rw [hins]
        exact List.mem_singleton_self s

/-- **The intervals of a device are apart if its clock never steps back.** A pair starts
where an earlier one ended, or later. -/
theorem devicePairs_apart {device : String} {ops : List HistoryOp}
    (hclock : ClockForward device ops) :
    ((devicePairs device ops).map wallPiece).Pairwise Piece.Apart := by
  rw [List.pairwise_map]
  induction ops using List.reverseRecOn with
  | nil => exact List.Pairwise.nil
  | append_singleton ops op ih =>
      rw [ClockForward, storedSamples_concat] at hclock
      have hclock := (List.pairwise_append.1 hclock).1
      rw [devicePairs_concat, List.pairwise_append]
      refine ⟨ih hclock, ?_, ?_⟩
      · cases (History.run {} ops).integrated op with
        | none => exact List.Pairwise.nil
        | some pair => exact (List.pairwise_singleton _ pair).filter _
      · rintro ⟨p₁, s₁⟩ h₁ ⟨p, s⟩ h
        obtain ⟨hi, hdevice⟩ := List.mem_filter.1 h
        obtain ⟨g, -, -, hprevious, hguard⟩ := History.integrated_eq_some (Option.mem_toList.1 hi)
        -- the new pair starts from the last stored sample, and `s₁` was stored before it
        obtain ⟨before, hlast⟩ := previous_eq_last hprevious
        rw [hguard.2.1.trans (of_decide_eq_true hdevice)] at hlast
        have hs₁ := mem_storedSamples h₁
        rw [hlast] at hclock hs₁
        left
        rcases List.mem_append.1 hs₁ with hs₁ | hs₁
        · exact (List.pairwise_append.1 hclock).2.2 s₁ hs₁ p (List.mem_singleton_self p)
        · exact le_of_eq (congrArg Telemetry.capturedAtMs (List.mem_singleton.1 hs₁))

/-! ### Summaries -/

/-- Recording changes no tariff. -/
theorem History.tariffs_run (ops : List HistoryOp) :
    (History.run {} ops).db.tariffs = ∅ := by
  refine Transition.run_induction History.step (I := fun h => h.db.tariffs = ∅) rfl
    (fun h op hempty => ?_) ops
  cases op with
  | reopen => exact hempty
  | record sample maxGapMs =>
      rcases h.step_record sample maxGapMs with ⟨-, hstep⟩ | ⟨-, hstep⟩ <;> rw [hstep] <;>
        exact hempty

/-- **Coverage of a minute.**  After any sequence of calls, input is observed
for a part of the observed time of every row, and the observed time is what the
wall intervals of the device's integrated pairs have in common with the minute.
For a device whose intervals are apart, as they are if its wall clock never
steps back between stored samples, it is at most the minute, and no row of a
summary reports more than the stored minutes of its period. -/
theorem coverage_within_minutes (ops : List HistoryOp) (device : String) :
    let db := (History.run {} ops).db
    let intervals := (devicePairs device ops).map wallPiece
    (∀ minute r, db.energy.find? (device, minute) = some r →
      0 ≤ r.inputObservedMs ∧ r.inputObservedMs ≤ r.observedMs ∧
        r.observedMs = (intervals.map (Piece.overlap · ⟨minute, minute + 60000⟩)).sum) ∧
    (ClockForward device ops → intervals.Pairwise Piece.Apart) ∧
    (intervals.Pairwise Piece.Apart →
      (∀ minute r, db.energy.find? (device, minute) = some r → r.observedMs ≤ 60000) ∧
      ∀ zones requests fromMs toMs name timezone period zone rows,
        Period.parse name = some period → zones timezone = .ok zone →
        (db.setTariffs requests).summary zones device fromMs toMs name timezone = .ok rows →
        ∀ row ∈ rows, row.outputObservedMs ≤
          60000 * (((db.setTariffs requests).minuteRows device fromMs toMs).filter fun m =>
            periodKey period zone m.1 = row.period).length) := by
  intro db intervals
  refine ⟨fun minute r h => ⟨(inputWithinOutput h).1, (inputWithinOutput h).2, observedMs_eq h⟩,
    devicePairs_apart, fun hapart => ⟨fun minute r h => observedMs_le h hapart, ?_⟩⟩
  intro zones requests fromMs toMs name timezone period zone rows hperiod hzone hrows row hrow
  obtain ⟨htable, henergy⟩ : TariffTable (db.setTariffs requests).tariffs ∧
      (db.setTariffs requests).energy = db.energy :=
    TariffTable.setTariffs (by rw [History.tariffs_run]; exact tariffTable_empty) requests
  obtain ⟨period', zone', -, hperiod', hzone', -, hrange, hstored, -⟩ := Database.summary_rows hrows
  obtain rfl := Option.some.inj (hperiod.symm.trans hperiod')
  obtain rfl := Except.ok.inj (hzone.symm.trans hzone')
  have hsummary := Database.summary_eq htable hrange hperiod hzone hstored
  dsimp only at hsummary
  split_ifs at hsummary
  · obtain ⟨rows', hrows', -, -, -, href⟩ := hsummary
    obtain rfl := Except.ok.inj (hrows.symm.trans hrows')
    rw [(href row hrow).outputObservedMs]
    refine (List.sum_le_card_nsmul _ 60000 fun x hx => ?_).trans_eq ?_
    · obtain ⟨m, hm, rfl⟩ := List.mem_map.1 hx
      have hfind := (mem_minuteRows _ _ _ _).1 (List.mem_of_mem_filter hm)
      rw [henergy] at hfind
      exact observedMs_le hfind.1 hapart
    · rw [List.length_map, nsmul_eq_mul, mul_comm]
  · rw [hrows] at hsummary
    cases hsummary

/-- Samples that alternate between the start of a minute and 3.5 s into it. -/
def steppingBack (n : ℕ) : List HistoryOp :=
  (List.range n).map fun i => .record
    { simulatedSample 0 false with
      sequence := i
      capturedAtMs := (i % 2 : ℕ) * 3500
      monotonicMs := i * 3500 } 3500

/-- **A minute is observed twice** when the wall clock steps back: of 36 samples,
every other one ends an interval of 3.5 s in the same minute. -/
theorem minute_is_observed_twice :
    ¬∀ (ops : List HistoryOp) (k : String × ℤ) (r : EnergyRow),
      (History.run {} ops).db.energy.find? k = some r → r.observedMs ≤ 60000 := by
  intro h
  have hrow : ((History.run {} (steppingBack 36)).db.energy.find? ("demo-ai1600ts", 0)).any
      (fun r => r.observedMs = 63000) = true := by decide +kernel
  obtain ⟨r, hfind, hr⟩ := (Option.any_eq_true _ _).1 hrow
  have hle := h _ _ r hfind
  rw [of_decide_eq_true hr] at hle
  exact absurd hle (by decide)

end Railwatch
