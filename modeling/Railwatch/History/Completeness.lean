/-
# Incomplete pricing

A row of a summary compares two sums to tell whether its prices are complete.
The comparison is exact because of what holds of every stored minute: input is
observed for a part of the observed time, and the observed time is not empty.

`Estimated` says of a pair of samples that its interval has an estimated input.
A minute's input is observed all of its time iff every pair that observes one of
its milliseconds is estimated (`inputObserved_eq_iff`), and some of it iff one
of them is (`inputObserved_pos_iff`).

The sums of a period are sums of such minutes, term by term at most the observed time;
they are equal exactly if no minute falls short.
-/

import Railwatch.History.Coverage

namespace Railwatch

open Sql Intervals

/-! ### Recording, pruning and pricing -/

/-- What may happen to a store: a call of `record` or a restart, of `prune`, of
`set_tariff`. -/
inductive StoreOp where
  | history (op : HistoryOp)
  | prune (scan : List (String × String × ℤ) → List (String × String × ℤ)) (now : ℤ)
  | setTariff (tariff : Tariff) (replace : Bool)

/-- The store after a call; one that fails leaves it as it was. -/
def History.storeStep (h : History) : StoreOp → History
  | .history op => h.step op
  | .prune scan now => { h with db := h.db.prune scan now }
  | .setTariff tariff replace =>
      { h with db := (h.db.setTariff tariff replace).toOption.getD h.db }

/-- The pair of samples a call integrates. -/
def History.storeIntegrated (h : History) : StoreOp → Option (Telemetry × Telemetry)
  | .history op => h.integrated op
  | _ => none

/-- The store after a sequence of calls. -/
def History.storeRun (h : History) (ops : List StoreOp) : History :=
  Transition.run History.storeStep h ops

/-- The pairs a sequence of calls integrates. -/
def History.storePairs (h : History) (ops : List StoreOp) : List (Telemetry × Telemetry) :=
  Transition.outputs History.storeStep (fun h op => (h.storeIntegrated op).toList) h ops

/-- A call of any kind changes the energy by the interval that it integrates over, if
there is one. -/
theorem History.energy_storeStep (h : History) (op : StoreOp) :
    (h.storeStep op).db.energy = (h.storeIntegrated op).elim h.db.energy fun pair =>
      (minutePieces pair.1 pair.2).foldl (creditPiece pair.1 pair.2) h.db.energy := by
  cases op with
  | history op => exact h.energy_step op
  | prune scan now => rfl
  | setTariff tariff replace =>
      simp only [History.storeStep, History.storeIntegrated, Option.elim_none]
      cases hset : h.db.setTariff tariff replace with
      | error e => rfl
      | ok db' =>
          obtain ⟨-, -, -, -, rfl⟩ := Database.setTariff_ok hset
          rfl

/-- A pair that is integrated runs forward. -/
theorem History.wall_of_storeIntegrated {h : History} {op : StoreOp} {p s : Telemetry}
    (hi : h.storeIntegrated op = some (p, s)) : p.capturedAtMs < s.capturedAtMs := by
  cases op with
  | history op =>
      obtain ⟨g, -, -, -, hguard⟩ := History.integrated_eq_some hi
      exact sub_pos.1 hguard.2.2.2.2.2.1
  | prune scan now => cases hi
  | setTariff tariff replace => cases hi

/-! ### What a pair brings -/

/-- Both samples of a pair allow an estimate of the input. -/
def Estimated (pair : Telemetry × Telemetry) : Prop :=
  pair.1.usableEfficiency ∧ pair.2.usableEfficiency

instance (pair : Telemetry × Telemetry) : Decidable (Estimated pair) := by
  unfold Estimated
  infer_instance

/-- The interval of a pair holds a millisecond. -/
def Observes (pair : Telemetry × Telemetry) (ms : ℤ) : Prop :=
  pair.1.capturedAtMs ≤ ms ∧ ms < pair.2.capturedAtMs

/-- The input of a piece is observed for all of its time, or for none. -/
theorem inputObservedMs_minuteRow (p s : Telemetry) (at_ end_ : ℤ) :
    (minuteRow p s at_ end_).inputObservedMs =
      if Estimated (p, s) then (minuteRow p s at_ end_).observedMs else 0 := by
  split_ifs with h
  · obtain ⟨a, ha⟩ := Option.isSome_iff_exists.1 (p.estimatedInputUw_isSome.2 h.1)
    obtain ⟨b, hb⟩ := Option.isSome_iff_exists.1 (s.estimatedInputUw_isSome.2 h.2)
    exact (minuteRow_of_estimates ha hb at_ end_).2
  · exact (minuteRow_of_not_usable h at_ end_).2

/-- **A pair observes input all of its time or none of it.** The estimates are those of
the two samples, and the same for all pieces between them. -/
theorem inputObservedMs_pairRow (k : String × ℤ) (pair : Telemetry × Telemetry) :
    (pairRow k pair).inputObservedMs =
      if Estimated pair then (pairRow k pair).observedMs else 0 := by
  have hsum (column : EnergyColumn) : column.get (pairRow k pair) =
      ((minutePieces pair.1 pair.2).map fun piece => if k = pieceKey pair.2 piece then
        column.get (minuteRow pair.1 pair.2 piece.start piece.stop) else 0).sum := by
    rw [pairRow, map_list_sum, List.map_map]
    refine congrArg List.sum (List.map_congr_left fun piece _ => ?_)
    rw [Function.comp_apply]
    split_ifs
    · rfl
    · exact map_zero column.get
  have hinput : (pairRow k pair).inputObservedMs = _ := hsum .inputObservedMs
  have hobserved : (pairRow k pair).observedMs = _ := hsum .observedMs
  rw [hinput, hobserved]
  split_ifs with h
  · refine congrArg List.sum (List.map_congr_left fun piece _ => ?_)
    split_ifs
    · exact (inputObservedMs_minuteRow ..).trans (if_pos h)
    · rfl
  · refine List.sum_eq_zero fun x hx => ?_
    obtain ⟨piece, -, rfl⟩ := List.mem_map.1 hx
    split_ifs
    · exact (inputObservedMs_minuteRow ..).trans (if_neg h)
    · rfl

/-- A pair brings time to the minutes of its device it holds a millisecond of. -/
theorem observedMs_pairRow_pos_iff (pair : Telemetry × Telemetry)
    (hwall : pair.1.capturedAtMs < pair.2.capturedAtMs) (device : String) {minute : ℤ}
    (hminute : minute % 60000 = 0) : 0 < (pairRow (device, minute) pair).observedMs ↔
      pair.2.deviceId = device ∧ ∃ ms, cell 60000 ms = minute ∧ Observes pair ms := by
  have hcell (ms : ℤ) : cell 60000 ms = minute ↔ minute ≤ ms ∧ ms < minute + 60000 := by
    constructor
    · rintro rfl
      exact ⟨cell_le (by decide) ms, lt_cell_add (by decide) ms⟩
    · exact fun h => cell_eq_of_le_of_lt (by decide) hminute h.1 h.2
  rw [observedMs_pairRow hwall hminute]
  split_ifs with hdevice
  · rw [Piece.overlap_pos_iff]
    simp only [hdevice, true_and, hcell, Observes, wallPiece, and_comm]
  · simp [hdevice]

/-- The observed time of an interval is not negative in any minute. -/
theorem observedMs_pairRow_nonneg (pair : Telemetry × Telemetry)
    (hwall : pair.1.capturedAtMs < pair.2.capturedAtMs) (k : String × ℤ) :
    0 ≤ (pairRow k pair).observedMs :=
  have h := inputWithinOutput_pairRow pair hwall k
  h.1.trans h.2

/-! ### Sums -/

/-- Sums of ordered terms are equal only if all terms are. -/
theorem sum_eq_sum_iff_of_le {α : Type} {l : List α} {f g : α → ℤ} (h : ∀ x ∈ l, f x ≤ g x) :
    (l.map f).sum = (l.map g).sum ↔ ∀ x ∈ l, f x = g x := by
  constructor
  · intro heq x hx
    by_contra hne
    exact (List.sum_lt_sum f g h ⟨x, hx, lt_of_le_of_ne (h x hx) hne⟩).ne heq
  · intro heq
    rw [List.map_congr_left heq]

/-- A sum of numbers that are not negative is positive exactly if one of them is. -/
theorem sum_pos_iff_of_nonneg {α : Type} {l : List α} {f : α → ℤ} (h : ∀ x ∈ l, 0 ≤ f x) :
    0 < (l.map f).sum ↔ ∃ x ∈ l, 0 < f x := by
  constructor
  · intro hpos
    by_contra hno
    push Not at hno
    have hle : (l.map f).sum ≤ (l.map fun _ => (0 : ℤ)).sum := List.sum_le_sum hno
    exact absurd hpos (not_lt.2 (by simpa using hle))
  · intro hex
    have hlt := List.sum_lt_sum (fun _ => 0) f h hex
    simpa using hlt

/-! ### Rows of a store -/

/-- What holds of a store that integrated these pairs: each of its rows is the sum of
what the pairs brought it. -/
structure History.HoldsPairs (h : History) (pairs : List (Telemetry × Telemetry)) : Prop where
  /-- The clock did not go back within a pair. -/
  forward : ∀ pair ∈ pairs, pair.1.capturedAtMs < pair.2.capturedAtMs
  /-- A minute has what the pairs have in it. -/
  entry : ∀ k, energyAt h.db.energy k = (pairs.map (pairRow k)).sum
  /-- The keys are whole minutes. -/
  minute : ∀ k ∈ h.db.energy.keys, k.2 % 60000 = 0
  /-- And each of them was observed for some time. -/
  observed : ∀ k ∈ h.db.energy.keys, 0 < (energyAt h.db.energy k).observedMs
  /-- The tariffs are those of `set_tariff`. -/
  tariffs : TariffTable h.db.tariffs

/-- The tariffs stay a table of tariffs, filed under their effective times and 4096 at
most. Of all steps only `set_tariff` touches them, which checks this. -/
theorem History.tariffs_storeStep {h : History} (ht : TariffTable h.db.tariffs) (op : StoreOp) :
    TariffTable (h.storeStep op).db.tariffs := by
  cases op with
  | history op =>
      cases op with
      | reopen => exact ht
      | record sample maxGapMs =>
          rcases h.step_record sample maxGapMs with ⟨-, hstep⟩ | ⟨-, hstep⟩ <;>
            rw [History.storeStep, hstep] <;> exact ht
  | prune scan now => exact ht
  | setTariff tariff replace =>
      simp only [History.storeStep]
      cases hset : h.db.setTariff tariff replace with
      | error e => exact ht
      | ok db' => exact (TariffTable.setTariff hset ht).1

/-- **What a call keeps.** A call that integrates a pair adds the rows of it, and no
other call touches the energies. -/
theorem History.HoldsPairs.step {h : History} {pairs : List (Telemetry × Telemetry)}
    (hh : h.HoldsPairs pairs) (op : StoreOp) :
    (h.storeStep op).HoldsPairs (pairs ++ (h.storeIntegrated op).toList) := by
  have henergy := h.energy_storeStep op
  have htariffs := History.tariffs_storeStep hh.tariffs op
  cases hi : h.storeIntegrated op with
  | none =>
      rw [hi] at henergy
      rw [Option.toList_none, List.append_nil]
      refine ⟨hh.forward, fun k => ?_, fun k hk => ?_, fun k hk => ?_, htariffs⟩ <;>
        rw [henergy] at *
      · exact hh.entry k
      · exact hh.minute k hk
      · exact hh.observed k hk
  | some pair =>
      obtain ⟨p, s⟩ := pair
      have hwall := History.wall_of_storeIntegrated hi
      rw [hi, Option.elim_some] at henergy
      have hentry (k : String × ℤ) : energyAt (h.storeStep op).db.energy k =
          energyAt h.db.energy k + pairRow k (p, s) := by
        rw [henergy]
        exact energyAt_foldl p s _ _ k
      refine ⟨fun pair hpair => ?_, fun k => ?_, fun k hk => ?_, fun k hk => ?_, htariffs⟩
      · rcases List.mem_append.1 hpair with hpair | hpair
        · exact hh.forward pair hpair
        · rw [List.mem_singleton.1 hpair]
          exact hwall
      · rw [hentry, hh.entry, List.map_append, List.sum_append]
        exact congrArg _ (by simp)
      · rw [henergy] at hk
        rcases mem_keys_foldl hk with hk | ⟨piece, -, rfl⟩
        · exact hh.minute k hk
        · exact cell_emod _
      · have hnonneg := observedMs_pairRow_nonneg (p, s) hwall k
        rw [hentry, EnergyRow.add_observedMs]
        by_cases hold : k ∈ h.db.energy.keys
        · exact add_pos_of_pos_of_nonneg (hh.observed k hold) hnonneg
        · -- a new row is brought by a piece, whose first millisecond it holds
          rw [henergy] at hk
          obtain ⟨piece, hpiece, rfl⟩ := (mem_keys_foldl hk).resolve_left hold
          obtain ⟨h₁, h₂, h₃, -⟩ := minutePieces_mem hwall hpiece
          have hpos : 0 < (pairRow (pieceKey s piece) (p, s)).observedMs :=
            (observedMs_pairRow_pos_iff (p, s) hwall _ (cell_emod _)).2
              ⟨rfl, piece.start, rfl, h₁, lt_of_lt_of_le h₂ h₃⟩
          have hzero : energyAt h.db.energy (pieceKey s piece) = 0 := by
            rw [energyAt, Table.find?_eq_none_iff.2 hold]
            rfl
          rw [hzero, EnergyRow.zero_observedMs, zero_add]
          exact hpos

/-- The table holds the pairs of a run. -/
theorem History.holdsPairs_storeRun (ops : List StoreOp) :
    (History.storeRun {} ops).HoldsPairs (History.storePairs {} ops) := by
  induction ops using List.reverseRecOn with
  | nil =>
      exact ⟨fun pair hpair => (List.not_mem_nil hpair).elim, fun k => rfl,
        fun k hk => (List.not_mem_nil hk).elim, fun k hk => (List.not_mem_nil hk).elim,
        tariffTable_empty⟩
  | append_singleton ops op ih =>
      rw [History.storeRun, Transition.run_concat, History.storePairs, Transition.outputs_concat]
      exact ih.step op

section Rows

variable {h : History} {pairs : List (Telemetry × Telemetry)} (hh : h.HoldsPairs pairs)
  {device : String} {minute : ℤ} {r : EnergyRow}
  (hr : h.db.energy.find? (device, minute) = some r)
include hh hr

/-- A row is the sum of what the pairs have credited to its minute. -/
theorem History.HoldsPairs.row_eq : r = (pairs.map (pairRow (device, minute))).sum := by
  rw [← hh.entry, energyAt, hr, Option.getD_some]

/-- The minute of a row is a whole one. -/
theorem History.HoldsPairs.minute_eq : minute % 60000 = 0 :=
  hh.minute (device, minute) (Table.find?_isSome_iff.1 (by rw [hr]; rfl))

/-- There is no row without observed time. -/
theorem History.HoldsPairs.observed_pos : 0 < r.observedMs := by
  have hk := hh.observed (device, minute) (Table.find?_isSome_iff.1 (by rw [hr]; rfl))
  rwa [energyAt, hr, Option.getD_some] at hk

/-- A row's times, added up over the pairs. -/
theorem History.HoldsPairs.times_eq :
    r.observedMs = (pairs.map fun pair => (pairRow (device, minute) pair).observedMs).sum ∧
      r.inputObservedMs = (pairs.map fun pair => if Estimated pair then
        (pairRow (device, minute) pair).observedMs else 0).sum := by
  have hsum (column : EnergyColumn) :
      column.get r = (pairs.map fun pair => column.get (pairRow (device, minute) pair)).sum := by
    rw [hh.row_eq hr, map_list_sum, List.map_map]
    rfl
  refine ⟨hsum .observedMs, (hsum .inputObservedMs).trans ?_⟩
  exact congrArg List.sum (List.map_congr_left fun pair _ => inputObservedMs_pairRow _ pair)

/-- Some pair observes a millisecond of a stored minute. -/
theorem History.HoldsPairs.exists_observes : ∃ pair ∈ pairs, pair.2.deviceId = device ∧
    ∃ ms, cell 60000 ms = minute ∧ Observes pair ms := by
  have hpos := hh.observed_pos hr
  rw [(hh.times_eq hr).1, sum_pos_iff_of_nonneg fun pair hpair =>
    observedMs_pairRow_nonneg pair (hh.forward pair hpair) (device, minute)] at hpos
  obtain ⟨pair, hpair, hpos⟩ := hpos
  exact ⟨pair, hpair,
    (observedMs_pairRow_pos_iff pair (hh.forward pair hpair) device (hh.minute_eq hr)).1 hpos⟩

/-- Input is observed for a part of the observed time. -/
theorem History.HoldsPairs.within : r.InputWithinOutput := by
  rw [hh.row_eq hr]
  exact inputWithinOutput_sum hh.forward _

/-- **All of a minute's input is observed** iff every pair that observes a
millisecond of it is estimated. -/
theorem History.HoldsPairs.inputObserved_eq_iff : r.inputObservedMs = r.observedMs ↔
    ∀ pair ∈ pairs, pair.2.deviceId = device →
      ∀ ms, cell 60000 ms = minute → Observes pair ms → Estimated pair := by
  obtain ⟨hobserved, hinput⟩ := hh.times_eq hr
  have hminute := hh.minute_eq hr
  rw [hobserved, hinput, sum_eq_sum_iff_of_le fun pair hpair => by
    split_ifs
    · exact le_rfl
    · exact observedMs_pairRow_nonneg pair (hh.forward pair hpair) (device, minute)]
  refine forall₂_congr fun pair hpair => ?_
  have hnonneg := observedMs_pairRow_nonneg pair (hh.forward pair hpair) (device, minute)
  have hpos := observedMs_pairRow_pos_iff pair (hh.forward pair hpair) device hminute
  by_cases hestimated : Estimated pair
  · simp [hestimated]
  · simp only [hestimated, if_false, imp_false]
    constructor
    · intro hzero hdevice ms hcell hms
      exact absurd (hpos.2 ⟨hdevice, ms, hcell, hms⟩) (by omega)
    · intro hno
      by_contra hne
      obtain ⟨hdevice, ms, hcell, hms⟩ := hpos.1 (by omega)
      exact hno hdevice ms hcell hms

/-- **Some of a minute's input is observed** iff an estimated pair observes a
millisecond of it. -/
theorem History.HoldsPairs.inputObserved_pos_iff : 0 < r.inputObservedMs ↔
    ∃ pair ∈ pairs, pair.2.deviceId = device ∧
      ∃ ms, cell 60000 ms = minute ∧ Observes pair ms ∧ Estimated pair := by
  have hminute := hh.minute_eq hr
  rw [(hh.times_eq hr).2, sum_pos_iff_of_nonneg fun pair hpair => by
    split_ifs
    · exact observedMs_pairRow_nonneg pair (hh.forward pair hpair) (device, minute)
    · exact le_rfl]
  refine exists_congr fun pair => and_congr_right fun hpair => ?_
  have hpos := observedMs_pairRow_pos_iff pair (hh.forward pair hpair) device hminute
  by_cases hestimated : Estimated pair
  · simp only [hestimated, if_true, hpos, and_true]
  · simp [hestimated]

end Rows

/-! ### Rows of a summary -/

/-- The times of a row whose minutes have times within each other: priced within input
within output. A row is complete if and only if all its minutes have a price and an
input estimate throughout, and has a cost if and only if some minute has any. -/
theorem ReferenceRow.times {rate : ℤ → Option Tariff} {minutes : List (ℤ × EnergyRow)}
    {row : EnergySummary} (href : ReferenceRow rate minutes row)
    (hwithin : ∀ m ∈ minutes, m.2.InputWithinOutput) (hpos : ∀ m ∈ minutes, 0 < m.2.observedMs) :
    (0 ≤ row.pricedObservedMs ∧ row.pricedObservedMs ≤ row.inputObservedMs ∧
      row.inputObservedMs ≤ row.outputObservedMs) ∧
    (row.incompletePricing = false ↔
      ∀ m ∈ minutes, (rate m.1).isSome ∧ m.2.inputObservedMs = m.2.observedMs) ∧
    (row.cost.isSome ↔ ∃ m ∈ minutes, (rate m.1).isSome ∧ 0 < m.2.inputObservedMs) := by
  have hpriced : row.pricedObservedMs = (minutes.map fun m =>
      if (rate m.1).isSome then m.2.inputObservedMs else 0).sum := by
    rw [href.pricedObservedMs, List.sum_map_ite]
    simp
  have hterm (m : ℤ × EnergyRow) (hm : m ∈ minutes) :
      0 ≤ (if (rate m.1).isSome then m.2.inputObservedMs else 0) ∧
        (if (rate m.1).isSome then m.2.inputObservedMs else 0) ≤ m.2.inputObservedMs := by
    have := (hwithin m hm).1
    split_ifs
    · exact ⟨this, le_rfl⟩
    · exact ⟨le_rfl, this⟩
  have hle (m : ℤ × EnergyRow) (hm : m ∈ minutes) :
      (if (rate m.1).isSome then m.2.inputObservedMs else 0) ≤ m.2.observedMs :=
    (hterm m hm).2.trans (hwithin m hm).2
  refine ⟨⟨?_, ?_, ?_⟩, ?_, ?_⟩
  · rw [hpriced]
    refine List.sum_nonneg fun x hx => ?_
    obtain ⟨m, hm, rfl⟩ := List.mem_map.1 hx
    exact (hterm m hm).1
  · rw [hpriced, href.inputObservedMs]
    exact List.sum_le_sum fun m hm => (hterm m hm).2
  · rw [href.inputObservedMs, href.outputObservedMs]
    exact List.sum_le_sum fun m hm => (hwithin m hm).2
  · -- the priced time is never more than the observed time, so not less means equal
    have hsum : row.pricedObservedMs ≤ row.outputObservedMs := by
      rw [hpriced, href.outputObservedMs]
      exact List.sum_le_sum hle
    have hiff : row.incompletePricing = false ↔ row.pricedObservedMs = row.outputObservedMs := by
      rw [← Bool.not_eq_true, href.incompletePricing]
      omega
    rw [hiff, hpriced, href.outputObservedMs, sum_eq_sum_iff_of_le hle]
    refine forall₂_congr fun m hm => ?_
    have := hpos m hm
    by_cases hrate : (rate m.1).isSome
    · simp [hrate]
    · simp [hrate, this.ne]
  · have hiff : row.cost.isSome ↔ 0 < row.pricedObservedMs := by
      rw [Option.isSome_iff_ne_none, Ne, href.cost_none, not_le]
    rw [hiff, hpriced, sum_pos_iff_of_nonneg fun m hm => (hterm m hm).1]
    refine exists_congr fun m => and_congr_right fun _ => ?_
    by_cases hrate : (rate m.1).isSome <;> simp [hrate]

/-- **Incomplete pricing is never hidden.**  In every row of every summary of a
store reached by recording, pruning, pricing and restarts: the priced time is at
most the time with an input estimate, which is at most the observed time.  The
row is complete iff every millisecond that a pair of samples observes in a
minute of the row has an input estimate and a tariff in force at the minute; and
it has a cost iff some such millisecond has both. -/
theorem incomplete_pricing_is_never_hidden (ops : List StoreOp)
    (zones : String → Except String Zone) (device : String) (fromMs toMs : ℤ)
    (name timezone : String) :
    let store := History.storeRun {} ops
    let pairs := History.storePairs {} ops
    let rate := currentTariff store.db.tariffs
    ∀ rows, store.db.summary zones device fromMs toMs name timezone = .ok rows →
      ∃ period zone, Period.parse name = some period ∧ zones timezone = .ok zone ∧
        ∀ row ∈ rows,
          let minutes := (store.db.minuteRows device fromMs toMs).filter fun m =>
            periodKey period zone m.1 = row.period
          (0 ≤ row.pricedObservedMs ∧ row.pricedObservedMs ≤ row.inputObservedMs ∧
            row.inputObservedMs ≤ row.outputObservedMs) ∧
          (row.incompletePricing = false ↔
            ∀ m ∈ minutes, ∀ pair ∈ pairs, pair.2.deviceId = device →
              ∀ ms, cell 60000 ms = m.1 → Observes pair ms →
                Estimated pair ∧ (rate m.1).isSome) ∧
          (row.cost.isSome ↔
            ∃ m ∈ minutes, ∃ pair ∈ pairs, pair.2.deviceId = device ∧
              ∃ ms, cell 60000 ms = m.1 ∧ Observes pair ms ∧
                Estimated pair ∧ (rate m.1).isSome) := by
  intro store pairs rate rows hrows
  have hh : store.HoldsPairs pairs := History.holdsPairs_storeRun ops
  obtain ⟨period, zone, tariffs, hperiod, hzone, htariffs, -, -, hsummary⟩ :=
    Database.summary_rows hrows
  obtain rfl := Except.ok.inj ((tariffList_eq hh.tariffs).symm.trans htariffs)
  refine ⟨period, zone, hperiod, hzone, fun row hrow => ?_⟩
  intro minutes
  have hfind (m : ℤ × EnergyRow) (hm : m ∈ minutes) :
      store.db.energy.find? (device, m.1) = some m.2 :=
    ((mem_minuteRows store.db device fromMs toMs).1 (List.mem_of_mem_filter hm)).1
  have href : ReferenceRow rate minutes row := by
    have := (referenceRow_of_bucket store.db.tariffsByTime minutes row.period).1
    rwa [← hsummary.filled row hrow, funext (rateAt_eq_currentTariff hh.tariffs)] at this
  obtain ⟨htimes, hcomplete, hcost⟩ := href.times (fun m hm => hh.within (hfind m hm))
    fun m hm => hh.observed_pos (hfind m hm)
  refine ⟨htimes, hcomplete.trans ?_, hcost.trans ?_⟩
  · refine forall₂_congr fun m hm => ?_
    rw [hh.inputObserved_eq_iff (hfind m hm)]
    constructor
    · rintro ⟨hrate, hall⟩ pair hpair hdevice ms hcell hms
      exact ⟨hall pair hpair hdevice ms hcell hms, hrate⟩
    · intro hall
      refine ⟨?_, fun pair hpair hdevice ms hcell hms =>
        (hall pair hpair hdevice ms hcell hms).1⟩
      -- a stored minute is not empty: some pair observes a millisecond of it
      obtain ⟨pair, hpair, hdevice, ms, hcell, hms⟩ := hh.exists_observes (hfind m hm)
      exact (hall pair hpair hdevice ms hcell hms).2
  · refine exists_congr fun m => and_congr_right fun hm => ?_
    rw [hh.inputObserved_pos_iff (hfind m hm)]
    constructor
    · rintro ⟨hrate, pair, hpair, hdevice, ms, hcell, hms, hestimated⟩
      exact ⟨pair, hpair, hdevice, ms, hcell, hms, hestimated, hrate⟩
    · rintro ⟨pair, hpair, hdevice, ms, hcell, hms, hestimated, hrate⟩
      exact ⟨hrate, pair, hpair, hdevice, ms, hcell, hms, hestimated⟩

end Railwatch
