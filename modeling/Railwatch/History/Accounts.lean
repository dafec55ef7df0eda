/-
# Runs of the store

What any sequence of `record` calls and reopenings does to the energy table.

`integratedPairs` lists the pairs of samples whose interval a run credits.  The
minute loop is a fold of `creditPiece` over the pieces the interval is cut into
(`creditMinutes_eq_foldl`), each of which adds its row to one entry
(`energyAt_creditPiece`), so an entry is the sum of the rows that all pairs
brought it (`energyAt_run`).

The energies of an entry are added up column by column (`EnergyColumn`), so one lemma
serves the energies and the times.  What a run credits is then a matter of lists: which
pairs, which pieces of them, and which minute each piece is in.
-/

import Railwatch.History.Record
import Railwatch.General.Transition

namespace Railwatch

open Sql Intervals

/-! ### Energy rows add up -/

instance : Zero EnergyRow := ⟨⟨0, 0, 0, 0⟩⟩

instance : Add EnergyRow := ⟨fun r r' => r'.add r⟩

@[simp] theorem EnergyRow.zero_outputUj : (0 : EnergyRow).outputUj = 0 := rfl
@[simp] theorem EnergyRow.zero_inputUj : (0 : EnergyRow).inputUj = 0 := rfl
@[simp] theorem EnergyRow.zero_observedMs : (0 : EnergyRow).observedMs = 0 := rfl
@[simp] theorem EnergyRow.zero_inputObservedMs : (0 : EnergyRow).inputObservedMs = 0 := rfl

@[simp] theorem EnergyRow.add_outputUj (r r' : EnergyRow) :
    (r + r').outputUj = r.outputUj + r'.outputUj := rfl
@[simp] theorem EnergyRow.add_inputUj (r r' : EnergyRow) :
    (r + r').inputUj = r.inputUj + r'.inputUj := rfl
@[simp] theorem EnergyRow.add_observedMs (r r' : EnergyRow) :
    (r + r').observedMs = r.observedMs + r'.observedMs := rfl
@[simp] theorem EnergyRow.add_inputObservedMs (r r' : EnergyRow) :
    (r + r').inputObservedMs = r.inputObservedMs + r'.inputObservedMs := rfl

/-- The update of an upsert is the sum of two rows. -/
theorem EnergyRow.add_eq (r excluded : EnergyRow) : excluded.add r = r + excluded := rfl

instance : AddCommMonoid EnergyRow where
  add_assoc a b c := by ext <;> simp [add_assoc]
  zero_add a := by ext <;> simp
  add_zero a := by ext <;> simp
  add_comm a b := by ext <;> simp [add_comm]
  nsmul := nsmulRec

/-- A column of the energy table. All four of them are added up in the same way. -/
inductive EnergyColumn where
  | outputUj
  | inputUj
  | observedMs
  | inputObservedMs

/-- The value of a column, which adds up with the rows. -/
def EnergyColumn.get : EnergyColumn → EnergyRow →+ ℤ
  | .outputUj => ⟨⟨EnergyRow.outputUj, rfl⟩, EnergyRow.add_outputUj⟩
  | .inputUj => ⟨⟨EnergyRow.inputUj, rfl⟩, EnergyRow.add_inputUj⟩
  | .observedMs => ⟨⟨EnergyRow.observedMs, rfl⟩, EnergyRow.add_observedMs⟩
  | .inputObservedMs => ⟨⟨EnergyRow.inputObservedMs, rfl⟩, EnergyRow.add_inputObservedMs⟩

/-- The energy table. -/
abbrev EnergyTable := Table (String × ℤ) EnergyRow

/-- An entry of the energy table; a missing row counts as zero. -/
def energyAt (energy : EnergyTable) (k : String × ℤ) : EnergyRow := (energy.find? k).getD 0

/-- A column of the energy table, added over all minutes of a device. -/
def deviceTotal (energy : EnergyTable) (device : String) (column : EnergyColumn) : ℤ :=
  energy.total fun k r => if k.1 = device then column.get r else 0

/-! ### The minute loop as a fold -/

/-- The pieces an integrated interval is cut into. -/
def minutePieces (p sample : Telemetry) : List Piece :=
  cut 60000 (by decide) p.capturedAtMs sample.capturedAtMs

/-- The entry a piece is credited to. -/
def pieceKey (sample : Telemetry) (piece : Piece) : String × ℤ :=
  (sample.deviceId, cell 60000 piece.start)

/-- One turn of the minute loop. -/
def creditPiece (p sample : Telemetry) (energy : EnergyTable) (piece : Piece) : EnergyTable :=
  energy.upsert (pieceKey sample piece) (minuteRow p sample piece.start piece.stop)
    (minuteRow p sample piece.start piece.stop).add

/-- **The minute loop cuts the interval at the minutes.** One turn credits the first
piece of `cut`, and the rest of the loop cuts what is left of the interval. -/
theorem creditMinutes_eq_foldl (p sample : Telemetry) (energy : EnergyTable) (at_ : ℤ) :
    creditMinutes p sample energy at_ =
      (cut 60000 (by decide) at_ sample.capturedAtMs).foldl (creditPiece p sample) energy := by
  fun_induction creditMinutes p sample energy at_ with
  | case1 energy at_ h minute end_ row ih =>
      have hcut : cut 60000 (by decide) at_ sample.capturedAtMs =
          ⟨at_, end_⟩ :: cut 60000 (by decide) end_ sample.capturedAtMs := by
        rw [cut, if_pos h]
        rfl
      rw [ih, hcut, List.foldl_cons]
      rfl
  | case2 energy at_ h => rw [cut, if_neg h, List.foldl_nil]

/-- An upsert that adds its row changes one entry. -/
theorem energyAt_upsert (energy : EnergyTable) (key : String × ℤ) (row : EnergyRow)
    (k : String × ℤ) :
    energyAt (energy.upsert key row row.add) k =
      energyAt energy k + if k = key then row else 0 := by
  unfold energyAt
  rw [Table.find?_upsert]
  split_ifs with h
  · cases energy.find? k with
    | none => simp
    | some r => rfl
  · rw [add_zero]

/-- Crediting a piece adds its row to its minute, and changes no other minute. -/
theorem energyAt_creditPiece (p sample : Telemetry) (energy : EnergyTable) (piece : Piece)
    (k : String × ℤ) :
    energyAt (creditPiece p sample energy piece) k = energyAt energy k +
      if k = pieceKey sample piece then minuteRow p sample piece.start piece.stop else 0 :=
  energyAt_upsert ..

/-- What a pair of samples brings an entry of the energy table. -/
def pairRow (k : String × ℤ) (pair : Telemetry × Telemetry) : EnergyRow :=
  ((minutePieces pair.1 pair.2).map fun piece => if k = pieceKey pair.2 piece then
    minuteRow pair.1 pair.2 piece.start piece.stop else 0).sum

/-- Pieces that are credited with any rows: an entry has the rows of its pieces. -/
theorem energyAt_foldl_upsert (sample : Telemetry) (row : Piece → EnergyRow)
    (pieces : List Piece) (energy : EnergyTable) (k : String × ℤ) :
    energyAt (pieces.foldl (fun energy piece =>
      energy.upsert (pieceKey sample piece) (row piece) (row piece).add) energy) k =
      energyAt energy k +
        (pieces.map fun piece => if k = pieceKey sample piece then row piece else 0).sum := by
  induction pieces generalizing energy with
  | nil => simp
  | cons piece pieces ih =>
      rw [List.foldl_cons, ih, energyAt_upsert, List.map_cons, List.sum_cons, add_assoc]

/-- And a column of the device has those of all pieces. Pieces are credited under the
sample's own device, so the columns of the other devices stay. -/
theorem deviceTotal_foldl_upsert (sample : Telemetry) (row : Piece → EnergyRow)
    (pieces : List Piece) (energy : EnergyTable) (device : String) (column : EnergyColumn) :
    deviceTotal (pieces.foldl (fun energy piece =>
      energy.upsert (pieceKey sample piece) (row piece) (row piece).add) energy) device column =
      deviceTotal energy device column + if sample.deviceId = device then
        (pieces.map fun piece => column.get (row piece)).sum else 0 := by
  induction pieces generalizing energy with
  | nil => simp
  | cons piece pieces ih =>
      have hstep : deviceTotal (energy.upsert (pieceKey sample piece) (row piece) (row piece).add)
          device column = deviceTotal energy device column + if sample.deviceId = device then
            column.get (row piece) else 0 := by
        refine Table.total_upsert rfl fun r' => ?_
        simp only [EnergyRow.add_eq, map_add, pieceKey]
        split_ifs <;> simp_all
      rw [List.foldl_cons, ih, hstep, List.map_cons, List.sum_cons]
      split_ifs <;> ring

/-- Crediting several pieces adds to each minute the rows of its pieces. -/
theorem energyAt_foldl (p sample : Telemetry) (pieces : List Piece) (energy : EnergyTable)
    (k : String × ℤ) :
    energyAt (pieces.foldl (creditPiece p sample) energy) k = energyAt energy k +
      (pieces.map fun piece => if k = pieceKey sample piece then
        minuteRow p sample piece.start piece.stop else 0).sum :=
  energyAt_foldl_upsert sample (fun piece => minuteRow p sample piece.start piece.stop) ..

/-- A row is only ever added by a piece. -/
theorem mem_keys_foldl {p sample : Telemetry} {pieces : List Piece} {energy : EnergyTable}
    {k : String × ℤ} (h : k ∈ (pieces.foldl (creditPiece p sample) energy).keys) :
    k ∈ energy.keys ∨ ∃ piece ∈ pieces, k = pieceKey sample piece := by
  induction pieces generalizing energy with
  | nil => exact Or.inl h
  | cons piece pieces ih =>
      rcases ih h with h | ⟨piece', hp, rfl⟩
      · rw [creditPiece, Table.keys_upsert] at h
        split_ifs at h
        · exact Or.inl h
        · rcases List.mem_append.1 h with h | h
          · exact Or.inl h
          · exact Or.inr ⟨piece, List.mem_cons_self .., List.mem_singleton.1 h⟩
      · exact Or.inr ⟨piece', List.mem_cons_of_mem _ hp, rfl⟩

/-! ### One call -/

/-- What may happen to a store: a sample is recorded, or the process restarts
and opens the database again. -/
inductive HistoryOp where
  | record (sample : Telemetry) (maxGapMs : ℕ)
  | reopen

/-- The primary key of a sample. -/
def Telemetry.key (t : Telemetry) : String × String × ℤ := (t.deviceId, t.sessionId, t.sequence)

/-- The store after a call; one that fails leaves it as it was. -/
def History.step (h : History) : HistoryOp → History
  | .record sample maxGapMs => (h.record sample maxGapMs).toOption.getD h
  | .reopen => { h with previous := none }

/-- The sample a call inserts. -/
def History.inserted (h : History) : HistoryOp → Option Telemetry
  | .record sample _ =>
      if sample.sequence < 2 ^ 63 ∧ sample.key ∉ h.db.samples.keys then some sample else none
  | .reopen => none

/-- The pair of samples a call integrates. -/
def History.integrated (h : History) : HistoryOp → Option (Telemetry × Telemetry)
  | .record sample maxGapMs =>
      (h.inserted (.record sample maxGapMs)).bind fun _ => h.previous.bind fun p =>
        if integrates p sample maxGapMs then some (p, sample) else none
  | .reopen => none

/-- What is inserted is the sample of the call, and it was not there before. -/
theorem History.inserted_record {h : History} {sample s : Telemetry} {maxGapMs : ℕ}
    (hi : h.inserted (.record sample maxGapMs) = some s) :
    s = sample ∧ sample.sequence < 2 ^ 63 ∧ sample.key ∉ h.db.samples.keys := by
  simp only [History.inserted] at hi
  split_ifs at hi with hc
  exact ⟨(Option.some.inj hi).symm, hc⟩

/-- **What a call to `record` does.**  It inserts nothing and changes nothing,
or it stores the sample, credits the pair it integrates, if any, and remembers
the sample. -/
theorem History.step_record (h : History) (sample : Telemetry) (maxGapMs : ℕ) :
    (h.inserted (.record sample maxGapMs) = none ∧ h.step (.record sample maxGapMs) = h) ∨
      (h.inserted (.record sample maxGapMs) = some sample ∧
        h.step (.record sample maxGapMs) =
          { db := { h.db with
              samples := h.db.samples.insertOrIgnore sample.key ⟨sample.capturedAtMs, sample⟩
              energy := (h.integrated (.record sample maxGapMs)).elim h.db.energy fun pair =>
                (minutePieces pair.1 pair.2).foldl (creditPiece pair.1 pair.2) h.db.energy }
            previous := some sample }) := by
  by_cases hseq : 2 ^ 63 ≤ sample.sequence
  · left
    constructor
    · rw [History.inserted, if_neg fun hc => absurd hc.1 (not_lt.2 hseq)]
    · rw [History.step, History.record, if_pos hseq]
      rfl
  · by_cases hkey : sample.key ∈ h.db.samples.keys
    · left
      constructor
      · rw [History.inserted, if_neg fun hc => hc.2 hkey]
      · rw [History.step, History.record, if_neg hseq]
        exact congrArg (fun r => (Except.toOption r).getD h) (if_pos hkey)
    · right
      have hi : h.inserted (.record sample maxGapMs) = some sample := by
        rw [History.inserted, if_pos ⟨not_le.1 hseq, hkey⟩]
      refine ⟨hi, ?_⟩
      rw [History.step, History.record, if_neg hseq]
      refine (congrArg (fun r => (Except.toOption r).getD h) (if_neg hkey)).trans ?_
      simp only [Except.toOption, Option.getD_some, History.integrated, hi, Option.bind_some]
      cases h.previous with
      | none => rfl
      | some p =>
          dsimp only
          simp only [Option.bind_some]
          split_ifs
          · simp only [creditMinutes_eq_foldl]
            rfl
          · rfl

/-- An integrated pair ends in the sample just inserted and passes the guard. -/
theorem History.integrated_eq_some {h : History} {op : HistoryOp} {p s : Telemetry}
    (hi : h.integrated op = some (p, s)) :
    ∃ maxGapMs, op = .record s maxGapMs ∧ h.inserted op = some s ∧ h.previous = some p ∧
      integrates p s maxGapMs := by
  cases op with
  | reopen => cases hi
  | record sample maxGapMs =>
      rw [History.integrated, Option.bind_eq_some_iff] at hi
      obtain ⟨s', hins, hi⟩ := hi
      obtain ⟨p', hp, hi⟩ := Option.bind_eq_some_iff.1 hi
      split_ifs at hi with hg
      obtain ⟨rfl, rfl⟩ := Prod.mk.inj (Option.some.inj hi)
      refine ⟨maxGapMs, rfl, ?_, hp, hg⟩
      rw [hins, (History.inserted_record hins).1]

/-- A call credits the pieces of the interval that it integrates over, if there is one. -/
theorem History.energy_step (h : History) (op : HistoryOp) :
    (h.step op).db.energy = (h.integrated op).elim h.db.energy fun pair =>
      (minutePieces pair.1 pair.2).foldl (creditPiece pair.1 pair.2) h.db.energy := by
  cases op with
  | reopen => rfl
  | record sample maxGapMs =>
      rcases h.step_record sample maxGapMs with ⟨hi, hstep⟩ | ⟨-, hstep⟩
      · rw [hstep, History.integrated, hi]
        rfl
      · rw [hstep]

/-- So each minute grows by what this interval has in it. -/
theorem History.energyAt_step (h : History) (op : HistoryOp) (k : String × ℤ) :
    energyAt (h.step op).db.energy k =
      energyAt h.db.energy k + ((h.integrated op).toList.map (pairRow k)).sum := by
  rw [h.energy_step]
  cases h.integrated op with
  | none => simp
  | some pair =>
      simp only [Option.elim_some, energyAt_foldl, Option.toList_some, List.map_cons, List.map_nil,
        List.sum_cons, List.sum_nil, add_zero, pairRow]

/-! ### Any number of calls -/

/-- The store after a sequence of calls. -/
def History.run (h : History) (ops : List HistoryOp) : History :=
  Transition.run History.step h ops

@[simp] theorem History.run_nil (h : History) : h.run [] = h := rfl

/-- A run and one more call. -/
theorem History.run_concat (h : History) (ops : List HistoryOp) (op : HistoryOp) :
    h.run (ops ++ [op]) = (h.run ops).step op := Transition.run_concat ..

/-- The pairs a sequence of calls integrates. -/
def History.integratedPairs (h : History) (ops : List HistoryOp) : List (Telemetry × Telemetry) :=
  Transition.outputs History.step (fun h op => (h.integrated op).toList) h ops

/-- The intervals of a run, and that of one more call. -/
theorem History.integratedPairs_concat (h : History) (ops : List HistoryOp) (op : HistoryOp) :
    h.integratedPairs (ops ++ [op]) =
      h.integratedPairs ops ++ ((h.run ops).integrated op).toList := Transition.outputs_concat ..

/-- **An entry holds what the integrated pairs brought it.** By induction on the calls,
of which each adds the rows of one pair at most. -/
theorem History.energyAt_run (h : History) (ops : List HistoryOp) (k : String × ℤ) :
    energyAt (h.run ops).db.energy k =
      energyAt h.db.energy k + ((h.integratedPairs ops).map (pairRow k)).sum := by
  induction ops using List.reverseRecOn with
  | nil => simp [History.integratedPairs, Transition.outputs]
  | append_singleton ops op ih =>
      rw [History.run_concat, History.energyAt_step, ih, History.integratedPairs_concat,
        List.map_append, List.sum_append, add_assoc]

end Railwatch
