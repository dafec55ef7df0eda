/-
# Samples delivered late or again

`record` remembers one sample, the one it inserted last, and integrates from it.
Delivering a stored sample again changes nothing.  A sample that comes late,
after a newer one of its session, is stored and remembered without being
integrated itself; what follows it is then integrated from it, over time that
the newer sample has covered already (`late_sample_is_billed_twice`).

`startsFromNewest` is the state in which this does not happen.  As long as every
call finds it, each pair starts where or after all earlier ones of its session
ended (`pairs_end_before`), so the pairs' intervals stay apart.
-/

import Railwatch.History.Trapezoids

namespace Railwatch

open Sql Intervals

/-- The sample belongs to the session. -/
def Telemetry.inSession (t : Telemetry) (device session : String) : Prop :=
  t.deviceId = device ∧ t.sessionId = session

instance (t : Telemetry) (device session : String) : Decidable (t.inSession device session) := by
  unfold Telemetry.inSession
  infer_instance

/-- The pairs of a session that a sequence of calls integrates. -/
def sessionPairs (device session : String) (h : History) (ops : List HistoryOp) :
    List (Telemetry × Telemetry) :=
  (h.integratedPairs ops).filter fun pair => pair.2.inSession device session

/-- The monotonic interval of a pair. -/
def monotonicPiece (pair : Telemetry × Telemetry) : Piece :=
  ⟨pair.1.monotonicMs, pair.2.monotonicMs⟩

/-- The observed time a pair is credited with. -/
def creditedMs (pair : Telemetry × Telemetry) : ℤ :=
  ((minutePieces pair.1 pair.2).map fun piece =>
    (minuteRow pair.1 pair.2 piece.start piece.stop).observedMs).sum

/-- Sequence numbers and monotonic times agree in order, within a session. -/
def OrdersAgree (device session : String) (ops : List HistoryOp) : Prop :=
  ∀ a ∈ deliveredSamples ops, a.inSession device session →
    ∀ b ∈ deliveredSamples ops, b.inSession device session →
      (a.sequence ≤ b.sequence ↔ a.monotonicMs ≤ b.monotonicMs)

instance (device session : String) (ops : List HistoryOp) :
    Decidable (OrdersAgree device session ops) := by
  unfold OrdersAgree
  infer_instance

/-- If the call integrates a new sample, it does so from the newest one stored
of the session. -/
def History.startsFromNewest (h : History) : HistoryOp → Prop
  | .record sample maxGapMs => sample.key ∉ h.db.samples.keys →
      ∀ p ∈ h.previous, integrates p sample maxGapMs →
        ∀ key ∈ h.db.samples.keys, key.1 = sample.deviceId → key.2.1 = sample.sessionId →
          key.2.2 ≤ p.sequence
  | .reopen => True

instance (h : History) : (op : HistoryOp) → Decidable (h.startsFromNewest op)
  | .record .. | .reopen => by
      unfold History.startsFromNewest
      infer_instance

/-! ### Stored samples -/

/-- **Delivering a stored sample again changes nothing.** The insertion is ignored and
the call ends there, before it looks at the sample that it remembers. -/
theorem History.step_record_of_stored {h : History} {sample : Telemetry}
    (hstored : sample.key ∈ h.db.samples.keys) (maxGapMs : ℕ) :
    h.step (.record sample maxGapMs) = h := by
  rcases h.step_record sample maxGapMs with ⟨-, hstep⟩ | ⟨hi, -⟩
  · exact hstep
  · exact absurd hstored (History.inserted_record hi).2.2

/-- A sample that is stored stays stored. -/
theorem History.keys_step {h : History} {key : String × String × ℤ}
    (hk : key ∈ h.db.samples.keys) (op : HistoryOp) : key ∈ (h.step op).db.samples.keys := by
  cases op with
  | reopen => exact hk
  | record sample maxGapMs =>
      rcases h.step_record sample maxGapMs with ⟨-, hstep⟩ | ⟨-, hstep⟩
      · rwa [hstep]
      · rw [hstep]
        simp only [Table.keys_insertOrIgnore]
        split_ifs
        · exact hk
        · exact List.mem_append_left _ hk

/-- A sample that is inserted is stored then. -/
theorem History.key_mem_step {h : History} {op : HistoryOp} {s : Telemetry}
    (hi : h.inserted op = some s) : s.key ∈ (h.step op).db.samples.keys := by
  cases op with
  | reopen => cases hi
  | record sample maxGapMs =>
      obtain ⟨rfl, -, hnew⟩ := History.inserted_record hi
      rcases h.step_record s maxGapMs with ⟨hno, -⟩ | ⟨-, hstep⟩
      · rw [hno] at hi
        cases hi
      · rw [hstep]
        simp [Table.keys_insertOrIgnore, hnew]

/-- The samples of an integrated pair were delivered, belong to one session and
are stored. -/
theorem History.integratedPairs_mem {ops : List HistoryOp} {p s : Telemetry}
    (h : (p, s) ∈ History.integratedPairs {} ops) :
    p ∈ deliveredSamples ops ∧ s ∈ deliveredSamples ops ∧
      p.inSession s.deviceId s.sessionId ∧ s.key ∈ (History.run {} ops).db.samples.keys ∧
      (∃ maxGapMs, .record s maxGapMs ∈ ops ∧ integrates p s maxGapMs) := by
  induction ops using List.reverseRecOn with
  | nil => cases h
  | append_singleton ops op ih =>
      rw [History.integratedPairs_concat] at h
      rw [History.run_concat, deliveredSamples, List.filterMap_append]
      rcases List.mem_append.1 h with h | h
      · obtain ⟨h₁, h₂, h₃, h₄, g, h₅, h₆⟩ := ih h
        exact ⟨List.mem_append_left _ h₁, List.mem_append_left _ h₂, h₃,
          History.keys_step h₄ op, g, List.mem_append_left _ h₅, h₆⟩
      · obtain ⟨g, rfl, hins, hprevious, hguard⟩ :=
          History.integrated_eq_some (Option.mem_toList.1 h)
        exact ⟨List.mem_append_left _ (History.previous_mem hprevious),
          List.mem_append_right _ (by simp), ⟨hguard.2.1, hguard.1⟩, History.key_mem_step hins,
          g, by simp, hguard⟩

/-! ### Pairs of one session -/

/-- The pairs of a session, and that of one more call. -/
theorem sessionPairs_concat (device session : String) (ops : List HistoryOp) (op : HistoryOp) :
    sessionPairs device session {} (ops ++ [op]) = sessionPairs device session {} ops ++
      ((History.run {} ops).integrated op).toList.filter fun pair =>
        pair.2.inSession device session := by
  rw [sessionPairs, History.integratedPairs_concat, List.filter_append]
  rfl

section Newest

variable {device session : String} {ops : List HistoryOp}
  (hnewest : Transition.Along History.step History.startsFromNewest {} ops)
  (hagree : OrdersAgree device session ops)
include hnewest hagree

/-- **A pair starts where or after every earlier one ended.** The second sample of a
pair is remembered, and the next pair starts with it or with a later one. -/
theorem pairs_end_before :
    (sessionPairs device session {} ops).Pairwise fun pair pair' =>
      pair.2.monotonicMs ≤ pair'.1.monotonicMs := by
  induction ops using List.reverseRecOn with
  | nil => exact List.Pairwise.nil
  | append_singleton ops op ih =>
      have hdelivered {t : Telemetry} (ht : t ∈ deliveredSamples ops) :
          t ∈ deliveredSamples (ops ++ [op]) := by
        rw [deliveredSamples, List.filterMap_append]
        exact List.mem_append_left _ ht
      obtain ⟨hbefore, hlast⟩ := (Transition.along_concat _).1 hnewest
      have hbefore := ih hbefore fun a ha ha' b hb => hagree a (hdelivered ha) ha' b (hdelivered hb)
      rw [sessionPairs_concat, List.pairwise_append]
      refine ⟨hbefore, ?_, ?_⟩
      · cases (History.run {} ops).integrated op with
        | none => exact List.Pairwise.nil
        | some pair => exact (List.pairwise_singleton _ pair).filter _
      · rintro ⟨p₁, s₁⟩ h₁ ⟨p, s⟩ h
        obtain ⟨h₁, hs₁⟩ := List.mem_filter.1 h₁
        obtain ⟨h, hs⟩ := List.mem_filter.1 h
        have hs₁ := of_decide_eq_true hs₁
        have hs := of_decide_eq_true hs
        obtain ⟨-, hdel₁, -, hstored₁, -⟩ := History.integratedPairs_mem h₁
        obtain ⟨g, rfl, hins, hprevious, hguard⟩ :=
          History.integrated_eq_some (Option.mem_toList.1 h)
        have hp : p.inSession device session :=
          ⟨hguard.2.1.trans hs.1, hguard.1.trans hs.2⟩
        have hseq := hlast (History.inserted_record hins).2.2 p hprevious hguard s₁.key hstored₁
          (hs₁.1.trans hs.1.symm) (hs₁.2.trans hs.2.symm)
        exact (hagree s₁ (hdelivered hdel₁) hs₁ p (hdelivered (History.previous_mem hprevious))
          hp).1 (Int.ofNat_le.1 hseq)

/-- No two pairs of a session have a moment of its boot clock in common. -/
theorem sessionPairs_apart :
    ((sessionPairs device session {} ops).map monotonicPiece).Pairwise Piece.Apart := by
  rw [List.pairwise_map]
  exact (pairs_end_before hnewest hagree).imp fun h => Or.inl (Int.ofNat_le.2 h)

end Newest

/-- The wall time of a pair exceeds its monotonic time by at most 100 ms. -/
theorem creditedMs_le {p s : Telemetry} {maxGapMs : ℕ} (h : integrates p s maxGapMs) :
    creditedMs (p, s) ≤ (monotonicPiece (p, s)).length + 100 := by
  obtain ⟨-, -, -, hpos, -, hwall, habs⟩ := h
  have hcast := asI64_le (s.monotonicMs - p.monotonicMs)
  have habs := (abs_le.1 habs).2
  have hcredited : creditedMs (p, s) = s.capturedAtMs - p.capturedAtMs :=
    observed_pieces (sub_pos.1 hwall)
  rw [hcredited]
  simp only [monotonicPiece, Piece.length]
  omega

/-- **No moment of a session is billed twice** in a run whose calls all start
from the newest sample.  The monotonic intervals of the integrated pairs of any
session are apart from each other, and the time credited to them is at most the
session's monotonic span and 100 ms for each pair.  In any state, delivering a
stored sample again changes nothing. -/
theorem no_moment_billed_twice (device session : String) (ops : List HistoryOp)
    (hagree : OrdersAgree device session ops)
    (hnewest : Transition.Along History.step History.startsFromNewest {} ops) :
    let pairs := sessionPairs device session {} ops
    (pairs.map monotonicPiece).Pairwise Piece.Apart ∧
      (∀ first last : ℕ, first ≤ last → (∀ t ∈ deliveredSamples ops,
          t.inSession device session → first ≤ t.monotonicMs ∧ t.monotonicMs ≤ last) →
        (pairs.map creditedMs).sum ≤ last - first + 100 * pairs.length) ∧
      ∀ sample maxGapMs, sample.key ∈ (History.run {} ops).db.samples.keys →
        (History.run {} ops).step (.record sample maxGapMs) = History.run {} ops := by
  intro pairs
  have hapart := sessionPairs_apart hnewest hagree
  refine ⟨hapart, fun first last hspan hwithin => ?_,
    fun sample maxGapMs hstored => History.step_record_of_stored hstored maxGapMs⟩
  -- every pair's interval lies in the span
  have hpair : ∀ pair ∈ pairs, creditedMs pair ≤
      (monotonicPiece pair).overlap ⟨first, last⟩ + 100 := by
    rintro ⟨p, s⟩ h
    obtain ⟨h, hs⟩ := List.mem_filter.1 h
    have hs := of_decide_eq_true hs
    obtain ⟨hp, hs', hsession, -, g, -, hguard⟩ := History.integratedPairs_mem h
    have h₁ := hwithin p hp ⟨hsession.1.trans hs.1, hsession.2.trans hs.2⟩
    have h₂ := hwithin s hs' hs
    have h₃ : 0 < s.monotonicMs - p.monotonicMs := hguard.2.2.2.1
    have hoverlap : (monotonicPiece (p, s)).overlap ⟨first, last⟩ =
        (monotonicPiece (p, s)).length := by
      refine Piece.overlap_eq_length ?_ ?_ ?_ <;> simp only [monotonicPiece] <;> omega
    rw [hoverlap]
    exact creditedMs_le hguard
  have hsum : (pairs.map creditedMs).sum ≤
      ((pairs.map monotonicPiece).map (Piece.overlap · ⟨first, last⟩)).sum + 100 * pairs.length :=
    calc (pairs.map creditedMs).sum
        ≤ (pairs.map fun pair => (monotonicPiece pair).overlap ⟨first, last⟩ + 100).sum :=
          List.sum_le_sum hpair
      _ = _ := by
          rw [List.sum_map_add, List.map_map]
          simp [Function.comp_def, mul_comm]
  have hspan' := sum_overlap_le hapart (q := ⟨first, last⟩) (by simpa using hspan)
  simp only [Piece.length] at hspan'
  exact hsum.trans (by linarith)

/-- A sample of one session, read at a steady power. -/
def steadySample (sequence : ℕ) (ms : ℕ) : Telemetry :=
  { simulatedSample 0 false with sequence := sequence, capturedAtMs := ms, monotonicMs := ms }

/-- Four samples in order, each a second after the other. -/
theorem no_moment_billed_twice_in_order :
    let ops : List HistoryOp := [.record (steadySample 1 0) 3500,
      .record (steadySample 2 1000) 3500, .record (steadySample 3 2000) 3500,
      .record (steadySample 4 3000) 3500]
    ((sessionPairs "demo-ai1600ts" "" {} ops).map monotonicPiece).Pairwise Piece.Apart := by
  intro ops
  exact (no_moment_billed_twice "demo-ai1600ts" "" ops (by decide +kernel)
    (by decide +kernel)).1

/-- **A late sample is billed twice.**  The samples 1, 4, 2 and 3 of a session,
delivered in that order: 4 is integrated from 1, 2 is refused but remembered,
and 3 is integrated from 2 over time that 4 has covered. -/
theorem late_sample_is_billed_twice :
    ¬∀ (device session : String) (ops : List HistoryOp), OrdersAgree device session ops →
      (∀ sample maxGapMs, .record sample maxGapMs ∈ ops → maxGapMs = 3500) →
      ((sessionPairs device session {} ops).map monotonicPiece).Pairwise Piece.Apart := by
  intro h
  have := h "demo-ai1600ts" "" [.record (steadySample 1 0) 3500, .record (steadySample 4 3000) 3500,
    .record (steadySample 2 1000) 3500, .record (steadySample 3 2000) 3500] (by decide +kernel)
    (fun sample maxGapMs h => by simp only [List.mem_cons, HistoryOp.record.injEq,
      List.not_mem_nil, or_false] at h; omega)
  revert this
  decide +kernel

end Railwatch
