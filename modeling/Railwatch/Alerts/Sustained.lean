/-
# Software incidents need sustained evidence

The imbalance incident of a connector waits for its condition to last: it opens
once the condition has been asserted for `trigger_ms` without a break, and
closes once it has been clear for `recovery_ms` without one.  The engine keeps
this in two timers, `pending` and `recovering`, that several branches set,
remove and reset.

A break is a gap in the samples, another session, or a loss of monitoring:
`EngineOp.continues` links two calls that are not separated by one.  The
evidence for a call is then `Runs.lastRun`, the longest run of linked calls
ending there in which every sample asserts the condition (or is clear of it),
under the policy of its own call.  `timers_run` is the invariant: each timer
holds the time of the first call of its run.
-/

import Railwatch.Alerts.Brackets
import Railwatch.General.LastRun

namespace Railwatch

open Std (TreeMap)
open TreeMaps
open Runs

/-- The monotonic time of a sample. -/
def EngineOp.time : EngineOp → Option ℕ
  | .observe _ t _ _ => some t.monotonicMs
  | .monitoringLost .. => none

/-- Two consecutive calls observe one session without a gap. -/
def EngineOp.continues : EngineOp → EngineOp → Prop
  | .observe _ t _ _, .observe _ t' _ maxGapMs =>
      t.sessionId = t'.sessionId ∧ t'.monotonicMs - t.monotonicMs ≤ maxGapMs
  | _, _ => False

instance : DecidableRel EngineOp.continues := fun a b => by
  cases a <;> cases b <;> unfold EngineOp.continues <;> infer_instance

/-- The sample asserts the imbalance of connector `c`. -/
def EngineOp.asserts (c : ℕ) : EngineOp → Bool
  | .observe _ t p _ => t.connectorCurrentsMa[c]?.any (assertedUnder p)
  | .monitoringLost .. => false

/-- The sample is clear of the imbalance of connector `c` and does not assert
it. -/
def EngineOp.clears (c : ℕ) : EngineOp → Bool
  | .observe _ t p _ =>
      t.connectorCurrentsMa[c]?.any fun values => clearUnder p values && !assertedUnder p values
  | .monitoringLost .. => false

/-- Every observed sample carries both connectors. -/
def EngineOp.carriesBoth : EngineOp → Prop
  | .observe _ t _ _ => t.connectorCurrentsMa.length = 2
  | .monitoringLost .. => True

/-- The time from the first to the last sample of a run. -/
def spanMs (run : List EngineOp) : ℕ :=
  (run.getLast?.bind EngineOp.time).getD 0 - (run.head?.bind EngineOp.time).getD 0

/-- The events open an incident of the kind. -/
def Opens (events : List Incident) (kind : String) : Prop :=
  ∃ event ∈ events, event.kind = kind ∧ event.recoveredAtMs = none

/-- The events close an incident of the kind. -/
def Closes (events : List Incident) (kind : String) : Prop :=
  ∃ event ∈ events, event.kind = kind ∧ event.recoveredAtMs ≠ none

/-! ### The kind and its condition -/

/-- An imbalance is not the outage. -/
theorem imbalanceKind_ne_unavailable (c : ℕ) : imbalanceKind c ≠ monitoringUnavailable :=
  ne_of_head?_ne (imbalanceKind_head? c) monitoringUnavailable_head? (by decide)

/-- The condition of a connector's imbalance is in the map whenever the connector has
currents. -/
theorem conditions_imbalanceKind {t : Telemetry} {c : ℕ} {values : Vector ℤ 6}
    (h : t.connectorCurrentsMa[c]? = some values) (p : Policy) :
    (conditions t p)[imbalanceKind c]? = some (imbalanceCondition p c values) := by
  refine conditions_getElem?_of_mem (List.mem_append_right _ (List.mem_iff_getElem?.2 ⟨c, ?_⟩))
  rw [imbalanceConditions, List.getElem?_mapIdx, h]
  rfl

/-! ### The timers -/

/-- The time of the first call of a run. -/
def startOf (run : List EngineOp) : Option ℕ := run.head?.bind EngineOp.time

/-- What a reset on an interruption leaves of a timer is the time of the part
of the run that the new call continues. -/
theorem startOf_entered (good : EngineOp → Prop) [DecidablePred good]
    (hgood : ∀ op, good op → ∃ uuid t p g, op = .observe uuid t p g) {ops : List EngineOp}
    {e : AlertEngine}
    (hlast : ∀ uuid t p g, ops.getLast? = some (.observe uuid t p g) →
      e.last = some (t.sessionId, t.monotonicMs))
    (uuid : String → String) (t : Telemetry) (p : Policy) (maxGapMs : ℕ) :
    (if e.interrupted t maxGapMs then none
      else startOf (lastRun EngineOp.continues good ops)) =
    if ∀ y ∈ (lastRun EngineOp.continues good ops).getLast?,
        y.continues (.observe uuid t p maxGapMs)
      then startOf (lastRun EngineOp.continues good ops) else none := by
  cases hr : (lastRun EngineOp.continues good ops).getLast? with
  | none =>
      rw [List.getLast?_eq_none_iff.1 hr]
      simp [startOf]
  | some y =>
      obtain ⟨before, hbefore⟩ := lastRun_suffix EngineOp.continues good ops
      have hy : ops.getLast? = some y := by
        rw [← hbefore, List.getLast?_append, hr]
        rfl
      have hmem : y ∈ lastRun EngineOp.continues good ops := List.mem_of_getLast? hr
      obtain ⟨uuid', t', p', g', rfl⟩ :=
        hgood y ((lastRun_isRun EngineOp.continues good ops).all y hmem)
      have hint : e.interrupted t maxGapMs = true ↔
          ¬(EngineOp.observe uuid' t' p' g').continues (.observe uuid t p maxGapMs) := by
        unfold AlertEngine.interrupted EngineOp.continues
        rw [hlast _ _ _ _ hy]
        simp only [Bool.or_eq_true, bne_iff_ne, ne_eq, decide_eq_true_eq, not_and_or, not_le]
      by_cases hc : (EngineOp.observe uuid' t' p' g').continues (.observe uuid t p maxGapMs)
      · rw [if_neg (fun h => (hint.1 h) hc), if_pos]
        intro z hz
        exact (Option.some.inj hz) ▸ hc
      · rw [if_pos (hint.2 hc), if_neg]
        exact fun h => hc (h _ rfl)

/-- The time a run starts at, once a call has been added to it: that of the old run if
the call goes on with it, and that of the call's own sample otherwise. This is what the
timer of a slot holds, which is kept or set to the sample's time. -/
theorem startOf_extend (good : EngineOp → Prop) [DecidablePred good] (run : List EngineOp)
    {uuid : String → String} {t : Telemetry} {p : Policy} {maxGapMs : ℕ}
    (hgood : good (.observe uuid t p maxGapMs)) (hrun : ∀ op ∈ run, op.time.isSome) :
    startOf (extend EngineOp.continues good run (.observe uuid t p maxGapMs)) =
      some ((if ∀ y ∈ run.getLast?, y.continues (.observe uuid t p maxGapMs)
        then startOf run else none).getD t.monotonicMs) := by
  unfold extend
  rw [if_pos hgood]
  split_ifs with h
  · cases run with
    | nil => rfl
    | cons op run =>
        obtain ⟨ms, hms⟩ := Option.isSome_iff_exists.1 (hrun op (List.mem_cons_self ..))
        simp [startOf, hms]
  · rfl

/-- The span of a run that ends with the sample just observed. -/
theorem spanMs_extend (good : EngineOp → Prop) [DecidablePred good] (run : List EngineOp)
    {uuid : String → String} {t : Telemetry} {p : Policy} {maxGapMs : ℕ}
    (hgood : good (.observe uuid t p maxGapMs)) :
    spanMs (extend EngineOp.continues good run (.observe uuid t p maxGapMs)) =
      t.monotonicMs -
        (startOf (extend EngineOp.continues good run (.observe uuid t p maxGapMs))).getD 0 := by
  unfold spanMs startOf extend
  rw [if_pos hgood]
  split_ifs <;> simp [EngineOp.time]

/-- Only a sample can assert an imbalance. -/
theorem EngineOp.asserts_observe {c : ℕ} {op : EngineOp} (h : op.asserts c = true) :
    ∃ uuid t p g, op = .observe uuid t p g := by
  cases op with
  | observe uuid t p g => exact ⟨uuid, t, p, g, rfl⟩
  | monitoringLost => cases h

/-- Only a sample can clear one. -/
theorem EngineOp.clears_observe {c : ℕ} {op : EngineOp} (h : op.clears c = true) :
    ∃ uuid t p g, op = .observe uuid t p g := by
  cases op with
  | observe uuid t p g => exact ⟨uuid, t, p, g, rfl⟩
  | monitoringLost => cases h

/-- The evidence that the imbalance of connector `c` is asserted. -/
def assertedRun (c : ℕ) (ops : List EngineOp) : List EngineOp :=
  lastRun EngineOp.continues (fun op => op.asserts c = true) ops

/-- The evidence that the imbalance of connector `c` is clear. -/
def clearRun (c : ℕ) (ops : List EngineOp) : List EngineOp :=
  lastRun EngineOp.continues (fun op => op.clears c = true) ops

/-- **The timers are the starts of the runs.**  `pending` always; `recovering`
while the incident is active, since at other times it also restarts after each
completed recovery. -/
structure Timers (e : AlertEngine) (c : ℕ) (ops : List EngineOp) : Prop where
  /-- The time from which an imbalance has been asserted without a break. -/
  pending : e.pending[imbalanceKind c]? = startOf (assertedRun c ops)
  /-- The time from which an open one has been clear without a break. -/
  recovering : e.active[imbalanceKind c]?.isSome →
    e.recovering[imbalanceKind c]? = startOf (clearRun c ops)
  /-- The engine remembers the sample that the next one has to follow. -/
  last : ∀ uuid t p g, ops.getLast? = some (.observe uuid t p g) →
    e.last = some (t.sessionId, t.monotonicMs)

/-- The calls of an asserted run are samples, and so have a time. -/
theorem assertedRun_time {c : ℕ} {ops : List EngineOp} :
    ∀ op ∈ assertedRun c ops, op.time.isSome := by
  intro op hop
  obtain ⟨uuid, t, p, g, rfl⟩ := EngineOp.asserts_observe ((lastRun_isRun _ _ ops).all op hop)
  rfl

/-- And so are those of a clear run. -/
theorem clearRun_time {c : ℕ} {ops : List EngineOp} : ∀ op ∈ clearRun c ops, op.time.isSome := by
  intro op hop
  obtain ⟨uuid, t, p, g, rfl⟩ := EngineOp.clears_observe ((lastRun_isRun _ _ ops).all op hop)
  rfl

/-- A call goes on with the asserted run, starts a new one, or ends it. -/
theorem assertedRun_concat (c : ℕ) (ops : List EngineOp) (op : EngineOp) :
    assertedRun c (ops ++ [op]) =
      extend EngineOp.continues (fun op => op.asserts c = true) (assertedRun c ops) op :=
  lastRun_concat ..

/-- The same of the clear run. -/
theorem clearRun_concat (c : ℕ) (ops : List EngineOp) (op : EngineOp) :
    clearRun c (ops ++ [op]) =
      extend EngineOp.continues (fun op => op.clears c = true) (clearRun c ops) op :=
  lastRun_concat ..

/-- A call that does not assert ends the evidence. -/
theorem assertedRun_concat_of_not {c : ℕ} {op : EngineOp} (h : op.asserts c = false)
    (ops : List EngineOp) : assertedRun c (ops ++ [op]) = [] := by
  rw [assertedRun_concat, extend, if_neg (by simp [h])]

/-- A call that is not clear ends the evidence of recovery. -/
theorem clearRun_concat_of_not {c : ℕ} {op : EngineOp} (h : op.clears c = false)
    (ops : List EngineOp) : clearRun c (ops ++ [op]) = [] := by
  rw [clearRun_concat, extend, if_neg (by simp [h])]

section Step

variable {e : AlertEngine} {c : ℕ} {ops : List EngineOp} (h : Timers e c ops)
  (uuid : String → String) (t : Telemetry) (p : Policy) (maxGapMs : ℕ)
include h

/-- `pending` as the last loop of `observe` finds it, against the evidence that
will include the sample. -/
theorem Timers.entered_pending (ha : (EngineOp.observe uuid t p maxGapMs).asserts c = true) :
    some (((e.enter t maxGapMs).slot (imbalanceKind c)).pending.getD t.monotonicMs) =
      startOf (assertedRun c (ops ++ [.observe uuid t p maxGapMs])) := by
  have hext := startOf_extend (fun op => op.asserts c = true) _ ha
    (@assertedRun_time c ops)
  have hent := startOf_entered (fun op => op.asserts c = true)
    (fun op => EngineOp.asserts_observe) h.last uuid t p maxGapMs
  rw [assertedRun_concat, hext,
    AlertEngine.slot_enter e t maxGapMs (imbalanceKind_ne_unavailable c)]
  refine congrArg (fun start => some (Option.getD start t.monotonicMs)) (Eq.trans ?_ hent)
  split_ifs
  · rfl
  · exact h.pending

/-- `recovering` likewise, while the incident is active. -/
theorem Timers.entered_recovering (hactive : e.active[imbalanceKind c]?.isSome)
    (hc : (EngineOp.observe uuid t p maxGapMs).clears c = true) :
    some (((e.enter t maxGapMs).slot (imbalanceKind c)).recovering.getD t.monotonicMs) =
      startOf (clearRun c (ops ++ [.observe uuid t p maxGapMs])) := by
  have hext := startOf_extend (fun op => op.clears c = true) _ hc
    (@clearRun_time c ops)
  have hent := startOf_entered (fun op => op.clears c = true)
    (fun op => EngineOp.clears_observe) h.last uuid t p maxGapMs
  rw [clearRun_concat, hext, AlertEngine.slot_enter e t maxGapMs (imbalanceKind_ne_unavailable c)]
  refine congrArg (fun start => some (Option.getD start t.monotonicMs)) (Eq.trans ?_ hent)
  split_ifs
  · rfl
  · exact h.recovering hactive

end Step

/-- Entering a sample leaves an open imbalance open. -/
theorem AlertEngine.enter_imbalance_active (e : AlertEngine) (t : Telemetry) (maxGapMs c : ℕ) :
    ((e.enter t maxGapMs).slot (imbalanceKind c)).active = e.active[imbalanceKind c]? := by
  rw [AlertEngine.enter_active, if_neg (imbalanceKind_ne_unavailable c)]

/-- What a sample asserts depends on its currents and on the policy alone. -/
theorem EngineOp.asserts_eq {t : Telemetry} {c : ℕ} {values : Vector ℤ 6}
    (h : t.connectorCurrentsMa[c]? = some values) (uuid : String → String) (p : Policy)
    (maxGapMs : ℕ) :
    (EngineOp.observe uuid t p maxGapMs).asserts c = assertedUnder p values := by
  simp [EngineOp.asserts, h]

/-- What a sample clears depends on its currents and on the policy alone, too; what it
asserts it does not clear. -/
theorem EngineOp.clears_eq {t : Telemetry} {c : ℕ} {values : Vector ℤ 6}
    (h : t.connectorCurrentsMa[c]? = some values) (uuid : String → String) (p : Policy)
    (maxGapMs : ℕ) :
    (EngineOp.observe uuid t p maxGapMs).clears c =
      (clearUnder p values && !assertedUnder p values) := by
  simp [EngineOp.clears, h]

/-- The timers through one call. What the slot of the connector has afterwards is read
off the last loop of `observe`, one case for each of the evidence's three states, and
compared with the runs that the call extends or ends. -/
theorem Timers.step {e : AlertEngine} {c : ℕ} {ops : List EngineOp} (h : Timers e c ops)
    (op : EngineOp) (hop : op.carriesBoth) (hc : c < 2) :
    Timers (op.apply e).2 c (ops ++ [op]) := by
  cases op with
  | monitoringLost uuid last message at_ =>
      have hslot := e.slot_monitoringLost uuid last message at_ (imbalanceKind_ne_unavailable c)
      constructor
      · rw [assertedRun_concat_of_not rfl]
        exact congrArg Slot.pending hslot
      · intro _
        rw [clearRun_concat_of_not rfl]
        exact congrArg Slot.recovering hslot
      · intro uuid' t p g hl
        rw [List.getLast?_concat] at hl
        cases hl
  | observe uuid t p maxGapMs =>
      obtain ⟨values, hvalues⟩ : ∃ values, t.connectorCurrentsMa[c]? = some values :=
        List.getElem?_eq_some_iff.2 ⟨by rw [hop]; exact hc, rfl⟩ |> fun h => ⟨_, h⟩
      have hslot := e.slot_observe uuid t p maxGapMs (imbalanceKind c)
      rw [conditions_imbalanceKind hvalues p] at hslot
      simp only [settleSlot, imbalanceKind_software, Bool.not_true, Bool.false_or,
        imbalanceCondition, e.enter_imbalance_active] at hslot
      have hlast : ∀ uuid' t' p' g',
          (ops ++ [EngineOp.observe uuid t p maxGapMs]).getLast? = some (.observe uuid' t' p' g') →
            (e.observe uuid t p maxGapMs).2.last = some (t'.sessionId, t'.monotonicMs) := by
        intro uuid' t' p' g' hl
        rw [List.getLast?_concat] at hl
        cases hl
        exact AlertEngine.observe_last ..
      -- asserted: the one run goes on and the other one ends; else the reverse, if it is clear
      cases hasserted : assertedUnder p values with
      | true =>
          have ha : (EngineOp.observe uuid t p maxGapMs).asserts c = true := by
            rw [EngineOp.asserts_eq hvalues, hasserted]
          have hcl : (EngineOp.observe uuid t p maxGapMs).clears c = false := by
            rw [EngineOp.clears_eq hvalues, hasserted, Bool.not_true, Bool.and_false]
          rw [hasserted, if_pos rfl] at hslot
          refine ⟨?_, fun _ => ?_, hlast⟩
          · rw [← h.entered_pending uuid t p maxGapMs ha]
            split_ifs at hslot <;> exact congrArg Slot.pending hslot
          · rw [clearRun_concat_of_not hcl]
            split_ifs at hslot <;> exact congrArg Slot.recovering hslot
      | false =>
          have ha : (EngineOp.observe uuid t p maxGapMs).asserts c = false := by
            rw [EngineOp.asserts_eq hvalues, hasserted]
          rw [hasserted, if_neg (by simp)] at hslot
          refine ⟨?_, fun hactive => ?_, hlast⟩
          · rw [assertedRun_concat_of_not ha]
            split_ifs at hslot <;> exact congrArg Slot.pending hslot
          · cases hclear : clearUnder p values with
            | false =>
                have hcl : (EngineOp.observe uuid t p maxGapMs).clears c = false := by
                  rw [EngineOp.clears_eq hvalues, hclear, Bool.false_and]
                rw [hclear, if_neg (by simp)] at hslot
                rw [clearRun_concat_of_not hcl]
                exact congrArg Slot.recovering hslot
            | true =>
                have hcl : (EngineOp.observe uuid t p maxGapMs).clears c = true := by
                  rw [EngineOp.clears_eq hvalues, hclear, hasserted]
                  rfl
                rw [hclear, if_pos rfl] at hslot
                split_ifs at hslot
                · -- the recovery is complete: nothing stays active
                  have hnone := congrArg (fun s => Option.isSome (Slot.active s)) hslot
                  exact absurd (hnone.symm.trans hactive) (by simp)
                · have hsame := congrArg (fun s => Option.isSome (Slot.active s)) hslot
                  have hbefore : e.active[imbalanceKind c]?.isSome := hsame.symm.trans hactive
                  rw [← h.entered_recovering uuid t p maxGapMs hbefore hcl]
                  exact congrArg Slot.recovering hslot

/-- The timers through any number of calls, from an engine whose timers have
not started. -/
theorem timers_run (active : TreeMap String Incident) {c : ℕ} (hc : c < 2) {ops : List EngineOp}
    (hops : ∀ op ∈ ops, op.carriesBoth) :
    Timers (AlertEngine.run { active := active } ops) c ops := by
  induction ops using List.reverseRecOn with
  | nil =>
      refine ⟨?_, fun _ => ?_, fun _ _ _ _ h => by cases h⟩
      · exact Std.TreeMap.getElem?_emptyc
      · exact Std.TreeMap.getElem?_emptyc
  | append_singleton ops op ih =>
      rw [AlertEngine.run_concat]
      exact (ih fun op' h => hops op' (List.mem_append_left _ h)).step op
        (hops op (by simp)) hc

/-! ### Opening and closing -/

section Settle

variable {uuid : String → String} {t : Telemetry} {p : Policy} {k : String} {c : Condition}
  {s : Slot}

/-- When a software slot opens an incident. -/
theorem settleSlot_opens (hk : startsWith k "software." = true) :
    (∃ event, (settleSlot uuid t p k c s).1 = some event ∧ event.recoveredAtMs = none) ↔
      c.asserted = true ∧ s.active = none ∧
        p.triggerMs ≤ t.monotonicMs - s.pending.getD t.monotonicMs := by
  unfold settleSlot
  simp only [hk, Bool.not_true, Bool.false_or]
  cases hasserted : c.asserted with
  | true =>
      by_cases hopen : p.triggerMs ≤ t.monotonicMs - s.pending.getD t.monotonicMs <;>
        cases s.active <;> simp [hopen, openIncident]
  | false =>
      cases c.clear <;>
        by_cases hclose : p.recoveryMs ≤ t.monotonicMs - s.recovering.getD t.monotonicMs <;>
          cases s.active <;> simp [hclose]

/-- When a software slot closes its incident. -/
theorem settleSlot_closes (hk : startsWith k "software." = true) :
    (∃ event, (settleSlot uuid t p k c s).1 = some event ∧ event.recoveredAtMs ≠ none) ↔
      c.asserted = false ∧ c.clear = true ∧ s.active.isSome = true ∧
        p.recoveryMs ≤ t.monotonicMs - s.recovering.getD t.monotonicMs := by
  unfold settleSlot
  simp only [hk, Bool.not_true, Bool.false_or]
  cases hasserted : c.asserted with
  | true =>
      by_cases hopen : p.triggerMs ≤ t.monotonicMs - s.pending.getD t.monotonicMs <;>
        cases s.active <;> simp [hopen, openIncident]
  | false =>
      cases c.clear <;>
        by_cases hclose : p.recoveryMs ≤ t.monotonicMs - s.recovering.getD t.monotonicMs <;>
          cases s.active <;> simp [hclose]

end Settle

section Events

variable {e : AlertEngine} {c : ℕ} {ops : List EngineOp} (h : Timers e c ops) (hkeyed : e.Keyed)
  {t : Telemetry} {values : Vector ℤ 6} (hvalues : t.connectorCurrentsMa[c]? = some values)
  (uuid : String → String) (p : Policy) (maxGapMs : ℕ)
include h hkeyed hvalues

/-- A sample opens the imbalance incident when the evidence lasts long enough: none is
open, the sample asserts the imbalance, and the run it belongs to has lasted for the
policy's time. The timer that `observe` compares with that time holds the time of the
first sample of the run. -/
theorem Timers.opens_iff :
    Opens (e.observe uuid t p maxGapMs).1 (imbalanceKind c) ↔
      e.active.contains (imbalanceKind c) = false ∧
        assertedRun c (ops ++ [.observe uuid t p maxGapMs]) ≠ [] ∧
        p.triggerMs ≤ spanMs (assertedRun c (ops ++ [.observe uuid t p maxGapMs])) := by
  have hevent : Opens (e.observe uuid t p maxGapMs).1 (imbalanceKind c) ↔
      ∃ event, (settleSlot uuid t p (imbalanceKind c) (imbalanceCondition p c values)
        ((e.enter t maxGapMs).slot (imbalanceKind c))).1 = some event ∧
          event.recoveredAtMs = none := by
    simp only [Opens, ← and_assoc]
    exact exists_congr fun event => and_congr_left' (mem_observe_fst hkeyed
      uuid t p maxGapMs (imbalanceKind_ne_unavailable c) (conditions_imbalanceKind hvalues p) event)
  rw [hevent, settleSlot_opens (imbalanceKind_software c), e.enter_imbalance_active,
    contains_eq_isSome, Option.isSome_eq_false_iff, Option.isNone_iff_eq_none]
  cases ha : (EngineOp.observe uuid t p maxGapMs).asserts c with
  | false =>
      have hno : (imbalanceCondition p c values).asserted = false :=
        (EngineOp.asserts_eq hvalues uuid p maxGapMs).symm.trans ha
      simp [hno, assertedRun_concat_of_not ha]
  | true =>
      have hyes : (imbalanceCondition p c values).asserted = true :=
        (EngineOp.asserts_eq hvalues uuid p maxGapMs).symm.trans ha
      have hstart := h.entered_pending uuid t p maxGapMs ha
      have hspan : spanMs (assertedRun c (ops ++ [.observe uuid t p maxGapMs])) =
          t.monotonicMs -
            ((e.enter t maxGapMs).slot (imbalanceKind c)).pending.getD t.monotonicMs := by
        rw [assertedRun_concat, spanMs_extend (fun op => op.asserts c = true) _ ha,
          ← assertedRun_concat, ← hstart]
        rfl
      have hne : assertedRun c (ops ++ [.observe uuid t p maxGapMs]) ≠ [] := by
        intro hnil
        rw [hnil] at hstart
        cases hstart
      rw [hspan]
      simp [hyes, hne]

/-- A sample closes it when the evidence of recovery lasts long enough: an incident is
open, the sample clears it, and the run it belongs to has lasted for the policy's time
of recovery. While no incident is open the timer of recovery says nothing. -/
theorem Timers.closes_iff :
    Closes (e.observe uuid t p maxGapMs).1 (imbalanceKind c) ↔
      e.active.contains (imbalanceKind c) = true ∧
        clearRun c (ops ++ [.observe uuid t p maxGapMs]) ≠ [] ∧
        p.recoveryMs ≤ spanMs (clearRun c (ops ++ [.observe uuid t p maxGapMs])) := by
  have hevent : Closes (e.observe uuid t p maxGapMs).1 (imbalanceKind c) ↔
      ∃ event, (settleSlot uuid t p (imbalanceKind c) (imbalanceCondition p c values)
        ((e.enter t maxGapMs).slot (imbalanceKind c))).1 = some event ∧
          event.recoveredAtMs ≠ none := by
    simp only [Closes, ← and_assoc]
    exact exists_congr fun event => and_congr_left' (mem_observe_fst hkeyed
      uuid t p maxGapMs (imbalanceKind_ne_unavailable c) (conditions_imbalanceKind hvalues p) event)
  rw [hevent, settleSlot_closes (imbalanceKind_software c), e.enter_imbalance_active,
    contains_eq_isSome]
  have hclears := EngineOp.clears_eq hvalues uuid p maxGapMs
  cases hactive : e.active[imbalanceKind c]?.isSome with
  | false => simp
  | true =>
      cases hc : (EngineOp.observe uuid t p maxGapMs).clears c with
      | false =>
          rw [hc] at hclears
          have hno : ¬((imbalanceCondition p c values).asserted = false ∧
              (imbalanceCondition p c values).clear = true) := by
            rintro ⟨h₁, h₂⟩
            simp only [imbalanceCondition] at h₁ h₂
            simp [h₁, h₂] at hclears
          simp only [clearRun_concat_of_not hc, ← and_assoc]
          simp [hno]
      | true =>
          rw [hc] at hclears
          have hyes : clearUnder p values = true ∧ assertedUnder p values = false := by
            simpa using hclears.symm
          have hstart := h.entered_recovering uuid t p maxGapMs hactive hc
          -- the timer holds the time of the first sample of the run
          have hspan : spanMs (clearRun c (ops ++ [.observe uuid t p maxGapMs])) =
              t.monotonicMs -
                ((e.enter t maxGapMs).slot (imbalanceKind c)).recovering.getD t.monotonicMs := by
            rw [clearRun_concat, spanMs_extend (fun op => op.clears c = true) _ hc,
              ← clearRun_concat, ← hstart]
            rfl
          have hne : clearRun c (ops ++ [.observe uuid t p maxGapMs]) ≠ [] := by
            intro hnil
            rw [hnil] at hstart
            cases hstart
          rw [hspan]
          simp [imbalanceCondition, hyes, hne]

end Events

/-- A call that opens the incident ends the evidence of recovery. The run that closes it
later began after that call, so recovery is never counted from before the incident. -/
theorem clearRun_suffix_of_asserts {c : ℕ} {opening : EngineOp}
    (ha : opening.asserts c = true) (earlier later : List EngineOp) :
    clearRun c (earlier ++ opening :: later) <:+ later := by
  have hrun := isLongestRun_lastRun EngineOp.continues (fun op => op.clears c = true)
    (earlier ++ opening :: later)
  have hlater : opening :: later <:+ earlier ++ opening :: later := List.suffix_append ..
  have hnot : opening ∉ clearRun c (earlier ++ opening :: later) := by
    intro hmem
    have hclear := hrun.isRun.all opening hmem
    cases opening with
    | monitoringLost => cases ha
    | observe uuid t p maxGapMs =>
        simp only [EngineOp.asserts, EngineOp.clears] at ha hclear
        cases hv : t.connectorCurrentsMa[c]? with
        | none => rw [hv] at ha; cases ha
        | some values =>
            simp only [hv, Option.any_some] at ha hclear
            simp [ha] at hclear
  rcases List.suffix_or_suffix_of_suffix hrun.suffix hlater with h | h
  · rcases List.suffix_cons_iff.1 h with h | h
    · rw [clearRun, h] at hnot
      exact absurd (List.mem_cons_self ..) hnot
    · exact h
  · exact absurd (h.subset (List.mem_cons_self ..)) hnot

/-- **Imbalance incidents open and close on sustained evidence.**  From a
restored engine, after any sequence of calls whose samples carry both
connectors: the next sample opens the incident of a connector iff it is not
active and the longest run of linked samples that assert it, ending here, lasts
`trigger_ms`; it closes the incident iff it is active and the longest run of
linked samples that are clear of it lasts `recovery_ms`.  That run never reaches
back to the sample that opened the incident. -/
theorem imbalance_incidents_follow_evidence {active : TreeMap String Incident}
    (hkeyed : AlertEngine.Keyed { active := active }) (ops : List EngineOp)
    (uuid : String → String) (t : Telemetry) (p : Policy) (maxGapMs : ℕ)
    (hboth : ∀ op ∈ ops ++ [.observe uuid t p maxGapMs], op.carriesBoth) (c : ℕ) (hc : c < 2) :
    let before := AlertEngine.run { active := active } ops
    let events := (before.observe uuid t p maxGapMs).1
    let calls := ops ++ [.observe uuid t p maxGapMs]
    (IsLongestRun EngineOp.continues (fun op => op.asserts c = true) calls (assertedRun c calls) ∧
      IsLongestRun EngineOp.continues (fun op => op.clears c = true) calls (clearRun c calls)) ∧
    (Opens events (imbalanceKind c) ↔ before.active.contains (imbalanceKind c) = false ∧
      assertedRun c calls ≠ [] ∧ p.triggerMs ≤ spanMs (assertedRun c calls)) ∧
    (Closes events (imbalanceKind c) ↔ before.active.contains (imbalanceKind c) = true ∧
      clearRun c calls ≠ [] ∧ p.recoveryMs ≤ spanMs (clearRun c calls)) ∧
    (∀ earlier opening later, calls = earlier ++ opening :: later →
      Opens (opening.apply (AlertEngine.run { active := active } earlier)).1 (imbalanceKind c) →
      clearRun c calls <:+ later) := by
  dsimp only
  have hops : ∀ op ∈ ops, op.carriesBoth := fun op h => hboth op (List.mem_append_left _ h)
  have hcarries {op : EngineOp} (h : op ∈ ops ++ [.observe uuid t p maxGapMs])
      {uuid' t' p' g'} (heq : op = .observe uuid' t' p' g') :
      ∃ values, t'.connectorCurrentsMa[c]? = some values := by
    have hlen := hboth op h
    rw [heq] at hlen
    exact ⟨_, List.getElem?_eq_getElem (lt_of_lt_of_eq hc hlen.symm)⟩
  obtain ⟨values, hvalues⟩ := hcarries (List.mem_append_right _ (List.mem_singleton_self _)) rfl
  have htimers := timers_run active hc hops
  refine ⟨⟨isLongestRun_lastRun .., isLongestRun_lastRun ..⟩,
    htimers.opens_iff (hkeyed.run ops) hvalues uuid p maxGapMs,
    htimers.closes_iff (hkeyed.run ops) hvalues uuid p maxGapMs, ?_⟩
  intro earlier opening later heq hopens
  have hmem : opening ∈ ops ++ [EngineOp.observe uuid t p maxGapMs] := by rw [heq]; simp
  rw [heq]
  refine clearRun_suffix_of_asserts ?_ earlier later
  cases opening with
  | monitoringLost uuid' last message at_ =>
      -- a loss of monitoring opens no other kind
      obtain ⟨event, hev, hkind, -⟩ := hopens
      simp only [EngineOp.apply, AlertEngine.monitoringLost] at hev
      split_ifs at hev
      · simp at hev
      · simp only [Option.toList_some, List.mem_singleton] at hev
        rw [hev] at hkind
        exact absurd hkind (imbalanceKind_ne_unavailable c).symm
  | observe uuid' t' p' g' =>
      obtain ⟨values', hvalues'⟩ := hcarries hmem rfl
      have hearlier : ∀ op ∈ earlier, op.carriesBoth := fun op h =>
        hboth op (by rw [heq]; exact List.mem_append_left _ h)
      have hopen := ((timers_run active hc hearlier).opens_iff (hkeyed.run earlier)
        hvalues' uuid' p' g').1 hopens
      by_contra hna
      exact hopen.2.1 (assertedRun_concat_of_not (by simpa using hna) earlier)

/-- Three seconds of unbalanced samples under the default policy open the
incident of the second connector. -/
theorem imbalance_incident_opens_after_trigger :
    Opens ((AlertEngine.run {} [.observe id { simulatedSample 0 true with monotonicMs := 0 }
        default 3000]).observe id { simulatedSample 1 true with monotonicMs := 3000 }
          default 3000).1 (imbalanceKind 1) :=
  (imbalance_incidents_follow_evidence
    (fun k i h => by rw [Std.TreeMap.getElem?_emptyc] at h; cases h)
    [.observe id { simulatedSample 0 true with monotonicMs := 0 } default 3000] id
    { simulatedSample 1 true with monotonicMs := 3000 } default 3000
    (by
      intro op hop
      simp only [List.cons_append, List.nil_append, List.mem_cons, List.not_mem_nil,
        or_false] at hop
      rcases hop with rfl | rfl <;> rfl) 1 (by decide)).2.1.2 (by decide +kernel)

end Railwatch
