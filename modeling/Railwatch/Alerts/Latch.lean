/-
# Hardware incidents latch the last valid reading

The alarm bytes and the connectors' fault snapshots are readings of the PSU:
`observe` opens their incidents at once, closes them at once, and never times
them.  A reading that is missing says nothing.

`HardwareSource` names the eighteen alarm bytes and the fault snapshots;
`HardwareSource.reading` is what one call of the engine reads from it, if
anything.  `HardwareSource.active_apply` is the step: a call with a reading sets
the incident to it, a call without one leaves the incident as it is.
`hardware_incidents_latch` is the law over any number of calls.
-/

import Railwatch.Alerts.Slots

namespace Railwatch

open TreeMaps

/-- One call of the alert engine: a sample, with the policy it is judged by, or an
outage. -/
inductive EngineOp where
  | observe (uuid : String → String) (t : Telemetry) (p : Policy) (maxGapMs : ℕ)
  | monitoringLost (uuid : String → String) (last : Telemetry) (message : String) (at_ : ℤ)

/-- What a call returns and leaves behind. -/
def EngineOp.apply (e : AlertEngine) : EngineOp → List Incident × AlertEngine
  | .observe uuid t p maxGapMs => e.observe uuid t p maxGapMs
  | .monitoringLost uuid last message at_ =>
      let (event, e) := e.monitoringLost uuid last message at_
      (event.toList, e)

/-- The engine after a sequence of calls. -/
def AlertEngine.run (e : AlertEngine) (ops : List EngineOp) : AlertEngine :=
  ops.foldl (fun e op => (op.apply e).2) e

@[simp] theorem AlertEngine.run_nil (e : AlertEngine) : e.run [] = e := rfl

/-- Two runs, one after the other. -/
theorem AlertEngine.run_append (e : AlertEngine) (ops ops' : List EngineOp) :
    e.run (ops ++ ops') = (e.run ops).run ops' := List.foldl_append

/-- A run and one more call. -/
theorem AlertEngine.run_concat (e : AlertEngine) (ops : List EngineOp) (op : EngineOp) :
    e.run (ops ++ [op]) = (op.apply (e.run ops)).2 := by
  rw [AlertEngine.run_append]
  rfl

/-- A reading of the PSU that an incident follows: one of the alert bytes, or the
protection status of a connector. -/
inductive HardwareSource where
  | alarm (i : Fin 18)
  | safeguard (connector : ℕ)
  deriving DecidableEq

/-- The kind of the incident that follows a reading. -/
def HardwareSource.kind : HardwareSource → String
  | .alarm i => hardwareKind tsAlerts[i]
  | .safeguard c => safeguardKind c

/-- What a sample says of a source: whether its byte is set, if it arrived in
a valid alarm group or a fault snapshot. -/
def HardwareSource.sampled (t : Telemetry) : HardwareSource → Option Bool
  | .alarm i => if t.alarmsValid then t.alertsRaw[i.val]?.map (· != 0) else none
  | .safeguard c => t.safeguards[c]?.map (·.statusRaw != 0)

/-- What a call of the engine reads from a source. -/
def HardwareSource.reading (s : HardwareSource) : EngineOp → Option Bool
  | .observe _ t _ _ => s.sampled t
  | .monitoringLost .. => none

/-- The kinds of a hardware source open and recover at once, without the times of the
policy. -/
theorem HardwareSource.kind_not_software (s : HardwareSource) :
    startsWith s.kind "software." = false := by
  cases s with
  | alarm i =>
      exact startsWith_eq_false_of_head (hardwareKind_head? _) (b := 's') (by decide +kernel)
        (by decide)
  | safeguard c => exact safeguardKind_not_software c

/-- No hardware source is the outage. -/
theorem HardwareSource.kind_ne_unavailable (s : HardwareSource) :
    s.kind ≠ monitoringUnavailable := by
  cases s with
  | alarm i => exact ne_of_head?_ne (hardwareKind_head? _) monitoringUnavailable_head? (by decide)
  | safeguard c =>
      exact ne_of_head?_ne (safeguardKind_head? c) monitoringUnavailable_head? (by decide)

/-- A source with a reading has a condition: asserted by the reading, and clear
whenever it is not. -/
theorem HardwareSource.condition_of_sampled {s : HardwareSource} {t : Telemetry} {b : Bool}
    (h : s.sampled t = some b) (p : Policy) :
    ∃ c, (conditions t p)[s.kind]? = some c ∧ c.asserted = b ∧ c.clear = true := by
  cases s with
  | alarm i =>
      simp only [HardwareSource.sampled] at h
      split_ifs at h with hv
      obtain ⟨raw, hraw, rfl⟩ := Option.map_eq_some_iff.1 h
      refine ⟨alarmCondition tsAlerts[i] raw, conditions_getElem?_of_mem ?_, rfl, rfl⟩
      unfold conditionList alarmConditions
      rw [if_pos hv]
      refine List.mem_append_left _ (List.mem_append_left _ (List.mem_map.2 ⟨(tsAlerts[i], raw), ?_,
        rfl⟩))
      refine List.mem_iff_getElem?.2 ⟨i.val, List.getElem?_zip_eq_some.2 ⟨?_, hraw⟩⟩
      simp
  | safeguard c =>
      simp only [HardwareSource.sampled] at h
      obtain ⟨snapshot, hs, rfl⟩ := Option.map_eq_some_iff.1 h
      have hc : (safeguardConditions t)[c]? =
          some (safeguardKind c, safeguardCondition c snapshot) := by
        rw [safeguardConditions, List.getElem?_mapIdx, hs]
        rfl
      exact ⟨safeguardCondition c snapshot, conditions_getElem?_of_mem (List.mem_append_left _
        (List.mem_append_right _ (List.mem_iff_getElem?.2 ⟨c, hc⟩))), rfl, rfl⟩

/-- A source without a reading has no condition, so `observe` does not settle its kind
and leaves its slot alone. An alarm is not read when the alerts are not valid, and a
safeguard not when the sample has no entry for its connector; no other source has the
same kind. -/
theorem HardwareSource.conditions_eq_none {s : HardwareSource} {t : Telemetry}
    (h : s.sampled t = none) (p : Policy) : (conditions t p)[s.kind]? = none := by
  refine conditions_getElem?_eq_none fun kc hkc heq => ?_
  unfold conditionList at hkc
  rcases List.mem_append.1 hkc with hkc | hkc
  · rcases List.mem_append.1 hkc with hkc | hkc
    · unfold alarmConditions at hkc
      split_ifs at hkc with hv
      · obtain ⟨a, ha, rfl⟩ := List.mem_map.1 hkc
        cases s with
        | alarm i =>
            simp only [HardwareSource.sampled, hv, if_true, Option.map_eq_none_iff,
              List.getElem?_eq_none_iff, Telemetry.alarmsValid_length hv] at h
            exact absurd i.isLt (by omega)
        | safeguard c => exact hardwareKind_ne_safeguardKind _ _ heq
      · simp at hkc
    · obtain ⟨c, hc, rfl⟩ := List.mem_mapIdx.1 hkc
      cases s with
      | alarm i => exact hardwareKind_ne_safeguardKind _ _ heq.symm
      | safeguard c' =>
          obtain rfl := safeguardKind_inj heq
          simp only [HardwareSource.sampled, Option.map_eq_none_iff,
            List.getElem?_eq_none_iff] at h
          omega
  · obtain ⟨c, hc, rfl⟩ := List.mem_mapIdx.1 hkc
    cases s with
    | alarm i => exact hardwareKind_ne_imbalanceKind _ _ heq.symm
    | safeguard c' => exact safeguardKind_ne_imbalanceKind _ _ heq.symm

/-- **One call.**  With a reading the incident follows it: cleared by a zero
byte, kept or opened by another one.  Without a reading it stays what it was. -/
theorem HardwareSource.active_apply (s : HardwareSource) (e : AlertEngine) (op : EngineOp) :
    match s.reading op with
    | none => (op.apply e).2.active[s.kind]? = e.active[s.kind]?
    | some false => (op.apply e).2.active[s.kind]? = none
    | some true => ∃ i, (op.apply e).2.active[s.kind]? = some i ∧
        ∀ j, e.active[s.kind]? = some j → i = j := by
  have hne := s.kind_ne_unavailable
  cases op with
  | monitoringLost uuid last message at_ =>
      exact congrArg Slot.active (e.slot_monitoringLost uuid last message at_ hne)
  | observe uuid t p maxGapMs =>
      have hslot := congrArg Slot.active (e.slot_observe uuid t p maxGapMs s.kind)
      have henter : ((e.enter t maxGapMs).slot s.kind).active = e.active[s.kind]? := by
        rw [e.slot_enter t maxGapMs hne]
        split_ifs <;> rfl
      simp only [HardwareSource.reading]
      cases hr : s.sampled t with
      | none =>
          rw [s.conditions_eq_none hr p] at hslot
          exact hslot.trans henter
      | some b =>
          obtain ⟨c, hc, hasserted, hclear⟩ := HardwareSource.condition_of_sampled hr p
          rw [hc] at hslot
          simp only [settleSlot, s.kind_not_software, hasserted, hclear, henter, Bool.not_false,
            Bool.true_or, Bool.true_and, if_true] at hslot
          cases b with
          | false => exact hslot
          | true =>
              simp only [if_true] at hslot
              cases ha : e.active[s.kind]? with
              | none =>
                  rw [ha] at hslot
                  exact ⟨_, hslot, fun j hj => by cases hj⟩
              | some i =>
                  rw [ha] at hslot
                  exact ⟨i, hslot, fun j hj => Option.some.inj hj⟩

/-- The most recent reading of a source in a sequence of calls. -/
def HardwareSource.latest (s : HardwareSource) (ops : List EngineOp) : Option Bool :=
  (ops.filterMap s.reading).getLast?

/-- The latest reading is that of the last call, if that has one. -/
theorem HardwareSource.latest_concat (s : HardwareSource) (ops : List EngineOp) (op : EngineOp) :
    s.latest (ops ++ [op]) = (s.reading op).or (s.latest ops) := by
  unfold HardwareSource.latest
  rw [List.filterMap_append]
  cases h : s.reading op <;> simp [h]

/-- The latch over a sequence of calls: the incident is open if and only if the latest
reading of the source was true, and as it was in the beginning when there was none. By
induction from the end, since the latest reading is the last call's or the one before. -/
theorem HardwareSource.active_run (s : HardwareSource) (e : AlertEngine) (ops : List EngineOp) :
    (e.run ops).active[s.kind]?.isSome = (s.latest ops).getD e.active[s.kind]?.isSome := by
  induction ops using List.reverseRecOn with
  | nil => rfl
  | append_singleton ops op ih =>
      have hstep := s.active_apply (e.run ops) op
      rw [AlertEngine.run_concat, s.latest_concat]
      cases hr : s.reading op with
      | none =>
          rw [hr] at hstep
          rw [hstep, ih]
          rfl
      | some b =>
          rw [hr] at hstep
          cases b with
          | false => rw [hstep]; rfl
          | true =>
              obtain ⟨i, hi, -⟩ := hstep
              rw [hi]
              rfl

/-- An incident that stays open stays the same incident. A call with a reading that
keeps the kind open finds the old incident and does not make another one, and a call
without a reading leaves it alone. -/
theorem HardwareSource.active_run_eq (s : HardwareSource) (e : AlertEngine) {i : Incident}
    (hi : e.active[s.kind]? = some i) (ops : List EngineOp)
    (hopen : ∀ mid, mid <+: ops → (e.run mid).active.contains s.kind = true) :
    (e.run ops).active[s.kind]? = some i := by
  induction ops using List.reverseRecOn with
  | nil => exact hi
  | append_singleton ops op ih =>
      have hbefore := ih fun mid h => hopen mid (h.trans (List.prefix_append ops [op]))
      have hafter := hopen (ops ++ [op]) List.prefix_rfl
      rw [AlertEngine.run_concat, contains_eq_isSome] at hafter
      have hstep := s.active_apply (e.run ops) op
      rw [AlertEngine.run_concat]
      cases hr : s.reading op with
      | none => rw [hr] at hstep; exact hstep.trans hbefore
      | some b =>
          rw [hr] at hstep
          cases b with
          | false => rw [hstep] at hafter; cases hafter
          | true =>
              obtain ⟨j, hj, hsame⟩ := hstep
              rw [hj, hsame i hbefore]

/-- **Hardware incidents latch the last valid reading.**  From any engine, after
any sequence of calls: the incident of an alarm byte or of a connector's fault
snapshot is active iff the latest reading of it was non-zero, or, when there
was none, iff it was active at the start.  A call without a reading leaves the
incident untouched, and as long as it stays active it is the same incident. -/
theorem hardware_incidents_latch (s : HardwareSource) (e : AlertEngine) (ops : List EngineOp) :
    ((e.run ops).active.contains s.kind = true ↔
      s.latest ops = some true ∨ (s.latest ops = none ∧ e.active.contains s.kind = true)) ∧
    (∀ op, s.reading op = none →
      (e.run (ops ++ [op])).active[s.kind]? = (e.run ops).active[s.kind]?) ∧
    (∀ i later, (e.run ops).active[s.kind]? = some i →
      (∀ mid, mid <+: later → (e.run (ops ++ mid)).active.contains s.kind = true) →
      ∃ j, (e.run (ops ++ later)).active[s.kind]? = some j ∧ j.id = i.id) := by
  refine ⟨?_, ?_, ?_⟩
  · rw [contains_eq_isSome, contains_eq_isSome, s.active_run]
    cases s.latest ops <;> simp
  · intro op hop
    have hstep := s.active_apply (e.run ops) op
    rw [hop] at hstep
    rwa [AlertEngine.run_concat]
  · intro i later hi hopen
    rw [AlertEngine.run_append]
    refine ⟨i, s.active_run_eq _ hi later fun mid h => ?_, rfl⟩
    rw [← AlertEngine.run_append]
    exact hopen mid h

end Railwatch
