/-
# How often the notifier repeats itself

Three attempts at most, thirty seconds apart, and none of a warning that was
delivered: these limits are kept in the records, and records are removed after
thirty days, and beyond 4096 of them, whether or not the incident is still
active.  `Notifier.Remembers` says of a step that it meets no incident whose
record is gone; in runs of such steps a record is the summary of the calls made
for its incident (`Recorded`), and the limits hold (`repetition_is_bounded`).
`warning_is_repeated_after_a_month` is a run without restarts or failures in
which they do not.
-/

import Railwatch.Notify.Notifier

namespace Railwatch

open Std (TreeMap)

/-- The call is made for an incident. -/
def DeliverCall.madeFor (call : DeliverCall) (id : String) : Bool :=
  decide (id ∈ call.pending.map Pending.id)

/-- The attempts to deliver an incident. -/
def attempts (calls : List DeliverCall) (id : String) : List DeliverCall :=
  calls.filter (·.madeFor id)

/-- The call is not made for the incident as a critical one. -/
def DeliverCall.NotCritical (id : String) (call : DeliverCall) : Prop :=
  ∀ q ∈ call.pending, q.id = id → q.critical = false

/-- The limits of repetition, for the attempts to deliver an incident: there are three
of them at most, they are thirty seconds apart, and for a warning one that succeeds is
the last. -/
structure RepetitionBounded (id : String) (attempts : List DeliverCall) : Prop where
  /-- There are three attempts at most. -/
  three : attempts.length ≤ 3
  /-- Two of them are thirty seconds apart. -/
  spaced : attempts.Pairwise fun a b => a.atMs + 30000 ≤ b.atMs
  /-- An incident that is not critical is not shown again. -/
  once : (∀ call ∈ attempts, call.NotCritical id) → attempts.Pairwise fun a _ => a.succeeded = false

/-- A delivery is saved, and what is listed has a record if it was attempted
before. -/
def Notifier.Remembers (n : Notifier) : NotifyOp → Prop
  | .start _ => True
  | .cycle c => ∀ p ∈ n.process, (p.due c ≠ [] → c.save.toBool = true) ∧
      ∀ i ∈ c.listed, ∀ id ∈ i.id, i.acknowledged = false → attempts n.calls id ≠ [] →
        p.state.deliveries[id]?.isSome

instance (n : Notifier) : (op : NotifyOp) → Decidable (n.Remembers op)
  | .start _ | .cycle _ => by
      unfold Notifier.Remembers
      infer_instance

/-- The record, if there is one, is the summary of the attempts. -/
def Recorded (attempts : List DeliverCall) (d? : Option Delivery) : Prop :=
  ∀ d ∈ d?, d.attempts = attempts.length ∧
    ∀ call ∈ attempts.getLast?, d.lastAtMs = call.atMs ∧ d.delivered = call.succeeded

/-! ### One attempt -/

/-- A call that is made for an incident is one more attempt at it. -/
theorem attempts_concat_of_madeFor {calls : List DeliverCall} {call : DeliverCall} {id : String}
    (h : call.madeFor id = true) : attempts (calls ++ [call]) id = attempts calls id ++ [call] := by
  have hone : [call].filter (·.madeFor id) = [call] := by simp [h]
  rw [attempts, List.filter_append, hone]
  rfl

/-- Any other call is none. -/
theorem attempts_concat_of_not_madeFor {calls : List DeliverCall} {call : DeliverCall} {id : String}
    (h : call.madeFor id = false) : attempts (calls ++ [call]) id = attempts calls id := by
  have hnone : [call].filter (·.madeFor id) = [] := by simp [h]
  rw [attempts, List.filter_append, hnone]
  exact List.append_nil _

/-- An attempt that the record does not hold back keeps the limits: it is the third at
most, 30 seconds after the last one, and the first that succeeds unless the incident is
critical. The record remembers the number and the last attempt, which is enough. -/
theorem RepetitionBounded.concat {id : String} {calls : List DeliverCall} {call : DeliverCall}
    {d : Delivery} (h : RepetitionBounded id calls) (hrecorded : Recorded calls (some d))
    {q : Pending} (hq : q ∈ call.pending) (hid : q.id = id)
    (hback : d.holdsBack q.critical call.atMs = false) :
    RepetitionBounded id (calls ++ [call]) := by
  obtain ⟨hcount, hlast⟩ := hrecorded d rfl
  unfold Delivery.holdsBack at hback
  simp only [Bool.or_eq_false_iff, decide_eq_false_iff_not, not_le, not_lt] at hback
  obtain ⟨⟨hdelivered, hthree⟩, hspaced⟩ := hback
  -- earlier attempts are at or before the last one, which the record remembers
  have hbefore : ∀ a ∈ calls, a.atMs + 30000 ≤ call.atMs ∧
      ((∀ a ∈ calls, a.NotCritical id) → q.critical = false → a.succeeded = false) := by
    intro a ha
    obtain ⟨before, last, rfl⟩ := (List.eq_nil_or_concat calls).resolve_left
      (List.ne_nil_of_mem ha)
    rw [List.concat_eq_append] at *
    obtain ⟨htime, hsucceeded⟩ := hlast last (by simp)
    rcases List.mem_append.1 ha with ha' | ha'
    · have hle := (List.pairwise_append.1 h.spaced).2.2 a ha' last (List.mem_singleton_self last)
      refine ⟨by omega, fun hall _ => ?_⟩
      exact (List.pairwise_append.1 (h.once hall)).2.2 a ha' last (List.mem_singleton_self last)
    · obtain rfl := List.mem_singleton.1 ha'
      refine ⟨by omega, fun _ hcritical => ?_⟩
      rw [hcritical] at hdelivered
      rw [← hsucceeded]
      simpa using hdelivered
  constructor
  · rw [List.length_append, List.length_singleton]
    omega
  · refine List.pairwise_append.2 ⟨h.spaced, List.pairwise_singleton _ _, fun a ha b hb => ?_⟩
    rw [List.mem_singleton.1 hb]
    exact (hbefore a ha).1
  · intro hall
    have hall' : ∀ a ∈ calls, a.NotCritical id := fun a ha => hall a (List.mem_append_left _ ha)
    refine List.pairwise_append.2 ⟨h.once hall', List.pairwise_singleton _ _, fun a ha b hb => ?_⟩
    exact (hbefore a ha).2 hall'
      (hall call (List.mem_append_right _ (List.mem_singleton_self _)) q hq hid)

/-- What is noted is the summary of one attempt more. -/
theorem Recorded.concat {calls : List DeliverCall} {d : Delivery}
    (h : Recorded calls (some d)) (call : DeliverCall) :
    Recorded (calls ++ [call]) (some (d.attempted call.atMs call.result)) := by
  intro d' hd'
  obtain rfl := Option.some.inj hd'
  refine ⟨?_, fun last hlast => ?_⟩
  · rw [List.length_append, List.length_singleton, ← (h d rfl).1]
    rfl
  · rw [List.getLast?_concat] at hlast
    obtain rfl := Option.some.inj hlast
    exact ⟨rfl, rfl⟩

/-! ### Runs -/

/-- The limits hold, and the records of the file and of the process are
summaries. -/
structure Notifier.Bounded (n : Notifier) : Prop where
  /-- The limits hold for every incident. -/
  bounded : ∀ id, RepetitionBounded id (attempts n.calls id)
  /-- The record in the file is a summary of its attempts. -/
  file : ∀ id : String, Recorded (attempts n.calls id) n.file.deliveries[id]?
  /-- So is that of the process. -/
  process : ∀ p ∈ n.process, ∀ id : String, Recorded (attempts n.calls id) p.state.deliveries[id]?

/-- The record that the loop looks at is a summary: a new one if there were no
attempts. -/
theorem Notifier.Bounded.recorded_getD {n : Notifier} (h : n.Bounded) {p : NotifyProcess}
    (hp : n.process = some p) {c : Cycle} (hremembers : n.Remembers (.cycle c)) {id : String}
    (hfresh : p.state.deliveries[id]?.isSome ∨ ListsUnacknowledged c.listed id) :
    Recorded (attempts n.calls id) (some (p.state.deliveries[id]?.getD {})) := by
  cases hd : p.state.deliveries[id]? with
  | some d =>
      have hrecorded := h.process p hp id
      rwa [hd] at hrecorded
  | none =>
      have hnone : attempts n.calls id = [] := by
        by_contra hne
        obtain ⟨i, hi, hid, hack⟩ := hfresh.resolve_left (by simp [hd])
        have hsome := (hremembers p hp).2 i hi id hid hack hne
        rw [hd] at hsome
        cases hsome
      intro d hd'
      obtain rfl := Option.some.inj hd'
      rw [hnone]
      exact ⟨rfl, fun call hcall => by cases hcall⟩

/-- **A step that remembers keeps the limits.** An attempt raises the number in its
record, and the record holds back the fourth one. -/
theorem Notifier.Bounded.step {n : Notifier} (h : n.Bounded) {op : NotifyOp}
    (hdistinct : op.Distinct) (hremembers : n.Remembers op) : (n.step op).Bounded := by
  have hdoes := n.step_does hdistinct
  generalize n.step op = n' at hdoes
  cases hdoes with
  | start silent =>
      exact ⟨h.bounded, h.file, fun p hp => by rw [← Option.some.inj hp]; exact h.file⟩
  | idle hprocess => exact h
  | quiet hprocess hdue hfollows =>
      refine ⟨h.bounded, h.file, fun p'' hp'' id d hd => ?_⟩
      rw [← Option.some.inj hp''] at hd
      obtain rfl := hfollows.record id d hd
      exact h.recorded_getD hprocess hremembers (hfollows.fresh id _ hd) _ rfl
  | @delivers c p p' hprocess hdue hsave hfollows =>
      have hmade (id : String) : (p.call c).madeFor id = true ↔
          id ∈ (p.due c).map Pending.id := decide_eq_true_iff
      -- one more attempt of what is due, with the record it was judged by
      have hbounded : ∀ id, RepetitionBounded id (attempts (n.calls ++ [p.call c]) id) := by
        intro id
        by_cases hid : id ∈ (p.due c).map Pending.id
        · rw [attempts_concat_of_madeFor ((hmade id).2 hid)]
          obtain ⟨q, hq, rfl⟩ := List.mem_map.1 hid
          obtain ⟨⟨i, hi, hreports⟩, hback⟩ := p.due_spec c hq
          exact (h.bounded q.id).concat (h.recorded_getD hprocess hremembers
            (Or.inr ⟨i, hi, hreports.id, hreports.acknowledged⟩)) hq rfl hback
        · rw [attempts_concat_of_not_madeFor
            (Bool.eq_false_of_not_eq_true (mt (hmade id).1 hid))]
          exact h.bounded id
      have hrecorded : ∀ id : String,
          Recorded (attempts (n.calls ++ [p.call c]) id) p'.state.deliveries[id]? := by
        intro id d hd
        have hbefore := h.recorded_getD hprocess hremembers (hfollows.fresh id d hd)
        obtain rfl := hfollows.record id d hd
        unfold NotifyProcess.note
        split_ifs with hid
        · rw [attempts_concat_of_madeFor ((hmade id).2 hid)]
          exact hbefore.concat (p.call c) _ rfl
        · rw [attempts_concat_of_not_madeFor
            (Bool.eq_false_of_not_eq_true (mt (hmade id).1 hid))]
          exact hbefore _ rfl
      exact ⟨hbounded, hrecorded, fun p hp => by rw [← Option.some.inj hp]; exact hrecorded⟩
  | exits hprocess hdue hsave =>
      -- the attempt is not on record, and the step does not remember
      have hsaved := (hremembers _ hprocess).1 hdue
      rw [hsave] at hsaved
      cases hsaved

/-- **Notification repetition is bounded** in every run in which deliveries are
saved and no snapshot lists, unacknowledged, an incident that was attempted and
whose record has been removed since: for each id there are at most three
attempts, each at least thirty seconds after the one before, and no attempt of
an incident that was never critical follows one that succeeded. -/
theorem repetition_is_bounded (ops : List NotifyOp) (hdistinct : ∀ op ∈ ops, op.Distinct)
    (hremembers : Transition.Along Notifier.step Notifier.Remembers {} ops) (id : String) :
    RepetitionBounded id (attempts (Notifier.run {} ops).calls id) := by
  have h : (Notifier.run {} ops).Bounded := by
    induction ops using List.reverseRecOn with
    | nil =>
        refine ⟨fun id => ⟨Nat.zero_le _, .nil, fun _ => .nil⟩, fun id d hd => ?_, fun p hp => ?_⟩
        · cases hd
        · cases hp
    | append_singleton ops op ih =>
        obtain ⟨hbefore, hlast⟩ := (Transition.along_concat _).1 hremembers
        rw [Notifier.run, Transition.run_concat]
        exact (ih (fun op hop => hdistinct op (List.mem_append_left _ hop)) hbefore).step
          (hdistinct op (by simp)) hlast
  exact h.bounded id

/-- The clock readings of a run. -/
def readings (ops : List NotifyOp) : List ℤ :=
  ops.filterMap fun
    | .start _ => none
    | .cycle c => some c.now

/-- A critical incident that stays active for two minutes, with a restart. -/
theorem repetition_is_bounded_of_two_minutes :
    let critical (now : ℤ) : NotifyOp :=
      .cycle { now := now, snapshot := .ok [⟨some "ocp", false, some "critical", some "ocp"⟩] }
    let ops : List NotifyOp := [.start true, critical 60000, critical 62000, critical 90000,
      .start false, critical 92000, critical 120000, critical 150000, critical 180000]
    RepetitionBounded "ocp" (attempts (Notifier.run {} ops).calls "ocp") := by
  intro critical ops
  exact repetition_is_bounded ops (by decide +kernel) (by decide +kernel) "ocp"

/-- **A warning is repeated after a month.**  It was delivered and is still
active thirty days later, when the delivery of another one removes its record:
two seconds after that it is delivered again. -/
theorem warning_is_repeated_after_a_month :
    ¬∀ ops : List NotifyOp, (∀ op ∈ ops, op.Distinct) → (readings ops).Pairwise (· ≤ ·) →
      ∀ id, RepetitionBounded id (attempts (Notifier.run {} ops).calls id) := by
  intro h
  let ops : List NotifyOp := [.start true, warningCycle 60000 ["fan"],
    warningCycle 2592060000 ["fan", "rail"], warningCycle 2592062000 ["fan", "rail"]]
  have hbounded := h ops (by decide +kernel) (by decide +kernel) "fan"
  have hcritical : ∀ call ∈ attempts (Notifier.run {} ops).calls "fan", call.NotCritical "fan" := by
    unfold DeliverCall.NotCritical
    decide +kernel
  have honce := hbounded.once hcritical
  revert honce
  decide +kernel

end Railwatch
