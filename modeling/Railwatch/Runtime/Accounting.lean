/-
# No update disappears uncounted

Where the incident transitions and the evidence readings of the monitor go.

A cycle puts them into the pending buffers, `bound_pending` cuts the oldest off
and counts them, and a poll hands the rest to the queue in a batch or, if the
queue is full, gets the batch back.  `step_flow` says that no action of the
daemon does anything else to them, and `Handoff.Accounted.flow` carries this
through a run.

Events and readings are two flows of the same kind, so both are instances of `Handoff`,
with one step lemma for the two together.
-/

import Railwatch.Runtime.Daemon
import Railwatch.General.Handoff

namespace Railwatch

open Handoff

/-- The process goes on. -/
def DaemonOp.staysUp : DaemonOp → Bool
  | .restart .. => false
  | _ => true

/-! ### What an action emits, cuts off and takes -/

/-- The transitions the engine emits: those of a sample that is observed, or the outage
that a failed poll opens. An action with ids that have been used before does not happen. -/
@[simp] def Daemon.emits (d : Daemon) : DaemonOp → List Incident
  | .observe uuid =>
      match d.monitor.phase with
      | .synced t policy =>
          let events := (d.monitor.engine.observe uuid t policy maxGapMs).1
          if d.fresh events then events else []
      | _ => []
  | .pollFailed error uuid at_ _ =>
      let event := (d.lost error uuid at_).1
      if d.mayPoll ∧ d.fresh event.toList then event.toList else []
  | _ => []

/-- The evidence readings the monitor captures for these transitions and for the
windows that are open. -/
@[simp] def Daemon.captures (d : Daemon) (op : DaemonOp) : List (String × Telemetry) :=
  match op with
  | .observe uuid =>
      match d.monitor.phase with
      | .synced t policy =>
          let events := (d.monitor.engine.observe uuid t policy maxGapMs).1
          if d.fresh events then (d.monitor.capture t events).evidence else []
      | _ => []
  | .pollFailed .. =>
      (d.emits op).flatMap fun event => d.monitor.ring.map fun t => (event.id, t)
  | _ => []

/-- What `bound_pending` removes from a buffer. -/
def overflow {α : Type} (limit : ℕ) (pending : List α) : List α :=
  pending.take (pending.length - limit)

/-- The transitions that `bound_pending` removes. -/
@[simp] def Daemon.cutEvents (d : Daemon) : DaemonOp → List Incident
  | .bound =>
      match d.monitor.phase with
      | .observed _ => overflow maxPendingEvents d.monitor.pendingEvents
      | _ => []
  | _ => []

/-- The evidence readings that `bound_pending` removes. -/
@[simp] def Daemon.cutEvidence (d : Daemon) : DaemonOp → List (String × Telemetry)
  | .bound =>
      match d.monitor.phase with
      | .observed _ => overflow maxPendingEvidence d.monitor.pendingEvidence
      | _ => []
  | _ => []

/-- The batch the storage thread takes. -/
@[simp] def Daemon.takes (d : Daemon) : DaemonOp → List Persist
  | .take =>
      match d.storing, d.queue with
      | none, item :: _ => [item]
      | _, _ => []
  | _ => []

/-! ### One action -/

/-- An action passes transitions and evidence on: what it takes comes out of the
queue, the batches it sends hold what was pending, and what it cuts off is
counted. -/
structure Flow (d d' : Daemon) (op : DaemonOp) (sent : List Persist) : Prop where
  /-- The queue is first in, first out. -/
  queue : d.takes op ++ d'.queue = d.queue ++ sent
  /-- What was pending, and what the action adds, is cut off, sent or pending. -/
  events : d.cutEvents op ++ (sent.flatMap Persist.events ++ d'.monitor.pendingEvents) =
    d.monitor.pendingEvents ++ d.emits op
  /-- The same of the evidence. -/
  evidence : d.cutEvidence op ++ (sent.flatMap Persist.evidence ++ d'.monitor.pendingEvidence) =
    d.monitor.pendingEvidence ++ d.captures op
  /-- Every transition that is cut off is counted. -/
  droppedEvents : d'.shared.droppedIncidentUpdates =
    d.shared.droppedIncidentUpdates + (d.cutEvents op).length
  /-- And every reading. -/
  droppedEvidence : d'.shared.droppedEvidenceSamples =
    d.shared.droppedEvidenceSamples + (d.cutEvidence op).length

/-- What an action leaves alone, if it emits, cuts off and takes nothing. -/
def Daemon.SameBuffers (d d' : Daemon) : Prop :=
  d'.queue = d.queue ∧ d'.monitor.pendingEvents = d.monitor.pendingEvents ∧
    d'.monitor.pendingEvidence = d.monitor.pendingEvidence ∧
    d'.shared.droppedIncidentUpdates = d.shared.droppedIncidentUpdates ∧
    d'.shared.droppedEvidenceSamples = d.shared.droppedEvidenceSamples

/-- An action that leaves the buffers alone passes nothing on. -/
theorem Flow.quiet {d d' : Daemon} {op : DaemonOp} (hsame : d.SameBuffers d')
    (htakes : d.takes op = []) (hcutEvents : d.cutEvents op = [])
    (hcutEvidence : d.cutEvidence op = []) (hemits : d.emits op = [])
    (hcaptures : d.captures op = []) : Flow d d' op [] := by
  obtain ⟨h₁, h₂, h₃, h₄, h₅⟩ := hsame
  constructor
  · rw [htakes, h₁, List.nil_append, List.append_nil]
  · rw [hcutEvents, hemits, h₂, List.append_nil]
    rfl
  · rw [hcutEvidence, hcaptures, h₃, List.append_nil]
    rfl
  · rw [hcutEvents, h₄, List.length_nil, add_zero]
  · rw [hcutEvidence, h₅, List.length_nil, add_zero]

/-- A daemon has its own buffers. -/
theorem Daemon.SameBuffers.refl (d : Daemon) : d.SameBuffers d := ⟨rfl, rfl, rfl, rfl, rfl⟩

/-- Transitions and evidence of a sample become pending. -/
theorem Daemon.flow_observe (d : Daemon) (uuid : String → String) :
    Flow d (d.step (.observe uuid)) (.observe uuid) [] := by
  cases hphase : d.monitor.phase with
  | synced t policy =>
      by_cases hfresh : d.fresh (d.monitor.engine.observe uuid t policy maxGapMs).1
      · constructor <;> simp [Daemon.step, Daemon.observe, hphase, hfresh]
      · refine Flow.quiet ?_ rfl rfl rfl ?_ ?_ <;>
          simp [Daemon.step, Daemon.SameBuffers, hphase, hfresh]
  | _ =>
      refine Flow.quiet ?_ rfl rfl rfl ?_ ?_ <;>
        simp [Daemon.step, Daemon.SameBuffers, hphase]

/-- The limits cut off the oldest ones, and count them. -/
theorem Daemon.flow_bound (d : Daemon) : Flow d (d.step .bound) .bound [] := by
  cases hphase : d.monitor.phase with
  | observed t =>
      constructor <;> simp [Daemon.step, Daemon.boundPending, overflow, hphase]
  | _ =>
      refine Flow.quiet ?_ rfl ?_ ?_ rfl rfl <;>
        simp [Daemon.step, Daemon.SameBuffers, hphase]

/-- A batch takes what is pending along, unless the queue refuses it. Then the sample is
dropped and counted, and what was pending goes on waiting for the next batch. -/
theorem Daemon.flow_publish (d : Daemon) (full : Bool) :
    ∃ sent, Flow d (d.step (.publish full)) (.publish full) sent := by
  cases hphase : d.monitor.phase with
  | bounded t =>
      cases hsend : trySend full d.queue
          ⟨t, d.monitor.pendingEvents, d.monitor.pendingEvidence⟩ with
      | ok queue =>
          refine ⟨[⟨t, d.monitor.pendingEvents, d.monitor.pendingEvidence⟩], ?_⟩
          constructor <;> simp [Daemon.step, Daemon.publish, hphase, hsend, trySend_ok hsend]
      | error item =>
          refine ⟨[], Flow.quiet ?_ rfl rfl rfl rfl rfl⟩
          simp [Daemon.step, Daemon.publish, Daemon.SameBuffers, hphase, hsend,
            trySend_error hsend]
  | _ =>
      refine ⟨[], Flow.quiet ?_ rfl rfl rfl rfl rfl⟩
      simp [Daemon.step, Daemon.SameBuffers, hphase]

/-- So does the batch of an outage, with its own transition in it. Before the first
sample there is no such batch, as it would have no sample to go with. -/
theorem Daemon.flow_pollFailed (d : Daemon) (error uuid : String) (at_ : ℤ) (full : Bool) :
    ∃ sent, Flow d (d.step (.pollFailed error uuid at_ full)) (.pollFailed error uuid at_ full)
      sent := by
  by_cases hpoll : d.mayPoll ∧ d.fresh (d.lost error uuid at_).1.toList
  · cases hlast : d.shared.telemetry with
    | none =>
        have hlost : (d.lost error uuid at_).1 = none := by simp [Daemon.lost, hlast]
        refine ⟨[], Flow.quiet ?_ rfl rfl rfl ?_ ?_⟩ <;>
          simp [Daemon.step, Daemon.pollFailed, Daemon.SameBuffers, hpoll, hlast, hlost]
    | some last =>
        cases hsend : trySend full d.queue
            ⟨last, d.monitor.pendingEvents ++ (d.lost error uuid at_).1.toList,
              d.monitor.pendingEvidence ++ (d.lost error uuid at_).1.toList.flatMap fun event =>
                d.monitor.ring.map fun t => (event.id, t)⟩ with
        | ok queue =>
            refine ⟨[⟨last, d.monitor.pendingEvents ++ (d.lost error uuid at_).1.toList,
              d.monitor.pendingEvidence ++ (d.lost error uuid at_).1.toList.flatMap fun event =>
                d.monitor.ring.map fun t => (event.id, t)⟩], ?_⟩
            constructor <;> simp [Daemon.step, Daemon.pollFailed, hpoll, hlast, hsend,
              trySend_ok hsend]
        | error item =>
            refine ⟨[], ?_⟩
            constructor <;> simp [Daemon.step, Daemon.pollFailed, hpoll, hlast, hsend,
              trySend_error hsend]
  · refine ⟨[], Flow.quiet ?_ rfl rfl rfl ?_ ?_⟩ <;>
      simp [Daemon.step, Daemon.SameBuffers, hpoll]

/-- The storage thread takes the oldest batch. -/
theorem Daemon.flow_take (d : Daemon) : Flow d (d.step .take) .take [] := by
  cases hstoring : d.storing with
  | some batch =>
      refine Flow.quiet ?_ ?_ rfl rfl rfl rfl <;>
        simp [Daemon.step, Daemon.SameBuffers, hstoring]
  | none =>
      cases hqueue : d.queue with
      | nil =>
          refine Flow.quiet ?_ ?_ rfl rfl rfl rfl <;>
            simp [Daemon.step, Daemon.SameBuffers, hstoring, hqueue]
      | cons item queue =>
          constructor <;> simp [Daemon.step, hstoring, hqueue]

/-- **No action invents or loses an update.** What waits, is in the queue or is in hand
moves from one of these places to the next, or is counted as dropped. -/
theorem Daemon.step_flow (d : Daemon) {op : DaemonOp} (hop : op.staysUp) :
    ∃ sent, Flow d (d.step op) op sent := by
  cases op with
  | restart => cases hop
  | observe uuid => exact ⟨[], d.flow_observe uuid⟩
  | bound => exact ⟨[], d.flow_bound⟩
  | publish full => exact d.flow_publish full
  | pollFailed error uuid at_ full => exact d.flow_pollFailed error uuid at_ full
  | take => exact ⟨[], d.flow_take⟩
  | openDevice info session readable =>
      refine ⟨[], Flow.quiet ?_ rfl rfl rfl rfl rfl⟩
      simp only [Daemon.step]
      split_ifs
      · by_cases hsame : d.monitor.currentId = info.id
        · rw [Daemon.openDevice_same hsame]
          exact .refl d
        · rw [Daemon.openDevice_other hsame]
          exact .refl d
      · exact .refl d
  | _ =>
      refine ⟨[], Flow.quiet ?_ rfl rfl rfl rfl rfl⟩
      rcases d.step_does _ with hstep | hdoes
      · rw [hstep]
        exact .refl d
      · generalize d.step _ = d' at hdoes
        cases hdoes <;> exact .refl d

/-! ### Runs -/

/-- The transitions emitted in a run. -/
def Daemon.emitted (d : Daemon) (ops : List DaemonOp) : List Incident :=
  Transition.outputs Daemon.step Daemon.emits d ops

/-- The evidence readings captured in a run. -/
def Daemon.captured (d : Daemon) (ops : List DaemonOp) : List (String × Telemetry) :=
  Transition.outputs Daemon.step Daemon.captures d ops

/-- The batches the storage thread takes in a run. -/
def Daemon.taken (d : Daemon) (ops : List DaemonOp) : List Persist :=
  Transition.outputs Daemon.step Daemon.takes d ops

/-- The transitions `bound_pending` removes in a run. -/
def Daemon.removedEvents (d : Daemon) (ops : List DaemonOp) : List Incident :=
  Transition.outputs Daemon.step Daemon.cutEvents d ops

/-- The evidence readings `bound_pending` removes in a run. -/
def Daemon.removedEvidence (d : Daemon) (ops : List DaemonOp) : List (String × Telemetry) :=
  Transition.outputs Daemon.step Daemon.cutEvidence d ops

section Kind

variable {α : Type} (entries : Persist → List α) (pending : Daemon → List α)
  (emits cuts : Daemon → DaemonOp → List α) (dropped : Daemon → ℕ)

/-- **Entries of one kind through a run**: if every action passes them on and
counts what it cuts off, so does a run of a new process. -/
theorem Daemon.accounted_of_flow
    (hflow : ∀ d op sent, Flow d (d.step op) op sent →
      cuts d op ++ (sent.flatMap entries ++ pending (d.step op)) = pending d ++ emits d op ∧
        dropped (d.step op) = dropped d + (cuts d op).length)
    {d : Daemon} (hqueue : d.queue = []) (hpending : pending d = []) (hdropped : dropped d = 0)
    (ops : List DaemonOp) (hops : ∀ op ∈ ops, op.staysUp) :
    Accounted (Transition.outputs Daemon.step emits d ops) ((d.taken ops).flatMap entries)
        ((d.run ops).queue.flatMap entries) (pending (d.run ops))
        (Transition.outputs Daemon.step cuts d ops) ∧
      (Transition.outputs Daemon.step cuts d ops).length = dropped (d.run ops) := by
  induction ops using List.reverseRecOn with
  | nil =>
      have hstart : Accounted ([] : List α) [] (d.queue.flatMap entries) (pending d) [] := by
        rw [hqueue, hpending]
        exact .start
      exact ⟨hstart, hdropped.symm⟩
  | append_singleton ops op ih =>
      obtain ⟨haccounted, hlost⟩ := ih fun op' h => hops op' (List.mem_append_left _ h)
      obtain ⟨sent, hsent⟩ := (d.run ops).step_flow (hops op (by simp))
      obtain ⟨hbuffer, hcount⟩ := hflow _ _ _ hsent
      have htaken : ((d.run ops).takes op).flatMap entries ++
          ((d.run ops).step op).queue.flatMap entries =
            (d.run ops).queue.flatMap entries ++ sent.flatMap entries := by
        rw [← List.flatMap_append, hsent.queue, List.flatMap_append]
      simp only [Daemon.run_concat, Daemon.taken, Transition.outputs_concat, List.flatMap_append,
        List.length_append]
      exact ⟨haccounted.flow htaken hbuffer, (congrArg (· + _) hlost).trans hcount.symm⟩

end Kind

/-- The transitions of a run are accounted for. -/
theorem Daemon.accounted_events {db : Database} {issued : List Incident} {simulate : Bool}
    {session : String} {at_ : ℤ} {d : Daemon}
    (hstart : Daemon.start db issued simulate session at_ = .ok d) (ops : List DaemonOp)
    (hops : ∀ op ∈ ops, op.staysUp) :
    Accounted (d.emitted ops) ((d.taken ops).flatMap Persist.events)
        ((d.run ops).queue.flatMap Persist.events) (d.run ops).monitor.pendingEvents
        (d.removedEvents ops) ∧
      (d.removedEvents ops).length = (d.run ops).shared.droppedIncidentUpdates := by
  rw [Daemon.start_eq] at hstart
  obtain rfl := Except.ok.inj hstart
  exact Daemon.accounted_of_flow Persist.events (·.monitor.pendingEvents) Daemon.emits
    Daemon.cutEvents (·.shared.droppedIncidentUpdates)
    (fun _ _ _ h => ⟨h.events, h.droppedEvents⟩) rfl rfl rfl ops hops

/-- **No update disappears uncounted.**  In any run of a started daemon, at any
point and so at every cycle boundary: the transitions emitted so far are, in
this order, those of the batches the storage thread has taken, those of the
batches in the queue, and the pending ones, with the transitions that
`bound_pending` removed in between, and the number of the latter is
`dropped_incident_updates`.  The same holds of the evidence readings. -/
theorem updates_are_accounted_for {db : Database} {issued : List Incident} {simulate : Bool}
    {session : String} {at_ : ℤ} {d : Daemon}
    (hstart : Daemon.start db issued simulate session at_ = .ok d) (ops : List DaemonOp)
    (hops : ∀ op ∈ ops, op.staysUp) :
    let d' := d.run ops
    (Accounted (d.emitted ops) ((d.taken ops).flatMap Persist.events)
        (d'.queue.flatMap Persist.events) d'.monitor.pendingEvents (d.removedEvents ops) ∧
      (d.removedEvents ops).length = d'.shared.droppedIncidentUpdates) ∧
    (Accounted (d.captured ops) ((d.taken ops).flatMap Persist.evidence)
        (d'.queue.flatMap Persist.evidence) d'.monitor.pendingEvidence (d.removedEvidence ops) ∧
      (d.removedEvidence ops).length = d'.shared.droppedEvidenceSamples) := by
  intro d'
  refine ⟨Daemon.accounted_events hstart ops hops, ?_⟩
  rw [Daemon.start_eq] at hstart
  obtain rfl := Except.ok.inj hstart
  exact Daemon.accounted_of_flow Persist.evidence (·.monitor.pendingEvidence) Daemon.captures
    Daemon.cutEvidence (·.shared.droppedEvidenceSamples)
    (fun _ _ _ h => ⟨h.evidence, h.droppedEvidence⟩) rfl rfl rfl ops hops

/-- A batch with two transitions is taken; the three that follow are handed back
twice. -/
theorem updates_are_accounted_for_when_full :
    let ops : List DaemonOp := [.openSimulator,
      .sync { simulatedSample 0 true with capturedAtMs := 0, monotonicMs := 0 },
      .observe ("a" ++ ·), .bound, .publish false, .take,
      .sync { simulatedSample 1 false with capturedAtMs := 1000, monotonicMs := 1000 },
      .observe ("b" ++ ·), .bound, .publish true, .pollFailed "simulated disconnect" "c" 2000 true]
    ∃ d, Daemon.start {} [] true "s" 0 = .ok d ∧
      (d.emitted ops).length = 5 ∧ (d.run ops).monitor.pendingEvents.length = 3 ∧
      Accounted (d.emitted ops) ((d.taken ops).flatMap Persist.events)
        ((d.run ops).queue.flatMap Persist.events) (d.run ops).monitor.pendingEvents
        (d.removedEvents ops) := by
  intro ops
  exact ⟨_, Daemon.start_eq .., by decide +kernel, by decide +kernel,
    (updates_are_accounted_for (Daemon.start_eq ..) ops (by decide)).1.1⟩

end Railwatch
