/-
# A clean stop

`STOP` ends the monitor at the head of its loop, which closes the queue, and the
storage thread after it, once the queue is empty.  `Process` adds the flag and
the ends of the two threads to the daemon.

What the storage thread takes it writes (`Process.Traced.step`), but a batch that
the queue has handed back waits in the monitor's variables for the next cycle.
`stop_loses_nothing_iff`: with every write succeeding, all transitions are written
in order or counted exactly if the monitor retains none when it leaves its loop.
`stop_loses_a_recovery` is a run in which it does.
-/

import Railwatch.Runtime.Accounting

namespace Railwatch

/-- Where the monitor stands in its loop: at the check of `STOP`, in the body, or
past the loop. -/
inductive MonitorAt where
  | head
  | body
  | done
  deriving DecidableEq

/-- The process with its `STOP` flag, and whether the storage thread has
returned. -/
structure Process where
  /-- The daemon. -/
  daemon : Daemon
  /-- `STOP`. -/
  stop : Bool
  /-- Where the monitor thread is. -/
  monitor : MonitorAt
  /-- Whether the storage thread has returned. -/
  storageDone : Bool

/-- A process that has just started its threads. -/
def Process.boot (d : Daemon) : Process := ⟨d, false, .head, false⟩

/-- Who acts in the daemon. The flag stops the monitor, and the storage thread through
it. -/
inductive Thread where
  | system
  | monitor
  | storage
  | client

/-- The thread of an action. -/
def DaemonOp.thread : DaemonOp → Thread
  | .restart .. => .system
  | .take | .write _ | .writeFailed _ | .written => .storage
  | .ackCommit .. | .ackPublish .. | .setPolicy .. => .client
  | _ => .monitor

/-- What may happen in the process: an action of the daemon, the flag, the look at it,
or the end of the queue. -/
inductive ProcessOp where
  | act (op : DaemonOp)
  | stop
  | check
  | hangUp

/-- The actions of the daemon that an action of the process is.  The monitor acts
in the body of its loop only, the storage thread until it has returned, and
nothing restarts the process. -/
def Process.acts (p : Process) : ProcessOp → List DaemonOp
  | .act op =>
      match op.thread with
      | .system => []
      | .monitor => if p.monitor = .body then [op] else []
      | .storage => if p.storageDone then [] else [op]
      | .client => [op]
  | _ => []

/-- The action ends a cycle of the monitor. -/
def Daemon.endsCycle (d : Daemon) : DaemonOp → Bool
  | .openFailed _ => d.mayOpen
  | .publish _ => (d.monitor.phase matches .bounded _)
  | .pollFailed error uuid at_ _ => d.mayPoll ∧ d.fresh (d.lost error uuid at_).1.toList
  | _ => false

/-- A write of the storage thread fails. -/
def Daemon.writeFails (d : Daemon) : DaemonOp → Bool
  | .write scan =>
      match d.storing with
      | some (item, next) => (item.writes scan)[next]?.any fun w => (w d.history).toOption.isNone
      | none => false
  | .writeFailed _ => d.storing.any fun (item, next) => next < (item.writes id).length
  | _ => false

/-- What an action does once the storage thread has returned: `try_send` loses
the batch. -/
def Daemon.stepClosed (d : Daemon) : DaemonOp → Daemon
  | .publish full =>
      match d.monitor.phase with
      | .bounded _ =>
          let d' := d.step (.publish true)
          { d' with monitor := { d'.monitor with pendingEvents := [], pendingEvidence := [] } }
      | _ => d.step (.publish full)
  | .pollFailed error uuid at_ full =>
      if d.shared.telemetry.isSome ∧ d.endsCycle (.pollFailed error uuid at_ full) then
        let d' := d.step (.pollFailed error uuid at_ true)
        { d' with
          shared := { d'.shared with storageError := d.shared.storageError }
          monitor := { d'.monitor with pendingEvents := [], pendingEvidence := [] } }
      else d.step (.pollFailed error uuid at_ full)
  | op => d.step op

/-- The process after an action. The flag may be set at any moment; the monitor looks at
it at the head of its loop only. The storage thread ends when the monitor is done and
nothing is left for it, or when a write fails with the flag set. -/
def Process.step (p : Process) (op : ProcessOp) : Process :=
  match op with
  | .act _ =>
      match p.acts op with
      | [op] =>
          { p with
            daemon := if p.storageDone then p.daemon.stepClosed op else p.daemon.step op
            monitor := if p.daemon.endsCycle op then .head else p.monitor
            storageDone := p.storageDone || (p.stop && p.daemon.writeFails op) }
      | _ => p
  | .stop => { p with stop := true }
  | .check =>
      if p.monitor = .head then { p with monitor := if p.stop then .done else .body } else p
  | .hangUp =>
      if p.monitor = .done ∧ p.daemon.storing = none ∧ p.daemon.queue = [] then
        { p with storageDone := true }
      else p

/-- The process after a sequence of actions. -/
def Process.run (p : Process) (ops : List ProcessOp) : Process :=
  Transition.run Process.step p ops

/-- A run and one more action. -/
theorem Process.run_concat (p : Process) (ops : List ProcessOp) (op : ProcessOp) :
    p.run (ops ++ [op]) = (p.run ops).step op := Transition.run_concat ..

/-! ### What is emitted and written -/

/-- The transition that a write of the storage thread upserts. -/
def Daemon.upserts (d : Daemon) : DaemonOp → List Incident
  | .write _ =>
      match d.storing with
      | some (item, next + 1) => item.events[next]?.toList
      | _ => []
  | _ => []

/-- The transitions the engine emits. -/
def Process.emits (p : Process) (op : ProcessOp) : List Incident :=
  (p.acts op).flatMap p.daemon.emits

/-- The transitions the storage thread writes. -/
def Process.upserts (p : Process) (op : ProcessOp) : List Incident :=
  (p.acts op).flatMap p.daemon.upserts

/-- The transitions emitted in a run. -/
def Process.emitted (p : Process) (ops : List ProcessOp) : List Incident :=
  Transition.outputs Process.step Process.emits p ops

/-- The transitions written in a run. -/
def Process.written (p : Process) (ops : List ProcessOp) : List Incident :=
  Transition.outputs Process.step Process.upserts p ops

/-- Every transition emitted in a run has been written, in this order, or is
counted as dropped. -/
def Process.Settled (p : Process) (ops : List ProcessOp) : Prop :=
  (p.written ops).Sublist (p.emitted ops) ∧
    (p.emitted ops).length =
      (p.written ops).length + (p.run ops).daemon.shared.droppedIncidentUpdates

/-- The writes of the storage thread succeed. -/
def Process.WritesSucceed (p : Process) (op : ProcessOp) : Prop :=
  ∀ op' ∈ p.acts op, p.daemon.writeFails op' = false

/-- The monitor retains no transition when it leaves its loop. -/
def Process.LeavesNothing (p : Process) : ProcessOp → Prop
  | .check => p.monitor = .head → p.stop = true → p.daemon.monitor.pendingEvents = []
  | _ => True

instance (p : Process) (ops : List ProcessOp) : Decidable (p.Settled ops) := by
  unfold Process.Settled
  infer_instance

instance (p : Process) (op : ProcessOp) : Decidable (p.WritesSucceed op) := by
  unfold Process.WritesSucceed
  infer_instance

instance (p : Process) (op : ProcessOp) : Decidable (p.LeavesNothing op) := by
  unfold Process.LeavesNothing
  split <;> infer_instance

/-! ### What the storage thread has still to write -/

/-- The transitions of the batch in work that are not written yet. -/
def Daemon.unwritten (d : Daemon) : List Incident :=
  match d.storing with
  | some (item, next) => item.events.drop (next - 1)
  | none => []

/-- The monitor and the clients leave the batch in work alone. -/
theorem Daemon.step_storing (d : Daemon) {op : DaemonOp} (hup : op.staysUp)
    (hop : op.thread ≠ .storage) : (d.step op).storing = d.storing := by
  rcases d.step_does op with hstep | hdoes
  · rw [hstep]
  generalize d.step op = d' at hdoes
  cases hdoes with
  | restart => cases hup
  | publish => exact (d.publish_frame ..).2.2.2.1
  | pollFailed => exact (d.pollFailed_frame ..).2.2.2.1
  | startOver hstart =>
      rcases hstart with ⟨scan, rfl⟩ | rfl <;> exact absurd rfl hop
  | take | write | written => exact absurd rfl hop
  | bound => exact (d.boundPending_frame _).2.2.2.1
  | _ => rfl

/-- A batch has a write for each transition, after that of its sample. -/
theorem Persist.length_writes_ge
    (scan : List (String × String × ℤ) → List (String × String × ℤ)) (item : Persist) :
    item.events.length + 1 ≤ (item.writes scan).length := by
  simp [Persist.writes]

/-- **The storage thread writes what it takes.** The events of a batch in hand are those
that it has written and those that it still has to write. -/
theorem Daemon.step_unwritten {d : Daemon} {op : DaemonOp} (hop : op.staysUp)
    (hfails : d.writeFails op = false) :
    d.unwritten ++ (d.takes op).flatMap Persist.events =
      d.upserts op ++ (d.step op).unwritten := by
  have hquiet (hstoring : (d.step op).storing = d.storing) (htakes : d.takes op = [])
      (hupserts : d.upserts op = []) :
      d.unwritten ++ (d.takes op).flatMap Persist.events =
        d.upserts op ++ (d.step op).unwritten := by
    rw [htakes, hupserts, Daemon.unwritten, Daemon.unwritten, hstoring, List.nil_append,
      List.flatMap_nil, List.append_nil]
  cases op with
  | take =>
      cases hstoring : d.storing with
      | some batch => simp [Daemon.step, Daemon.upserts, hstoring]
      | none =>
          cases hqueue : d.queue with
          | nil => simp [Daemon.step, Daemon.upserts, hstoring, hqueue]
          | cons item queue =>
              simp [Daemon.step, Daemon.upserts, Daemon.unwritten, hstoring, hqueue]
  | write scan =>
      cases hstoring : d.storing with
      | none =>
          exact hquiet (by simp [Daemon.step, hstoring]) rfl (by simp [Daemon.upserts, hstoring])
      | some batch =>
          obtain ⟨item, next⟩ := batch
          have hwrites := item.length_writes_ge scan
          cases hw : (item.writes scan)[next]? with
          | none =>
              have hlen := List.getElem?_eq_none_iff.1 hw
              refine hquiet (by simp [Daemon.step, Daemon.write, hstoring, hw]) rfl ?_
              obtain ⟨next, rfl⟩ : ∃ n, next = n + 1 := ⟨next - 1, by omega⟩
              simp [Daemon.upserts, hstoring]
              omega
          | some w =>
              cases hok : w d.history with
              | error e => simp [Daemon.writeFails, hstoring, hw, hok, Except.toOption] at hfails
              | ok history =>
                  have hstep : (d.step (.write scan)).storing = some (item, next + 1) := by
                    simp [Daemon.step, Daemon.write, hstoring, hw, hok]
                  rw [Daemon.unwritten, Daemon.unwritten, hstoring, hstep]
                  cases next with
                  | zero => simp [Daemon.upserts, hstoring]
                  | succ next =>
                      simp only [Daemon.upserts, hstoring, Daemon.takes, List.flatMap_nil,
                        List.append_nil, Nat.add_sub_cancel]
                      exact List.drop_eq_getElem?_toList_append
  | writeFailed error =>
      refine hquiet ?_ rfl rfl
      cases hstoring : d.storing with
      | none => simp [Daemon.step, hstoring]
      | some batch =>
          obtain ⟨item, next⟩ := batch
          have hdone : ¬ next < (item.writes id).length := by
            simpa [Daemon.writeFails, hstoring] using hfails
          simp [Daemon.step, hstoring, hdone]
  | written =>
      cases hstoring : d.storing with
      | none => exact hquiet (by simp [Daemon.step, hstoring]) rfl rfl
      | some batch =>
          obtain ⟨item, next⟩ := batch
          by_cases hlt : next < (item.writes id).length
          · exact hquiet (by simp [Daemon.step, hstoring, hlt]) rfl rfl
          · have hwrites := item.length_writes_ge id
            simp [Daemon.step, Daemon.unwritten, Daemon.upserts, hstoring, hlt]
            omega
  | _ => exact hquiet (d.step_storing hop Thread.noConfusion) rfl rfl

/-! ### The process follows the daemon -/

/-- The actions of the daemon in a run. -/
def Process.acted (p : Process) (ops : List ProcessOp) : List DaemonOp :=
  Transition.outputs Process.step Process.acts p ops

/-- An action is one of the daemon, or none. -/
theorem Process.acts_cases (p : Process) (op : ProcessOp) :
    p.acts op = [] ∨ ∃ op', op = .act op' ∧ p.acts op = [op'] ∧ op'.staysUp ∧
      (op'.thread = .monitor → p.monitor = .body) ∧
      (op'.thread = .storage → p.storageDone = false) := by
  cases op with
  | act op =>
      simp only [Process.acts]
      cases op <;> simp [DaemonOp.thread, DaemonOp.staysUp]
      all_goals tauto
  | _ => exact Or.inl rfl

/-- How a process stands to the run of its daemon, while its writes succeed: the
storage thread has written what it took but for the rest of its batch, and it
returns after the monitor, when nothing is left. -/
structure Process.Traced (p : Process) (d : Daemon) (acted : List DaemonOp)
    (emitted written : List Incident) : Prop where
  /-- The process is the daemon after these actions. -/
  daemon : p.daemon = d.run acted
  /-- None of them starts it again. -/
  staysUp : ∀ op ∈ acted, op.staysUp
  /-- They have emitted these transitions. -/
  emitted : emitted = d.emitted acted
  /-- And written these, but for the rest of the batch in hand. -/
  written : (d.taken acted).flatMap Persist.events = written ++ p.daemon.unwritten
  /-- The storage thread returns when nothing can come any more. -/
  closed : p.storageDone = true →
    p.monitor = .done ∧ p.daemon.storing = none ∧ p.daemon.queue = []

/-- The other threads leave the monitor's variables alone, and it does not notice
that the queue is closed. -/
theorem Daemon.step_monitor (d : Daemon) {op : DaemonOp} (hup : op.staysUp)
    (hop : op.thread ≠ .monitor) :
    d.stepClosed op = d.step op ∧ (d.step op).monitor = d.monitor ∧ d.endsCycle op = false := by
  have hmonitor : (d.step op).monitor = d.monitor := by
    rcases d.step_does op with hstep | hdoes
    · rw [hstep]
    generalize d.step op = d' at hdoes
    cases hdoes with
    | restart => cases hup
    | take | write | written | startOver | ackCommit | ackPublish | setPolicy => rfl
    | _ => exact absurd rfl hop
  cases op with
  | take | write | writeFailed | written | ackCommit | ackPublish | setPolicy =>
      exact ⟨rfl, hmonitor, rfl⟩
  | restart => cases hup
  | _ => exact absurd rfl hop

/-- A request leaves the queue alone. -/
theorem Daemon.step_queue (d : Daemon) {op : DaemonOp} (hop : op.thread = .client) :
    (d.step op).queue = d.queue := by
  rcases d.step_does op with hstep | hdoes
  · rw [hstep]
  generalize d.step op = d' at hdoes
  cases hdoes with
  | ackCommit | ackPublish | setPolicy => rfl
  | startOver hstart => rcases hstart with ⟨scan, rfl⟩ | rfl <;> cases hop
  | _ => cases hop

/-- **An action of the process is one of its daemon**, while writes succeed. The flag
alone changes nothing of the daemon. -/
theorem Process.Traced.step {p : Process} {d : Daemon} {acted : List DaemonOp}
    {emitted written : List Incident} (h : p.Traced d acted emitted written) {op : ProcessOp}
    (hwrites : p.WritesSucceed op) :
    (p.step op).Traced d (acted ++ p.acts op) (emitted ++ p.emits op)
      (written ++ p.upserts op) := by
  rcases p.acts_cases op with hnone | ⟨op', rfl, hacts, hup, hmonitor, hstorage⟩
  · rw [Process.emits, Process.upserts, hnone, List.flatMap_nil, List.flatMap_nil,
      List.append_nil, List.append_nil, List.append_nil]
    cases op with
    | act op =>
        have hstep : p.step (.act op) = p := by
          simp only [Process.step, hnone]
        rw [hstep]
        exact h
    | stop => exact ⟨h.daemon, h.staysUp, h.emitted, h.written, h.closed⟩
    | check =>
        simp only [Process.step]
        by_cases hhead : p.monitor = .head
        · rw [if_pos hhead]
          refine ⟨h.daemon, h.staysUp, h.emitted, h.written, fun hdone => ?_⟩
          rw [(h.closed hdone).1] at hhead
          cases hhead
        · rw [if_neg hhead]
          exact h
    | hangUp =>
        simp only [Process.step]
        split_ifs with hleft
        · exact ⟨h.daemon, h.staysUp, h.emitted, h.written, fun _ => hleft⟩
        · exact h
  · have hfails : p.daemon.writeFails op' = false := hwrites op' (by rw [hacts]; simp)
    -- after the storage thread has ended only clients act, and they send nothing to it
    have hclient (hdone : p.storageDone = true) : op'.thread = .client := by
      cases hthread : op'.thread with
      | system => cases op' <;> simp_all [DaemonOp.thread, DaemonOp.staysUp]
      | monitor =>
          have := hmonitor hthread
          rw [(h.closed hdone).1] at this
          cases this
      | storage => rw [hstorage hthread] at hdone; cases hdone
      | client => rfl
    have hother (hdone : p.storageDone = true) {thread : Thread} (hne : thread ≠ .client) :
        op'.thread ≠ thread := fun hthread => hne (hthread.symm.trans (hclient hdone))
    have hdaemon : (p.step (.act op')).daemon = p.daemon.step op' := by
      simp only [Process.step, hacts]
      split_ifs with hdone
      · exact (p.daemon.step_monitor hup (hother hdone Thread.noConfusion)).1
      · rfl
    have hdoneEq : (p.step (.act op')).storageDone = p.storageDone := by
      simp [Process.step, hacts, hfails]
    refine ⟨?_, fun op hop => ?_, ?_, ?_, fun hdone => ?_⟩
    · rw [hdaemon, hacts, h.daemon, Daemon.run_concat]
    · rcases List.mem_append.1 hop with hop | hop
      · exact h.staysUp op hop
      · rw [hacts] at hop
        obtain rfl := List.mem_singleton.1 hop
        exact hup
    · rw [Process.emits, hacts, List.flatMap_singleton, h.emitted, h.daemon, Daemon.emitted,
        Daemon.emitted, Transition.outputs_concat]
      rfl
    · rw [Process.upserts, hacts, List.flatMap_singleton, hdaemon, Daemon.taken,
        Transition.outputs_concat, List.flatMap_append, List.append_assoc,
        ← Daemon.step_unwritten hup hfails, ← List.append_assoc, ← h.written]
      have := h.daemon
      rw [Daemon.taken, this]
      rfl
    · rw [hdoneEq] at hdone
      obtain ⟨hat, hstoring, hqueue⟩ := h.closed hdone
      obtain ⟨-, -, hends⟩ := p.daemon.step_monitor hup (hother hdone Thread.noConfusion)
      refine ⟨?_, ?_, ?_⟩
      · simpa [Process.step, hacts, hends] using hat
      · rw [hdaemon, p.daemon.step_storing hup (hother hdone Thread.noConfusion), hstoring]
      · rw [hdaemon, p.daemon.step_queue (hclient hdone), hqueue]

/-- A run of a process follows its daemon. -/
theorem Process.traced_of_run {d : Daemon} (hidle : d.storing = none) {ops : List ProcessOp}
    (hwrites : Transition.Along Process.step Process.WritesSucceed (.boot d) ops) :
    ((Process.boot d).run ops).Traced d ((Process.boot d).acted ops)
      ((Process.boot d).emitted ops) ((Process.boot d).written ops) := by
  induction ops using List.reverseRecOn with
  | nil =>
      refine ⟨rfl, fun op hop => absurd hop List.not_mem_nil, rfl, ?_, Bool.noConfusion⟩
      change [] = [] ++ d.unwritten
      rw [Daemon.unwritten, hidle, List.append_nil]
  | append_singleton ops op ih =>
      obtain ⟨hbefore, hop⟩ := (Transition.along_concat _).1 hwrites
      rw [Process.run_concat, Process.acted, Process.emitted, Process.written,
        Transition.outputs_concat, Transition.outputs_concat, Transition.outputs_concat]
      exact (ih hbefore).step hop

/-! ### The end of the monitor -/

/-- Past its loop the monitor changes nothing any more, whatever the other threads do:
what was pending stays so. -/
theorem Process.step_done {p : Process} (hdone : p.monitor = .done) (op : ProcessOp) :
    (p.step op).monitor = .done ∧
      (p.step op).daemon.monitor.pendingEvents = p.daemon.monitor.pendingEvents := by
  rcases p.acts_cases op with hnone | ⟨op', rfl, hacts, hup, hmonitor, -⟩
  · cases op with
    | act op => simp [Process.step, hnone, hdone]
    | stop => exact ⟨hdone, rfl⟩
    | check => simp [Process.step, hdone]
    | hangUp =>
        simp only [Process.step]
        split_ifs <;> exact ⟨hdone, rfl⟩
  · have hother : op'.thread ≠ .monitor := fun hthread => by
      rw [hdone] at hmonitor
      cases hmonitor hthread
    obtain ⟨hclosed, hsame, hends⟩ := p.daemon.step_monitor hup hother
    simp [Process.step, hacts, hclosed, hsame, hends, hdone]

/-- Past its loop the monitor retains what it retained then. -/
theorem Process.run_done {p : Process} (hdone : p.monitor = .done) (ops : List ProcessOp) :
    (p.run ops).monitor = .done ∧
      (p.run ops).daemon.monitor.pendingEvents = p.daemon.monitor.pendingEvents := by
  induction ops generalizing p with
  | nil => exact ⟨hdone, rfl⟩
  | cons op ops ih =>
      obtain ⟨hat, hpending⟩ := Process.step_done hdone op
      obtain ⟨hat', hpending'⟩ := ih hat
      exact ⟨hat', hpending'.trans hpending⟩

/-- The monitor leaves its loop at the check, once `STOP` is set, and at no other place.
So what is pending at that check is what it leaves behind. -/
theorem Process.leaves_of_step {p : Process} (hp : p.monitor ≠ .done) {op : ProcessOp}
    (hdone : (p.step op).monitor = .done) : op = .check ∧ p.monitor = .head ∧ p.stop = true := by
  cases op with
  | act op =>
      simp only [Process.step] at hdone
      split at hdone
      · dsimp only at hdone
        split_ifs at hdone
        exact absurd hdone hp
      · exact absurd hdone hp
  | stop => exact absurd hdone hp
  | check =>
      simp only [Process.step] at hdone
      split_ifs at hdone with hhead hstop
      · exact ⟨rfl, hhead, hstop⟩
      · exact absurd hdone hp
  | hangUp =>
      simp only [Process.step] at hdone
      split_ifs at hdone <;> exact absurd hdone hp

/-- Past its loop the monitor does not leave it again. -/
theorem Process.leavesNothing_of_done {p : Process} (hdone : p.monitor = .done)
    (ops : List ProcessOp) : Transition.Along Process.step Process.LeavesNothing p ops := by
  induction ops generalizing p with
  | nil => trivial
  | cons op ops ih =>
      refine ⟨?_, ih (Process.step_done hdone op).1⟩
      cases op with
      | check =>
          intro hhead
          rw [hdone] at hhead
          cases hhead
      | _ => trivial

/-- **What the monitor retains at the end it has retained when it left its
loop.** -/
theorem Process.leavesNothing_iff {p : Process} (hp : p.monitor ≠ .done) (ops : List ProcessOp)
    (hdone : (p.run ops).monitor = .done) :
    (p.run ops).daemon.monitor.pendingEvents = [] ↔
      Transition.Along Process.step Process.LeavesNothing p ops := by
  induction ops generalizing p with
  | nil => exact absurd hdone hp
  | cons op ops ih =>
      by_cases hnext : (p.step op).monitor = .done
      · obtain ⟨rfl, hhead, hstop⟩ := Process.leaves_of_step hp hnext
        have hpending : (p.run (.check :: ops)).daemon.monitor.pendingEvents =
            p.daemon.monitor.pendingEvents := by
          refine (Process.run_done hnext ops).2.trans ?_
          simp only [Process.step, if_pos hhead]
        rw [hpending]
        exact ⟨fun h => ⟨fun _ _ => h, Process.leavesNothing_of_done hnext ops⟩,
          fun h => h.1 hhead hstop⟩
      · refine (ih hnext hdone).trans ⟨fun h => ⟨?_, h⟩, And.right⟩
        cases op with
        | check =>
            intro hhead hstop
            exact absurd (by simp [Process.step, hhead, hstop]) hnext
        | _ => trivial

/-- **A clean stop loses no transition exactly if the monitor retains none when it
leaves its loop.**  Once both threads have finished, every write having
succeeded, the transitions emitted in the run have been written, in this order,
or are counted as dropped if and only if `pending_events` was empty when the
monitor found `STOP` set. -/
theorem stop_loses_nothing_iff {db : Database} {issued : List Incident} {simulate : Bool}
    {session : String} {at_ : ℤ} {d : Daemon}
    (hstart : Daemon.start db issued simulate session at_ = .ok d) (ops : List ProcessOp)
    (hwrites : Transition.Along Process.step Process.WritesSucceed (.boot d) ops)
    (hmonitor : ((Process.boot d).run ops).monitor = .done)
    (hstorage : ((Process.boot d).run ops).storageDone = true) :
    (Process.boot d).Settled ops ↔
      Transition.Along Process.step Process.LeavesNothing (.boot d) ops := by
  have hidle : d.storing = none := by
    rw [Daemon.start_eq] at hstart
    rw [← Except.ok.inj hstart]
  have htraced := Process.traced_of_run hidle hwrites
  obtain ⟨-, hstoring, hqueue⟩ := htraced.closed hstorage
  obtain ⟨haccounted, hdropped⟩ :=
    Daemon.accounted_events hstart ((Process.boot d).acted ops) htraced.staysUp
  rw [← Process.leavesNothing_iff MonitorAt.noConfusion ops hmonitor]
  have hwritten := htraced.written
  rw [Daemon.unwritten, hstoring, List.append_nil] at hwritten
  rw [← htraced.daemon, ← htraced.emitted, hwritten, hqueue, List.flatMap_nil] at haccounted
  rw [← htraced.daemon] at hdropped
  have hlength := haccounted.perm.length_eq
  simp only [List.length_append, List.length_nil, add_zero, hdropped] at hlength
  constructor
  · intro hsettled
    have := hsettled.2
    exact List.length_eq_zero_iff.1 (by omega)
  · intro hpending
    rw [hpending, List.length_nil, add_zero] at hlength
    have hsublist := haccounted.sublist
    rw [hpending, List.append_nil, List.append_nil] at hsublist
    exact ⟨hsublist, hlength⟩

/-- A cycle of the monitor. -/
def monitorCycle (ops : List DaemonOp) : List ProcessOp := .check :: ops.map .act

/-- A power supply is opened and polled once. -/
def firstCycle : List ProcessOp :=
  monitorCycle [.openDevice (powerSupply "psu") "s" true, .sync Telemetry.blank,
    .observe fun _ => "a", .bound, .publish false]

/-- The storage thread writes a batch and returns to the queue. -/
def storeBatch : List ProcessOp :=
  ([.take, .write id, .write id, .write id, .write id, .written] : List DaemonOp).map .act

/-- The power supply fails, and `STOP` follows: its outage is written. -/
theorem stop_loses_nothing_after_an_outage :
    let ops := firstCycle ++ monitorCycle [.pollFailed "gone" "b" 1000 false] ++
      [.stop, .check] ++ storeBatch ++ storeBatch ++ [.hangUp]
    ∃ d, Daemon.start {} [] false "s" 0 = .ok d ∧
      ((Process.boot d).written ops).length = 1 ∧ (Process.boot d).Settled ops := by
  intro ops
  exact ⟨_, Daemon.start_eq .., by decide +kernel, (stop_loses_nothing_iff (Daemon.start_eq ..) ops
    (by decide +kernel) (by decide +kernel) (by decide +kernel)).2 (by decide +kernel)⟩

/-- The power supply fails after its first sample, and fails again whenever it is
opened: with that the queue is full.  Then it recovers, and `STOP` follows. -/
def recoveryBeforeStop : List ProcessOp :=
  firstCycle ++ monitorCycle [.pollFailed "gone" "b" 1000 false] ++
  (List.replicate 14 (monitorCycle [.openDevice (powerSupply "psu") "s" true,
    .pollFailed "gone" "c" 2000 false])).flatten ++
  monitorCycle [.openDevice (powerSupply "psu") "s" true, .sync Telemetry.blank,
    .observe fun _ => "d", .bound, .publish false] ++
  [.stop, .check] ++ (List.replicate 16 storeBatch).flatten ++ [.hangUp]

/-- **The recovery is neither written nor counted.** It waits for the next poll when the
monitor finds the flag at the head of its loop, and there is no next poll. -/
theorem stop_loses_a_recovery :
    ∃ d, Daemon.start {} [] false "s" 0 = .ok d ∧
      Transition.Along Process.step Process.WritesSucceed (.boot d) recoveryBeforeStop ∧
      ((Process.boot d).run recoveryBeforeStop).monitor = .done ∧
      ((Process.boot d).run recoveryBeforeStop).storageDone = true ∧
      ((Process.boot d).emitted recoveryBeforeStop).length = 2 ∧
      ((Process.boot d).written recoveryBeforeStop).length = 1 ∧
      ¬(Process.boot d).Settled recoveryBeforeStop := by
  refine ⟨_, Daemon.start_eq .., ?_⟩
  decide +kernel

end Railwatch
