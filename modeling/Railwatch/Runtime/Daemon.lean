/-
# The daemon

`runtime::start` and the two requests of `Service::dispatch` that write to the
shared snapshot, as one transition system.

Three threads act on it.  A cycle of the monitor is cut at its lock-protected
sections: `openDevice`, `sync` (the acknowledgements and the policy are copied),
`observe`, `bound`, `publish`, and, for a failed poll, `pollFailed`.  The
storage thread takes a batch (`take`) and makes one write at a time.  An
`Acknowledge` request commits to the database (`ackCommit`) before it locks the
snapshot (`ackPublish`); `SetPolicy` holds the lock throughout.  An action that
is not possible where the daemon stands changes nothing.

What a poll reads, the clocks, the errors and the UUIDs are inputs of the
actions.  A fresh UUID differs from all that were drawn before, in this process
or an earlier one.
-/

import Railwatch.Alerts.Events
import Railwatch.Runtime.Storage

namespace Railwatch

open Std (TreeMap)

/-- `STORAGE_QUEUE_SIZE`. -/
def storageQueueSize : ℕ := 16

/-- `MAX_PENDING_EVENTS`. -/
def maxPendingEvents : ℕ := 256

/-- `MAX_PENDING_EVIDENCE`. -/
def maxPendingEvidence : ℕ := 2048

/-- `MAX_EVIDENCE_WINDOWS`. -/
def maxEvidenceWindows : ℕ := 32

/-- `Snapshot`: what clients see. It is written by the monitor, by the storage thread
and by clients, each under its lock. -/
structure Snapshot where
  /-- The device that was opened last. -/
  device : Option DeviceInfo := none
  /-- Its last sample. -/
  telemetry : Option Telemetry := none
  /-- Whether the last attempt gave a sample. -/
  connected : Bool := false
  /-- The error of the last attempt, if it failed. -/
  lastError : Option String := none
  /-- That of the storage thread. -/
  storageError : Option String := none
  /-- How many samples the full queue has refused. -/
  droppedSamples : ℕ := 0
  /-- How many transitions the limits have cut off. -/
  droppedIncidentUpdates : ℕ := 0
  /-- And how many readings. -/
  droppedEvidenceSamples : ℕ := 0
  /-- How many windows were given up for later ones. -/
  truncatedEvidenceWindows : ℕ := 0
  /-- The open incidents, as clients see them. -/
  activeIncidents : List Incident := []
  /-- Which policy it is. -/
  policyRevision : ℕ := 0
  /-- The policy in force. -/
  policy : Policy := default
  /-- When a batch was stored last. -/
  lastPersistedAtMs : Option ℤ := none
  /-- When the process started. -/
  startedAtMs : ℤ := 0

/-- Where the monitor stands in its cycle, and the sample it works on. Between two
phases other threads may take the lock. -/
inductive Phase where
  | top
  | synced (t : Telemetry) (policy : Policy)
  | observed (t : Telemetry)
  | bounded (t : Telemetry)

/-- The variables of the monitor thread. No other thread sees them; what they are at the
top of the loop is all that one turn hands on to the next. -/
structure Monitor where
  /-- The session of the present opening. -/
  session : String
  /-- The next number. -/
  sequence : ℕ := 0
  /-- The device, if one is open. -/
  device : Option DeviceInfo := none
  /-- The alert engine. -/
  engine : AlertEngine := {}
  /-- The id that the engine goes by. -/
  currentId : String := ""
  /-- The samples of the last minute. -/
  ring : List Telemetry := []
  /-- The open windows: an incident, and until when. -/
  capturing : List (String × ℕ) := []
  /-- The transitions that no batch has taken yet. -/
  pendingEvents : List Incident := []
  /-- And the readings. -/
  pendingEvidence : List (String × Telemetry) := []
  /-- Where it is in its loop. -/
  phase : Phase := .top

/-- The process: what `start` read and shares with its threads, the monitor, the
queue, the batch the storage thread works on with the number of its writes that
are done, the store, and the acknowledgements between their two sections.
`issued` are the incidents opened so far, in this process or an earlier one. -/
structure Daemon where
  /-- `--simulate`. -/
  simulate : Bool
  /-- The incidents that were open at the start. -/
  active : List Incident
  /-- The snapshot. -/
  shared : Snapshot
  /-- The variables of the monitor. -/
  monitor : Monitor
  /-- `sync_channel(STORAGE_QUEUE_SIZE)`. -/
  queue : List Persist := []
  /-- The batch in hand, and how many of its writes are done. -/
  storing : Option (Persist × ℕ) := none
  /-- The store. -/
  history : History
  /-- The acknowledgements between the database and the snapshot. -/
  acking : List String := []
  /-- The incidents so far, those of earlier processes among them. -/
  issued : List Incident

/-- `start`, over the database it opens. The snapshot starts with the policy and the
open incidents of the database, and the monitor with the device unknown; what the
process before had in its queue and buffers is gone. -/
def Daemon.start (db : Database) (issued : List Incident) (simulate : Bool) (session : String)
    (at_ : ℤ) : Except String Daemon := do
  let active ← db.incidentList true 1000
  return {
    simulate := simulate
    active := active
    shared := {
      startedAtMs := at_
      policyRevision := db.currentPolicy.1
      policy := db.currentPolicy.2
      activeIncidents := active }
    monitor := { session := session }
    history := { db := db }
    issued := issued }

/-! ### The monitor's cycle -/

/-- `engine.active.insert(i.kind, i)` for the incidents of the current device. -/
def AlertEngine.restore (e : AlertEngine) (currentId : String) (incidents : List Incident) :
    AlertEngine :=
  { e with
    active := (incidents.filter (·.deviceId = currentId)).foldl
      (fun active i => active.insert i.kind i) e.active }

/-- `engine.active` takes over the acknowledgement of one incident. -/
def syncAck (active : TreeMap String Incident) (incident : Incident) : TreeMap String Incident :=
  match active[incident.kind]? with
  | some i =>
      if i.id = incident.id then
        active.insert incident.kind { i with acknowledgedAtMs := incident.acknowledgedAtMs }
      else active
  | none => active

/-- `engine.active` takes over the acknowledgements of the snapshot. -/
def AlertEngine.syncAcks (e : AlertEngine) (incidents : List Incident) : AlertEngine :=
  { e with active := incidents.foldl syncAck e.active }

/-- The simulator's `DeviceInfo`. It is constant, and shown from the first poll on. -/
def simulatorInfo : DeviceInfo where
  id := "demo-ai1600ts"
  model := "MPG Ai1600TS (simulated)"
  pid := 0x808c
  serial := none
  revision := none
  path := "simulator"
  backend := "simulator"
  simulated := true
  capabilities := ["telemetry", "conductor_currents", "hardware_alerts"]

/-- A power supply with a given id. -/
def powerSupply (id : String) : DeviceInfo :=
  { simulatorInfo with id := id, path := id, backend := "hid", simulated := false }

/-- A reading whose first connector has tripped. -/
def trippedSample : Telemetry :=
  { Telemetry.blank with safeguards := [⟨2, 0, 0, Vector.replicate 6 0⟩] }

/-- A device may be opened: there is none, and the monitor starts a cycle. -/
def Daemon.mayOpen (d : Daemon) : Prop :=
  d.simulate = false ∧ d.monitor.device.isNone ∧ d.monitor.phase matches .top

/-- A device may be polled: the monitor starts a cycle with a device, or with
the simulator. -/
def Daemon.mayPoll (d : Daemon) : Prop :=
  (if d.simulate then d.monitor.currentId ≠ "" else d.monitor.device.isSome) ∧
    d.monitor.phase matches .top

instance (d : Daemon) : Decidable d.mayOpen := by
  unfold Daemon.mayOpen
  infer_instance

instance (d : Daemon) : Decidable d.mayPoll := by
  unfold Daemon.mayPoll
  infer_instance

/-- The incidents an opened device is restored from: those the reader finds, or
else those of the start. -/
def Daemon.restored (d : Daemon) (readable : Bool) : List Incident :=
  ((if readable then d.history.db.incidentList true 1000
    else .error "unable to open database file").toOption).getD d.active

/-- `HidDevice::open` succeeds. A device other than the one before gets an engine with
its own open incidents, as the database has them or else as they were at the start, and
the evidence windows are closed. In both cases a session starts, with an empty ring. -/
def Daemon.openDevice (d : Daemon) (info : DeviceInfo) (session : String) (readable : Bool) :
    Daemon :=
  let m := if d.monitor.currentId ≠ info.id then
      { d.monitor with
        currentId := info.id
        engine := AlertEngine.restore {} info.id (d.restored readable)
        capturing := [] }
    else d.monitor
  { d with
    shared := { d.shared with device := some info }
    monitor := { m with session := session, ring := [], device := some info } }

/-- `HidDevice::open` fails. -/
def Daemon.openFailed (d : Daemon) (error : String) : Daemon :=
  { d with shared := { d.shared with connected := false, lastError := some error } }

/-- The simulator's first cycle. -/
def Daemon.openSimulator (d : Daemon) : Daemon :=
  { d with
    shared := { d.shared with device := some simulatorInfo }
    monitor := { d.monitor with
      currentId := simulatorInfo.id
      engine := d.monitor.engine.restore simulatorInfo.id d.active } }

/-- The sample of a successful poll: the device, or the simulator, names itself,
and the monitor numbers the sample. -/
def Monitor.sample (m : Monitor) (reading : Telemetry) : Telemetry :=
  { reading with
    deviceId := (m.device.map DeviceInfo.id).getD simulatorInfo.id
    sessionId := m.session
    sequence := m.sequence }

/-- The section of a successful poll that copies the acknowledgements and the
policy. -/
def Daemon.sync (d : Daemon) (reading : Telemetry) : Daemon :=
  { d with monitor := { d.monitor with
      engine := d.monitor.engine.syncAcks d.shared.activeIncidents
      phase := .synced (d.monitor.sample reading) d.shared.policy } }

/-- The evidence windows, the evidence pushed and the windows truncated, while the
events of one sample are gone through. -/
structure Capture where
  /-- The windows that stay open. -/
  capturing : List (String × ℕ)
  /-- What is captured for them. -/
  evidence : List (String × Telemetry)
  /-- How many were given up. -/
  truncated : ℕ

/-- What one event does to the evidence windows. An incident that is opened has the ring
as its first evidence and a window of two minutes; if all 32 windows are open, the
oldest one is closed for it and that is counted. -/
def Capture.add (ring : List Telemetry) (t : Telemetry) (c : Capture) (event : Incident) :
    Capture :=
  if event.recoveredAtMs.isNone then
    let full := c.capturing.length = maxEvidenceWindows
    { capturing := (if full then c.capturing.drop 1 else c.capturing) ++
        [(event.id, t.monotonicMs + 120000)]
      evidence := c.evidence ++ ring.map fun pre => (event.id, pre)
      truncated := c.truncated + if full then 1 else 0 }
  else c

/-- What the events of a sample, and then the sample itself, do to the evidence
windows. -/
def Monitor.capture (m : Monitor) (t : Telemetry) (events : List Incident) : Capture :=
  let c := events.foldl (Capture.add m.ring t) ⟨m.capturing, [], 0⟩
  let capturing := c.capturing.filter fun w => t.monotonicMs ≤ w.2
  { c with
    capturing := capturing
    evidence := c.evidence ++ capturing.map fun w => (w.1, t) }

/-- The UUIDs of the incidents that the events open are fresh. -/
def Daemon.fresh (d : Daemon) (events : List Incident) : Prop :=
  ((opened events).map (·.id)).Nodup ∧ ∀ i ∈ opened events, i.id ∉ d.issued.map (·.id)

instance (d : Daemon) (events : List Incident) : Decidable (d.fresh events) := by
  unfold Daemon.fresh
  infer_instance

@[simp] theorem Daemon.fresh_nil (d : Daemon) : d.fresh [] := by simp [Daemon.fresh, opened]

/-- What the monitor does with the events of a sample until the pending buffers
are bounded. -/
def Daemon.observe (d : Daemon) (t : Telemetry) (events : List Incident) (engine : AlertEngine) :
    Daemon :=
  let c := d.monitor.capture t events
  { d with
    issued := d.issued ++ opened events
    shared := { d.shared with
      truncatedEvidenceWindows := d.shared.truncatedEvidenceWindows + c.truncated }
    monitor := { d.monitor with
      engine := engine
      capturing := c.capturing
      pendingEvents := d.monitor.pendingEvents ++ events
      pendingEvidence := d.monitor.pendingEvidence ++ c.evidence
      ring := (d.monitor.ring ++ [t]).dropWhile fun p => 60000 < t.monotonicMs - p.monotonicMs
      phase := .observed t } }

/-- `bound_pending`. Of the events and of the readings that wait the oldest are dropped
down to the limits, and what is dropped is counted in the snapshot. -/
def Daemon.boundPending (d : Daemon) (t : Telemetry) : Daemon :=
  let lostEvents := d.monitor.pendingEvents.length - maxPendingEvents
  let lostEvidence := d.monitor.pendingEvidence.length - maxPendingEvidence
  { d with
    shared := { d.shared with
      droppedIncidentUpdates := d.shared.droppedIncidentUpdates + lostEvents
      droppedEvidenceSamples := d.shared.droppedEvidenceSamples + lostEvidence }
    monitor := { d.monitor with
      pendingEvents := d.monitor.pendingEvents.drop lostEvents
      pendingEvidence := d.monitor.pendingEvidence.drop lostEvidence
      phase := .bounded t } }

/-- `try_send`: a full queue hands the batch back.  `full` lets the queue refuse
a batch at any other time, too. -/
def trySend (full : Bool) (queue : List Persist) (item : Persist) :
    Except Persist (List Persist) :=
  if full ∨ storageQueueSize ≤ queue.length then .error item else .ok (queue ++ [item])

/-- The section that ends a successful poll. The sample and all that waits go to the
queue of the storage thread as one batch. If the queue is full, the sample is dropped
and counted, and the rest waits for the next poll. The snapshot shows the sample in both
cases, and the incidents of the engine. -/
def Daemon.publish (d : Daemon) (t : Telemetry) (full : Bool) : Daemon :=
  let item : Persist := ⟨t, d.monitor.pendingEvents, d.monitor.pendingEvidence⟩
  let shared := { d.shared with
    connected := true
    lastError := none
    telemetry := some t
    activeIncidents := d.monitor.engine.incidents }
  let monitor := { d.monitor with sequence := d.monitor.sequence + 1, phase := .top }
  match trySend full d.queue item with
  | .ok queue =>
      { d with
        queue := queue
        shared := shared
        monitor := { monitor with pendingEvents := [], pendingEvidence := [] } }
  | .error item =>
      { d with
        shared := { shared with
          droppedSamples := shared.droppedSamples + 1
          storageError :=
            some "storage queue full; live monitoring continues, history has gaps" }
        monitor := { monitor with
          pendingEvents := item.events, pendingEvidence := item.evidence } }

/-- What the engine makes of a failed poll: nothing before the first sample. -/
def Daemon.lost (d : Daemon) (error uuid : String) (at_ : ℤ) : Option Incident × AlertEngine :=
  match d.shared.telemetry with
  | some last => d.monitor.engine.monitoringLost (fun _ => uuid) last error at_
  | none => (none, d.monitor.engine)

/-- The section of a failed poll. The outage it opens, if none is open, waits with the
ring as its evidence. A process that has published a sample sends that sample again,
with all that waits; if the queue is full, everything is taken back, without the limits
of `bound_pending`. The device is let go of. -/
def Daemon.pollFailed (d : Daemon) (error : String) (event : Option Incident)
    (engine : AlertEngine) (full : Bool) : Daemon :=
  let events := d.monitor.pendingEvents ++ event.toList
  let evidence := d.monitor.pendingEvidence ++
    event.toList.flatMap fun event => d.monitor.ring.map fun t => (event.id, t)
  let shared := { d.shared with
    connected := false
    lastError := some error
    activeIncidents := engine.incidents }
  let monitor := { d.monitor with
    engine := engine, device := none, sequence := d.monitor.sequence + 1 }
  let d := { d with issued := d.issued ++ opened event.toList }
  match d.shared.telemetry with
  | none => { d with shared := shared, monitor := monitor }
  | some last =>
      match trySend full d.queue ⟨last, events, evidence⟩ with
      | .ok queue =>
          { d with
            queue := queue
            shared := shared
            monitor := { monitor with pendingEvents := [], pendingEvidence := [] } }
      | .error item =>
          { d with
            shared := { shared with
              storageError := some "storage queue full; incident persistence pending" }
            monitor := { monitor with
              pendingEvents := item.events, pendingEvidence := item.evidence } }

/-! ### The storage thread -/

/-- The next write of the batch, and what it leaves of the attempt. A write that fails
is shown as the storage error and the batch is started again from its first write; those
before it stay in the database. -/
def Daemon.write (scan : List (String × String × ℤ) → List (String × String × ℤ)) (d : Daemon)
    (item : Persist) (next : ℕ) : Daemon :=
  match (item.writes scan)[next]? with
  | none => d
  | some w =>
      match w d.history with
      | .ok history => { d with history := history, storing := some (item, next + 1) }
      | .error e =>
          { d with
            storing := some (item, 0)
            shared := { d.shared with storageError := some e } }

/-! ### Requests -/

/-- The section of `Acknowledge` that locks the snapshot. -/
def Snapshot.acknowledge (s : Snapshot) (id : String) (at_ : ℤ) : Snapshot :=
  { s with activeIncidents := s.activeIncidents.map fun i =>
      if i.id = id then { i with acknowledgedAtMs := some at_ } else i }

/-! ### The transition system -/

/-- What may happen in the daemon: an action of the monitor, of the storage thread or of
a client, or another start of the process. -/
inductive DaemonOp where
  | restart (simulate : Bool) (session : String) (at_ : ℤ)
  | openDevice (info : DeviceInfo) (session : String) (readable : Bool)
  | openFailed (error : String)
  | openSimulator
  | sync (reading : Telemetry)
  | observe (uuid : String → String)
  | bound
  | publish (full : Bool)
  | pollFailed (error uuid : String) (at_ : ℤ) (full : Bool)
  | take
  | write (scan : List (String × String × ℤ) → List (String × String × ℤ))
  | writeFailed (error : String)
  | written
  | ackCommit (id : String) (at_ : ℤ)
  | ackPublish (id : String) (at_ : ℤ)
  | setPolicy (revision : ℕ) (policy : Policy)

/-- **The daemon after an action.** The monitor's cycle is cut where it takes the lock
of the snapshot: it opens the device, syncs, observes, bounds what waits and publishes,
or its poll fails. The storage thread takes a batch and makes its writes one by one; the
clients' threads acknowledge in two sections, and set the policy in one. An action that
is not possible in a state leaves it as it is. -/
def Daemon.step (d : Daemon) : DaemonOp → Daemon
  | .restart simulate session at_ =>
      (Daemon.start d.history.db d.issued simulate session at_).toOption.getD d
  | .openDevice info session readable =>
      if d.mayOpen ∧ info.id ≠ "" then d.openDevice info session readable else d
  | .openFailed error => if d.mayOpen then d.openFailed error else d
  | .openSimulator =>
      if d.simulate = true ∧ d.monitor.currentId = "" then d.openSimulator else d
  | .sync reading => if d.mayPoll then d.sync reading else d
  | .observe uuid =>
      match d.monitor.phase with
      | .synced t policy =>
          let r := d.monitor.engine.observe uuid t policy maxGapMs
          if d.fresh r.1 then d.observe t r.1 r.2 else d
      | _ => d
  | .bound =>
      match d.monitor.phase with
      | .observed t => d.boundPending t
      | _ => d
  | .publish full =>
      match d.monitor.phase with
      | .bounded t => d.publish t full
      | _ => d
  | .pollFailed error uuid at_ full =>
      let r := d.lost error uuid at_
      if d.mayPoll ∧ d.fresh r.1.toList then d.pollFailed error r.1 r.2 full else d
  | .take =>
      match d.storing, d.queue with
      | none, item :: queue => { d with queue := queue, storing := some (item, 0) }
      | _, _ => d
  | .write scan =>
      match d.storing with
      | some (item, next) => d.write scan item next
      | none => d
  | .writeFailed error =>
      match d.storing with
      | some (item, next) =>
          if next < (item.writes id).length then
            { d with
              storing := some (item, 0)
              shared := { d.shared with storageError := some error } }
          else d
      | none => d
  | .written =>
      match d.storing with
      | some (item, next) =>
          if next < (item.writes id).length then d
          else
            { d with
              storing := none
              shared := { d.shared with
                storageError := none
                lastPersistedAtMs := some item.sample.capturedAtMs } }
      | none => d
  | .ackCommit id at_ =>
      match d.history.db.acknowledge id at_ with
      | .ok db => { d with history := { d.history with db := db }, acking := d.acking ++ [id] }
      | .error _ => d
  | .ackPublish id at_ =>
      if id ∈ d.acking then
        { d with shared := d.shared.acknowledge id at_, acking := d.acking.erase id }
      else d
  | .setPolicy revision policy =>
      match d.history.db.setPolicy revision policy with
      | .ok (revision, db) =>
          { d with
            history := { d.history with db := db }
            shared := { d.shared with policy := policy, policyRevision := revision } }
      | .error _ => d

/-- The open incidents, the latest first, as `incidents(true, 1000)` lists them. -/
def Database.openIncidents (db : Database) : List Incident :=
  ((((db.incidents.rows.map Prod.snd).filter fun r => r.endMs.isNone).insertionSort
    fun a b => b.startMs ≤ a.startMs).take 1000).map IncidentRow.read

/-- `incidents(true, 1000)` cannot fail. -/
theorem Database.incidentList_open (db : Database) :
    db.incidentList true 1000 = .ok db.openIncidents := by
  simp [Database.incidentList, Database.openIncidents]

/-- A process always starts, and from these values: the open incidents and the policy
are read from the database, and the monitor begins without a device. -/
theorem Daemon.start_eq (db : Database) (issued : List Incident) (simulate : Bool)
    (session : String) (at_ : ℤ) :
    Daemon.start db issued simulate session at_ = .ok {
      simulate := simulate
      active := db.openIncidents
      shared := {
        startedAtMs := at_
        policyRevision := db.currentPolicy.1
        policy := db.currentPolicy.2
        activeIncidents := db.openIncidents }
      monitor := { session := session }
      history := { db := db }
      issued := issued } := by
  rw [Daemon.start, db.incidentList_open]
  rfl

/-- A batch that is sent goes to the end of the queue. -/
theorem trySend_ok {full : Bool} {queue queue' : List Persist} {item : Persist}
    (h : trySend full queue item = .ok queue') : queue' = queue ++ [item] := by
  unfold trySend at h
  split_ifs at h
  exact (Except.ok.inj h).symm

/-- A batch that is refused is handed back. -/
theorem trySend_error {full : Bool} {queue : List Persist} {item item' : Persist}
    (h : trySend full queue item = .error item') : item' = item := by
  unfold trySend at h
  split_ifs at h
  exact (Except.error.inj h).symm

/-- What bounding the buffers leaves alone. -/
theorem Daemon.boundPending_frame (d : Daemon) (t : Telemetry) :
    (d.boundPending t).active = d.active ∧ (d.boundPending t).issued = d.issued ∧
      (d.boundPending t).history = d.history ∧ (d.boundPending t).storing = d.storing ∧
      (d.boundPending t).acking = d.acking ∧ (d.boundPending t).simulate = d.simulate ∧
      (d.boundPending t).queue = d.queue ∧
      (d.boundPending t).monitor.engine = d.monitor.engine ∧
      (d.boundPending t).monitor.currentId = d.monitor.currentId ∧
      (d.boundPending t).monitor.device = d.monitor.device ∧
      (d.boundPending t).shared.telemetry = d.shared.telemetry ∧
      (d.boundPending t).shared.activeIncidents = d.shared.activeIncidents := by
  simp [Daemon.boundPending]

/-- What publishing leaves alone, and what it shows. -/
theorem Daemon.publish_frame (d : Daemon) (t : Telemetry) (full : Bool) :
    (d.publish t full).active = d.active ∧ (d.publish t full).issued = d.issued ∧
      (d.publish t full).history = d.history ∧ (d.publish t full).storing = d.storing ∧
      (d.publish t full).acking = d.acking ∧ (d.publish t full).simulate = d.simulate ∧
      (d.publish t full).monitor.engine = d.monitor.engine ∧
      (d.publish t full).monitor.currentId = d.monitor.currentId ∧
      (d.publish t full).monitor.device = d.monitor.device ∧
      (d.publish t full).shared.telemetry = some t ∧
      (d.publish t full).shared.activeIncidents = d.monitor.engine.incidents := by
  unfold Daemon.publish
  dsimp only
  split <;> simp

/-- What a failed poll leaves alone, and what it shows: the rows and the batch in hand
stay, the device is gone, and the list of incidents is the engine's. -/
theorem Daemon.pollFailed_frame (d : Daemon) (error : String) (event : Option Incident)
    (engine : AlertEngine) (full : Bool) :
    (d.pollFailed error event engine full).active = d.active ∧
      (d.pollFailed error event engine full).issued = d.issued ++ opened event.toList ∧
      (d.pollFailed error event engine full).history = d.history ∧
      (d.pollFailed error event engine full).storing = d.storing ∧
      (d.pollFailed error event engine full).acking = d.acking ∧
      (d.pollFailed error event engine full).simulate = d.simulate ∧
      (d.pollFailed error event engine full).monitor.engine = engine ∧
      (d.pollFailed error event engine full).monitor.currentId = d.monitor.currentId ∧
      (d.pollFailed error event engine full).monitor.device = none ∧
      (d.pollFailed error event engine full).shared.telemetry = d.shared.telemetry ∧
      (d.pollFailed error event engine full).shared.activeIncidents = engine.incidents := by
  unfold Daemon.pollFailed
  dsimp only
  split
  · simp
  · split <;> simp

/-- Opening the device that was open last keeps its engine. -/
theorem Daemon.openDevice_same {d : Daemon} {info : DeviceInfo}
    (h : d.monitor.currentId = info.id) (session : String) (readable : Bool) :
    d.openDevice info session readable =
      { d with
        shared := { d.shared with device := some info }
        monitor := { d.monitor with session := session, ring := [], device := some info } } := by
  simp only [Daemon.openDevice, if_neg (not_not.2 h)]

/-- Opening another device restores its engine. -/
theorem Daemon.openDevice_other {d : Daemon} {info : DeviceInfo}
    (h : d.monitor.currentId ≠ info.id) (session : String) (readable : Bool) :
    d.openDevice info session readable =
      { d with
        shared := { d.shared with device := some info }
        monitor := { d.monitor with
          currentId := info.id
          engine := AlertEngine.restore {} info.id (d.restored readable)
          capturing := []
          session := session
          ring := []
          device := some info } } := by
  simp only [Daemon.openDevice, if_pos h]

/-- The actions that change the daemon, with what makes them possible. There is one case
for each outcome of an action. -/
inductive Daemon.Does (d : Daemon) : DaemonOp → Daemon → Prop where
  | restart {d' : Daemon} {simulate : Bool} {session : String} {at_ : ℤ}
      (hstart : Daemon.start d.history.db d.issued simulate session at_ = .ok d') :
      d.Does (.restart simulate session at_) d'
  | openDevice {info : DeviceInfo} {session : String} {readable : Bool} (hopen : d.mayOpen)
      (hid : info.id ≠ "") :
      d.Does (.openDevice info session readable) (d.openDevice info session readable)
  | openFailed {error : String} (hopen : d.mayOpen) :
      d.Does (.openFailed error) (d.openFailed error)
  | openSimulator (hsimulate : d.simulate = true) (hid : d.monitor.currentId = "") :
      d.Does .openSimulator d.openSimulator
  | sync {reading : Telemetry} (hpoll : d.mayPoll) : d.Does (.sync reading) (d.sync reading)
  | observe {uuid : String → String} {t : Telemetry} {policy : Policy}
      (hphase : d.monitor.phase = .synced t policy)
      (hfresh : d.fresh (d.monitor.engine.observe uuid t policy maxGapMs).1) :
      d.Does (.observe uuid) (d.observe t (d.monitor.engine.observe uuid t policy maxGapMs).1
        (d.monitor.engine.observe uuid t policy maxGapMs).2)
  | bound {t : Telemetry} (hphase : d.monitor.phase = .observed t) :
      d.Does .bound (d.boundPending t)
  | publish {full : Bool} {t : Telemetry} (hphase : d.monitor.phase = .bounded t) :
      d.Does (.publish full) (d.publish t full)
  | pollFailed {error uuid : String} {at_ : ℤ} {full : Bool} (hpoll : d.mayPoll)
      (hfresh : d.fresh (d.lost error uuid at_).1.toList) :
      d.Does (.pollFailed error uuid at_ full)
        (d.pollFailed error (d.lost error uuid at_).1 (d.lost error uuid at_).2 full)
  | take {item : Persist} {queue : List Persist} (hstoring : d.storing = none)
      (hqueue : d.queue = item :: queue) :
      d.Does .take { d with queue := queue, storing := some (item, 0) }
  | write {scan : List (String × String × ℤ) → List (String × String × ℤ)} {item : Persist}
      {next : ℕ} {w : History → Except String History} {history : History}
      (hstoring : d.storing = some (item, next)) (hw : (item.writes scan)[next]? = some w)
      (hok : w d.history = .ok history) :
      d.Does (.write scan) { d with history := history, storing := some (item, next + 1) }
  | startOver {op : DaemonOp} {item : Persist} {next : ℕ} {e : String}
      (hop : (∃ scan, op = .write scan) ∨ op = .writeFailed e)
      (hstoring : d.storing = some (item, next)) :
      d.Does op { d with
        storing := some (item, 0)
        shared := { d.shared with storageError := some e } }
  | written {item : Persist} {next : ℕ} (hstoring : d.storing = some (item, next))
      (hdone : (item.writes id).length ≤ next) :
      d.Does .written { d with
        storing := none
        shared := { d.shared with
          storageError := none
          lastPersistedAtMs := some item.sample.capturedAtMs } }
  | ackCommit {id : String} {at_ : ℤ} {db : Database}
      (hdb : d.history.db.acknowledge id at_ = .ok db) :
      d.Does (.ackCommit id at_)
        { d with history := { d.history with db := db }, acking := d.acking ++ [id] }
  | ackPublish {id : String} {at_ : ℤ} (hid : id ∈ d.acking) :
      d.Does (.ackPublish id at_)
        { d with shared := d.shared.acknowledge id at_, acking := d.acking.erase id }
  | setPolicy {revision revision' : ℕ} {policy : Policy} {db : Database}
      (hdb : d.history.db.setPolicy revision policy = .ok (revision', db)) :
      d.Does (.setPolicy revision policy) { d with
        history := { d.history with db := db }
        shared := { d.shared with policy := policy, policyRevision := revision' } }

/-- **What an action does**: nothing, or what it is possible to do. The invariants of
this development are proved about the cases of `Does`, one lemma a case, and do not
unfold `Daemon.step` again. -/
theorem Daemon.step_does (d : Daemon) (op : DaemonOp) :
    d.step op = d ∨ d.Does op (d.step op) := by
  cases op with
  | restart simulate session at_ =>
      cases hstart : Daemon.start d.history.db d.issued simulate session at_ with
      | error e => exact Or.inl (by simp [Daemon.step, hstart, Except.toOption])
      | ok d' =>
          refine Or.inr ?_
          have hstep : d.step (.restart simulate session at_) = d' := by
            simp [Daemon.step, hstart, Except.toOption]
          rw [hstep]
          exact .restart hstart
  | observe uuid =>
      cases hphase : d.monitor.phase with
      | synced t policy =>
          by_cases hfresh : d.fresh (d.monitor.engine.observe uuid t policy maxGapMs).1
          · refine Or.inr ?_
            simp only [Daemon.step, hphase, if_pos hfresh]
            exact .observe hphase hfresh
          · exact Or.inl (by simp only [Daemon.step, hphase, if_neg hfresh])
      | _ => exact Or.inl (by simp only [Daemon.step, hphase])
  | bound =>
      cases hphase : d.monitor.phase with
      | observed t =>
          refine Or.inr ?_
          simp only [Daemon.step, hphase]
          exact .bound hphase
      | _ => exact Or.inl (by simp only [Daemon.step, hphase])
  | publish full =>
      cases hphase : d.monitor.phase with
      | bounded t =>
          refine Or.inr ?_
          simp only [Daemon.step, hphase]
          exact .publish hphase
      | _ => exact Or.inl (by simp only [Daemon.step, hphase])
  | take =>
      simp only [Daemon.step]
      split
      · rename_i item queue hstoring hqueue
        exact Or.inr (.take hstoring hqueue)
      · exact Or.inl rfl
  | write scan =>
      simp only [Daemon.step]
      split
      · rename_i item next hstoring
        unfold Daemon.write
        cases hw : (item.writes scan)[next]? with
        | none => exact Or.inl rfl
        | some w =>
            dsimp only
            cases hok : w d.history with
            | ok history => exact Or.inr (.write hstoring hw hok)
            | error e => exact Or.inr (.startOver (Or.inl ⟨scan, rfl⟩) hstoring)
      · exact Or.inl rfl
  | writeFailed error =>
      simp only [Daemon.step]
      split
      · rename_i item next hstoring
        split_ifs
        · exact Or.inr (.startOver (Or.inr rfl) hstoring)
        · exact Or.inl rfl
      · exact Or.inl rfl
  | written =>
      simp only [Daemon.step]
      split
      · rename_i item next hstoring
        split_ifs with hlt
        · exact Or.inl rfl
        · exact Or.inr (.written hstoring (not_lt.1 hlt))
      · exact Or.inl rfl
  | ackCommit id at_ =>
      simp only [Daemon.step]
      split
      · rename_i db hdb
        exact Or.inr (.ackCommit hdb)
      · exact Or.inl rfl
  | setPolicy revision policy =>
      simp only [Daemon.step]
      split
      · rename_i revision' db hdb
        exact Or.inr (.setPolicy hdb)
      · exact Or.inl rfl
  | openDevice info session readable =>
      simp only [Daemon.step]
      split_ifs with h
      · exact Or.inr (.openDevice h.1 h.2)
      · exact Or.inl rfl
  | openFailed error =>
      simp only [Daemon.step]
      split_ifs with h
      · exact Or.inr (.openFailed h)
      · exact Or.inl rfl
  | openSimulator =>
      simp only [Daemon.step]
      split_ifs with h
      · exact Or.inr (.openSimulator h.1 h.2)
      · exact Or.inl rfl
  | sync reading =>
      simp only [Daemon.step]
      split_ifs with h
      · exact Or.inr (.sync h)
      · exact Or.inl rfl
  | pollFailed error uuid at_ full =>
      simp only [Daemon.step]
      split_ifs with h
      · exact Or.inr (.pollFailed h.1 h.2)
      · exact Or.inl rfl
  | ackPublish id at_ =>
      simp only [Daemon.step]
      split_ifs with h
      · exact Or.inr (.ackPublish h)
      · exact Or.inl rfl

/-- The daemon after a sequence of actions. -/
def Daemon.run (d : Daemon) (ops : List DaemonOp) : Daemon := Transition.run Daemon.step d ops

/-- A run and one more action. -/
theorem Daemon.run_concat (d : Daemon) (ops : List DaemonOp) (op : DaemonOp) :
    d.run (ops ++ [op]) = (d.run ops).step op := Transition.run_concat ..

end Railwatch
