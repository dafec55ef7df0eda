/-
# Dispatch

`Service::dispatch`: what a request over one of the two sockets does to the
database, the snapshot and the command queue.

A program is an `EStateM` over these three, so that an error keeps what was done
before it.  `History::reader` opens the file without write access;
`History::open` also creates the tables and the row `'schema'` if they are not
there (a table that is not there is an empty one here).  What SQLite, the clocks
and the monitor answer during the call is an `Environment`.  A call takes the
mutex once at most while it writes, so what other threads do lies before or
after.
-/

import Railwatch.General.Effects
import Railwatch.History.Tariffs
import Railwatch.Ipc.Requests
import Railwatch.Runtime.Daemon

namespace Railwatch

open Effects Sql

/-! ### Queries -/

/-- `History::devices`.  SQLite groups the rows along the primary key, whose
texts are compared by their bytes, that is by their characters. -/
def Database.devices (db : Database) : List (String × ℤ × ℤ) :=
  ((db.energy.keys.map Prod.fst).dedup.insertionSort (· ≤ ·)).map fun device =>
    let minutes := (db.energy.keys.filter fun k => k.1 = device).map Prod.snd
    (device, minutes.min?.getD 0, minutes.max?.getD 0)

/-- `History::evidence`. -/
def Database.evidenceList (db : Database) (id : String) : List Telemetry :=
  (((db.evidence.rows.filter fun r => r.1.1 = id).insertionSort
    fun a b => a.1.2 ≤ b.1.2).take 1000).map Prod.snd

/-! ### The service -/

/-- `DeviceCommand`: what a client may ask the monitor to do with the device. -/
inductive DeviceCommand where
  | inspect
  deriving DecidableEq

/-- What a `Service` shares: the database file with the row `'schema'` of `meta`,
the snapshot, and the queue of commands. -/
structure Service where
  /-- The row `'schema'` of `meta`. -/
  schema : Option String := none
  /-- The database. -/
  db : Database := {}
  /-- The snapshot. -/
  shared : Snapshot := {}
  /-- The commands that wait for the monitor. -/
  commands : List DeviceCommand := []

/-- The answers to one call: of the read-only connection, of `History::open`, of
a write, of the two readings of the wall clock, of the boot clock, of `chrono-tz`
and of the monitor. -/
structure Environment where
  /-- `History::reader`. -/
  readError : Option String := none
  /-- `History::open`. -/
  openError : Option String := none
  /-- A statement that writes. -/
  writeError : Option String := none
  /-- The wall clock. -/
  nowMs : ℤ := 0
  /-- The wall clock once more. -/
  laterMs : ℤ := 0
  /-- The boot clock. -/
  monotonicMs : ℕ := 0
  /-- `chrono-tz`. -/
  zones : String → Except String Zone := fun _ => .error "failed to parse timezone"
  /-- Whether the monitor is gone. -/
  disconnected : Bool := false
  /-- Its answer, if one comes in time. -/
  inspection : Option (Except String Json) := none

/-- What a call returns, before it is made a text. Each method has its own form. -/
inductive Reply where
  | info
  | description
  | snapshot (snapshot : Snapshot) (ageMs : Option ℕ) (stale : Bool)
  | devices (current : Option DeviceInfo) (recorded : List (String × ℤ × ℤ))
  | incidents (incidents : List Incident)
  | samples (samples : List Telemetry)
  | energy (range : Range) (buckets : List EnergySummary)
  | tariffs (tariffs : List Tariff)
  | policy (revision : ℕ) (policy : Policy)
  | acknowledged (id : String)
  | tariff (tariff : Tariff)
  | revision (revision : ℕ)
  | inspection (value : Json)

/-- A program of the service. -/
abbrev Action (α : Type) := EStateM Failure Service α

/-- An error of the database or of the device. -/
def orFail {α : Type} (r : Except String α) : Action α :=
  ofExcept (match r with
    | .ok a => .ok a
    | .error e => .error (.message e))

/-- `ensure!`. -/
def ensure (c : Bool) (message : String) : Action Unit :=
  if c then pure () else throw (.message message)

/-- `History::reader`, and the query that follows. -/
def reader (env : Environment) : Action Database := do
  let s ← get
  orFail (match env.readError with
    | some e => .error e
    | none => .ok s.db)

/-- `History::open`. -/
def openStore (env : Environment) : Action Unit := do
  let s ← get
  match env.openError with
  | some e => throw (.message e)
  | none =>
      if s.schema.all (· = "1") then modify fun s => { s with schema := some "1" }
      else throw (.message "unsupported database schema")

/-- A statement or a transaction that writes: it fails without an effect, or it
takes effect. -/
def write {α : Type} (env : Environment) (f : Database → Except String (α × Database)) :
    Action α := do
  let s ← get
  let r ← orFail (f s.db)
  match env.writeError with
  | some e => throw (.message e)
  | none => do
      modify fun s => { s with db := r.2 }
      pure r.1

/-! ### The methods -/

/-- `Snapshot`. -/
def snapshotMethod (env : Environment) (p : Json) : Action Reply := do
  let _ ← ofExcept (params Json.asEmpty p)
  let s ← get
  let age := s.shared.telemetry.map fun t => env.monotonicMs - t.monotonicMs
  pure (.snapshot s.shared age (!s.shared.connected || age.all fun a => a > 3500))

/-- `Devices`. -/
def devicesMethod (env : Environment) (p : Json) : Action Reply := do
  let _ ← ofExcept (params Json.asEmpty p)
  let db ← reader env
  let s ← get
  pure (.devices s.shared.device db.devices)

/-- `Incidents`. -/
def incidentsMethod (env : Environment) (p : Json) : Action Reply := do
  let q ← ofExcept (params Json.asIncidentQuery p)
  let db ← reader env
  let incidents ← orFail (db.incidentList q.active q.limit)
  pure (.incidents incidents)

/-- `Evidence`. -/
def evidenceMethod (env : Environment) (p : Json) : Action Reply := do
  let id ← ofExcept (params (Json.asOne "id") p)
  let db ← reader env
  pure (.samples (db.evidenceList id))

/-- `Samples`. -/
def samplesMethod (env : Environment) (p : Json) : Action Reply := do
  let q ← ofExcept (params Json.asRange p)
  let db ← reader env
  let samples ← orFail (db.sampleList q.deviceId q.fromMs q.toMs q.limit)
  pure (.samples samples)

/-- `Energy`. -/
def energyMethod (env : Environment) (p : Json) : Action Reply := do
  let q ← ofExcept (params Json.asRange p)
  let db ← reader env
  let buckets ← orFail (db.summary env.zones q.deviceId q.fromMs q.toMs q.period q.timezone)
  pure (.energy q buckets)

/-- `Tariffs`. -/
def tariffsMethod (env : Environment) (p : Json) : Action Reply := do
  let _ ← ofExcept (params Json.asEmpty p)
  let db ← reader env
  let tariffs ← orFail db.tariffList
  pure (.tariffs tariffs)

/-- `Policy`. -/
def policyMethod (env : Environment) (p : Json) : Action Reply := do
  let _ ← ofExcept (params Json.asEmpty p)
  let db ← reader env
  pure (.policy db.currentPolicy.1 db.currentPolicy.2)

/-- `Acknowledge`. -/
def acknowledgeMethod (env : Environment) (admin : Bool) (p : Json) : Action Reply := do
  ensure admin "control socket required"
  let id ← ofExcept (params (Json.asOne "id") p)
  openStore env
  write env fun db => (db.acknowledge id env.nowMs).map fun db => ((), db)
  modify fun s => { s with shared := s.shared.acknowledge id env.laterMs }
  pure (.acknowledged id)

/-- `SetTariff`. -/
def setTariffMethod (env : Environment) (admin : Bool) (p : Json) : Action Reply := do
  ensure admin "control socket required"
  let q ← ofExcept (params Json.asRate p)
  openStore env
  write env fun db => (db.setTariff q.tariff q.replace).map fun db => ((), db)
  pure (.tariff q.tariff)

/-- `SetPolicy`. The snapshot is locked over the whole of it, so that the new policy is
in the database and in the snapshot together, as far as other methods can tell. -/
def setPolicyMethod (env : Environment) (admin : Bool) (p : Json) : Action Reply := do
  ensure admin "control socket required"
  let q ← ofExcept (params Json.asPolicyUpdate p)
  openStore env
  let revision ← write env fun db => db.setPolicy q.expectedRevision q.policy
  modify fun s => { s with shared := { s.shared with
    policy := q.policy
    policyRevision := revision } }
  pure (.revision revision)

/-- The places of the command queue. -/
def commandQueueSize : ℕ := 4

/-- `Inspect`. The request waits in a queue of four for the monitor, which may be gone,
and the answer is awaited for six seconds; the request stays in the queue if the time is
up. -/
def inspectMethod (env : Environment) (admin : Bool) (p : Json) : Action Reply := do
  let _ ← ofExcept (params Json.asEmpty p)
  ensure admin "control socket required for device diagnostic transactions"
  let s ← get
  ensure (!env.disconnected && s.commands.length < commandQueueSize)
    "device diagnostic queue busy"
  modify fun s => { s with commands := s.commands ++ [.inspect] }
  match env.inspection with
  | none => throw (.message "device diagnostic deadline exceeded")
  | some r => do
      let value ← orFail r
      pure (.inspection value)

/-- `INTERFACE`. -/
def interface : String := "io.github.railwatch.Monitor1"

/-- `strip_prefix`. -/
def stripPrefix (start s : String) : Option String :=
  if startsWith s start then some (String.ofList (s.toList.drop start.toList.length)) else none

/-- The methods of the interface, less those of `org.varlink.service`. -/
inductive Method where
  | snapshot
  | devices
  | incidents
  | evidence
  | samples
  | energy
  | tariffs
  | policy
  | acknowledge
  | setTariff
  | setPolicy
  | inspect
  deriving DecidableEq

/-- The method that a name stands for, behind the name of the interface. The methods of
`org.varlink.service` are not among them: `dispatch` looks for these first. -/
def Method.parse : String → Option Method
  | "Snapshot" => some .snapshot
  | "Devices" => some .devices
  | "Incidents" => some .incidents
  | "Evidence" => some .evidence
  | "Samples" => some .samples
  | "Energy" => some .energy
  | "Tariffs" => some .tariffs
  | "Policy" => some .policy
  | "Acknowledge" => some .acknowledge
  | "SetTariff" => some .setTariff
  | "SetPolicy" => some .setPolicy
  | "Inspect" => some .inspect
  | _ => none

/-- One method. The last four need the control socket and are told whether the request
came over it; the others are for every client. -/
def Method.call (env : Environment) (admin : Bool) (p : Json) : Method → Action Reply
  | .snapshot => snapshotMethod env p
  | .devices => devicesMethod env p
  | .incidents => incidentsMethod env p
  | .evidence => evidenceMethod env p
  | .samples => samplesMethod env p
  | .energy => energyMethod env p
  | .tariffs => tariffsMethod env p
  | .policy => policyMethod env p
  | .acknowledge => acknowledgeMethod env admin p
  | .setTariff => setTariffMethod env admin p
  | .setPolicy => setPolicyMethod env admin p
  | .inspect => inspectMethod env admin p

/-- `Service::dispatch`. A request for a stream, or one without a reply, is refused;
then the two methods of `org.varlink.service` are looked for, and last those of the
interface of the daemon. A method that is unknown is an error like any other. -/
def dispatch (env : Environment) (request : Request) (admin : Bool) : Action Reply := do
  ensure (!request.more && !request.oneway)
    "this method requires a regular request; Watch supports streaming"
  if request.method = "org.varlink.service.GetInfo" then do
    let _ ← ofExcept (params Json.asEmpty request.parameters)
    pure .info
  else if request.method = "org.varlink.service.GetInterfaceDescription" then do
    let name ← ofExcept (params (Json.asOne "interface") request.parameters)
    ensure (name = interface) "unknown interface"
    pure .description
  else
    match stripPrefix (interface ++ ".") request.method with
    | none => throw (.message "unknown interface")
    | some name =>
        match Method.parse name with
        | none => throw (.message ("unknown method: " ++ name))
        | some method => method.call env admin request.parameters

/-- What a call of `dispatch` returns. -/
def Service.outcome (s : Service) (env : Environment) (request : Request) (admin : Bool) :
    Except Failure Reply :=
  match dispatch env request admin s with
  | .ok v _ => .ok v
  | .error e _ => .error e

/-- The service after a request. -/
def Service.after (s : Service) (env : Environment) (request : Request) (admin : Bool) : Service :=
  match dispatch env request admin s with
  | .ok _ s' => s'
  | .error _ s' => s'

/-! ### Programs that only read -/

/-- A pure result changes nothing. -/
theorem reads_orFail {α : Type} (r : Except String α) : Reads (orFail r) := reads_ofExcept _

/-- A check changes nothing. -/
theorem reads_ensure (c : Bool) (message : String) : Reads (ensure c message) :=
  Reads.ite (reads_pure _) (reads_throw _)

/-- Opening the file for reading changes nothing. -/
theorem reads_reader (env : Environment) : Reads (reader env) :=
  reads_get.bind fun _ => reads_orFail _

/-- A method that reads its parameters and then only reads. -/
theorem reads_params {α : Type} (read : Json → Option α) (p : Json) {f : α → Action Reply}
    (hf : ∀ a, Reads (f a)) : Reads (ofExcept (params read p) >>= f) :=
  (reads_ofExcept _).bind hf

/-- A method that queries the database. -/
theorem reads_query {α : Type} (env : Environment) (query : Database → Except String α)
    (reply : α → Reply) : Reads (do
      let db ← reader env
      let a ← orFail (query db)
      pure (reply a)) :=
  (reads_reader env).bind fun _ => (reads_orFail _).bind fun _ => reads_pure _

/-! ### Programs that write -/

/-- The file is as it was, or it has got its row `'schema'`. -/
def Service.Initialises (s s' : Service) : Prop :=
  s'.schema = s.schema ∨ s.schema = none ∧ s'.schema = some "1"

/-- A file that stays as it is keeps its row. -/
theorem Service.Initialises.refl (s : Service) : s.Initialises s := Or.inl rfl

/-- The file has its row `'schema'`. -/
def Service.opened (s : Service) : Service := { s with schema := some "1" }

/-- Opening the file for writing gives it its row `'schema'`, or fails and leaves it.
That row is all that an opening may write; one of another version makes it fail. -/
theorem openStore_spec (env : Environment) (s : Service) :
    Ensures (openStore env) s (fun _ s' => s.Initialises s.opened ∧ s' = s.opened)
      (fun _ s' => s' = s) := by
  refine ensures_bind (ensures_get ?_)
  cases env.openError with
  | some e => exact ensures_throw rfl
  | none =>
      dsimp only
      split_ifs with hschema
      · refine ensures_modify ⟨?_, rfl⟩
        cases h : s.schema with
        | none => exact Or.inr ⟨h, rfl⟩
        | some v =>
            rw [h] at hschema
            exact Or.inl (congrArg some (of_decide_eq_true hschema).symm |>.trans h.symm)
      · exact ensures_throw rfl

/-- A write leaves what its statement does, or fails and leaves the database. The
statement may refuse, and the file may fail; in both cases the transaction is rolled
back. -/
theorem write_spec {α : Type} (env : Environment) (f : Database → Except String (α × Database))
    (s : Service) :
    Ensures (write env f) s (fun a s' => ∃ db, f s.db = .ok (a, db) ∧ s' = { s with db := db })
      (fun _ s' => s' = s) := by
  refine ensures_bind (ensures_get (ensures_bind (ensures_ofExcept ?_ fun _ _ => rfl)))
  intro r hr
  cases env.writeError with
  | some e => exact ensures_throw rfl
  | none =>
      refine ensures_bind (ensures_modify (ensures_pure ⟨r.2, ?_, rfl⟩))
      cases hf : f s.db with
      | error e => simp [hf] at hr
      | ok r' =>
          simp only [hf, Except.ok.injEq] at hr
          rw [hr]

/-- A request of the control socket that fails before it has written anything. -/
def Service.Unwritten (admin : Bool) (s : Service) (_ : Failure) (s' : Service) : Prop :=
  s' = s ∨ admin = true ∧ s.Initialises s' ∧ s' = s.opened

/-- The common part of the requests that write: authority, parameters, the file,
and the statement.  What they fail with before the last step has written
nothing. -/
theorem guarded_spec {α β : Type} {env : Environment} {admin : Bool} {p : Json} {s : Service}
    {read : Json → Option α} {f : α → Database → Except String (β × Database)}
    {k : α → β → Action Reply} {Q : Reply → Service → Prop}
    (hk : ∀ a b db, admin = true → s.Initialises s.opened → f a s.db = .ok (b, db) →
      Ensures (k a b) { s.opened with db := db } Q (s.Unwritten admin)) :
    Ensures (do
      ensure admin "control socket required"
      let a ← ofExcept (params read p)
      openStore env
      let b ← write env (f a)
      k a b) s Q (s.Unwritten admin) := by
  cases admin with
  | false => exact Or.inl rfl
  | true =>
      refine ensures_bind (ensures_pure (ensures_bind (ensures_ofExcept ?_ fun _ _ => Or.inl rfl)))
      intro a _
      refine ensures_bind ((openStore_spec env s).mono ?_ fun _ _ h => Or.inl h)
      rintro - s' ⟨hopened, rfl⟩
      refine ensures_bind ((write_spec env (f a) s.opened).mono ?_
        fun _ _ h => Or.inr ⟨rfl, h ▸ hopened, h⟩)
      rintro b s' ⟨db, hf, rfl⟩
      exact hk a b db rfl hopened hf

/-- **`Acknowledge`** writes `ack_ms`, and then shows it. If the write fails, the store
may have been initialised, and nothing else has changed. -/
theorem acknowledge_spec (env : Environment) (admin : Bool) (p : Json) (s : Service) :
    Ensures (acknowledgeMethod env admin p) s
      (fun _ s' => admin = true ∧ s.Initialises s.opened ∧ ∃ id db,
        s.db.acknowledge id env.nowMs = .ok db ∧
          s' = { s.opened with db := db, shared := s.shared.acknowledge id env.laterMs })
      (s.Unwritten admin) := by
  refine guarded_spec (k := fun id _ => do
    modify fun s => { s with shared := s.shared.acknowledge id env.laterMs }
    pure (.acknowledged id)) ?_
  intro id _ db hadmin hopened hdb
  refine ensures_bind (ensures_modify (ensures_pure ⟨hadmin, hopened, id, db, ?_, rfl⟩))
  cases hack : s.db.acknowledge id env.nowMs with
  | error e => simp [hack, Except.map] at hdb
  | ok db' =>
      simp only [hack, Except.map, Except.ok.injEq, Prod.mk.injEq, true_and] at hdb
      rw [hdb]

/-- **`SetTariff`** writes a tariff. The snapshot has none, so there is nothing to show. -/
theorem setTariff_spec (env : Environment) (admin : Bool) (p : Json) (s : Service) :
    Ensures (setTariffMethod env admin p) s
      (fun _ s' => admin = true ∧ s.Initialises s.opened ∧ ∃ tariff replace db,
        s.db.setTariff tariff replace = .ok db ∧ s' = { s.opened with db := db })
      (s.Unwritten admin) := by
  refine guarded_spec (k := fun (q : Rate) _ => pure (.tariff q.tariff)) ?_
  intro q _ db hadmin hopened hdb
  refine ensures_pure ⟨hadmin, hopened, q.tariff, q.replace, db, ?_, rfl⟩
  cases hset : s.db.setTariff q.tariff q.replace with
  | error e => simp [hset, Except.map] at hdb
  | ok db' =>
      simp only [hset, Except.map, Except.ok.injEq, Prod.mk.injEq, true_and] at hdb
      rw [hdb]

/-- **`SetPolicy`** writes the policy, and then shows it. The revision that is shown is
the one that was written. -/
theorem setPolicy_spec (env : Environment) (admin : Bool) (p : Json) (s : Service) :
    Ensures (setPolicyMethod env admin p) s
      (fun _ s' => admin = true ∧ s.Initialises s.opened ∧ ∃ expected policy revision db,
        s.db.setPolicy expected policy = .ok (revision, db) ∧
          s' = { s.opened with
            db := db
            shared := { s.shared with policy := policy, policyRevision := revision } })
      (s.Unwritten admin) := by
  refine guarded_spec (k := fun (q : PolicyUpdate) revision => do
    modify fun s => { s with shared := { s.shared with
      policy := q.policy
      policyRevision := revision } }
    pure (.revision revision)) ?_
  intro q revision db hadmin hopened hdb
  exact ensures_bind (ensures_modify (ensures_pure
    ⟨hadmin, hopened, q.expectedRevision, q.policy, revision, db, hdb, rfl⟩))

/-- **`Inspect`** sends a command. The command is in the queue also if its answer is not
awaited to the end. -/
theorem inspect_spec (env : Environment) (admin : Bool) (p : Json) (s : Service) :
    Ensures (inspectMethod env admin p) s
      (fun _ s' => admin = true ∧ s' = { s with commands := s.commands ++ [.inspect] })
      (fun _ s' => s' = s ∨
        admin = true ∧ s' = { s with commands := s.commands ++ [.inspect] }) := by
  refine ensures_bind (ensures_ofExcept (fun _ _ => ?_) fun _ _ => Or.inl rfl)
  cases admin with
  | false => exact Or.inl rfl
  | true =>
      refine ensures_bind (ensures_pure (ensures_bind (ensures_get (ensures_bind ?_))))
      unfold ensure
      split_ifs with hroom
      · refine ensures_pure (ensures_bind (ensures_modify ?_))
        cases env.inspection with
        | none => exact ensures_throw (Or.inr ⟨rfl, rfl⟩)
        | some r => exact ensures_bind (ensures_ofExcept (fun _ _ => ensures_pure ⟨rfl, rfl⟩)
            fun _ _ => Or.inr ⟨rfl, rfl⟩)
      · exact ensures_throw (Or.inl rfl)

/-! ### Every request -/

/-- The method of the interface that a request names, if any. -/
def Request.target (request : Request) : Option Method :=
  (stripPrefix (interface ++ ".") request.method).bind Method.parse

/-- What a method may change when it succeeds: its own table and fields. Opening the
store for a write may initialise it besides, and the methods that only read change
nothing. -/
def Service.Changes (s s' : Service) : Option Method → Prop
  | some .acknowledge => s.Initialises s' ∧ s' = { s with
      schema := s'.schema
      db := { s.db with incidents := s'.db.incidents }
      shared := { s.shared with activeIncidents := s'.shared.activeIncidents } }
  | some .setTariff => s.Initialises s' ∧ s' = { s with
      schema := s'.schema
      db := { s.db with tariffs := s'.db.tariffs } }
  | some .setPolicy => s.Initialises s' ∧ s' = { s with
      schema := s'.schema
      db := { s.db with policy := s'.db.policy }
      shared := { s.shared with
        policy := s'.shared.policy
        policyRevision := s'.shared.policyRevision } }
  | some .inspect => s' = { s with commands := s'.commands }
  | _ => s' = s

/-- What a method may have changed when it fails. -/
def Service.Survives (s s' : Service) : Option Method → Prop
  | some .acknowledge | some .setTariff | some .setPolicy =>
      s.Initialises s' ∧ s' = { s with schema := s'.schema }
  | some .inspect => s' = { s with commands := s'.commands }
  | _ => s' = s

/-- Every method may change nothing. -/
theorem Service.Changes.refl (s : Service) (target : Option Method) : s.Changes s target := by
  cases target with
  | none => rfl
  | some method => cases method <;> first | rfl | exact ⟨.refl s, rfl⟩

/-- Also one that fails. -/
theorem Service.Survives.refl (s : Service) (target : Option Method) : s.Survives s target := by
  cases target with
  | none => rfl
  | some method => cases method <;> first | rfl | exact ⟨.refl s, rfl⟩

/-- A program that only reads is in order for any method. -/
theorem Reads.inOrder {x : Action Reply} (h : Reads x) (admin : Bool) (s : Service)
    (target : Option Method) :
    Ensures x s (fun _ s' => (admin = false → s' = s) ∧ s.Changes s' target)
      (fun _ s' => (admin = false → s' = s) ∧ s.Survives s' target) := by
  refine (h s).mono ?_ ?_
  · rintro _ s' rfl
    exact ⟨fun _ => rfl, .refl s' target⟩
  · rintro _ s' rfl
    exact ⟨fun _ => rfl, .refl s' target⟩

/-- A method that fails before its statement has at most opened the file, and needed the
authority for that. -/
theorem Service.Unwritten.inOrder {admin : Bool} {s s' : Service} {e : Failure} {method : Method}
    (h : s.Unwritten admin e s')
    (hmethod : method = .acknowledge ∨ method = .setTariff ∨ method = .setPolicy) :
    (admin = false → s' = s) ∧ s.Survives s' (some method) := by
  rcases h with rfl | ⟨hadmin, hopened, rfl⟩
  · exact ⟨fun _ => rfl, .refl s' _⟩
  · refine ⟨fun hno => absurd (hadmin.symm.trans hno) Bool.noConfusion, ?_⟩
    rcases hmethod with rfl | rfl | rfl <;> exact ⟨hopened, rfl⟩

/-- **Every method is in order**: without authority it changes nothing, and
otherwise only what is its own. -/
theorem Method.call_inOrder (env : Environment) (admin : Bool) (p : Json) (s : Service)
    (method : Method) :
    Ensures (method.call env admin p) s
      (fun _ s' => (admin = false → s' = s) ∧ s.Changes s' (some method))
      (fun _ s' => (admin = false → s' = s) ∧ s.Survives s' (some method)) := by
  cases method with
  | snapshot =>
      exact Reads.inOrder (reads_params _ p fun _ => reads_get.bind fun _ => reads_pure _) ..
  | devices =>
      exact Reads.inOrder (reads_params _ p fun _ => (reads_reader env).bind fun _ =>
        reads_get.bind fun _ => reads_pure _) ..
  | incidents => exact Reads.inOrder (reads_params _ p fun _ => reads_query _ _ _) ..
  | evidence =>
      exact Reads.inOrder (reads_params _ p fun _ => (reads_reader env).bind fun _ =>
        reads_pure _) ..
  | samples => exact Reads.inOrder (reads_params _ p fun _ => reads_query _ _ _) ..
  | energy => exact Reads.inOrder (reads_params _ p fun _ => reads_query _ _ _) ..
  | tariffs => exact Reads.inOrder (reads_params _ p fun _ => reads_query _ _ _) ..
  | policy =>
      exact Reads.inOrder (reads_params _ p fun _ => (reads_reader env).bind fun _ =>
        reads_pure _) ..
  | acknowledge =>
      refine (acknowledge_spec env admin p s).mono ?_ fun _ _ h => h.inOrder (Or.inl rfl)
      rintro _ _ ⟨hadmin, hopened, id, db, hdb, rfl⟩
      obtain ⟨-, rfl⟩ := Database.acknowledge_ok hdb
      exact ⟨fun hno => absurd (hadmin.symm.trans hno) Bool.noConfusion, hopened, rfl⟩
  | setTariff =>
      refine (setTariff_spec env admin p s).mono ?_ fun _ _ h => h.inOrder (Or.inr (Or.inl rfl))
      rintro _ _ ⟨hadmin, hopened, tariff, replace, db, hdb, rfl⟩
      obtain ⟨-, -, -, -, rfl⟩ := Database.setTariff_ok hdb
      exact ⟨fun hno => absurd (hadmin.symm.trans hno) Bool.noConfusion, hopened, rfl⟩
  | setPolicy =>
      refine (setPolicy_spec env admin p s).mono ?_ fun _ _ h => h.inOrder (Or.inr (Or.inr rfl))
      rintro _ _ ⟨hadmin, hopened, expected, policy, revision, db, hdb, rfl⟩
      obtain ⟨-, rfl⟩ := Database.setPolicy_ok hdb
      exact ⟨fun hno => absurd (hadmin.symm.trans hno) Bool.noConfusion, hopened, rfl⟩
  | inspect =>
      refine (inspect_spec env admin p s).mono ?_ ?_
      · rintro _ _ ⟨hadmin, rfl⟩
        exact ⟨fun hno => absurd (hadmin.symm.trans hno) Bool.noConfusion, rfl⟩
      · rintro _ _ (rfl | ⟨hadmin, rfl⟩)
        · exact ⟨fun _ => rfl, rfl⟩
        · exact ⟨fun hno => absurd (hadmin.symm.trans hno) Bool.noConfusion, rfl⟩

/-- **Dispatch changes nothing without authority and all or nothing with it.**
For every request, database, snapshot and queue, whatever the environment
answers: with `admin = false` everything is as it was.  A request that succeeds
changes the table and the fields of its own method; an `Acknowledge`, `SetTariff`
or `SetPolicy` request that fails changes none, except that either may have given
a file without the row `'schema'` that row. -/
theorem dispatch_is_authorised_and_atomic (env : Environment) (request : Request) (admin : Bool)
    (s : Service) :
    Ensures (dispatch env request admin) s
      (fun _ s' => (admin = false → s' = s) ∧ s.Changes s' request.target)
      (fun _ s' => (admin = false → s' = s) ∧ s.Survives s' request.target) := by
  unfold dispatch
  refine ensures_bind ((reads_ensure _ _ s).mono ?_ ?_)
  · rintro - s' rfl
    split_ifs
    · exact Reads.inOrder (reads_params _ _ fun _ => reads_pure _) ..
    · exact Reads.inOrder (reads_params _ _ fun _ => (reads_ensure _ _).bind fun _ =>
        reads_pure _) ..
    · unfold Request.target
      cases stripPrefix (interface ++ ".") request.method with
      | none => exact Reads.inOrder (reads_throw _) ..
      | some name =>
          dsimp only [Option.bind_some]
          cases Method.parse name with
          | none => exact Reads.inOrder (reads_throw _) ..
          | some method => exact method.call_inOrder env admin request.parameters s'
  · rintro e s' rfl
    exact ⟨fun _ => rfl, .refl s' _⟩

/-- **An `Acknowledge` request for an unknown id** fails, and leaves a row in a
file that had none. -/
theorem failed_request_initialises_file :
    let request : Request := {
      method := "io.github.railwatch.Monitor1.Acknowledge"
      parameters := .obj [("id", .str "unknown")] }
    ∃ s', dispatch {} request true {} = .error (.message "incident not found") s' ∧
      s'.schema = some "1" ∧ s'.schema ≠ ({} : Service).schema := by
  exact ⟨{ schema := some "1" }, rfl, rfl, by decide⟩

/-! ### The daemon -/

/-- What the daemon shares with its clients. -/
def Daemon.service (d : Daemon) (schema : Option String) (commands : List DeviceCommand) :
    Service :=
  ⟨schema, d.history.db, d.shared, commands⟩

/-- **A successful `Acknowledge` is two actions of the daemon.** Other threads may act
between them; an error is no action. -/
theorem acknowledge_is_daemon_action (env : Environment) (admin : Bool) (p : Json) (d : Daemon)
    (schema : Option String) (commands : List DeviceCommand) :
    Ensures (acknowledgeMethod env admin p) (d.service schema commands)
      (fun _ s' => ∃ id, s' = ((d.step (.ackCommit id env.nowMs)).step
        (.ackPublish id env.laterMs)).service (some "1") commands)
      (fun _ s' => s'.db = d.history.db ∧ s'.shared = d.shared) := by
  refine (acknowledge_spec env admin p _).mono ?_ ?_
  · rintro _ _ ⟨-, -, id, db, hdb, rfl⟩
    refine ⟨id, ?_⟩
    have hdb : d.history.db.acknowledge id env.nowMs = .ok db := hdb
    simp [Daemon.step, Daemon.service, Service.opened, hdb]
  · rintro _ _ (rfl | ⟨-, -, rfl⟩)
    · exact ⟨rfl, rfl⟩
    · exact ⟨rfl, rfl⟩

/-- **A successful `SetPolicy` is an action of the daemon.** It holds the lock of the
snapshot all the time, so no other section comes between its two writes. -/
theorem setPolicy_is_daemon_action (env : Environment) (admin : Bool) (p : Json) (d : Daemon)
    (schema : Option String) (commands : List DeviceCommand) :
    Ensures (setPolicyMethod env admin p) (d.service schema commands)
      (fun _ s' => ∃ expected policy,
        s' = (d.step (.setPolicy expected policy)).service (some "1") commands)
      (fun _ s' => s'.db = d.history.db ∧ s'.shared = d.shared) := by
  refine (setPolicy_spec env admin p _).mono ?_ ?_
  · rintro _ _ ⟨-, -, expected, policy, revision, db, hdb, rfl⟩
    refine ⟨expected, policy, ?_⟩
    have hdb : d.history.db.setPolicy expected policy = .ok (revision, db) := hdb
    simp [Daemon.step, Daemon.service, Service.opened, hdb]
  · rintro _ _ (rfl | ⟨-, -, rfl⟩)
    · exact ⟨rfl, rfl⟩
    · exact ⟨rfl, rfl⟩

end Railwatch
