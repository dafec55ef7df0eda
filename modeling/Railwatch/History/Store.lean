/-
# The store

`src/history.rs`: the SQLite tables of the daemon and the statements that keep
incidents, evidence, tariffs and the policy.

A table is a `Sql.Table`.  A `json` column holds `serde_json::to_string` of a
record and is only ever read back with `from_str`, so its cell is the record.
`samples.sequence` is an `INTEGER`, which is why `record` can refuse a sequence
number.

SQLite gives no order to rows that tie under `ORDER BY`; here they keep the
order of insertion.  `prune` deletes the first thousand rows it scans, in an
order SQLite chooses: that order is its parameter `scan`.
-/

import Railwatch.Alerts.Engine
import Railwatch.General.Table

namespace Railwatch

open Sql

/-- The primary keys of `samples` can be searched. -/
instance instDecidableMemKeys (key : String × String × ℤ) (keys : List (String × String × ℤ)) :
    Decidable (key ∈ keys) := inferInstance

/-- A row of `samples`, less its primary key. The text of the sample is kept as the
sample that it stands for. -/
structure SampleRow where
  /-- `at_ms`, the wall clock. -/
  atMs : ℤ
  /-- The sample. -/
  json : Telemetry
  deriving DecidableEq, Repr

/-- A row of `energy`, less its primary key. Energies are in microjoules and times in
milliseconds. -/
@[ext]
structure EnergyRow where
  /-- Microjoules that came out. -/
  outputUj : ℤ
  /-- Microjoules that went in, as estimated. -/
  inputUj : ℤ
  /-- For how much of the minute. -/
  observedMs : ℤ
  /-- And for how much of it there was an estimate. -/
  inputObservedMs : ℤ
  deriving DecidableEq, Repr

/-- `Tariff` of `crates/core/src/pricing.rs`, and a row of `tariffs`. The rate is in
millionths of the currency. -/
structure Tariff where
  /-- From when on it is in force. -/
  effectiveAtMs : ℤ
  /-- Millionths of the currency. -/
  microcurrencyPerKwh : ℤ
  /-- Three capital letters. -/
  currency : String
  deriving DecidableEq, Repr

/-- A row of `incidents`, less its primary key. The acknowledgement of the record is
ignored when it is read, and the column taken instead. -/
structure IncidentRow where
  device : String
  kind : String
  startMs : ℤ
  /-- When it recovered, if it did. -/
  endMs : Option ℤ
  /-- When it was acknowledged, by the first request. -/
  ackMs : Option ℤ
  /-- The incident, as the last upsert has it. -/
  json : Incident
  deriving DecidableEq, Repr

/-- The database file.  `policy` is the row `'policy'` of `meta`. Each table is keyed as
it is in the schema. -/
structure Database where
  /-- By device, session and sequence number. -/
  samples : Table (String × String × ℤ) SampleRow := ∅
  /-- By device and minute. -/
  energy : Table (String × ℤ) EnergyRow := ∅
  /-- By the time from which they are in force. -/
  tariffs : Table ℤ Tariff := ∅
  /-- By id. -/
  incidents : Table String IncidentRow := ∅
  /-- By incident and the sample's wall clock. -/
  evidence : Table (String × ℤ) Telemetry := ∅
  /-- The revision and the policy; none before the first update. -/
  policy : Option (ℕ × Policy) := none

/-- A freshly opened database. -/
instance : Inhabited Database := ⟨{}⟩

/-- `History`: a connection and the sample it recorded last. A connection that is opened
anew has none, so the first sample credits nothing. -/
structure History where
  /-- The file. -/
  db : Database := {}
  /-- The last sample of this connection. -/
  previous : Option Telemetry := none

instance : Inhabited History := ⟨{}⟩

/-! ### Samples -/

/-- `History::samples`. -/
def Database.sampleList (db : Database) (device : String) (fromMs toMs : ℤ) (limit : ℕ) :
    Except String (List Telemetry) :=
  if fromMs < toMs ∧ 1 ≤ limit ∧ limit ≤ 10000 then
    .ok (((((db.samples.rows.filter fun r =>
      r.1.1 = device ∧ fromMs ≤ r.2.atMs ∧ r.2.atMs < toMs).map Prod.snd).insertionSort
        fun a b => a.atMs ≤ b.atMs).take limit).map SampleRow.json)
  else .error "invalid sample query"

/-! ### Incidents and evidence -/

/-- The row an incident is stored as. -/
def Incident.row (i : Incident) : IncidentRow :=
  ⟨i.deviceId, i.kind, i.startedAtMs, i.recoveredAtMs, i.acknowledgedAtMs, i⟩

/-- `DO UPDATE SET end_ms=excluded.end_ms,json=excluded.json`. -/
def IncidentRow.update (i : Incident) (r : IncidentRow) : IncidentRow :=
  { r with endMs := i.recoveredAtMs, json := i }

/-- `History::upsert_incident`. -/
def Database.upsertIncident (db : Database) (i : Incident) : Database :=
  { db with incidents := db.incidents.upsert i.id i.row (IncidentRow.update i) }

/-- What `History::incidents` makes of a row. -/
def IncidentRow.read (r : IncidentRow) : Incident := { r.json with acknowledgedAtMs := r.ackMs }

/-- `History::incidents`. -/
def Database.incidentList (db : Database) (active : Bool) (limit : ℕ) :
    Except String (List Incident) :=
  if 1 ≤ limit ∧ limit ≤ 1000 then
    .ok ((((db.incidents.rows.map Prod.snd).filter fun r => !active || r.endMs.isNone).insertionSort
      fun a b => b.startMs ≤ a.startMs).take limit |>.map IncidentRow.read)
  else .error "incident limit must be 1..1000"

/-- `SET ack_ms=COALESCE(ack_ms,?1)`. -/
def IncidentRow.acknowledge (at_ : ℤ) (r : IncidentRow) : IncidentRow :=
  { r with ackMs := some (r.ackMs.getD at_) }

/-- `History::acknowledge`. -/
def Database.acknowledge (db : Database) (id : String) (at_ : ℤ) : Except String Database :=
  if id ∈ db.incidents.keys then
    .ok { db with incidents := db.incidents.modify id (IncidentRow.acknowledge at_) }
  else .error "incident not found"

/-- What `acknowledge` writes. -/
theorem Database.acknowledge_ok {db db' : Database} {id : String} {at_ : ℤ}
    (h : db.acknowledge id at_ = .ok db') :
    id ∈ db.incidents.keys ∧
      db' = { db with incidents := db.incidents.modify id (IncidentRow.acknowledge at_) } := by
  unfold Database.acknowledge at h
  split_ifs at h with hid
  exact ⟨hid, (Except.ok.inj h).symm⟩

/-- An acknowledgement changes the row of its incident, and no other. -/
theorem Database.find?_acknowledge {db db' : Database} {id : String} {at_ : ℤ}
    (h : db.acknowledge id at_ = .ok db') (id' : String) :
    db'.incidents.find? id' =
      (db.incidents.find? id').map fun r => if id' = id then r.acknowledge at_ else r := by
  obtain ⟨-, rfl⟩ := Database.acknowledge_ok h
  dsimp only
  rw [Table.find?_modify]
  split_ifs
  · rfl
  · exact (congrFun Option.map_id _).symm

/-- `History::record_evidence`. -/
def Database.recordEvidence (db : Database) (id : String) (sample : Telemetry) : Database :=
  { db with evidence := db.evidence.insertOrIgnore (id, sample.capturedAtMs) sample }

/-- `History::prune`: samples of more than 48 hours ago, a thousand at a time. -/
def Database.prune (scan : List (String × String × ℤ) → List (String × String × ℤ))
    (db : Database) (now : ℤ) : Database :=
  let old (k : String × String × ℤ) : Bool :=
    (db.samples.find? k).any fun r => r.atMs < now - 48 * 3600000
  let victims := ((scan db.samples.keys).filter old).take 1000
  { db with samples := db.samples.deleteWhere fun k _ => k ∈ victims }

/-! ### Tariffs and the policy -/

/-- `MAX_TARIFFS`. -/
def maxTariffs : ℕ := 4096

/-- `SELECT … FROM tariffs ORDER BY effective_ms`. -/
def Database.tariffsByTime (db : Database) : List Tariff :=
  (db.tariffs.rows.map Prod.snd).insertionSort fun a b => a.effectiveAtMs ≤ b.effectiveAtMs

/-- `History::tariffs`. -/
def Database.tariffList (db : Database) : Except String (List Tariff) :=
  let tariffs := db.tariffsByTime.take 4097
  if tariffs.length ≤ maxTariffs then .ok tariffs
  else .error "stored tariff history exceeds the supported limit"

/-- Three bytes, all of them `is_ascii_uppercase`. -/
def currencyCode (s : String) : Bool :=
  s.utf8ByteSize == 3 && s.toList.all fun c => 'A' ≤ c && c ≤ 'Z'

/-- `History::set_tariff`. The tariff is checked by itself, then against the table: the
number of rates, which a replacement does not raise, and the currency of the rates there
are. Without `replace` a rate that is there already makes the statement fail. -/
def Database.setTariff (db : Database) (tariff : Tariff) (replace : Bool) :
    Except String Database :=
  if tariff.effectiveAtMs % 60000 ≠ 0 then
    .error "tariff effective time must be at a minute boundary"
  else if ¬(0 ≤ tariff.microcurrencyPerKwh ∧ tariff.microcurrencyPerKwh ≤ 1000000000000) then
    .error "invalid electricity price"
  else if ¬currencyCode tariff.currency then
    .error "use a three-letter currency such as BRL"
  else
    let existing := decide (tariff.effectiveAtMs ∈ db.tariffs.keys)
    if ¬(db.tariffs.rows.length < maxTariffs ∨ (replace && existing)) then
      .error "tariff history is limited to 4096 dated rates"
    else if ¬(db.tariffsByTime.head?.all fun c => c.currency = tariff.currency) then
      .error "cannot combine currencies in one price history"
    else if replace then
      .ok { db with tariffs := db.tariffs.upsert tariff.effectiveAtMs tariff fun _ => tariff }
    else if existing then .error "UNIQUE constraint failed: tariffs.effective_ms"
    else .ok { db with tariffs := db.tariffs.insertOrIgnore tariff.effectiveAtMs tariff }

/-- `History::policy`. -/
def Database.currentPolicy (db : Database) : ℕ × Policy := db.policy.getD (0, default)

/-- `History::set_policy`: the new revision and the database that holds it. The policy
is checked before the revision, and the revision is raised by one, unless it is the last
that there is. -/
def Database.setPolicy (db : Database) (revision : ℕ) (policy : Policy) :
    Except String (ℕ × Database) :=
  match policy.validate with
  | .error e => .error e
  | .ok () =>
      if db.currentPolicy.1 ≠ revision then .error "stale policy revision"
      else if 2 ^ 64 ≤ revision + 1 then .error "revision overflow"
      else .ok (revision + 1, { db with policy := some (revision + 1, policy) })

/-- What `set_policy` writes. -/
theorem Database.setPolicy_ok {db db' : Database} {revision revision' : ℕ} {policy : Policy}
    (h : db.setPolicy revision policy = .ok (revision', db')) :
    policy.validate = .ok () ∧ db' = { db with policy := some (revision', policy) } := by
  unfold Database.setPolicy at h
  cases hvalid : policy.validate with
  | error e =>
      rw [hvalid] at h
      cases h
  | ok =>
      rw [hvalid] at h
      dsimp only at h
      split_ifs at h
      obtain ⟨rfl, rfl⟩ := Prod.mk.inj (Except.ok.inj h)
      exact ⟨rfl, rfl⟩

end Railwatch
