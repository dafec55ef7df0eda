/-
# The migration of device ids

`scripts/migrate-device-ids.sql`, run as a batch: it stops at the first statement
that fails, and then the transaction is rolled back.

The statements say themselves which rows they rename; `newId` says what becomes
of any id, and `Renames` what becomes of a database.

The script does nothing about a history that already goes on under a new id, but
that the primary keys are unique.  Where the rows of both ids fit into one table
they are merged, although `docs/installation.md` says that conflicting ids fail
the transaction.  `migration_keeps_histories` says that this is the only thing
that can go wrong.

SQLite's text functions end at a NUL; ids have none.
-/

import Railwatch.General.Retry
import Railwatch.General.Updates
import Railwatch.History.Reference

namespace Railwatch

open Sql

/-! ### The script -/

/-- `id GLOB 'msi-*'`. -/
def isOldId (id : String) : Bool := "msi-".toList.isPrefixOf id.toList

/-- `'usb-0db0-' || substr(id, 5)`. -/
def renamedId (id : String) : String := "usb-0db0-" ++ String.ofList (id.toList.drop 4)

/-- The orders in which SQLite goes through the rows of an `UPDATE` that sets the
key. -/
structure Scans where
  /-- Of `samples`. -/
  samples : List (String × String × ℤ) → List (String × String × ℤ)
  /-- Of `energy`. -/
  energy : List (String × ℤ) → List (String × ℤ)
  /-- Each row is visited once. -/
  samples_perm : ∀ keys, (samples keys).Perm keys
  /-- Here, too. -/
  energy_perm : ∀ keys, (energy keys).Perm keys

/-- `SET` of `UPDATE samples`. -/
def SampleRow.renameDevice (device : String) (r : SampleRow) : SampleRow :=
  { r with json := { r.json with deviceId := renamedId device } }

/-- `UPDATE samples`. -/
def Database.migrateSamples (scans : Scans) (db : Database) : Except String Database :=
  match db.samples.rekey (scans.samples db.samples.keys) (fun k => isOldId k.1)
      (fun k => (renamedId k.1, k.2)) (fun k r => r.renameDevice k.1) with
  | some samples => .ok { db with samples := samples }
  | none => .error "UNIQUE constraint failed: samples.device, samples.session, samples.sequence"

/-- `UPDATE energy`. -/
def Database.migrateEnergy (scans : Scans) (db : Database) : Except String Database :=
  match db.energy.rekey (scans.energy db.energy.keys) (fun k => isOldId k.1)
      (fun k => (renamedId k.1, k.2)) (fun _ r => r) with
  | some energy => .ok { db with energy := energy }
  | none => .error "UNIQUE constraint failed: energy.device, energy.minute_ms"

/-- `SET` of the first `UPDATE incidents`. -/
def IncidentRow.renameDevice (r : IncidentRow) : IncidentRow :=
  { r with
    device := renamedId r.device
    json := { r.json with deviceId := renamedId r.device } }

/-- The first `UPDATE incidents`. -/
def Database.migrateIncidents (db : Database) : Except String Database :=
  .ok { db with
    incidents := db.incidents.updateWhere (fun r => isOldId r.device) IncidentRow.renameDevice }

/-- `json_extract(json, '$.trigger_sample.device_id')`. -/
def IncidentRow.triggerDevice (r : IncidentRow) : String := r.json.triggerSample.deviceId

/-- `SET` of the second `UPDATE incidents`. -/
def IncidentRow.renameTrigger (r : IncidentRow) : IncidentRow :=
  let sample := { r.json.triggerSample with deviceId := renamedId r.triggerDevice }
  { r with json := { r.json with triggerSample := sample } }

/-- The second `UPDATE incidents`. -/
def Database.migrateTriggers (db : Database) : Except String Database :=
  .ok { db with
    incidents := db.incidents.updateWhere (fun r => isOldId r.triggerDevice)
      IncidentRow.renameTrigger }

/-- `UPDATE evidence`. -/
def Database.migrateEvidence (db : Database) : Except String Database :=
  .ok { db with
    evidence := db.evidence.updateWhere (fun t => isOldId t.deviceId)
      fun t => { t with deviceId := renamedId t.deviceId } }

/-- The statements between `BEGIN` and `COMMIT`. -/
def migrationStatements (scans : Scans) : List (Database → Except String Database) :=
  [Database.migrateSamples scans, Database.migrateEnergy scans, Database.migrateIncidents,
    Database.migrateTriggers, Database.migrateEvidence]

/-- The script as a batch: its error, and the database that it leaves. -/
def Database.migrate (scans : Scans) (db : Database) : Option String × Database :=
  match Retry.attempt (migrationStatements scans) db with
  | .ok db' => (none, db')
  | .error e => (some e, db)

/-! ### What it is for -/

/-- What becomes of an id. -/
def newId (id : String) : String := if isOldId id then renamedId id else id

/-- A sample with its new id. -/
def Telemetry.renamed (t : Telemetry) : Telemetry := { t with deviceId := newId t.deviceId }

/-- An incident with its new ids. -/
def Incident.renamed (i : Incident) : Incident :=
  { i with deviceId := newId i.deviceId, triggerSample := i.triggerSample.renamed }

/-- Two databases have the same rows, but for their ids. An id in a column and the one
in its record are renamed alike. -/
structure Database.Renames (db db' : Database) : Prop where
  /-- A sample has the new id in its key and in its record. -/
  samples : db'.samples.rows = db.samples.rows.map fun kr =>
    ((newId kr.1.1, kr.1.2), { kr.2 with json := kr.2.json.renamed })
  /-- A minute has it in its key. -/
  energy : db'.energy.rows = db.energy.rows.map fun kr => ((newId kr.1.1, kr.1.2), kr.2)
  /-- An incident keeps its own id, and has that of the device in its column and in its
  record. -/
  incidents : db'.incidents.rows = db.incidents.rows.map fun kr =>
    (kr.1, { kr.2 with device := newId kr.2.device, json := kr.2.json.renamed })
  /-- So has a piece of evidence, in its record. -/
  evidence : db'.evidence.rows = db.evidence.rows.map fun kr => (kr.1, kr.2.renamed)
  /-- A tariff belongs to no device. -/
  tariffs : db'.tariffs = db.tariffs
  /-- Nor does the policy. -/
  policy : db'.policy = db.policy

/-- A database has no old id, neither in a column nor in a record. There is nothing left
to migrate in it. -/
structure Database.Current (db : Database) : Prop where
  /-- Neither in a key nor in the record under it. -/
  samples : ∀ kr ∈ db.samples.rows, isOldId kr.1.1 = false ∧ isOldId kr.2.json.deviceId = false
  /-- Nor in the key of a minute. -/
  energy : ∀ kr ∈ db.energy.rows, isOldId kr.1.1 = false
  /-- Nor in a column, a record, or the sample in that. -/
  incidents : ∀ kr ∈ db.incidents.rows, isOldId kr.2.device = false ∧
    isOldId kr.2.json.deviceId = false ∧ isOldId kr.2.json.triggerSample.deviceId = false
  /-- Nor in the record of a piece of evidence. -/
  evidence : ∀ kr ∈ db.evidence.rows, isOldId kr.2.deviceId = false

/-- The records of a database have the ids of their columns. This is how `record` and
its like write them. -/
structure Database.Consistent (db : Database) : Prop where
  /-- The record of a sample is of the device in its key. -/
  samples : ∀ kr ∈ db.samples.rows, kr.2.json.deviceId = kr.1.1
  /-- And that of an incident of the device in its column. -/
  incidents : ∀ kr ∈ db.incidents.rows, kr.2.json.deviceId = kr.2.device

/-- The ids in the columns of a database. -/
def Database.deviceIds (db : Database) : List String :=
  (db.samples.keys.map Prod.fst ++ db.energy.keys.map Prod.fst) ++
    db.incidents.rows.map fun kr => kr.2.device

/-- The history of an id is found under its new one: all summaries, and all
samples with the new id. -/
def Database.FoundUnder (db db' : Database) (id : String) : Prop :=
  (∀ zones fromMs toMs period timezone,
    db'.summary zones (renamedId id) fromMs toMs period timezone =
      db.summary zones id fromMs toMs period timezone) ∧
  ∀ fromMs toMs limit, db'.sampleList (renamedId id) fromMs toMs limit =
    (db.sampleList id fromMs toMs limit).map (List.map Telemetry.renamed)

/-- A new key is among the keys already. -/
def KeysCollide {α : Type} (keys : List (String × α)) : Prop :=
  ∃ k ∈ keys, isOldId k.1 = true ∧ (renamedId k.1, k.2) ∈ keys

/-- A new key of a sample or of a minute is there already. -/
def Database.Collides (db : Database) : Prop :=
  KeysCollide db.samples.keys ∨ KeysCollide db.energy.keys

/-- **What the migration should do**: nothing, if a new key is there already, and
else rename the ids and nothing more, so that each history is found under its new
id, incidents keep their acknowledgements, and another run changes nothing. -/
def Database.KeptBy (db : Database) (scans : Scans) : Prop :=
  (db.Collides ∧ ∃ e, db.migrate scans = (some e, db)) ∨
  ∃ db', db.migrate scans = (none, db') ∧ db'.Current ∧ db.Renames db' ∧
    (∀ id ∈ db.deviceIds, isOldId id = true → db.FoundUnder db' id) ∧
    (∀ id, (db'.incidents.find? id).map IncidentRow.ackMs =
      (db.incidents.find? id).map IncidentRow.ackMs) ∧
    ∀ scans, db'.migrate scans = (none, db')

/-- No history goes on under a new id already. -/
def Database.Separate (db : Database) : Prop :=
  ∀ id ∈ db.deviceIds, isOldId id = true →
    (∀ k ∈ db.samples.keys, k.1 ≠ renamedId id) ∧ ∀ k ∈ db.energy.keys, k.1 ≠ renamedId id

/-! ### Ids -/

/-- An old id is its prefix and the rest. -/
theorem toList_of_isOldId {id : String} (h : isOldId id = true) :
    id.toList = "msi-".toList ++ id.toList.drop 4 := by
  obtain ⟨rest, hrest⟩ := List.isPrefixOf_iff_prefix.1 h
  rw [← hrest]
  rfl

/-- The new id keeps the rest. -/
theorem toList_renamedId (id : String) :
    (renamedId id).toList = "usb-0db0-".toList ++ id.toList.drop 4 := by
  rw [renamedId, String.toList_append]
  exact congrArg _ String.toList_ofList

/-- A new id is not an old one. -/
@[simp] theorem isOldId_renamedId (id : String) : isOldId (renamedId id) = false := by
  rw [isOldId, toList_renamedId]
  rfl

/-- **Old ids have different new ids.** They differ behind the prefix, which is what the
new ids keep. -/
theorem renamedId_inj {a b : String} (ha : isOldId a = true) (hb : isOldId b = true)
    (h : renamedId a = renamedId b) : a = b := by
  have hlist := congrArg String.toList h
  rw [toList_renamedId, toList_renamedId, List.append_cancel_left_eq] at hlist
  refine String.toList_injective ?_
  rw [toList_of_isOldId ha, toList_of_isOldId hb, hlist]

/-- No id is old after the script. -/
@[simp] theorem isOldId_newId (id : String) : isOldId (newId id) = false := by
  unfold newId
  split_ifs with h
  · exact isOldId_renamedId id
  · simpa using h

/-- An old id is renamed. -/
theorem newId_of_isOldId {id : String} (h : isOldId id = true) : newId id = renamedId id :=
  if_pos h

/-- Any other id is kept. -/
theorem newId_of_not_isOldId {id : String} (h : isOldId id = false) : newId id = id :=
  if_neg (by simp [h])

/-! ### The statements -/

/-- **What an `UPDATE` that renames the ids of keys does.** It fails exactly if two rows
would have one key, in whatever order the rows are visited; else it has renamed all of
them. -/
theorem rekey_renamedId {α ρ : Type} [DecidableEq α] (t : Table (String × α) ρ)
    {scan : List (String × α)} (hscan : scan.Perm t.keys) (g : String × α → ρ → ρ) :
    (t.rekey scan (fun k => isOldId k.1) (fun k => (renamedId k.1, k.2)) g = none ↔
        KeysCollide t.keys) ∧
      ∀ t', t.rekey scan (fun k => isOldId k.1) (fun k => (renamedId k.1, k.2)) g = some t' →
        t'.rows = t.rows.map fun kr =>
          if isOldId kr.1.1 then ((renamedId kr.1.1, kr.1.2), g kr.1 kr.2) else kr := by
  refine Table.rekey_spec g (fun a b ha hb h => ?_) (fun a _ => isOldId_renamedId a.1) hscan
  obtain ⟨hid, hrest⟩ := Prod.mk.inj h
  exact Prod.ext (renamedId_inj ha hb hid) hrest

/-- **The statement about `samples`.** The key and the text of a row are renamed
together. -/
theorem Database.migrateSamples_spec (scans : Scans) (db : Database) :
    (KeysCollide db.samples.keys → ∃ e, db.migrateSamples scans = .error e) ∧
      (¬KeysCollide db.samples.keys → ∃ samples,
        db.migrateSamples scans = .ok { db with samples := samples } ∧
        samples.rows = db.samples.rows.map fun kr =>
          if isOldId kr.1.1 then ((renamedId kr.1.1, kr.1.2), kr.2.renameDevice kr.1.1)
          else kr) := by
  obtain ⟨hnone, hrows⟩ := rekey_renamedId db.samples (scans.samples_perm db.samples.keys)
    fun k r => r.renameDevice k.1
  unfold migrateSamples
  refine ⟨fun h => ?_, fun h => ?_⟩
  · rw [hnone.2 h]
    exact ⟨_, rfl⟩
  · obtain ⟨samples, hsome⟩ := Option.ne_none_iff_exists'.1 (mt hnone.1 h)
    rw [hsome]
    exact ⟨samples, rfl, hrows samples hsome⟩

/-- **The statement about `energy`.** Only the key of a row is renamed, and rows are not
added up. -/
theorem Database.migrateEnergy_spec (scans : Scans) (db : Database) :
    (KeysCollide db.energy.keys → ∃ e, db.migrateEnergy scans = .error e) ∧
      (¬KeysCollide db.energy.keys → ∃ energy,
        db.migrateEnergy scans = .ok { db with energy := energy } ∧
        energy.rows = db.energy.rows.map fun kr => ((newId kr.1.1, kr.1.2), kr.2)) := by
  obtain ⟨hnone, hrows⟩ := rekey_renamedId db.energy (scans.energy_perm db.energy.keys) fun _ r => r
  unfold migrateEnergy
  refine ⟨fun h => ?_, fun h => ?_⟩
  · rw [hnone.2 h]
    exact ⟨_, rfl⟩
  · obtain ⟨energy, hsome⟩ := Option.ne_none_iff_exists'.1 (mt hnone.1 h)
    rw [hsome]
    refine ⟨energy, rfl, (hrows energy hsome).trans (List.map_congr_left fun kr _ => ?_)⟩
    unfold newId
    split_ifs <;> rfl

/-- **A new key that is there already fails the batch.** The transaction takes back what
the statements before have done. -/
theorem Database.migrate_of_collides {db : Database} (h : db.Collides) (scans : Scans) :
    ∃ e, db.migrate scans = (some e, db) := by
  obtain ⟨hfails, hrenames⟩ := db.migrateSamples_spec scans
  unfold migrate migrationStatements
  rw [Retry.attempt_cons]
  by_cases hsamples : KeysCollide db.samples.keys
  · obtain ⟨e, he⟩ := hfails hsamples
    rw [he]
    exact ⟨e, rfl⟩
  · obtain ⟨samples, hok, -⟩ := hrenames hsamples
    obtain ⟨e, he⟩ := (Database.migrateEnergy_spec scans { db with samples := samples }).1
      (h.resolve_left hsamples)
    rw [hok, Except.bind, Retry.attempt_cons, he]
    exact ⟨e, rfl⟩

/-- What becomes of a record of a device. -/
theorem renamed_of_isOldId {t : Telemetry} (h : isOldId t.deviceId = true) :
    { t with deviceId := renamedId t.deviceId } = t.renamed := by
  rw [Telemetry.renamed, newId_of_isOldId h]

/-- And so is the sample that has it. -/
theorem renamed_of_not_isOldId {t : Telemetry} (h : isOldId t.deviceId = false) :
    t.renamed = t := by
  rw [Telemetry.renamed, newId_of_not_isOldId h]

/-- A row of `incidents` behind both statements about them. -/
theorem rename_incident {r : IncidentRow} (h : r.json.deviceId = r.device) :
    (if isOldId (if isOldId r.device then r.renameDevice else r).triggerDevice then
        (if isOldId r.device then r.renameDevice else r).renameTrigger
      else if isOldId r.device then r.renameDevice else r) =
      { r with device := newId r.device, json := r.json.renamed } := by
  have htrigger : (if isOldId r.device then r.renameDevice else r).triggerDevice =
      r.json.triggerSample.deviceId := by
    split_ifs <;> rfl
  rw [htrigger]
  obtain ⟨device, kind, startMs, endMs, ackMs, json⟩ := r
  obtain rfl : json.deviceId = device := h
  unfold Incident.renamed Telemetry.renamed newId
  split_ifs <;> rfl

/-- The batch whose first two statements succeed. The others update columns that are no
keys, so they cannot fail. -/
theorem Database.migrate_of_ok {db : Database} {scans : Scans}
    {samples : Table (String × String × ℤ) SampleRow} {energy : Table (String × ℤ) EnergyRow}
    (hsamples : db.migrateSamples scans = .ok { db with samples := samples })
    (henergy : Database.migrateEnergy scans { db with samples := samples } =
      .ok { db with samples := samples, energy := energy }) :
    db.migrate scans = (none,
      { db with
        samples := samples
        energy := energy
        incidents := (db.incidents.updateWhere (fun r => isOldId r.device)
          IncidentRow.renameDevice).updateWhere (fun r => isOldId r.triggerDevice)
          IncidentRow.renameTrigger
        evidence := db.evidence.updateWhere (fun t => isOldId t.deviceId)
          fun t => { t with deviceId := renamedId t.deviceId } }) := by
  unfold migrate migrationStatements
  rw [Retry.attempt_cons, hsamples, Except.bind, Retry.attempt_cons, henergy]
  rfl

/-- **Otherwise it commits**, and only ids have changed. The statements about incidents
and evidence set no key, and do not fail. -/
theorem Database.migrate_of_not_collides {db : Database} (hdb : db.Consistent)
    (h : ¬db.Collides) (scans : Scans) :
    ∃ db', db.migrate scans = (none, db') ∧ db.Renames db' := by
  obtain ⟨hs, he⟩ := not_or.1 h
  obtain ⟨samples, hsamples, hsampleRows⟩ := (db.migrateSamples_spec scans).2 hs
  obtain ⟨energy, henergy, henergyRows⟩ :=
    (Database.migrateEnergy_spec scans { db with samples := samples }).2 he
  refine ⟨_, Database.migrate_of_ok hsamples henergy, ⟨?_, henergyRows, ?_, ?_, rfl, rfl⟩⟩
  · refine hsampleRows.trans (List.map_congr_left fun kr hkr => ?_)
    have hid := hdb.samples kr hkr
    cases hold : isOldId kr.1.1 with
    | true => rw [if_pos rfl, newId_of_isOldId hold, SampleRow.renameDevice, ← hid,
        renamed_of_isOldId (hid ▸ hold)]
    | false => rw [if_neg Bool.false_ne_true, newId_of_not_isOldId hold,
        renamed_of_not_isOldId (hid ▸ hold)]
  · simp only [Table.updateWhere, List.map_map]
    refine List.map_congr_left fun kr hkr => ?_
    exact Prod.ext rfl (rename_incident (hdb.incidents kr hkr))
  · refine List.map_congr_left fun kr _ => Prod.ext rfl ?_
    dsimp only
    split_ifs with hold
    · exact renamed_of_isOldId hold
    · exact (renamed_of_not_isOldId (by simpa using hold)).symm

/-! ### What it leaves -/

namespace Database

variable {db db' : Database}

/-- **No old id is left.** A new id is none of the old ones, so that a renamed row is
not renamed again. -/
theorem Renames.current (h : db.Renames db') : db'.Current := by
  refine ⟨fun kr hkr => ?_, fun kr hkr => ?_, fun kr hkr => ?_, fun kr hkr => ?_⟩
  · rw [h.samples] at hkr
    obtain ⟨kr, -, rfl⟩ := List.mem_map.1 hkr
    exact ⟨isOldId_newId _, isOldId_newId _⟩
  · rw [h.energy] at hkr
    obtain ⟨kr, -, rfl⟩ := List.mem_map.1 hkr
    exact isOldId_newId _
  · rw [h.incidents] at hkr
    obtain ⟨kr, -, rfl⟩ := List.mem_map.1 hkr
    exact ⟨isOldId_newId _, isOldId_newId _, isOldId_newId _⟩
  · rw [h.evidence] at hkr
    obtain ⟨kr, -, rfl⟩ := List.mem_map.1 hkr
    exact isOldId_newId _

/-- The ids still agree. -/
theorem Renames.consistent (hdb : db.Consistent) (h : db.Renames db') : db'.Consistent := by
  refine ⟨fun kr hkr => ?_, fun kr hkr => ?_⟩
  · rw [h.samples] at hkr
    obtain ⟨kr, hmem, rfl⟩ := List.mem_map.1 hkr
    exact congrArg newId (hdb.samples kr hmem)
  · rw [h.incidents] at hkr
    obtain ⟨kr, hmem, rfl⟩ := List.mem_map.1 hkr
    exact congrArg newId (hdb.incidents kr hmem)

/-- Incidents keep their acknowledgements. -/
theorem Renames.ackMs (h : db.Renames db') (id : String) :
    (db'.incidents.find? id).map IncidentRow.ackMs =
      (db.incidents.find? id).map IncidentRow.ackMs := by
  rw [Table.find?, Table.find?, h.incidents, List.find?_map]
  simp only [Option.map_map]
  rfl

/-- Without an old id there is nothing to rename, in the keys or in the bodies. So a
second run of the script changes nothing. -/
theorem Current.eq_of_renames (hdb : db.Current) (h : db.Renames db') : db' = db := by
  have hsamples : db'.samples = db.samples := by
    refine Table.eq_of_rows_map h.samples fun kr hkr => ?_
    obtain ⟨hkey, hjson⟩ := hdb.samples kr hkr
    rw [newId_of_not_isOldId hkey, renamed_of_not_isOldId hjson]
  have henergy : db'.energy = db.energy := by
    refine Table.eq_of_rows_map h.energy fun kr hkr => ?_
    rw [newId_of_not_isOldId (hdb.energy kr hkr)]
  have hincidents : db'.incidents = db.incidents := by
    refine Table.eq_of_rows_map h.incidents fun kr hkr => ?_
    obtain ⟨hdevice, hjson, htrigger⟩ := hdb.incidents kr hkr
    rw [newId_of_not_isOldId hdevice, Incident.renamed, newId_of_not_isOldId hjson,
      renamed_of_not_isOldId htrigger]
  have hevidence : db'.evidence = db.evidence := by
    refine Table.eq_of_rows_map h.evidence fun kr hkr => ?_
    rw [renamed_of_not_isOldId (hdb.evidence kr hkr)]
  obtain ⟨samples, energy, tariffs, incidents, evidence, policy⟩ := db
  obtain ⟨samples', energy', tariffs', incidents', evidence', policy'⟩ := db'
  exact Database.mk.injEq .. ▸ ⟨hsamples, henergy, h.tariffs, hincidents, hevidence, h.policy⟩

/-- A key that collides has an old id. -/
theorem Current.not_collides (hdb : db.Current) : ¬db.Collides := by
  rintro (⟨k, hk, hold, -⟩ | ⟨k, hk, hold, -⟩)
  · obtain ⟨kr, hkr, rfl⟩ := List.mem_map.1 hk
    exact Bool.false_ne_true ((hdb.samples kr hkr).1.symm.trans hold)
  · obtain ⟨kr, hkr, rfl⟩ := List.mem_map.1 hk
    exact Bool.false_ne_true ((hdb.energy kr hkr).symm.trans hold)

/-- **Another run changes nothing.** No row matches the statements any more. -/
theorem Current.migrate (hdb : db.Current) (hconsistent : db.Consistent) (scans : Scans) :
    db.migrate scans = (none, db) := by
  obtain ⟨db', hmigrate, hrenames⟩ :=
    migrate_of_not_collides hconsistent hdb.not_collides scans
  rw [hmigrate, hdb.eq_of_renames hrenames]

/-! ### The histories -/

/-- Only an old id becomes its new id, if no other has it. -/
theorem newId_eq_renamedId_iff {id other : String} (hold : isOldId id = true)
    (hother : other ≠ renamedId id) : newId other = renamedId id ↔ other = id := by
  constructor
  · intro h
    cases hnew : isOldId other with
    | true =>
        rw [newId_of_isOldId hnew] at h
        exact renamedId_inj hnew hold h
    | false =>
        rw [newId_of_not_isOldId hnew] at h
        exact absurd h hother
  · rintro rfl
    exact newId_of_isOldId hold

/-- The minutes of an old device are found under its new id, if there were none there
before. -/
theorem Renames.minuteRows (h : db.Renames db') {id : String} (hold : isOldId id = true)
    (hnone : ∀ k ∈ db.energy.keys, k.1 ≠ renamedId id) (fromMs toMs : ℤ) :
    db'.minuteRows (renamedId id) fromMs toMs = db.minuteRows id fromMs toMs := by
  unfold Database.minuteRows
  rw [h.energy, List.filter_map, List.map_map]
  congr 2
  refine List.filter_congr fun kr hkr => ?_
  simp only [Function.comp_apply,
    newId_eq_renamedId_iff hold (hnone kr.1 (List.mem_map_of_mem hkr))]

/-- The summaries of an id. -/
theorem Renames.summary (h : db.Renames db') {id : String} (hold : isOldId id = true)
    (hnone : ∀ k ∈ db.energy.keys, k.1 ≠ renamedId id) (zones : String → Except String Zone)
    (fromMs toMs : ℤ) (period timezone : String) :
    db'.summary zones (renamedId id) fromMs toMs period timezone =
      db.summary zones id fromMs toMs period timezone := by
  have htariffs : db'.tariffList = db.tariffList := by
    rw [tariffList, tariffsByTime, h.tariffs]
    rfl
  rw [Database.summary, Database.summary, htariffs, h.minuteRows hold hnone]

/-- The samples of an id are found under its new one, in the same order and with their
bodies renamed, if the new id had none of its own before. -/
theorem Renames.sampleList (h : db.Renames db') {id : String} (hold : isOldId id = true)
    (hnone : ∀ k ∈ db.samples.keys, k.1 ≠ renamedId id) (fromMs toMs : ℤ) (limit : ℕ) :
    db'.sampleList (renamedId id) fromMs toMs limit =
      (db.sampleList id fromMs toMs limit).map (List.map Telemetry.renamed) := by
  unfold Database.sampleList
  split_ifs with hquery
  · let rename (r : SampleRow) : SampleRow := { r with json := r.json.renamed }
    have hfilter : (db'.samples.rows.filter fun r =>
        r.1.1 = renamedId id ∧ fromMs ≤ r.2.atMs ∧ r.2.atMs < toMs).map Prod.snd =
        ((db.samples.rows.filter fun r =>
          r.1.1 = id ∧ fromMs ≤ r.2.atMs ∧ r.2.atMs < toMs).map Prod.snd).map rename := by
      rw [h.samples, List.filter_map, List.map_map, List.map_map]
      congr 1
      refine List.filter_congr fun kr hkr => ?_
      simp only [Function.comp_apply,
        newId_eq_renamedId_iff hold (hnone kr.1 (List.mem_map_of_mem hkr))]
    rw [hfilter, ← List.map_insertionSort (fun a b : SampleRow => a.atMs ≤ b.atMs) _ rename _
      fun a _ b _ => Iff.rfl, ← List.map_take, List.map_map, Except.map, List.map_map]
    rfl
  · rfl

/-- **A history that is alone is found under its new id.** No row with that id has been
there, so what is found there is what has been renamed. -/
theorem Renames.foundUnder (h : db.Renames db') {id : String} (hold : isOldId id = true)
    (hsamples : ∀ k ∈ db.samples.keys, k.1 ≠ renamedId id)
    (henergy : ∀ k ∈ db.energy.keys, k.1 ≠ renamedId id) : db.FoundUnder db' id :=
  ⟨h.summary hold henergy, h.sampleList hold hsamples⟩

/-- **Histories that are separate are kept.** Each of them is alone under its new id. -/
theorem Separate.keptBy (hseparate : db.Separate) (hdb : db.Consistent) (hfree : ¬db.Collides)
    (scans : Scans) : db.KeptBy scans := by
  obtain ⟨db', hmigrate, h⟩ := migrate_of_not_collides hdb hfree scans
  exact .inr ⟨db', hmigrate, h.current, h, fun id hid hold =>
    h.foundUnder hold (hseparate id hid hold).1 (hseparate id hid hold).2, h.ackMs,
    h.current.migrate (h.consistent hdb)⟩

/-! ### Histories that are merged -/

/-- What the daemon writes: whole minutes, no more tariffs than `set_tariff` allows,
and not so many samples of an id at one time that a query must drop some. -/
structure AsWritten (db : Database) : Prop where
  /-- `record` credits whole minutes. -/
  minutes : ∀ k ∈ db.energy.keys, k.2 % 60000 = 0
  /-- `set_tariff` allows 4096 of them. -/
  tariffs : db.tariffs.rows.length ≤ maxTariffs
  /-- A query of one millisecond shows all of its samples. -/
  samples : ∀ id at_, (db.samples.rows.filter fun r =>
    r.1.1 = id ∧ at_ ≤ r.2.atMs ∧ r.2.atMs < at_ + 1).length < 10000

/-- A stronger condition is met by fewer elements, if one of them tells the two apart. -/
theorem length_filter_lt {α : Type} {p q : α → Bool} {l : List α} (h : ∀ a, p a = true → q a = true)
    {a : α} (ha : a ∈ l) (hp : p a = false) (hq : q a = true) :
    (l.filter p).length < (l.filter q).length := by
  have hsub : (l.filter p).Sublist (l.filter q) := List.monotone_filter_right l h
  refine lt_of_le_of_ne hsub.length_le fun heq => ?_
  have hmem : a ∈ l.filter p := hsub.eq_of_length heq ▸ List.mem_filter.2 ⟨ha, hq⟩
  exact Bool.false_ne_true (hp.symm.trans (List.mem_filter.1 hmem).2)

/-- **A sample under a new id shows up among those that are found there.** So it was no
sample of the old id, and the history is not the same. -/
theorem Renames.samples_ne (h : db.Renames db') (hdb : db.AsWritten) {id : String}
    (hold : isOldId id = true) (hfound : db.FoundUnder db' id) :
    ∀ k ∈ db.samples.keys, k.1 ≠ renamedId id := by
  intro k hk hid
  obtain ⟨⟨k, r⟩, hkr, rfl⟩ := List.mem_map.1 hk
  have hlist := hfound.2 r.atMs (r.atMs + 1) 10000
  have hquery : r.atMs < r.atMs + 1 ∧ 1 ≤ 10000 ∧ 10000 ≤ 10000 := by omega
  rw [Database.sampleList, Database.sampleList, if_pos hquery, if_pos hquery] at hlist
  have hlength := congrArg List.length (Except.ok.inj hlist)
  simp only [List.length_map, List.length_take, List.length_insertionSort, h.samples,
    List.filter_map] at hlength
  have hfew := hdb.samples id r.atMs
  have hmore : (db.samples.rows.filter fun kr =>
      kr.1.1 = id ∧ r.atMs ≤ kr.2.atMs ∧ kr.2.atMs < r.atMs + 1).length <
      (db.samples.rows.filter fun kr =>
        newId kr.1.1 = renamedId id ∧ r.atMs ≤ kr.2.atMs ∧ kr.2.atMs < r.atMs + 1).length := by
    refine length_filter_lt (fun kr hkr => ?_) hkr ?_ ?_
    · obtain ⟨rfl, htime⟩ := of_decide_eq_true hkr
      exact decide_eq_true ⟨newId_of_isOldId hold, htime⟩
    · refine decide_eq_false fun heq => ?_
      rw [← heq.1, hid] at hold
      exact Bool.false_ne_true ((isOldId_renamedId id).symm.trans hold)
    · refine decide_eq_true ⟨?_, le_rfl, lt_add_one _⟩
      rw [hid, newId_of_not_isOldId (isOldId_renamedId id)]
  simp only [Function.comp_def] at hlength
  omega

/-- **So does a minute.** Its energy would be counted with that of the old id. If the
new id had a row of a minute and the old one none, then a summary of just that minute
would be empty before and not after. -/
theorem Renames.energy_ne (h : db.Renames db') (hdb : db.AsWritten) (hfree : ¬db.Collides)
    {id : String} (hold : isOldId id = true)
    (hfound : db.FoundUnder db' id) : ∀ k ∈ db.energy.keys, k.1 ≠ renamedId id := by
  rintro ⟨device, minute⟩ hk rfl
  have hzero : minute % 60000 = 0 := hdb.minutes _ hk
  have hrange : minute < minute + 60000 ∧ minute % 60000 = 0 ∧ (minute + 60000) % 60000 = 0 := by
    omega
  have htariffs : db.tariffList = .ok (db.tariffsByTime.take 4097) := by
    have hlength : (db.tariffsByTime.take 4097).length ≤ maxTariffs := by
      have hfew := hdb.tariffs
      rw [List.length_take, tariffsByTime, List.length_insertionSort, List.length_map]
      omega
    exact if_pos hlength
  have hnone : db.minuteRows id minute (minute + 60000) = [] := by
    refine List.eq_nil_iff_forall_not_mem.2 fun row hmem => hfree (.inr ?_)
    obtain ⟨other, r⟩ := row
    obtain ⟨hfind, hle, hlt⟩ := (mem_minuteRows ..).1 hmem
    have hkey : (id, other) ∈ db.energy.keys := Table.find?_isSome_iff.1 (by rw [hfind]; rfl)
    have hother : other % 60000 = 0 := hdb.minutes _ hkey
    obtain rfl : other = minute := by omega
    exact ⟨_, hkey, hold, hk⟩
  have hsummary := hfound.1 (fun _ => .ok fun _ => 0) minute (minute + 60000) "year" "UTC"
  rw [summary_eq_loop hrange rfl rfl htariffs, hnone] at hsummary
  obtain ⟨_, _, _, -, -, -, -, -, hrows⟩ := summary_rows hsummary
  obtain ⟨⟨k, r⟩, hkr, rfl⟩ := List.mem_map.1 hk
  have hfind : db'.energy.find? (renamedId id, minute) = some r := by
    rw [Table.find?_eq_some_iff, h.energy]
    refine List.mem_map.2 ⟨_, hkr, ?_⟩
    rw [newId_of_not_isOldId (isOldId_renamedId id)]
  obtain ⟨row, hrow, -⟩ := hrows.complete (minute, r)
    ((mem_minuteRows ..).2 ⟨hfind, le_rfl, by omega⟩)
  cases hrow

/-- **A database that is kept has separate histories.** A row under a new id that had
been there before would have been found with the others. -/
theorem KeptBy.separate {scans : Scans} (h : db.KeptBy scans) (hdb : db.AsWritten)
    (hfree : ¬db.Collides) : db.Separate := by
  obtain ⟨hcollides, -⟩ | ⟨db', -, -, hrenames, hfound, -⟩ := h
  · exact absurd hcollides hfree
  · exact fun id hid hold => ⟨hrenames.samples_ne hdb hold (hfound id hid hold),
      hrenames.energy_ne hdb hfree hold (hfound id hid hold)⟩

end Database

/-- Rows in the order of their insertion. -/
def inOrder : Scans where
  samples := id
  energy := id
  samples_perm := .refl
  energy_perm := .refl

/-- Two minutes of one supply: the daemon of the second one knew its new id. -/
def continuedHistory : Database where
  energy := ⟨[(("msi-808c-test", 0), ⟨15000000000, 16666666667, 60000, 60000⟩),
    (("usb-0db0-808c-test", 60000), ⟨15000000000, 16666666667, 60000, 60000⟩)], by decide⟩

/-- **It does not keep a history that goes on**: both minutes are under the new id.
Their keys are different, so that no statement fails. -/
theorem continued_history_is_merged :
    continuedHistory.Consistent ∧ ¬continuedHistory.KeptBy inOrder := by
  refine ⟨⟨fun kr hkr => (by cases hkr), fun kr hkr => (by cases hkr)⟩, fun h => ?_⟩
  have hfree : ¬continuedHistory.Collides := by
    unfold Database.Collides KeysCollide
    decide +kernel
  have hwritten : continuedHistory.AsWritten :=
    ⟨by decide, Nat.zero_le _, fun _ _ => Nat.zero_lt_succ _⟩
  have hseparate := h.separate hwritten hfree "msi-808c-test" (by decide) (by decide +kernel)
  exact hseparate.2 ("usb-0db0-808c-test", 60000) (by decide) (by decide +kernel)

/-- **The migration keeps every history that is alone.**  For every database whose
records have the ids of their columns: if a new key is there already the batch
fails and changes nothing, and if no history goes on under a new id already it does
all that it should.  In a database that the daemon has written it does so only then:
otherwise two histories are merged. -/
theorem migration_keeps_histories (scans : Scans) (db : Database) (hdb : db.Consistent) :
    (db.Collides ∨ db.Separate → db.KeptBy scans) ∧
      (db.AsWritten → (db.KeptBy scans ↔ db.Collides ∨ db.Separate)) := by
  have hkept : db.Collides ∨ db.Separate → db.KeptBy scans := by
    intro h
    by_cases hcollides : db.Collides
    · exact .inl ⟨hcollides, Database.migrate_of_collides hcollides scans⟩
    · exact (h.resolve_left hcollides).keptBy hdb hcollides scans
  refine ⟨hkept, fun hwritten => ⟨fun h => ?_, hkept⟩⟩
  by_cases hcollides : db.Collides
  · exact .inl hcollides
  · exact .inr (h.separate hwritten hcollides)

/-- A history with an old id and a sample of it, beside one with a new id. -/
def oldHistory : Database where
  samples := ⟨[(("msi-808c-test", "before-rename", 0),
    ⟨0, { simulatedSample 0 false with deviceId := "msi-808c-test" }⟩)], by decide⟩
  energy := ⟨[(("msi-808c-test", 0), ⟨15000000000, 16666666667, 60000, 60000⟩),
    (("usb-0db0-000c-test", 0), ⟨15000000000, 16666666667, 60000, 60000⟩)], by decide⟩

/-- The history of one old device, to which the script gives its new id. -/
theorem migration_keeps_histories_of_an_old_one : oldHistory.KeptBy inOrder := by
  refine (migration_keeps_histories inOrder oldHistory ⟨?_, ?_⟩).1 (.inr ?_)
  · decide
  · decide
  · unfold Database.Separate
    decide +kernel

end Railwatch
