/-
# The answer to `Snapshot`

What `serde_json` makes of a `Snapshot` and of everything in it, and the value that
`dispatch` sends for it: an object with the snapshot, the age of its sample and whether it
is stale.

`serde` writes a struct as an object with its fields, an absent value as `null`, and an
array or a `Vec` as an array.  Unsigned and signed numbers are integers alike.

`Json.IsSnapshotAnswer` says what of it the daemon's clients rely on.  Every answer of
`dispatch` to `Snapshot` has it, whatever the snapshot holds.
-/

import Railwatch.Ipc.Connection

namespace Railwatch

/-- An `Option`. -/
def jsonOrNull {α : Type} (json : α → Json) (o : Option α) : Json := (o.map json).getD .null

/-- An unsigned number. -/
def jsonNat (n : ℕ) : Json := .int n

/-- A byte. -/
def jsonByte (b : UInt8) : Json := jsonNat b.toNat

/-- A list of values. -/
def jsonList {α : Type} (json : α → Json) (values : List α) : Json := .arr (values.map json)

/-- The currents of a connector. -/
def jsonCurrents (currents : Vector ℤ 6) : Json := jsonList .int currents.toList

/-! ### A sample -/

/-- `Rail`. -/
def Rail.json (r : Rail) : Json :=
  .obj [("label", .str r.label), ("voltage_mv", .int r.voltageMv),
    ("current_ma", .int r.currentMa)]

/-- `Fan`. -/
def Fan.json (f : Fan) : Json :=
  .obj [("rpm", .int f.rpm), ("mode_raw", jsonOrNull jsonByte f.modeRaw),
    ("requested_duty_percent", jsonOrNull jsonByte f.requestedDutyPercent),
    ("actual_duty_percent", jsonOrNull jsonByte f.actualDutyPercent),
    ("calculated_duty_percent", jsonOrNull jsonByte f.calculatedDutyPercent),
    ("zero_fan", jsonOrNull .bool f.zeroFan)]

/-- `FaultSnapshot`. -/
def FaultSnapshot.json (s : FaultSnapshot) : Json :=
  .obj [("status_raw", jsonByte s.statusRaw), ("runtime_seconds", jsonNat s.runtimeSeconds),
    ("lifetime_seconds", jsonNat s.lifetimeSeconds), ("currents_ma", jsonCurrents s.currentsMa)]

/-- `Telemetry`, with its fields in the order of the source. A group that was not read
is an empty array or `null`. -/
def Telemetry.json (t : Telemetry) : Json :=
  .obj [("device_id", .str t.deviceId), ("session_id", .str t.sessionId),
    ("sequence", jsonNat t.sequence), ("captured_at_ms", .int t.capturedAtMs),
    ("monotonic_ms", jsonNat t.monotonicMs), ("power_uw", .int t.powerUw),
    ("efficiency_millipercent", .int t.efficiencyMillipercent),
    ("temperature_mc", .int t.temperatureMc), ("rails", jsonList Rail.json t.rails),
    ("connector_currents_ma", jsonList jsonCurrents t.connectorCurrentsMa),
    ("fan", t.fan.json), ("alerts_raw", jsonList jsonByte t.alertsRaw),
    ("alert_names", jsonList .str t.alertNames),
    ("safeguards", jsonList FaultSnapshot.json t.safeguards),
    ("session_seconds", jsonOrNull jsonNat t.sessionSeconds),
    ("lifetime_seconds", jsonOrNull jsonNat t.lifetimeSeconds),
    ("input_voltage_mv", jsonOrNull .int t.inputVoltageMv),
    ("group_errors", jsonList .str t.groupErrors)]

/-! ### A snapshot -/

/-- `DeviceInfo`. -/
def DeviceInfo.json (d : DeviceInfo) : Json :=
  .obj [("id", .str d.id), ("model", .str d.model), ("pid", jsonNat d.pid),
    ("serial", jsonOrNull .str d.serial), ("revision", jsonOrNull .str d.revision),
    ("path", .str d.path), ("backend", .str d.backend), ("simulated", .bool d.simulated),
    ("capabilities", jsonList .str d.capabilities)]

/-- `Policy`. -/
def Policy.json (p : Policy) : Json := .obj p.entries

/-- `Incident`. -/
def Incident.json (i : Incident) : Json :=
  .obj [("id", .str i.id), ("device_id", .str i.deviceId), ("kind", .str i.kind),
    ("source", .str i.source), ("severity", .str i.severity), ("message", .str i.message),
    ("started_at_ms", .int i.startedAtMs),
    ("recovered_at_ms", jsonOrNull .int i.recoveredAtMs),
    ("acknowledged_at_ms", jsonOrNull .int i.acknowledgedAtMs),
    ("policy", jsonOrNull Policy.json i.policy), ("trigger_sample", i.triggerSample.json)]

/-- `Snapshot`, with its fields in the order of the source. The device and the sample
are `null` until there is one. -/
def Snapshot.json (s : Snapshot) : Json :=
  .obj [("device", jsonOrNull DeviceInfo.json s.device),
    ("telemetry", jsonOrNull Telemetry.json s.telemetry), ("connected", .bool s.connected),
    ("last_error", jsonOrNull .str s.lastError),
    ("storage_error", jsonOrNull .str s.storageError),
    ("dropped_samples", jsonNat s.droppedSamples),
    ("dropped_incident_updates", jsonNat s.droppedIncidentUpdates),
    ("dropped_evidence_samples", jsonNat s.droppedEvidenceSamples),
    ("truncated_evidence_windows", jsonNat s.truncatedEvidenceWindows),
    ("active_incidents", jsonList Incident.json s.activeIncidents),
    ("policy_revision", jsonNat s.policyRevision), ("policy", s.policy.json),
    ("last_persisted_at_ms", jsonOrNull .int s.lastPersistedAtMs),
    ("started_at_ms", .int s.startedAtMs)]

/-- The value that is sent for a snapshot. -/
def snapshotAnswer (shown : Snapshot) (ageMs : Option ℕ) (stale : Bool) : Json :=
  .obj [("snapshot", shown.json), ("age_ms", jsonOrNull jsonNat ageMs), ("stale", .bool stale)]

/-- A value that `dispatch` answers a call of `Snapshot` with. -/
def Json.IsSnapshotAnswer (v : Json) : Prop :=
  ∃ env admin service shown ageMs stale,
    dispatch env snapshotRequest admin service = .ok (.snapshot shown ageMs stale) service ∧
      v = snapshotAnswer shown ageMs stale

/-- An absent value is `null`, and one that is an object stays one. -/
theorem jsonOrNull_object {α : Type} {json : α → Json}
    (h : ∀ a, ∃ fields, json a = .obj fields) (o : Option α) :
    jsonOrNull json o = .null ∨ ∃ fields, jsonOrNull json o = .obj fields := by
  cases o with
  | none => exact .inl rfl
  | some a => exact .inr (h a)

end Railwatch
