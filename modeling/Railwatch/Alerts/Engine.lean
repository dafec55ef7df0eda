/-
# The alert engine

`src/alerts.rs`: the policy, the incident, and `AlertEngine` with its two entry
points `monitoring_lost` and `observe`.

The three `BTreeMap`s of the engine are `Std.TreeMap`s, so iterating over the
conditions goes in the order of the kinds' texts.  A fresh
`uuid::Uuid::new_v4()` is drawn only where an incident is opened, and one call
opens each kind at most once: a call takes `uuid`, the id it draws for each
kind it may open.

`settle` is one turn of the loop at the end of `observe`.  `Slot` is what that
loop can see of one kind, and `settleSlot` the same turn seen there; the turns
for other kinds leave a slot alone (`slot_settle_of_ne`), so every law about
one kind reads off `slot_observe` and `observe_fst`.
-/

import Railwatch.Core.Model
import Railwatch.Core.Text

namespace Railwatch

open Std (TreeMap)

/-- `Policy`: the software imbalance rule. The numbers are those of the source's types,
currents in milliamperes and times in milliseconds; what is a sensible policy is said by
`validate`. -/
structure Policy where
  /-- Whether there is a rule at all. -/
  imbalanceEnabled : Bool := true
  /-- Below this total a connector is not looked at. -/
  minimumConnectorMa : ℤ := 6000
  /-- From this deviation on a conductor is out of line. -/
  deviationPercent : ℕ := 40
  /-- And up to this one it is in line again. -/
  clearDeviationPercent : ℕ := 20
  /-- A smaller spread is no imbalance, whatever its percentage. -/
  minimumSpreadMa : ℤ := 500
  /-- For how long it has to last. -/
  triggerMs : ℕ := 3000
  /-- And for how long it has to be gone. -/
  recoveryMs : ℕ := 5000
  deriving DecidableEq, Repr

/-- `Policy::default`. -/
instance : Inhabited Policy := ⟨{}⟩

/-- `Policy::validate`. The checks are made in this order, and the first one that fails
is reported; the hysteresis and the two durations are one check each, as in the source. -/
def Policy.validate (p : Policy) : Except String Unit :=
  if ¬(1000 ≤ p.minimumConnectorMa ∧ p.minimumConnectorMa ≤ 100000) then
    .error "minimum connector load must be 1000..100000 mA"
  else if ¬((1 ≤ p.deviationPercent ∧ p.deviationPercent ≤ 500) ∧
      p.clearDeviationPercent < p.deviationPercent) then
    .error "invalid deviation hysteresis"
  else if ¬(1 ≤ p.minimumSpreadMa ∧ p.minimumSpreadMa ≤ 20000) then
    .error "invalid spread threshold"
  else if ¬((500 ≤ p.triggerMs ∧ p.triggerMs ≤ 60000) ∧
      (500 ≤ p.recoveryMs ∧ p.recoveryMs ≤ 60000)) then
    .error "durations must be 500..60000 ms"
  else .ok ()

/-- What `validate` accepts stays in the machine types. -/
theorem Policy.bounds_of_validate {p : Policy} (h : p.validate = .ok ()) :
    (1000 ≤ p.minimumConnectorMa ∧ p.minimumConnectorMa ≤ 100000) ∧
      p.deviationPercent ≤ 500 ∧ p.clearDeviationPercent < p.deviationPercent ∧
      (1 ≤ p.minimumSpreadMa ∧ p.minimumSpreadMa ≤ 20000) ∧
      p.triggerMs ≤ 60000 ∧ p.recoveryMs ≤ 60000 := by
  unfold Policy.validate at h
  split_ifs at h with h₁ h₂ h₃ h₄
  exact ⟨h₁, h₂.1.2, h₂.2, h₃, h₄.1.2, h₄.2.2⟩

/-- `Incident`. It has no recovery time while it is open, and no acknowledgement until
somebody makes one; the sample that opened it is kept with it, and for a software
incident the policy. -/
structure Incident where
  /-- A UUID. -/
  id : String
  deviceId : String
  /-- What is wrong; there is at most one open incident of a kind. -/
  kind : String
  /-- Who says so: the device, or the rule above. -/
  source : String
  severity : String
  message : String
  /-- The sample that opened it, by its wall clock. -/
  startedAtMs : ℤ
  /-- The one that ended it. -/
  recoveredAtMs : Option ℤ
  acknowledgedAtMs : Option ℤ
  /-- The rule as it was then, for an incident of the software. -/
  policy : Option Policy
  triggerSample : Telemetry
  deriving DecidableEq, Repr

/-- `AlertEngine`: the open incidents by kind, the times since which a kind is asserted
or clear, and the session and the time of the last sample. -/
structure AlertEngine where
  /-- The open incidents by their kinds. -/
  active : TreeMap String Incident := ∅
  /-- Since when a kind is asserted. -/
  pending : TreeMap String ℕ := ∅
  /-- And since when it is clear. -/
  recovering : TreeMap String ℕ := ∅
  /-- The session and the boot clock of the last sample. -/
  last : Option (String × ℕ) := none

/-- `AlertEngine::default`. -/
instance : Inhabited AlertEngine := ⟨{}⟩

/-- The kind `"monitoring.unavailable"`. -/
def monitoringUnavailable : String := "monitoring.unavailable"

/-- `format!("hardware.{name}")`. -/
def hardwareKind (name : String) : String := "hardware." ++ name

/-- `format!("safeguard.connector{}", c + 1)`. -/
def safeguardKind (c : ℕ) : String := "safeguard.connector" ++ toString (c + 1)

/-- `format!("software.connector{}.imbalance", c + 1)`. -/
def imbalanceKind (c : ℕ) : String := "software.connector" ++ toString (c + 1) ++ ".imbalance"

/-- The tuple `(asserted, clear, severity, message)` a sample says of one kind. -/
structure Condition where
  /-- It is wrong now. -/
  asserted : Bool
  /-- It is right now; neither may be so in between. -/
  clear : Bool
  severity : String
  message : String
  deriving DecidableEq, Repr

/-- The alarm group of a sample is usable: all 18 bytes arrived and the poll
did not report the group as failed. -/
def Telemetry.alarmsValid (t : Telemetry) : Bool :=
  t.alertsRaw.length == 18 && !t.groupErrors.any fun e => startsWith e "hardware_alerts"

/-- What one alarm byte says. -/
def alarmCondition (name : String) (raw : UInt8) : Condition :=
  ⟨raw != 0, true, "critical", "PSU reports " ++ name⟩

/-- The first loop of `observe`: one condition for each alarm byte. -/
def alarmConditions (t : Telemetry) : List (String × Condition) :=
  if t.alarmsValid then
    (tsAlerts.toList.zip t.alertsRaw).map fun a => (hardwareKind a.1, alarmCondition a.1 a.2)
  else []

/-- `desc` of the second loop of `observe`. -/
def protectionStatus (raw : UInt8) : String :=
  match raw with
  | 0 => "normal"
  | 1 => "overcurrent"
  | 2 => "current imbalance"
  | 3 => "OCP_18A status"
  | _ => "unknown protection status"

/-- What one fault snapshot says. -/
def safeguardCondition (c : ℕ) (s : FaultSnapshot) : Condition :=
  ⟨s.statusRaw != 0, true, "critical",
    "Connector " ++ toString (c + 1) ++ ": " ++ protectionStatus s.statusRaw ++ " (" ++
      toString s.statusRaw ++ ")"⟩

/-- The second loop of `observe`: one condition for each fault snapshot. -/
def safeguardConditions (t : Telemetry) : List (String × Condition) :=
  t.safeguards.mapIdx fun c s => (safeguardKind c, safeguardCondition c s)

/-- The imbalance of one connector is asserted under the policy. -/
def assertedUnder (p : Policy) (values : Vector ℤ 6) : Bool :=
  p.imbalanceEnabled && decide (p.minimumConnectorMa ≤ values.toList.sum) &&
    decide (p.minimumSpreadMa ≤ (imbalance values).1) &&
    decide (p.deviationPercent ≤ (imbalance values).2)

/-- The imbalance of one connector is clear under the policy. -/
def clearUnder (p : Policy) (values : Vector ℤ 6) : Bool :=
  !p.imbalanceEnabled || !decide (p.minimumConnectorMa ≤ values.toList.sum) ||
    decide ((imbalance values).2 ≤ p.clearDeviationPercent) ||
    decide ((imbalance values).1 < p.minimumSpreadMa)

/-- What the conductor currents of one connector say. -/
def imbalanceCondition (p : Policy) (c : ℕ) (values : Vector ℤ 6) : Condition :=
  ⟨assertedUnder p values, clearUnder p values, "warning",
    "Connector " ++ toString (c + 1) ++ " current deviation " ++ toString (imbalance values).2 ++
      "%, spread " ++ thousandths (imbalance values).1 ++ " A"⟩

/-- The third loop of `observe`: one condition for each connector. -/
def imbalanceConditions (t : Telemetry) (p : Policy) : List (String × Condition) :=
  t.connectorCurrentsMa.mapIdx fun c values => (imbalanceKind c, imbalanceCondition p c values)

/-- What the three loops insert, in order. -/
def conditionList (t : Telemetry) (p : Policy) : List (String × Condition) :=
  alarmConditions t ++ safeguardConditions t ++ imbalanceConditions t p

/-- `conditions` of `observe` after its three loops. -/
def conditions (t : Telemetry) (p : Policy) : TreeMap String Condition :=
  (∅ : TreeMap String Condition).insertMany (conditionList t p)

/-- The incident `observe` opens for a kind. What the kind starts with decides its
source, and only an incident of the software keeps the policy it was judged by; hardware
reports are not judged by one. -/
def openIncident (uuid : String → String) (t : Telemetry) (p : Policy) (kind : String)
    (c : Condition) : Incident where
  id := uuid kind
  deviceId := t.deviceId
  kind := kind
  source := if !startsWith kind "software." then "hardware" else "software"
  severity := c.severity
  message := c.message
  startedAtMs := t.capturedAtMs
  recoveredAtMs := none
  acknowledgedAtMs := none
  policy := if !startsWith kind "software." then none else some p
  triggerSample := t

/-- One turn of the last loop of `observe`: what the condition of one kind does
to the engine, and the event it emits. -/
def AlertEngine.settle (uuid : String → String) (t : Telemetry) (p : Policy) (e : AlertEngine)
    (kind : String) (c : Condition) : Option Incident × AlertEngine :=
  let hardware := !startsWith kind "software."
  if c.asserted then
    let start := e.pending[kind]?.getD t.monotonicMs
    let e := { e with
      recovering := e.recovering.erase kind
      pending := e.pending.insertIfNew kind t.monotonicMs }
    if (hardware || decide (p.triggerMs ≤ t.monotonicMs - start)) && !e.active.contains kind then
      let event := openIncident uuid t p kind c
      (some event, { e with active := e.active.insert kind event })
    else (none, e)
  else
    let e := { e with pending := e.pending.erase kind }
    if c.clear then
      let at_ := e.recovering[kind]?.getD t.monotonicMs
      let e := { e with recovering := e.recovering.insertIfNew kind t.monotonicMs }
      if hardware || decide (p.recoveryMs ≤ t.monotonicMs - at_) then
        (e.active[kind]?.map fun event => { event with recoveredAtMs := some t.capturedAtMs },
          { e with active := e.active.erase kind, recovering := e.recovering.erase kind })
      else (none, e)
    else (none, { e with recovering := e.recovering.erase kind })

/-- A sample of another session, or more than `max_gap_ms` after the last one,
starts the timers afresh. -/
def AlertEngine.interrupted (e : AlertEngine) (t : Telemetry) (maxGapMs : ℕ) : Bool :=
  match e.last with
  | none => true
  | some (session, time) => session != t.sessionId || decide (maxGapMs < t.monotonicMs - time)

/-- The engine as the last loop of `observe` finds it: timers reset on an
interruption, the sample noted, `monitoring.unavailable` gone. -/
def AlertEngine.enter (e : AlertEngine) (t : Telemetry) (maxGapMs : ℕ) : AlertEngine where
  active := e.active.erase monitoringUnavailable
  pending := if e.interrupted t maxGapMs then ∅ else e.pending
  recovering := if e.interrupted t maxGapMs then ∅ else e.recovering
  last := some (t.sessionId, t.monotonicMs)

/-- The last loop of `observe`, over conditions in the order of their kinds. -/
def AlertEngine.settleAll (uuid : String → String) (t : Telemetry) (p : Policy) :
    AlertEngine → List (String × Condition) → List Incident × AlertEngine
  | e, [] => ([], e)
  | e, (kind, c) :: rest =>
      let (event, e) := e.settle uuid t p kind c
      let (events, e) := e.settleAll uuid t p rest
      (event.toList ++ events, e)

/-- The event that ends a monitoring outage. -/
def AlertEngine.restored (e : AlertEngine) (t : Telemetry) : Option Incident :=
  e.active[monitoringUnavailable]?.map fun i => { i with recoveredAtMs := some t.capturedAtMs }

/-- `AlertEngine::observe`. -/
def AlertEngine.observe (uuid : String → String) (e : AlertEngine) (t : Telemetry) (p : Policy)
    (maxGapMs : ℕ) : List Incident × AlertEngine :=
  let (events, e') := (e.enter t maxGapMs).settleAll uuid t p (conditions t p).toList
  ((e.restored t).toList ++ events, e')

/-- `AlertEngine::monitoring_lost`. The timers are dropped, since no condition is
observed across an outage. An outage that is already open is not opened again, so a
device that stays away has one incident. -/
def AlertEngine.monitoringLost (uuid : String → String) (e : AlertEngine) (last : Telemetry)
    (message : String) (at_ : ℤ) : Option Incident × AlertEngine :=
  let e := { e with pending := ∅, recovering := ∅ }
  if e.active.contains monitoringUnavailable then (none, e)
  else
    let event : Incident :=
      { id := uuid monitoringUnavailable
        deviceId := last.deviceId
        kind := monitoringUnavailable
        source := "monitor"
        severity := "warning"
        message := "Monitoring interrupted: " ++ message
        startedAtMs := at_
        recoveredAtMs := none
        acknowledgedAtMs := none
        policy := none
        triggerSample := last }
    (some event, { e with active := e.active.insert monitoringUnavailable event })

end Railwatch
