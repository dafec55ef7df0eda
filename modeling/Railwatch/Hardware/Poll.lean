/-
# One poll

`HidDevice::telemetry` and `crates/hardware/src/decode.rs`: a poll reads the
telemetry report and six optional groups.  A group whose read fails leaves its
fields absent and adds its error to the sample; since every report that an
exchange returns has a payload to decode, nothing but the first read can fail a
poll (`optional_groups_are_independent`).

The sample is then a function of the outcomes of the seven reads alone (`sampleOf`),
whose fields each look at one outcome; this is how the independence of the groups is
stated.
-/

import Railwatch.Hardware.Freshness

namespace Railwatch

open Wire Effects

/-- `Family`: which wire format a product has. Only one of them is decoded. -/
inductive Family where
  | ts
  | t
  | p
  deriving DecidableEq, Repr

/-- A result of the wire format, as an error of the device. -/
def deviceResult {α : Type} : Result α → Except DeviceError α
  | .ok a => .ok a
  | .error (.error e) => .error (.error e.text)
  | .error .outOfRange => .error .outOfRange

/-- `decode_telemetry`. Only the TS family has a decoder. The numbers come from the wire
format, and every field that another read fills is empty; who the device is and when it
was asked is filled in by the caller. -/
def decodeTelemetry (report : Bytes) (family : Family) : Except DeviceError Telemetry := do
  if family ≠ .ts then
    .error (.error "this family requires its own qualified telemetry decoder")
  else
    let raw ← deviceResult (decodeTsTelemetry report)
    .ok {
      deviceId := ""
      sessionId := ""
      sequence := 0
      capturedAtMs := 0
      monotonicMs := 0
      powerUw := raw.powerUw
      efficiencyMillipercent := raw.efficiencyMillipercent
      temperatureMc := raw.temperatureMc
      rails := (raw.rails.toList.zip ["12V", "5V", "3.3V"]).map fun r =>
        ⟨r.2, r.1.voltageMv, r.1.currentMa⟩
      connectorCurrentsMa := raw.connectorCurrentsMa.toList
      fan := ⟨raw.fanRpm, none, none, none, none, none⟩
      alertsRaw := []
      alertNames := []
      safeguards := []
      sessionSeconds := none
      lifetimeSeconds := none
      inputVoltageMv := none
      groupErrors := [] }

/-- `decode_safeguards`. -/
def decodeSafeguards (report : Bytes) : Except DeviceError (List FaultSnapshot) := do
  let blocks ← deviceResult (decodeTsSafeguards report)
  .ok (blocks.toList.map fun s =>
    ⟨s.statusRaw, s.runtimeSeconds, s.lifetimeSeconds, s.currentsMa⟩)

/-- `HidDevice::read`. -/
def readCommand (script : UInt8 → Script) (command : UInt8) : Io Bytes := do
  let reply ← exchange readOp command [] (script command)
  pure reply.bytes

/-- The outcome of a call whose error is not passed on. -/
def attempt {α : Type} (x : Io α) : Io (Except String α) := fun h =>
  match x h with
  | .ok a h' => .ok (.ok a) h'
  | .error (.error e) h' => .ok (.error e) h'
  | .error .outOfRange h' => .error .outOfRange h'

/-- The error of a group is noted in the sample. -/
def Telemetry.groupError (t : Telemetry) (error : String) : Telemetry :=
  { t with groupErrors := t.groupErrors ++ [error] }

/-- The alerts, from the reply to command `0xe1`. The raw bytes are kept, and the names
of those that are set; a reply that cannot be decoded fails the whole poll, whereas a
read that fails is only noted as an error of the group. -/
def hardwareAlerts (t : Telemetry) : Except String Bytes → Io Telemetry
  | .ok r => do
      let p ← ofWire (response r readOp 0xe1 18)
      pure { t with
        alertsRaw := p
        alertNames := (p.zip tsAlerts.toList).filterMap fun vn =>
          if vn.1 ≠ 0 then some vn.2 else none }
  | .error e => pure (t.groupError ("hardware_alerts: " ++ e))

/-- The safeguards, from the reply to command `0xc1`. -/
def safeguardGroup (t : Telemetry) : Except String Bytes → Io Telemetry
  | .ok r => do
      let safeguards ← ofExcept (decodeSafeguards r)
      pure { t with safeguards := safeguards }
  | .error e => pure (t.groupError ("safeguards: " ++ e))

/-- The fan duties, from the reply to command `0x42`. They are percentages, and the last
byte is a flag; a reply out of these ranges sets no field and is noted as an error of
the group. -/
def fanDuty (t : Telemetry) : Except String Bytes → Io Telemetry
  | .ok r => do
      let p ← ofWire (response r readOp 0x42 4)
      let inRange := (← ofWire (slice p 0 3)).all (· ≤ 100) && (← ofWire (byteAt p 3)) ≤ 1
      if inRange then do
        let actual ← ofWire (byteAt p 0)
        let calculated ← ofWire (byteAt p 1)
        let requested ← ofWire (byteAt p 2)
        let zero ← ofWire (byteAt p 3)
        pure { t with
          fan := { t.fan with
            actualDutyPercent := some actual
            calculatedDutyPercent := some calculated
            requestedDutyPercent := some requested
            zeroFan := some (zero == 1) } }
      else pure (t.groupError "invalid fan duty")
  | .error e => pure (t.groupError ("fan_duty: " ++ e))

/-- The fan mode, from the reply to command `0x41`. -/
def fanSetting (t : Telemetry) : Except String Bytes → Io Telemetry
  | .ok r => do
      let p ← ofWire (response r readOp 0x41 3)
      let mode ← ofWire (byteAt p 0)
      pure { t with fan := { t.fan with modeRaw := some mode } }
  | .error e => pure (t.groupError ("fan_setting: " ++ e))

/-- A counter, from the reply to command `0xd0` or `0xd1`. -/
def runtimeGroup (cmd : UInt8) (t : Telemetry) : Except String Bytes → Io Telemetry
  | .ok r => do
      let p ← ofWire (response r readOp cmd 4)
      let n ← ofWire (u32At p 0)
      if cmd = 0xd0 then pure { t with sessionSeconds := some n }
      else pure { t with lifetimeSeconds := some n }
  | .error e => pure (t.groupError ("runtime_" ++ lowerHex cmd ++ ": " ++ e))

/-- `HidDevice::telemetry`, with the clocks it reads and what happens around its
exchanges. -/
def telemetry (capturedAtMs : ℤ) (monotonicMs : ℕ) (script : UInt8 → Script) : Io Telemetry := do
  let t ← ofExcept (decodeTelemetry (← readCommand script 0xe0) .ts)
  let h ← get
  let t := { t with
    deviceId := h.info.id
    capturedAtMs := capturedAtMs
    monotonicMs := monotonicMs }
  let t ← hardwareAlerts t (← attempt (readCommand script 0xe1))
  let t ← safeguardGroup t (← attempt (readCommand script 0xc1))
  let t ← fanDuty t (← attempt (readCommand script 0x42))
  let t ← fanSetting t (← attempt (readCommand script 0x41))
  let t ← runtimeGroup 0xd0 t (← attempt (readCommand script 0xd0))
  runtimeGroup 0xd1 t (← attempt (readCommand script 0xd1))

/-! ### Outcomes -/

/-- The outcome of one read of a poll, and the device after it. -/
def outcome (script : UInt8 → Script) (command : UInt8) (h : HidDevice) :
    Except String Bytes × HidDevice :=
  match readCommand script command h with
  | .ok r h' => (.ok r, h')
  | .error (.error e) h' => (.error e, h')
  | .error .outOfRange h' => (.error "index out of range", h')

/-- The outcomes of the seven reads. An outcome is a report or the text of an error. -/
structure Outcomes where
  telemetry : Except String Bytes
  alerts : Except String Bytes
  safeguards : Except String Bytes
  fanDuty : Except String Bytes
  fanSetting : Except String Bytes
  session : Except String Bytes
  lifetime : Except String Bytes

/-- The outcomes of the reads of a poll, one after the other. Each read starts from the
device that the one before left, reports that wait and captures included. -/
def outcomes (script : UInt8 → Script) (h : HidDevice) : Outcomes :=
  let e0 := outcome script 0xe0 h
  let e1 := outcome script 0xe1 e0.2
  let c1 := outcome script 0xc1 e1.2
  let x42 := outcome script 0x42 c1.2
  let x41 := outcome script 0x41 x42.2
  let d0 := outcome script 0xd0 x41.2
  let d1 := outcome script 0xd1 d0.2
  ⟨e0.1, e1.1, c1.1, x42.1, x41.1, d0.1, d1.1⟩

/-- What a reply decodes to, or what stands for a group whose read failed. -/
def decodedOr {α : Type} (absent : α) (decoded : Bytes → α) : Except String Bytes → α
  | .ok r => decoded r
  | .error _ => absent

/-- The names of the alerts that are set. -/
def namesOf (alerts : Bytes) : List String :=
  (alerts.zip tsAlerts.toList).filterMap fun vn => if vn.1 ≠ 0 then some vn.2 else none

/-- The two blocks of a safeguard reply. -/
def safeguardsOf (r : Bytes) : List FaultSnapshot :=
  (snapshots (payload r 42)).toList.map fun s =>
    ⟨s.statusRaw, s.runtimeSeconds, s.lifetimeSeconds, s.currentsMa⟩

/-- The counter in a reply. -/
def counterOf (r : Bytes) : ℕ :=
  u32 ((payload r 4).getD 0 0) ((payload r 4).getD 1 0) ((payload r 4).getD 2 0)
    ((payload r 4).getD 3 0)

/-- The fan duties of a reply are percentages and a flag. -/
def DutyInRange (r : Bytes) : Prop :=
  (payload r 4).getD 0 0 ≤ 100 ∧ (payload r 4).getD 1 0 ≤ 100 ∧ (payload r 4).getD 2 0 ≤ 100 ∧
    (payload r 4).getD 3 0 ≤ 1

instance instDecidableDutyInRange (r : Bytes) : Decidable (DutyInRange r) :=
  inferInstanceAs (Decidable (_ ∧ _ ∧ _ ∧ _))

/-- Byte `i` of the fan duties, if they are in range. -/
def dutyOf (i : ℕ) (r : Bytes) : Option UInt8 :=
  if DutyInRange r then some ((payload r 4).getD i 0) else none

/-- The entry of a group whose read failed. -/
def readError (label : String) : Except String Bytes → Option String
  | .ok _ => none
  | .error e => some (label ++ ": " ++ e)

/-- The entry of the fan duties, which may also be out of range. -/
def dutyError : Except String Bytes → Option String
  | .ok r => if DutyInRange r then none else some "invalid fan duty"
  | .error e => some ("fan_duty: " ++ e)

/-- **The sample of a poll**: each group is what its own reply decodes to, or
absent, and each failed group has one entry in `groupErrors`. -/
def sampleOf (base : Telemetry) (id : String) (capturedAtMs : ℤ) (monotonicMs : ℕ)
    (o : Outcomes) : Telemetry :=
  { base with
    deviceId := id
    capturedAtMs := capturedAtMs
    monotonicMs := monotonicMs
    alertsRaw := decodedOr [] (payload · 18) o.alerts
    alertNames := decodedOr [] (fun r => namesOf (payload r 18)) o.alerts
    safeguards := decodedOr [] safeguardsOf o.safeguards
    fan :=
      { rpm := base.fan.rpm
        modeRaw := decodedOr none (fun r => some ((payload r 3).getD 0 0)) o.fanSetting
        requestedDutyPercent := decodedOr none (dutyOf 2) o.fanDuty
        actualDutyPercent := decodedOr none (dutyOf 0) o.fanDuty
        calculatedDutyPercent := decodedOr none (dutyOf 1) o.fanDuty
        zeroFan := decodedOr none (fun r => (dutyOf 3 r).map (· == 1)) o.fanDuty }
    sessionSeconds := decodedOr none (fun r => some (counterOf r)) o.session
    lifetimeSeconds := decodedOr none (fun r => some (counterOf r)) o.lifetime
    groupErrors := [readError "hardware_alerts" o.alerts, readError "safeguards" o.safeguards,
      dutyError o.fanDuty, readError "fan_setting" o.fanSetting,
      readError "runtime_d0" o.session, readError "runtime_d1" o.lifetime].reduceOption }

/-! ### The groups -/

/-- **What an exchange returns passes `response`** for every length of payload. The
exchange has looked at the size, the echo and the busy pattern already. -/
theorem response_of_answers {opcode command : UInt8} {r : Bytes} (h : Answers opcode command r)
    {n : ℕ} (hn : n ≤ 62) : response r opcode command n = .ok (payload r n) := by
  rw [response_eq, if_neg (not_not.2 h.report), if_neg (not_not.2 h.echoes),
    if_neg (by simp [h.notBusy]), if_neg (by omega)]

/-- An answer has all the bytes that a payload asks for. -/
theorem length_payload_of_answers {opcode command : UInt8} {r : Bytes}
    (h : Answers opcode command r) {n : ℕ} (hn : n ≤ 62) : (payload r n).length = n :=
  length_payload h.report hn

/-- The read of a command answers it, or fails with a message. An exchange never fails
otherwise, since every index into a report is in range, so a poll can keep the outcome
of each read as a value. -/
theorem outcome_spec (script : UInt8 → Script) (command : UInt8) (h : HidDevice) :
    attempt (readCommand script command) h =
        .ok (outcome script command h).1 (outcome script command h).2 ∧
      ∀ r, (outcome script command h).1 = .ok r → Answers readOp command r := by
  have hensures := exchange_ensures readOp command [] (script command) h
  unfold attempt outcome readCommand
  cases hrun : exchange readOp command [] (script command) h with
  | ok reply h' =>
      rw [Ensures, hrun] at hensures
      rw [bind_of_ok hrun]
      refine ⟨rfl, fun r hr => ?_⟩
      obtain rfl := Except.ok.inj hr
      exact hensures.1
  | error e h' =>
      rw [Ensures, hrun] at hensures
      rw [bind_of_error hrun]
      cases e with
      | error text => exact ⟨rfl, fun r hr => by cases hr⟩
      | outOfRange => exact absurd rfl hensures

section Groups

variable {h : HidDevice} {o : Except String Bytes} (t : Telemetry)

/-- The alerts of a sample are those of the answer, or none if there is no answer. -/
theorem hardwareAlerts_eq (ho : ∀ r, o = .ok r → Answers readOp 0xe1 r) :
    hardwareAlerts t o h = .ok { t with
      alertsRaw := decodedOr t.alertsRaw (payload · 18) o
      alertNames := decodedOr t.alertNames (fun r => namesOf (payload r 18)) o
      groupErrors := t.groupErrors ++ (readError "hardware_alerts" o).toList } h := by
  cases o with
  | ok r =>
      rw [hardwareAlerts, response_of_answers (ho r rfl) (by norm_num)]
      simp only [decodedOr, readError, Option.toList_none, List.append_nil]
      rfl
  | error e => rfl

/-- The safeguards of a sample, decoded from the answer, if there is one. -/
theorem safeguardGroup_eq (ho : ∀ r, o = .ok r → Answers readOp 0xc1 r) :
    safeguardGroup t o h = .ok { t with
      safeguards := decodedOr t.safeguards safeguardsOf o
      groupErrors := t.groupErrors ++ (readError "safeguards" o).toList } h := by
  cases o with
  | ok r =>
      have hanswer := ho r rfl
      rw [safeguardGroup, decodeSafeguards, decodeTsSafeguards_eq,
        if_neg (not_not.2 hanswer.report), if_neg (not_not.2 hanswer.echoes),
        if_neg (by simp [hanswer.notBusy])]
      simp only [decodedOr, readError, Option.toList_none, List.append_nil]
      rfl
  | error e => rfl

/-- The setting of the fan is the first byte of the answer, if there is one. -/
theorem fanSetting_eq (ho : ∀ r, o = .ok r → Answers readOp 0x41 r) :
    fanSetting t o h = .ok { t with
      fan := { t.fan with
        modeRaw := decodedOr t.fan.modeRaw (fun r => some ((payload r 3).getD 0 0)) o }
      groupErrors := t.groupErrors ++ (readError "fan_setting" o).toList } h := by
  cases o with
  | ok r =>
      have hlen := length_payload_of_answers (ho r rfl) (n := 3) (by norm_num)
      rw [fanSetting, response_of_answers (ho r rfl) (by norm_num)]
      change (ofWire (byteAt (payload r 3) 0) >>= _ : Io Telemetry) h = _
      rw [byteAt_eq (by omega)]
      simp only [decodedOr, readError, Option.toList_none, List.append_nil]
      rfl
  | error e => rfl

/-- The duties of the fan are those of the answer, as far as they are in range, and an
error of the group says which one is not. -/
theorem fanDuty_eq (ho : ∀ r, o = .ok r → Answers readOp 0x42 r) :
    fanDuty t o h = .ok { t with
      fan := { t.fan with
        requestedDutyPercent := decodedOr t.fan.requestedDutyPercent
          (fun r => (dutyOf 2 r).or t.fan.requestedDutyPercent) o
        actualDutyPercent := decodedOr t.fan.actualDutyPercent
          (fun r => (dutyOf 0 r).or t.fan.actualDutyPercent) o
        calculatedDutyPercent := decodedOr t.fan.calculatedDutyPercent
          (fun r => (dutyOf 1 r).or t.fan.calculatedDutyPercent) o
        zeroFan := decodedOr t.fan.zeroFan
          (fun r => ((dutyOf 3 r).map (· == 1)).or t.fan.zeroFan) o }
      groupErrors := t.groupErrors ++ (dutyError o).toList } h := by
  cases o with
  | ok r =>
      have hlen := length_payload_of_answers (ho r rfl) (n := 4) (by norm_num)
      obtain ⟨actual, calculated, requested, zero, hp⟩ :
          ∃ a c r' z, payload r 4 = [a, c, r', z] := by
        match hp : payload r 4, hlen with
        | [a, c, r', z], _ => exact ⟨a, c, r', z, rfl⟩
      have hcheck : ([actual, calculated, requested].all (· ≤ 100) && decide (zero ≤ 1)) =
          decide (DutyInRange r) := by
        rw [Bool.eq_iff_iff, decide_eq_true_eq]
        unfold DutyInRange
        rw [hp]
        simp [and_assoc]
      rw [fanDuty, response_of_answers (ho r rfl) (by norm_num), hp]
      change (if ([actual, calculated, requested].all (· ≤ 100) && decide (zero ≤ 1)) = true
        then _ else _ : Io Telemetry) h = _
      rw [hcheck]
      by_cases hrange : DutyInRange r
      · rw [decide_eq_true hrange, if_pos rfl]
        simp only [decodedOr, dutyOf, dutyError, if_pos hrange, hp, Option.toList_none,
          List.append_nil]
        rfl
      · rw [decide_eq_false hrange, if_neg Bool.false_ne_true]
        simp only [decodedOr, dutyOf, dutyError, if_neg hrange, Option.map_none]
        rfl
  | error e => rfl

/-- A counter of four bytes is read without leaving them. -/
theorem u32At_payload {cmd : UInt8} {r : Bytes} (hr : Answers readOp cmd r) :
    u32At (payload r 4) 0 = .ok (counterOf r) := by
  have hlen := length_payload_of_answers hr (n := 4) (by norm_num)
  rw [u32At, byteAt_eq (by omega), byteAt_eq (by omega), byteAt_eq (by omega),
    byteAt_eq (by omega)]
  rfl

/-- The two counters are read alike. -/
theorem runtimeGroup_ok {cmd : UInt8} {r : Bytes} (hr : Answers readOp cmd r) :
    runtimeGroup cmd t (.ok r) h = .ok (if cmd = 0xd0
      then { t with sessionSeconds := some (counterOf r) }
      else { t with lifetimeSeconds := some (counterOf r) }) h := by
  rw [runtimeGroup, response_of_answers hr (by norm_num)]
  change (ofWire (u32At (payload r 4) 0) >>= _ : Io Telemetry) h = _
  rw [u32At_payload hr]
  change (if cmd = 0xd0 then pure _ else pure _ : Io Telemetry) h = _
  split_ifs <;> rfl

/-- The seconds of the session. -/
theorem session_eq (ho : ∀ r, o = .ok r → Answers readOp 0xd0 r) :
    runtimeGroup 0xd0 t o h = .ok { t with
      sessionSeconds := decodedOr t.sessionSeconds (fun r => some (counterOf r)) o
      groupErrors := t.groupErrors ++ (readError "runtime_d0" o).toList } h := by
  cases o with
  | ok r =>
      rw [runtimeGroup_ok t (ho r rfl)]
      simp only [decodedOr, readError, Option.toList_none, List.append_nil]
      rfl
  | error e => rfl

/-- The seconds of the device's life. -/
theorem lifetime_eq (ho : ∀ r, o = .ok r → Answers readOp 0xd1 r) :
    runtimeGroup 0xd1 t o h = .ok { t with
      lifetimeSeconds := decodedOr t.lifetimeSeconds (fun r => some (counterOf r)) o
      groupErrors := t.groupErrors ++ (readError "runtime_d1" o).toList } h := by
  cases o with
  | ok r =>
      rw [runtimeGroup_ok t (ho r rfl)]
      simp only [decodedOr, readError, Option.toList_none, List.append_nil]
      rfl
  | error e => rfl

end Groups

/-- The sample that the decoder makes has no optional group. -/
theorem decodeTelemetry_ok {r : Bytes} {base : Telemetry} (h : decodeTelemetry r .ts = .ok base) :
    ∃ rpm, base.fan = ⟨rpm, none, none, none, none, none⟩ ∧ base.alertsRaw = [] ∧
      base.alertNames = [] ∧ base.safeguards = [] ∧ base.sessionSeconds = none ∧
        base.lifetimeSeconds = none ∧ base.groupErrors = [] := by
  rw [decodeTelemetry, if_neg (not_not.2 rfl)] at h
  cases hraw : decodeTsTelemetry r with
  | ok raw =>
      rw [hraw] at h
      obtain rfl := Except.ok.inj h
      exact ⟨_, rfl, rfl, rfl, rfl, rfl, rfl, rfl⟩
  | error e =>
      rw [hraw] at h
      cases e <;> cases h

/-- A read that has an outcome in the group has returned it. -/
theorem readCommand_of_outcome {script : UInt8 → Script} {command : UInt8} {h : HidDevice}
    {r : Bytes} (ho : (outcome script command h).1 = .ok r) :
    readCommand script command h = .ok r (outcome script command h).2 := by
  unfold outcome at ho ⊢
  cases hrun : readCommand script command h with
  | ok r' h' =>
      rw [hrun] at ho
      obtain rfl := Except.ok.inj ho
      rfl
  | error e h' =>
      rw [hrun] at ho
      cases e <;> cases ho

/-- The errors of the groups, in the order of the groups. -/
theorem reduceOption_cons (a : Option String) (l : List (Option String)) :
    (a :: l).reduceOption = a.toList ++ l.reduceOption := by
  cases a <;> rfl

/-- **A poll whose telemetry report decodes returns its sample**, whatever
becomes of the other groups. -/
theorem telemetry_of_ok (capturedAtMs : ℤ) (monotonicMs : ℕ) (script : UInt8 → Script)
    (h : HidDevice) {r : Bytes} {base : Telemetry} (hread : (outcomes script h).telemetry = .ok r)
    (hbase : decodeTelemetry r .ts = .ok base) :
    ∃ h', telemetry capturedAtMs monotonicMs script h = .ok (sampleOf base
      (outcome script 0xe0 h).2.info.id capturedAtMs monotonicMs (outcomes script h)) h' := by
  obtain ⟨rpm, hfan, halerts, hnames, hsafe, hsession, hlifetime, herrors⟩ :=
    decodeTelemetry_ok hbase
  set h₀ := (outcome script 0xe0 h).2
  set h₁ := (outcome script 0xe1 h₀).2
  set h₂ := (outcome script 0xc1 h₁).2
  set h₃ := (outcome script 0x42 h₂).2
  set h₄ := (outcome script 0x41 h₃).2
  set h₅ := (outcome script 0xd0 h₄).2
  have hget : (get : Io HidDevice) h₀ = .ok h₀ h₀ := rfl
  have hfirst : (ofExcept (decodeTelemetry r .ts) : Io Telemetry) h₀ = .ok base h₀ := by
    rw [hbase]
    rfl
  obtain ⟨hrun₁, hanswer₁⟩ := outcome_spec script 0xe1 h₀
  obtain ⟨hrun₂, hanswer₂⟩ := outcome_spec script 0xc1 h₁
  obtain ⟨hrun₃, hanswer₃⟩ := outcome_spec script 0x42 h₂
  obtain ⟨hrun₄, hanswer₄⟩ := outcome_spec script 0x41 h₃
  obtain ⟨hrun₅, hanswer₅⟩ := outcome_spec script 0xd0 h₄
  obtain ⟨hrun₆, hanswer₆⟩ := outcome_spec script 0xd1 h₅
  refine ⟨(outcome script 0xd1 h₅).2, ?_⟩
  rw [telemetry, bind_of_ok (readCommand_of_outcome hread), bind_of_ok hfirst, bind_of_ok hget,
    bind_of_ok hrun₁, bind_of_ok (hardwareAlerts_eq _ hanswer₁), bind_of_ok hrun₂,
    bind_of_ok (safeguardGroup_eq _ hanswer₂), bind_of_ok hrun₃,
    bind_of_ok (fanDuty_eq _ hanswer₃), bind_of_ok hrun₄, bind_of_ok (fanSetting_eq _ hanswer₄),
    bind_of_ok hrun₅, bind_of_ok (session_eq _ hanswer₅), bind_of_ok hrun₆,
    lifetime_eq _ hanswer₆]
  refine congrArg (EStateM.Result.ok · _) ?_
  simp only [sampleOf, hfan, halerts, hnames, hsafe, hsession, hlifetime, herrors,
    reduceOption_cons, List.reduceOption_nil, Option.or_none, List.nil_append, List.append_nil,
    List.append_assoc]
  rfl

/-- A report that does not decode is an error with a text. -/
theorem decodeTelemetry_error {r : Bytes} {e : DeviceError}
    (h : decodeTelemetry r .ts = .error e) : ∃ text, e = .error text := by
  rw [decodeTelemetry, if_neg (not_not.2 rfl), decodeTsTelemetry_eq] at h
  split_ifs at h <;> cases h <;> exact ⟨_, rfl⟩

/-- A poll without a telemetry report fails with a message: its first read has failed,
or what it has read does not decode. None of the other reads is made then. -/
theorem telemetry_of_error (capturedAtMs : ℤ) (monotonicMs : ℕ) (script : UInt8 → Script)
    (h : HidDevice)
    (hno : ¬∃ r base, (outcomes script h).telemetry = .ok r ∧ decodeTelemetry r .ts = .ok base) :
    ∃ text h', telemetry capturedAtMs monotonicMs script h = .error (.error text) h' := by
  have hensures := exchange_ensures readOp 0xe0 [] (script 0xe0) h
  cases hrun : exchange readOp 0xe0 [] (script 0xe0) h with
  | ok reply h' =>
      have hread : readCommand script 0xe0 h = .ok reply.bytes h' := bind_of_ok hrun
      have houtcome : (outcomes script h).telemetry = .ok reply.bytes := by
        change (outcome script 0xe0 h).1 = _
        rw [outcome, hread]
      cases hbase : decodeTelemetry reply.bytes .ts with
      | ok base => exact absurd ⟨_, _, houtcome, hbase⟩ hno
      | error e =>
          obtain ⟨text, rfl⟩ := decodeTelemetry_error hbase
          refine ⟨text, h', ?_⟩
          rw [telemetry, bind_of_ok hread, hbase]
          rfl
  | error e h' =>
      rw [Ensures, hrun] at hensures
      cases e with
      | error text =>
          have hread : readCommand script 0xe0 h = .error (.error text) h' := bind_of_error hrun
          exact ⟨text, h', bind_of_error hread⟩
      | outOfRange => exact absurd rfl hensures

/-- **A poll fails exactly if its telemetry report is not read or not decoded**,
always with a message, and else returns its sample. -/
theorem optional_groups_are_independent :
    (∀ opcode command payload script h reply h', exchange opcode command payload script h =
      .ok reply h' → ∀ n ≤ 62, ∃ p, response reply.bytes opcode command n = .ok p) ∧
    ∀ capturedAtMs monotonicMs script h,
      ((∃ text h', telemetry capturedAtMs monotonicMs script h = .error (.error text) h') ↔
        ¬∃ r base, (outcomes script h).telemetry = .ok r ∧ decodeTelemetry r .ts = .ok base) ∧
      ∀ r base, (outcomes script h).telemetry = .ok r → decodeTelemetry r .ts = .ok base →
        ∃ h', telemetry capturedAtMs monotonicMs script h = .ok (sampleOf base
          (outcome script 0xe0 h).2.info.id capturedAtMs monotonicMs (outcomes script h)) h' := by
  refine ⟨fun opcode command payload script h reply h' hrun n hn => ?_,
    fun capturedAtMs monotonicMs script h => ⟨⟨?_, fun hno => ?_⟩, fun r base hread hbase =>
      telemetry_of_ok capturedAtMs monotonicMs script h hread hbase⟩⟩
  · have hensures := exchange_ensures opcode command payload script h
    rw [Ensures, hrun] at hensures
    exact ⟨_, response_of_answers hensures.1 hn⟩
  · rintro ⟨text, h', hrun⟩ ⟨r, base, hread, hbase⟩
    obtain ⟨h'', hok⟩ := telemetry_of_ok capturedAtMs monotonicMs script h hread hbase
    rw [hrun] at hok
    cases hok
  · exact telemetry_of_error capturedAtMs monotonicMs script h hno

end Railwatch
