/-
# What a snapshot shows

The monitor reports each attempt to open or to poll a device: a sample, or an error.  In
every run of the daemon the snapshot shows the last report and the last sample of the
process, beside the device that was opened last (`Daemon.Displays`).

So an answer to `Snapshot` that is not stale is about the present: the last report is the
sample it shows, at most 3.5 seconds old, of the device it names and without an error.  An
outage, another device or a new process makes the answers stale until the next sample.

`Displays` is the invariant: what the snapshot shows is the last report, and the last
device, of the process.  A restart begins with no reports, and what was shown before is
gone.
-/

import Railwatch.Ipc.Connection
import Railwatch.Runtime.Agreement
import Railwatch.Runtime.Limits

namespace Railwatch

/-! ### Attempts -/

/-- How an attempt to open or to poll a device ends. The snapshot shows the last one. -/
inductive Attempt where
  | sample (t : Telemetry)
  | failed (error : String)

/-- The sample of an attempt. -/
def Attempt.telemetry : Attempt → Option Telemetry
  | .sample t => some t
  | .failed _ => none

/-- The error of an attempt. -/
def Attempt.error : Attempt → Option String
  | .sample _ => none
  | .failed error => some error

/-- An action that opens a device, or ends an attempt to open or to poll one. -/
def DaemonOp.attempts : DaemonOp → Bool
  | .openDevice .. | .openSimulator | .openFailed _ | .publish _ | .pollFailed .. => true
  | _ => false

/-- What an action reports. A sample is reported when it is published, and a failure
when it is shown: that of an attempt to open the device, or that of a poll. -/
@[simp] def Daemon.reports (d : Daemon) : DaemonOp → List Attempt
  | .publish _ =>
      match d.monitor.phase with
      | .bounded t => [.sample t]
      | _ => []
  | .openFailed error => if d.mayOpen then [.failed error] else []
  | .pollFailed error uuid at_ _ =>
      if d.mayPoll ∧ d.fresh (d.lost error uuid at_).1.toList then [.failed error] else []
  | _ => []

/-- The device an action opens. -/
@[simp] def Daemon.opens (d : Daemon) : DaemonOp → List DeviceInfo
  | .openDevice info _ _ => if d.mayOpen ∧ info.id ≠ "" then [info] else []
  | .openSimulator =>
      if d.simulate = true ∧ d.monitor.currentId = "" then [simulatorInfo] else []
  | _ => []

/-- The reports of the process that runs at the end. -/
def Daemon.reported (d : Daemon) (ops : List DaemonOp) : List Attempt :=
  Transition.outputsSince Daemon.step (fun _ op => !op.staysUp) Daemon.reports [] d ops

/-- The devices that this process has opened. -/
def Daemon.openedDevices (d : Daemon) (ops : List DaemonOp) : List DeviceInfo :=
  Transition.outputsSince Daemon.step (fun _ op => !op.staysUp) Daemon.opens [] d ops

/-! ### The invariant -/

/-- The snapshot shows the last report, the last sample and the last device.  The device is
the current one; it is open while a sample of it is worked on or shown as connected. -/
structure Daemon.Displays (d : Daemon) (reported : List Attempt) (devices : List DeviceInfo) :
    Prop where
  /-- Connected means that the last attempt gave a sample. -/
  connected : d.shared.connected = (reported.getLast?.bind Attempt.telemetry).isSome
  /-- The error is that of the last attempt, if it failed. -/
  lastError : d.shared.lastError = reported.getLast?.bind Attempt.error
  /-- The sample is the last one there was. -/
  telemetry : d.shared.telemetry = (reported.filterMap Attempt.telemetry).getLast?
  /-- The device is the last one that was opened. -/
  device : d.shared.device = devices.getLast?
  /-- Its id is the one that the monitor goes by. -/
  current : (d.shared.device.map DeviceInfo.id).getD "" = d.monitor.currentId
  /-- The device that is open is this one, and samples are from it. -/
  sourced : d.Sourced
  /-- While a sample is worked on its device is open. -/
  busy : ∀ t, d.monitor.phase.sample = some t → d.deviceOpen
  /-- And while it is shown as connected. -/
  live : d.shared.connected = true →
    d.deviceOpen ∧ d.shared.telemetry.map Telemetry.deviceId = some d.monitor.currentId

/-- A process that has just started shows nothing yet. -/
theorem Daemon.displays_start {db : Database} {issued : List Incident} {simulate : Bool}
    {session : String} {at_ : ℤ} {d : Daemon}
    (hstart : Daemon.start db issued simulate session at_ = .ok d) : d.Displays [] [] := by
  rw [Daemon.start_eq] at hstart
  obtain rfl := Except.ok.inj hstart
  exact ⟨rfl, rfl, rfl, rfl, rfl, ⟨by simp, by simp, by simp [Phase.sample]⟩,
    by simp [Phase.sample], by simp⟩

/-- No device may be opened while one is open. -/
theorem Daemon.mayOpen.not_deviceOpen {d : Daemon} (h : d.mayOpen) : ¬ d.deviceOpen := by
  rw [Daemon.deviceOpen, h.1]
  simpa using h.2.1

/-- Whether a device is open depends on three fields of the monitor. -/
theorem Daemon.deviceOpen_congr {d d' : Daemon} (hsimulate : d'.simulate = d.simulate)
    (hcurrent : d'.monitor.currentId = d.monitor.currentId)
    (hdevice : d'.monitor.device = d.monitor.device) : d'.deviceOpen ↔ d.deviceOpen := by
  simp only [Daemon.deviceOpen, hsimulate, hcurrent, hdevice]

/-- The simulator is opened once. -/
theorem Daemon.not_deviceOpen_simulator {d : Daemon} (hsimulate : d.simulate = true)
    (hid : d.monitor.currentId = "") : ¬ d.deviceOpen := by
  simp [Daemon.deviceOpen, hsimulate, hid]

namespace Daemon.Displays

variable {d d' : Daemon} {reported : List Attempt} {devices : List DeviceInfo}

/-- An action that neither reports nor opens anything. What it keeps of the state is
what the view is made of: the connection, its error, the sample, the device, and whether
one is open. -/
theorem frame (h : d.Displays reported devices) (hsourced : d'.Sourced)
    (hconnected : d'.shared.connected = d.shared.connected)
    (hlastError : d'.shared.lastError = d.shared.lastError)
    (htelemetry : d'.shared.telemetry = d.shared.telemetry)
    (hdevice : d'.shared.device = d.shared.device)
    (hcurrent : d'.monitor.currentId = d.monitor.currentId)
    (hopen : d'.deviceOpen ↔ d.deviceOpen)
    (hbusy : ∀ t, d'.monitor.phase.sample = some t → d.deviceOpen) :
    d'.Displays reported devices where
  connected := hconnected.trans h.connected
  lastError := hlastError.trans h.lastError
  telemetry := htelemetry.trans h.telemetry
  device := hdevice.trans h.device
  current := by rw [hdevice, hcurrent, h.current]
  sourced := hsourced
  busy t ht := hopen.2 (hbusy t ht)
  live := by
    rw [hconnected, hopen, htelemetry, hcurrent]
    exact h.live

/-- A device is opened, where none was open: it becomes the last one of the devices, and
nothing is fresh until its first report. -/
theorem opening (h : d.Displays reported devices) (hclosed : ¬ d.deviceOpen) (hsourced : d'.Sourced)
    {info : DeviceInfo} (hdevice : d'.shared = { d.shared with device := some info })
    (hphase : d'.monitor.phase = d.monitor.phase) (hcurrent : d'.monitor.currentId = info.id) :
    d'.Displays reported (devices ++ [info]) where
  connected := by rw [hdevice, h.connected]
  lastError := by rw [hdevice, h.lastError]
  telemetry := by rw [hdevice, h.telemetry]
  device := by rw [hdevice, List.getLast?_concat]
  current := by
    rw [hdevice, hcurrent]
    rfl
  sourced := hsourced
  busy t ht := absurd (h.busy t (by rw [← hphase, ht])) hclosed
  live hconnected := by
    rw [hdevice] at hconnected
    exact absurd (h.live hconnected).1 hclosed

/-- An attempt fails: its error is the last report, the view is not connected any more,
and the last sample stays on show as a stale one. -/
theorem failing (h : d.Displays reported devices) (error : String) (hsourced : d'.Sourced)
    (hconnected : d'.shared.connected = false) (hlastError : d'.shared.lastError = some error)
    (htelemetry : d'.shared.telemetry = d.shared.telemetry)
    (hdevice : d'.shared.device = d.shared.device)
    (hcurrent : d'.monitor.currentId = d.monitor.currentId)
    (hphase : d'.monitor.phase = .top) :
    d'.Displays (reported ++ [.failed error]) devices where
  connected := by
    rw [hconnected, List.getLast?_concat]
    rfl
  lastError := by
    rw [hlastError, List.getLast?_concat]
    rfl
  telemetry := by
    rw [htelemetry, h.telemetry, List.filterMap_append]
    exact congrArg List.getLast? (List.append_nil _).symm
  device := hdevice.trans h.device
  current := by rw [hdevice, hcurrent, h.current]
  sourced := hsourced
  busy t ht := by
    rw [hphase] at ht
    cases ht
  live htrue := by
    rw [hconnected] at htrue
    cases htrue

/-- A poll succeeds: its sample is the last report and the one on show, the view is
connected, and the sample is of the device that is open. -/
theorem publishing (h : d.Displays reported devices) {t : Telemetry}
    (hphase : d.monitor.phase = .bounded t) (full : Bool) (hsourced : (d.publish t full).Sourced) :
    (d.publish t full).Displays (reported ++ [.sample t]) devices := by
  obtain ⟨-, -, -, -, -, hsimulate, -, hcurrent, hmonitor, htelemetry, -⟩ := d.publish_frame t full
  obtain ⟨hconnected, hlastError, hdevice, htop⟩ :
      (d.publish t full).shared.connected = true ∧ (d.publish t full).shared.lastError = none ∧
        (d.publish t full).shared.device = d.shared.device ∧
        (d.publish t full).monitor.phase = .top := by
    unfold Daemon.publish
    dsimp only
    split <;> exact ⟨rfl, rfl, rfl, rfl⟩
  have hsample : d.monitor.phase.sample = some t := by
    rw [hphase]
    rfl
  constructor
  · rw [hconnected, List.getLast?_concat]
    rfl
  · rw [hlastError, List.getLast?_concat]
    rfl
  · rw [htelemetry, List.filterMap_append]
    exact List.getLast?_concat.symm
  · exact hdevice.trans h.device
  · rw [hdevice, hcurrent, h.current]
  · exact hsourced
  · intro t' ht'
    rw [htop] at ht'
    cases ht'
  · intro _
    rw [htelemetry, hcurrent, Daemon.deviceOpen, hsimulate, hcurrent, hmonitor]
    exact ⟨h.busy t hsample, congrArg some (h.sourced.sample t hsample).1⟩

/-- A poll fails. It is a failed attempt like any other, for what is shown of it; what
becomes of the outage and of the batch is no part of the view. -/
theorem pollFailing (h : d.Displays reported devices) (hpoll : d.mayPoll) (error : String)
    (event : Option Incident) (engine : AlertEngine) (full : Bool)
    (hsourced : (d.pollFailed error event engine full).Sourced) :
    (d.pollFailed error event engine full).Displays (reported ++ [.failed error]) devices := by
  obtain ⟨-, -, -, -, -, -, -, hcurrent, -, htelemetry, -⟩ :=
    d.pollFailed_frame error event engine full
  obtain ⟨hconnected, hlastError, hdevice, hphase⟩ :
      (d.pollFailed error event engine full).shared.connected = false ∧
        (d.pollFailed error event engine full).shared.lastError = some error ∧
        (d.pollFailed error event engine full).shared.device = d.shared.device ∧
        (d.pollFailed error event engine full).monitor.phase = d.monitor.phase := by
    unfold Daemon.pollFailed
    dsimp only
    split
    · exact ⟨rfl, rfl, rfl, rfl⟩
    · split <;> exact ⟨rfl, rfl, rfl, rfl⟩
  exact h.failing error hsourced hconnected hlastError htelemetry hdevice hcurrent
    (hphase.trans hpoll.phase)

/-- What an action does that neither reports nor opens anything. The steps of the
monitor that lie between two reports keep the view, and so does everything that storage
and clients do. -/
theorem does (h : d.Displays reported devices) {op : DaemonOp} (hdoes : d.Does op d')
    (hsourced : d'.Sourced) (hop : op.staysUp) (hquiet : op.attempts = false) :
    d'.Displays reported devices := by
  cases hdoes with
  | restart => cases hop
  | publish | pollFailed | openFailed | openDevice | openSimulator => cases hquiet
  | sync hpoll => exact h.frame hsourced rfl rfl rfl rfl rfl Iff.rfl fun _ _ => hpoll.1
  | observe hphase _ =>
      refine h.frame hsourced rfl rfl rfl rfl rfl Iff.rfl fun t ht => h.busy t ?_
      rw [hphase]
      exact ht
  | @bound t hphase =>
      have hbusy : d.deviceOpen := h.busy t (by rw [hphase]; rfl)
      obtain ⟨-, -, -, -, -, hsimulate, -, -, hcurrent, hmonitor, htelemetry, -⟩ :=
        d.boundPending_frame t
      exact h.frame hsourced (by simp [Daemon.boundPending]) (by simp [Daemon.boundPending])
        htelemetry (by simp [Daemon.boundPending]) hcurrent
        (Daemon.deviceOpen_congr hsimulate hcurrent hmonitor) fun _ _ => hbusy
  | _ => exact h.frame hsourced rfl rfl rfl rfl rfl Iff.rfl h.busy

/-- **Every action of a process keeps the snapshot up to date.** An action that reports
something also shows it, in the same section, and the other ones change nothing of it. -/
theorem step (h : d.Displays reported devices) {op : DaemonOp} (hop : op.staysUp) :
    (d.step op).Displays (reported ++ d.reports op) (devices ++ d.opens op) := by
  have hsourced := h.sourced.step op
  cases op with
  | publish full =>
      cases hphase : d.monitor.phase with
      | bounded t =>
          simp only [Daemon.step, hphase, Daemon.reports, Daemon.opens, List.append_nil]
            at hsourced ⊢
          exact h.publishing hphase full hsourced
      | _ => simpa [Daemon.step, hphase] using h
  | pollFailed error uuid at_ full =>
      simp only [Daemon.step, Daemon.reports, Daemon.opens, List.append_nil] at hsourced ⊢
      split_ifs at hsourced ⊢ with hmay
      · exact h.pollFailing hmay.1 error _ _ full hsourced
      · rwa [List.append_nil]
  | openFailed error =>
      simp only [Daemon.step, Daemon.reports, Daemon.opens, List.append_nil] at hsourced ⊢
      split_ifs at hsourced ⊢ with hmay
      · exact h.failing error hsourced rfl rfl rfl rfl rfl hmay.phase
      · rwa [List.append_nil]
  | openDevice info session readable =>
      simp only [Daemon.step, Daemon.reports, Daemon.opens, List.append_nil] at hsourced ⊢
      split_ifs at hsourced ⊢ with hmay
      · by_cases hsame : d.monitor.currentId = info.id
        · rw [Daemon.openDevice_same hsame] at hsourced ⊢
          exact h.opening hmay.1.not_deviceOpen hsourced rfl rfl hsame
        · rw [Daemon.openDevice_other hsame] at hsourced ⊢
          exact h.opening hmay.1.not_deviceOpen hsourced rfl rfl rfl
      · rwa [List.append_nil]
  | openSimulator =>
      simp only [Daemon.step, Daemon.reports, Daemon.opens, List.append_nil] at hsourced ⊢
      split_ifs at hsourced ⊢ with hmay
      · exact h.opening (Daemon.not_deviceOpen_simulator hmay.1 hmay.2) hsourced rfl rfl rfl
      · rwa [List.append_nil]
  | _ =>
      simp only [Daemon.reports, Daemon.opens, List.append_nil]
      obtain hstep | hdoes := d.step_does _
      · rwa [hstep]
      · exact h.does hdoes hsourced hop rfl

end Daemon.Displays

/-! ### Runs -/

/-- What is shown is so in every run, with the reports and the devices of the present
process: a new start forgets those of the old one, and shows none. -/
theorem Daemon.displays_run {db : Database} {issued : List Incident} {simulate : Bool}
    {session : String} {at_ : ℤ} {d : Daemon}
    (hstart : Daemon.start db issued simulate session at_ = .ok d) (ops : List DaemonOp) :
    (d.run ops).Displays (d.reported ops) (d.openedDevices ops) := by
  induction ops using List.reverseRecOn with
  | nil => exact displays_start hstart
  | append_singleton ops op ih =>
      rw [Daemon.run_concat, Daemon.reported, Daemon.openedDevices,
        Transition.outputsSince_concat, Transition.outputsSince_concat]
      by_cases hop : op.staysUp
      · rw [hop]
        exact ih.step hop
      · cases op with
        | restart simulate session at_ =>
            have hrestart := Daemon.start_eq (d.run ops).history.db (d.run ops).issued simulate
              session at_
            rw [Daemon.step, hrestart]
            exact displays_start hrestart
        | _ => exact absurd rfl hop

/-- The last sample is the one of the last report, if that is a sample. -/
theorem getLast?_telemetry {reported : List Attempt} {t : Telemetry}
    (h : reported.getLast? = some (.sample t)) :
    (reported.filterMap Attempt.telemetry).getLast? = some t := by
  obtain ⟨front, rfl⟩ := List.getLast?_eq_some_iff.1 h
  rw [List.filterMap_append]
  exact List.getLast?_concat

/-- The snapshot is not stale if and only if the last report is a recent sample:
connected says that the last attempt succeeded, and the age is counted from its sample. -/
theorem Daemon.Displays.isStale_iff {d : Daemon} {reported : List Attempt}
    {devices : List DeviceInfo} (h : d.Displays reported devices) (now : ℕ) :
    d.shared.isStale now = false ↔
      ∃ t, reported.getLast? = some (.sample t) ∧ now ≤ t.monotonicMs + 3500 := by
  have hconnected := h.connected
  rw [Snapshot.isStale, h.telemetry]
  cases hlast : reported.getLast? with
  | none =>
      rw [hlast] at hconnected
      simp [hconnected]
  | some report =>
      rw [hlast] at hconnected
      cases report with
      | failed error => simp [hconnected, Attempt.telemetry]
      | sample t =>
          rw [getLast?_telemetry hlast]
          simp [hconnected, Attempt.telemetry, add_comm]

/-- **A fresh answer is about the present.**  In every run of the daemon, restarts included,
an answer to `Snapshot` shows the last sample and the last device of the process, and the
error of its last attempt, if that failed.  It is not stale if and only if the last report is
a sample that is at most 3.5 seconds old; then the sample is shown, without an error and
beside the device it is from. -/
theorem fresh_answer_is_about_the_present {db : Database} {issued : List Incident}
    {simulate : Bool} {session : String} {at_ : ℤ} {d : Daemon}
    (hstart : Daemon.start db issued simulate session at_ = .ok d) (ops : List DaemonOp)
    (env : Environment) (admin : Bool) (schema : Option String) (commands : List DeviceCommand) :
    let service := (d.run ops).service schema commands
    ∃ shown age stale,
      dispatch env snapshotRequest admin service = .ok (.snapshot shown age stale) service ∧
      shown.telemetry = ((d.reported ops).filterMap Attempt.telemetry).getLast? ∧
      shown.lastError = (d.reported ops).getLast?.bind Attempt.error ∧
      shown.device = (d.openedDevices ops).getLast? ∧
      (stale = false ↔ ∃ t, (d.reported ops).getLast? = some (.sample t) ∧
        env.monotonicMs ≤ t.monotonicMs + 3500) ∧
      (stale = false → ∃ t info, shown.telemetry = some t ∧ shown.lastError = none ∧
        shown.device = some info ∧ t.deviceId = info.id ∧
        age = some (env.monotonicMs - t.monotonicMs)) := by
  intro service
  have h := Daemon.displays_run hstart ops
  refine ⟨_, _, _, dispatch_snapshot env admin service, h.telemetry, h.lastError, h.device,
    h.isStale_iff env.monotonicMs, fun hfresh => ?_⟩
  obtain ⟨t, hlast, -⟩ := (h.isStale_iff env.monotonicMs).1 hfresh
  have htelemetry : (d.run ops).shared.telemetry = some t :=
    h.telemetry.trans (getLast?_telemetry hlast)
  have hconnected : (d.run ops).shared.connected = true := by
    rw [h.connected, hlast]
    rfl
  have hlastError : (d.run ops).shared.lastError = none := by
    rw [h.lastError, hlast]
    rfl
  obtain ⟨hopen, hdeviceId⟩ := h.live hconnected
  rw [htelemetry] at hdeviceId
  have hcurrent := h.current
  cases hdevice : (d.run ops).shared.device with
  | none =>
      rw [hdevice] at hcurrent
      exact absurd hcurrent.symm (h.sourced.currentId_ne hopen)
  | some info =>
      rw [hdevice] at hcurrent
      refine ⟨t, info, htelemetry, hlastError, hdevice, ?_, congrArg _ htelemetry⟩
      exact (Option.some.inj hdeviceId).trans hcurrent.symm

/-- A power supply is polled, it fails, and another one is opened and polled. -/
def swappedSupply : List DaemonOp := [.openDevice (powerSupply "a") "s1" true,
  .sync { simulatedSample 0 false with monotonicMs := 1000 }, .observe ("i" ++ ·), .bound,
  .publish false, .pollFailed "no reply" "o" 2000 false,
  .openDevice (powerSupply "b") "s2" true,
  .sync { simulatedSample 1 false with monotonicMs := 9000 }, .observe ("j" ++ ·), .bound,
  .publish false]

/-- The answer after it is fresh for 3.5 seconds, and about the other one, which the
snapshot names as its device. -/
theorem fresh_answer_after_swap : ∃ d, Daemon.start {} [] false "s" 0 = .ok d ∧
    ∃ shown age, dispatch { monotonicMs := 12500 } snapshotRequest false
        ((d.run swappedSupply).service none []) =
      .ok (.snapshot shown age false) ((d.run swappedSupply).service none []) ∧
      shown.device = some (powerSupply "b") := by
  refine ⟨_, Daemon.start_eq .., ?_⟩
  obtain ⟨shown, age, stale, hanswer, -, -, hdevice, -⟩ :=
    fresh_answer_is_about_the_present (Daemon.start_eq {} [] false "s" 0) swappedSupply
      { monotonicMs := 12500 } false none []
  have hreply := hanswer
  rw [dispatch_snapshot] at hreply
  injection hreply with hreply
  injection hreply with _ _ hstale
  have hfresh : stale = false := by
    rw [← hstale]
    decide +kernel
  rw [hfresh] at hanswer
  refine ⟨shown, age, hanswer, ?_⟩
  rw [hdevice]
  decide +kernel

end Railwatch
