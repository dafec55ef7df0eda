/-
# The store and the engine

Whether the open rows of a device are the incidents of its engine, once every
batch is stored.

The engine holds the incidents that are open eventually (`Tracks.engine`); an
event keeps it that way.  Three actions do not, because they go by something
else.  A failed poll files its incident with the device of the last sample in the
snapshot, which a device that was opened since has not replaced.  A device that
is opened in place of another is restored from the rows that are open now, or
from those of the start.  A process that ends while the storage thread repeats a
batch may leave a kind open twice.  `FindsOpen` says that these actions find what
they go by in order, and then the two agree (`store_and_engine_agree`); if a
failed poll does not, they do not (`incident_of_another_device`).
-/

import Railwatch.Runtime.OpenRows

namespace Railwatch

open Overwrites
open TreeMaps

/-- A device is open. -/
def Daemon.deviceOpen (d : Daemon) : Prop :=
  if d.simulate then d.monitor.currentId ≠ "" else d.monitor.device.isSome

/-- Every queued and pending batch has been stored. -/
def Daemon.stored (d : Daemon) : Prop :=
  d.storing = none ∧ d.queue = [] ∧ d.monitor.pendingEvents = []

/-- After the action no update is counted as dropped, and at most 1000 incidents
are open. -/
def Daemon.WithinLimits (d : Daemon) (op : DaemonOp) : Prop :=
  (d.step op).shared.droppedIncidentUpdates = 0 ∧ (d.step op).history.db.openCount ≤ 1000

/-- The action finds what it goes by in order.  A process starts over a table in
which no kind is open twice.  A device that is opened in place of another is
restored from the incidents that the updates on their way will leave open.  A
poll that fails without an outage finds its own device in the snapshot. -/
def Daemon.FindsOpen (d : Daemon) : DaemonOp → Prop
  | .restart .. => Distinct d.history.db.openRow
  | .openDevice info _ readable =>
      d.mayOpen ∧ info.id ≠ "" ∧ d.monitor.currentId ≠ "" ∧ d.monitor.currentId ≠ info.id →
        Lists (d.restored readable) info.id d.eventually
  | .pollFailed .. =>
      d.mayPoll ∧ d.monitor.engine.active[monitoringUnavailable]? = none →
        ∀ last ∈ d.shared.telemetry, last.deviceId = d.monitor.currentId
  | _ => True

instance (d : Daemon) : Decidable d.deviceOpen := by
  unfold Daemon.deviceOpen
  infer_instance

instance (d : Daemon) : Decidable d.stored := by
  unfold Daemon.stored
  infer_instance

instance (d : Daemon) (op : DaemonOp) : Decidable (d.WithinLimits op) := by
  unfold Daemon.WithinLimits
  infer_instance

instance (d : Daemon) : (op : DaemonOp) → Decidable (d.FindsOpen op)
  | .restart .. | .openDevice .. | .pollFailed .. => by
      unfold Daemon.FindsOpen
      infer_instance
  | .openFailed .. | .openSimulator | .sync .. | .observe .. | .bound | .publish .. | .take
  | .write .. | .writeFailed .. | .written | .ackCommit .. | .ackPublish .. | .setPolicy .. =>
      isTrue trivial

/-! ### Where a sample comes from -/

/-- The sample the monitor works on. -/
def Phase.sample : Phase → Option Telemetry
  | .top => none
  | .synced t _ => some t
  | .observed t => some t
  | .bounded t => some t

/-- The device that is open is the current one, and a sample is from it. So an incident
that the engine opens is one of the current device. -/
structure Daemon.Sourced (d : Daemon) : Prop where
  /-- An open device is the current one, and has an id. -/
  device : ∀ info, d.monitor.device = some info →
    info.id = d.monitor.currentId ∧ d.monitor.currentId ≠ ""
  /-- The simulator is no device, and has its own id. -/
  simulator : d.simulate = true →
    d.monitor.device = none ∧
      (d.monitor.currentId = "" ∨ d.monitor.currentId = simulatorInfo.id)
  /-- A sample that is worked on is from the current device. -/
  sample : ∀ t, d.monitor.phase.sample = some t →
    t.deviceId = d.monitor.currentId ∧ d.monitor.currentId ≠ ""

/-- A device that is open has an id. -/
theorem Daemon.Sourced.currentId_ne {d : Daemon} (h : d.Sourced) (hopen : d.deviceOpen) :
    d.monitor.currentId ≠ "" := by
  unfold Daemon.deviceOpen at hopen
  split_ifs at hopen with hsimulate
  · exact hopen
  · obtain ⟨info, hinfo⟩ := Option.isSome_iff_exists.1 hopen
    exact (h.device info hinfo).2

/-- A poll has the id of the current device. -/
theorem Daemon.Sourced.sample_deviceId {d : Daemon} (h : d.Sourced) (hpoll : d.mayPoll)
    (reading : Telemetry) : (d.monitor.sample reading).deviceId = d.monitor.currentId := by
  have hopen := hpoll.1
  unfold Monitor.sample
  cases hdevice : d.monitor.device with
  | some info => exact (h.device info hdevice).1
  | none =>
      rw [hdevice] at hopen
      split_ifs at hopen with hsimulate
      · exact ((h.simulator hsimulate).2.resolve_left hopen).symm
      · cases hopen

/-- No action gives a sample another source: the monitor names its sample after the
device that is open, and the name of that device stays until another one is opened, for
which the monitor is at the top of its loop. -/
theorem Daemon.Sourced.step {d : Daemon} (h : d.Sourced) (op : DaemonOp) :
    (d.step op).Sourced := by
  rcases d.step_does op with hstep | hdoes
  · rw [hstep]
    exact h
  generalize d.step op = d' at hdoes
  cases hdoes with
  | restart hstart =>
      rw [Daemon.start_eq] at hstart
      obtain rfl := Except.ok.inj hstart
      exact ⟨by simp, by simp, by simp [Phase.sample]⟩
  | @openDevice info session readable hopen hid =>
      have hreal : d.simulate ≠ true := by simp [hopen.1]
      by_cases hsame : d.monitor.currentId = info.id
      · rw [Daemon.openDevice_same hsame]
        refine ⟨fun info' hinfo => ?_, fun hyes => absurd hyes hreal, h.sample⟩
        obtain rfl := Option.some.inj hinfo
        exact ⟨hsame.symm, fun hnone => hid (hsame ▸ hnone)⟩
      · rw [Daemon.openDevice_other hsame]
        refine ⟨fun info' hinfo => ?_, fun hyes => absurd hyes hreal, fun t ht => ?_⟩
        · obtain rfl := Option.some.inj hinfo
          exact ⟨rfl, hid⟩
        · have htop := hopen.2.2
          cases hphase : d.monitor.phase with
          | top =>
              replace ht : d.monitor.phase.sample = some t := ht
              rw [hphase] at ht
              cases ht
          | _ =>
              rw [hphase] at htop
              cases htop
  | openSimulator hsimulate hid =>
      refine ⟨fun info hinfo => ?_, fun _ => ⟨(h.simulator hsimulate).1, Or.inr rfl⟩,
        fun t ht => absurd hid (h.sample t ht).2⟩
      have hnone := (h.simulator hsimulate).1.symm.trans hinfo
      cases hnone
  | @sync reading hpoll =>
      refine ⟨h.device, h.simulator, fun t ht => ?_⟩
      obtain rfl := Option.some.inj ht
      exact ⟨h.sample_deviceId hpoll reading, h.currentId_ne hpoll.1⟩
  | @observe uuid t policy hphase =>
      exact ⟨h.device, h.simulator, fun t' ht => h.sample t' (by rw [hphase]; exact ht)⟩
  | @bound t hphase =>
      obtain ⟨-, -, -, -, -, hsimulate, -, -, hcurrent, hdevice, -⟩ := d.boundPending_frame t
      have hsample : (d.boundPending t).monitor.phase.sample = some t := by
        simp [Daemon.boundPending, Phase.sample]
      constructor <;> simp only [hsimulate, hcurrent, hdevice, hsample]
      · exact h.device
      · exact h.simulator
      · exact fun t' ht => h.sample t' (by rw [hphase]; exact ht)
  | @publish full t hphase =>
      obtain ⟨-, -, -, -, -, hsimulate, -, hcurrent, hdevice, -⟩ := d.publish_frame t full
      have hsample : (d.publish t full).monitor.phase.sample = none := by
        unfold Daemon.publish
        dsimp only
        split <;> rfl
      constructor <;> simp only [hsimulate, hcurrent, hdevice, hsample]
      · exact h.device
      · exact h.simulator
      · simp
  | @pollFailed error uuid at_ full hpoll hfresh =>
      obtain ⟨-, -, -, -, -, hsimulate, -, hcurrent, hdevice, -⟩ := d.pollFailed_frame error
        (d.lost error uuid at_).1 (d.lost error uuid at_).2 full
      have hphase : (d.pollFailed error (d.lost error uuid at_).1 (d.lost error uuid at_).2
          full).monitor.phase = d.monitor.phase := by
        unfold Daemon.pollFailed
        dsimp only
        split
        · rfl
        · split <;> rfl
      constructor <;> simp only [hsimulate, hcurrent, hdevice, hphase]
      · simp
      · exact fun hyes => ⟨trivial, (h.simulator hyes).2⟩
      · exact h.sample
  | _ => exact ⟨h.device, h.simulator, h.sample⟩

/-! ### What holds in every state -/

/-- The engine of the current device holds what is open eventually; before there
is a device, nothing is on its way and the incidents of the start are the open
rows.  The updates that the storage thread has written show in the table. -/
structure Daemon.Tracks (d : Daemon) : Prop where
  /-- All copies of an incident are of one that was opened. -/
  identified : d.Identified
  /-- Samples are from the current device. -/
  sourced : d.Sourced
  /-- There are not more open rows than `incidents` lists. -/
  count : d.history.db.openCount ≤ 1000
  /-- Before there is a device the incidents of the start are the open rows. -/
  unopened : d.monitor.currentId = "" →
    d.updates = [] ∧ (∀ device, Lists d.active device d.history.db.openRow) ∧
      ∀ k : String, d.monitor.engine.active[k]? = none
  /-- What the storage thread has written of its batch is in the table. -/
  written : ∀ item next, d.storing = some (item, next) →
    Done d.history.db.openRow ((item.events.take (next - 1)).map Incident.overwrite)
  /-- The engine holds what is open eventually. -/
  engine : d.monitor.currentId ≠ "" →
    d.monitor.engine.Holds d.monitor.currentId d.eventually
  /-- And no two rows are open of one kind. -/
  distinct : Distinct d.eventually

/-- What will be stored depends on the rows that are open and on the updates still to
write. -/
theorem Daemon.eventually_congr {d d' : Daemon}
    (hrows : d'.history.db.openRow = d.history.db.openRow) (hupdates : d'.updates = d.updates) :
    d'.eventually = d.eventually := by
  rw [Daemon.eventually, Daemon.eventually, hrows, hupdates]

/-- A failed poll that finds its own device in the snapshot. Its events are transitions
of that device's engine; without a sample on show there is nothing to lose. -/
theorem Daemon.FindsOpen.lost_transitions {d : Daemon} {error uuid : String} {at_ : ℤ} {full : Bool}
    (hfinds : d.FindsOpen (.pollFailed error uuid at_ full)) (hpoll : d.mayPoll) :
    Transitions d.monitor.currentId d.monitor.engine (d.lost error uuid at_).2
      (d.lost error uuid at_).1.toList := by
  unfold Daemon.lost
  cases hlast : d.shared.telemetry with
  | none => exact ⟨by simp, by simp, fun _ _ => rfl⟩
  | some last =>
      have ht := monitoringLost_transitions (fun _ => uuid) d.monitor.engine last error at_
      by_cases hnone : d.monitor.engine.active[monitoringUnavailable]? = none
      · rwa [hfinds ⟨hpoll, hnone⟩ last hlast] at ht
      · -- an outage that goes on emits nothing
        have hquiet :
            (d.monitor.engine.monitoringLost (fun _ => uuid) last error at_).1 = none := by
          unfold AlertEngine.monitoringLost
          dsimp only
          rw [if_pos]
          rwa [contains_eq_isSome, Option.isSome_iff_ne_none]
        dsimp only at ht ⊢
        rw [hquiet] at ht ⊢
        exact ⟨ht.kinds, by simp, ht.quiet⟩

section Tracks

variable {d d' : Daemon} (h : d.Tracks)
include h

/-- An action that leaves the engine and what is open alone. The rows that are open, the
updates on their way and the engine decide, together with how far a batch has been
written. -/
theorem Daemon.Tracks.frame (hidentified : d'.Identified) (hsourced : d'.Sourced)
    (hcount : d'.history.db.openCount ≤ 1000) (hactive : d'.active = d.active)
    (hcurrent : d'.monitor.currentId = d.monitor.currentId)
    (hengine : d'.monitor.engine = d.monitor.engine)
    (hrows : d'.history.db.openRow = d.history.db.openRow) (hupdates : d'.updates = d.updates)
    (hwritten : ∀ item next, d'.storing = some (item, next) →
      Done d.history.db.openRow ((item.events.take (next - 1)).map Incident.overwrite)) :
    d'.Tracks where
  identified := hidentified
  sourced := hsourced
  count := hcount
  unopened := by
    rw [hcurrent, hupdates, hactive, hrows, hengine]
    exact h.unopened
  written := by
    rw [hrows]
    exact hwritten
  engine := by
    rw [hcurrent, hengine, Daemon.eventually_congr hrows hupdates]
    exact h.engine
  distinct := by
    rw [Daemon.eventually_congr hrows hupdates]
    exact h.distinct

/-- A call of the engine, whose events the monitor emits. The events become updates on
their way at the moment at which the engine changes, so the two stay in step. -/
theorem Daemon.Tracks.transitions {e' : AlertEngine} {events : List Incident}
    (hidentified : d'.Identified) (hsourced : d'.Sourced)
    (hopen : d.monitor.currentId ≠ "")
    (ht : Transitions d.monitor.currentId d.monitor.engine e' events) (hfresh : d.fresh events)
    (hcurrent : d'.monitor.currentId = d.monitor.currentId)
    (hengine : d'.monitor.engine = e') (hhistory : d'.history = d.history)
    (hupdates : d'.updates = d.updates ++ events) (hstoring : d'.storing = d.storing) :
    d'.Tracks where
  identified := hidentified
  sourced := hsourced
  count := by
    rw [hhistory]
    exact h.count
  unopened hnone := absurd (hcurrent ▸ hnone) hopen
  written := by
    rw [hhistory, hstoring]
    exact h.written
  engine _ := by
    rw [hcurrent, hengine, Daemon.eventually_append hhistory hupdates]
    exact (h.engine hopen).transitions ht hfresh h.identified
  distinct := by
    rw [Daemon.eventually_append hhistory hupdates]
    exact h.distinct.transitions (h.engine hopen) ht hfresh h.identified

/-- A write brings the table nearer to what is open eventually, and does not change what
that is: an update that is stored counted as one to come before. -/
theorem Daemon.Tracks.write {scan : List (String × String × ℤ) → List (String × String × ℤ)}
    {item : Persist} {next : ℕ} {w : History → Except String History} {history : History}
    (hstoring : d.storing = some (item, next)) (hw : (item.writes scan)[next]? = some w)
    (hok : w d.history = .ok history)
    (hidentified :
      Daemon.Identified { d with history := history, storing := some (item, next + 1) })
    (hsourced : Daemon.Sourced { d with history := history, storing := some (item, next + 1) })
    (hcount : history.db.openCount ≤ 1000) :
    Daemon.Tracks { d with history := history, storing := some (item, next + 1) } := by
  have hupdates : Daemon.updates { d with history := history, storing := some (item, next + 1) } =
      d.updates := by
    simp [Daemon.updates, hstoring]
  rcases Persist.write_incidents hw hok with ⟨hsame, hnext⟩ | ⟨j, event, rfl, hevent, hexec⟩
  · refine h.frame hidentified hsourced hcount rfl rfl rfl (Database.openRow_congr hsame)
      hupdates ?_
    rintro item' next' hstoring'
    obtain ⟨rfl, rfl⟩ := Prod.mk.inj (Option.some.inj hstoring')
    rcases hnext with rfl | hlong
    · exact Done.nil _
    · have hdone := h.written item next hstoring
      rwa [List.take_of_length_le (by omega)] at hdone ⊢
  -- an update is stored, which all along counted as one to come
  · have hmem : event ∈ d.updates := by
      have := List.mem_of_getElem? hevent
      simp [Daemon.updates, hstoring, this]
    have hrows := h.identified.openRow_exec (h.identified.updates event hmem) hexec
    have heventually : Daemon.eventually
        { d with history := history, storing := some (item, j + 1 + 1) } = d.eventually := by
      rw [Daemon.eventually, hupdates]
      dsimp only
      rw [hrows, after_update (List.mem_map_of_mem hmem)]
      rfl
    refine ⟨hidentified, hsourced, hcount, fun hnone => ?_, fun item' next' hstoring' => ?_,
      fun hopen => ?_, ?_⟩
    · rw [(h.unopened hnone).1] at hmem
      cases hmem
    · obtain ⟨rfl, rfl⟩ := Prod.mk.inj (Option.some.inj hstoring')
      have hdone := h.written item (j + 1) hstoring
      rw [Nat.add_sub_cancel] at hdone ⊢
      rw [List.take_add_one, hevent, Option.toList_some, List.map_append]
      dsimp only
      rw [hrows]
      exact hdone.concat _
    · rw [heventually]
      exact h.engine hopen
    · rw [heventually]
      exact h.distinct

/-- A batch that is written shows in the table. -/
theorem Daemon.Tracks.eventually_written {item : Persist} {next : ℕ}
    (hstoring : d.storing = some (item, next)) (hdone : (item.writes id).length ≤ next) :
    d.eventually = after d.history.db.openRow
      ((d.queue.flatMap Persist.events ++ d.monitor.pendingEvents).map Incident.overwrite) := by
  have hwritten := h.written item next hstoring
  have hlength : item.events.length ≤ next - 1 := by
    simp only [Persist.writes, List.length_cons, List.length_append, List.length_map] at hdone
    omega
  rw [List.take_of_length_le hlength] at hwritten
  rw [Daemon.eventually, Daemon.updates, hstoring, Option.elim_some, List.map_append]
  exact hwritten.after_append _

/-- The rows have what will be open when nothing is on its way. -/
theorem Daemon.Tracks.lists_restored_of_stored (hupdates : d.updates = []) (device : String) :
    Lists (d.restored true) device d.eventually := by
  rw [Daemon.restored, if_pos rfl, Database.incidentList_open, Daemon.eventually, hupdates]
  exact h.identified.lists_openIncidents h.count device

/-- The incidents that an opened device is restored from. -/
theorem Daemon.Tracks.lists_restored {info : DeviceInfo} {session : String} {readable : Bool}
    (hopen : d.mayOpen) (hid : info.id ≠ "") (hother : d.monitor.currentId ≠ info.id)
    (hfinds : d.FindsOpen (.openDevice info session readable)) :
    Lists (d.restored readable) info.id d.eventually := by
  by_cases hcurrent : d.monitor.currentId = ""
  · obtain ⟨hupdates, hactive, -⟩ := h.unopened hcurrent
    cases readable with
    | true => exact h.lists_restored_of_stored hupdates info.id
    | false =>
        rw [Daemon.eventually, hupdates]
        exact hactive info.id
  · exact hfinds ⟨hopen, hid, hcurrent, hother⟩

/-- **Every action that finds what it goes by in order keeps the store and the
engine together.** -/
theorem Daemon.Tracks.step (op : DaemonOp) (hlimits : d.WithinLimits op)
    (hfinds : d.FindsOpen op) : (d.step op).Tracks := by
  obtain ⟨hdropped, hcount⟩ := hlimits
  have hidentified := h.identified.step op
  have hsourced := h.sourced.step op
  rcases d.step_does op with hstep | hdoes
  · rw [hstep]
    exact h
  generalize d.step op = d' at hdoes hdropped hcount hidentified hsourced
  cases hdoes with
  | restart hstart =>
      rw [Daemon.start_eq] at hstart
      obtain rfl := Except.ok.inj hstart
      refine ⟨hidentified, hsourced, hcount, fun _ => ⟨rfl, ?_, ?_⟩, by simp, by simp, hfinds⟩
      · exact h.identified.lists_openIncidents h.count
      · exact fun k => Std.TreeMap.getElem?_emptyc
  | @openDevice info session readable hopen hid =>
      by_cases hsame : d.monitor.currentId = info.id
      · rw [Daemon.openDevice_same hsame] at hidentified hsourced hcount ⊢
        exact h.frame hidentified hsourced hcount rfl rfl rfl rfl rfl h.written
      · have hlists := h.lists_restored hopen hid hsame hfinds
        rw [Daemon.openDevice_other hsame] at hidentified hsourced hcount ⊢
        refine ⟨hidentified, hsourced, hcount, fun hnone => absurd hnone hid, h.written,
          fun _ => ?_, h.distinct⟩
        exact AlertEngine.holds_restore (fun k => Std.TreeMap.getElem?_emptyc) hlists h.distinct
  | openSimulator hsimulate hid =>
      obtain ⟨hupdates, hactive, hempty⟩ := h.unopened hid
      have hlists : Lists d.active simulatorInfo.id d.eventually := by
        rw [Daemon.eventually, hupdates, List.map_nil, after_nil]
        exact hactive simulatorInfo.id
      refine ⟨hidentified, hsourced, hcount, fun hnone => ?_, h.written, fun _ => ?_, h.distinct⟩
      · replace hnone : simulatorInfo.id = "" := hnone
        exact absurd hnone (by decide)
      · exact AlertEngine.holds_restore hempty hlists h.distinct
  | sync hpoll =>
      have hne := h.sourced.currentId_ne hpoll.1
      exact ⟨hidentified, hsourced, hcount, fun hnone => absurd hnone hne, h.written,
        fun _ => (h.engine hne).syncAcks _, h.distinct⟩
  | @observe uuid t policy hphase hfresh =>
      obtain ⟨hdevice, hne⟩ := h.sourced.sample t (by rw [hphase]; rfl)
      have ht := observe_transitions h.identified.keyed uuid t policy maxGapMs
      rw [hdevice] at ht
      exact h.transitions hidentified hsourced hne ht hfresh rfl rfl rfl
        (Daemon.updates_observe ..) rfl
  -- nothing was cut off, by the assumption on the limits
  | @bound t hphase =>
      obtain ⟨hactive, -, hhistory, hstoring, -, -, -, hengine, hcurrent, -⟩ :=
        d.boundPending_frame t
      have hkept : d.monitor.pendingEvents.length - maxPendingEvents = 0 := by
        simp only [Daemon.boundPending] at hdropped
        omega
      have hupdates : (d.boundPending t).updates = d.updates := by
        simp only [Daemon.updates, Daemon.boundPending, hkept, List.drop_zero]
      refine h.frame hidentified hsourced hcount hactive hcurrent hengine (by rw [hhistory])
        hupdates ?_
      rw [hstoring]
      exact h.written
  | @publish full t hphase =>
      obtain ⟨hactive, -, hhistory, hstoring, -, -, hengine, hcurrent, -⟩ := d.publish_frame t full
      refine h.frame hidentified hsourced hcount hactive hcurrent hengine (by rw [hhistory])
        (d.updates_publish t full) ?_
      rw [hstoring]
      exact h.written
  | @pollFailed error uuid at_ full hpoll hfresh =>
      obtain ⟨-, -, hhistory, hstoring, -, -, hengine, hcurrent, -⟩ := d.pollFailed_frame error
        (d.lost error uuid at_).1 (d.lost error uuid at_).2 full
      exact h.transitions hidentified hsourced (h.sourced.currentId_ne hpoll.1)
        (hfinds.lost_transitions hpoll) hfresh hcurrent hengine hhistory
        (d.updates_pollFailed error uuid at_ full) hstoring
  | take hstoring hqueue =>
      refine h.frame hidentified hsourced hcount rfl rfl rfl rfl ?_ ?_
      · simp [Daemon.updates, hstoring, hqueue]
      · rintro item next hitem
        obtain ⟨rfl, rfl⟩ := Prod.mk.inj (Option.some.inj hitem)
        exact Done.nil _
  | write hstoring hw hok => exact h.write hstoring hw hok hidentified hsourced hcount
  | startOver hop hstoring =>
      refine h.frame hidentified hsourced hcount rfl rfl rfl rfl ?_ ?_
      · simp [Daemon.updates, hstoring]
      · rintro item next hitem
        obtain ⟨rfl, rfl⟩ := Prod.mk.inj (Option.some.inj hitem)
        exact Done.nil _
  | @written item next hstoring hdone =>
      have heventually := h.eventually_written hstoring hdone
      refine ⟨hidentified, hsourced, hcount, fun hnone => ⟨?_, (h.unopened hnone).2⟩, by simp,
        fun hne => ?_, ?_⟩
      · exact (List.append_eq_nil_iff.1 (h.unopened hnone).1).2
      · have hholds := h.engine hne
        rw [heventually] at hholds
        exact hholds
      · have hdistinct := h.distinct
        rw [heventually] at hdistinct
        exact hdistinct
  | ackCommit hdb =>
      exact h.frame hidentified hsourced hcount rfl rfl rfl (openRow_acknowledge hdb) rfl h.written
  | setPolicy hdb =>
      obtain ⟨-, rfl⟩ := Database.setPolicy_ok hdb
      exact h.frame hidentified hsourced hcount rfl rfl rfl rfl rfl h.written
  | _ => exact h.frame hidentified hsourced hcount rfl rfl rfl rfl rfl h.written

end Tracks

/-! ### Runs -/

/-- A daemon started over an empty database. -/
theorem Daemon.tracks_start {simulate : Bool} {session : String} {at_ : ℤ} {d : Daemon}
    (hstart : Daemon.start {} [] simulate session at_ = .ok d) : d.Tracks := by
  have hidentified := identified_start hstart
  rw [Daemon.start_eq] at hstart
  obtain rfl := Except.ok.inj hstart
  have hcount : Database.openCount {} ≤ 1000 := by decide
  refine ⟨hidentified, ⟨by simp, by simp, by simp [Phase.sample]⟩, hcount, fun _ => ⟨rfl, ?_, ?_⟩,
    by simp, by simp, ?_⟩
  · exact hidentified.lists_openIncidents hcount
  · exact fun k => Std.TreeMap.getElem?_emptyc
  · intro id id' p hid
    cases hid

/-- **The store and the engine agree on what is open**, in every run whose
actions find what they go by in order: when a device is open and everything is
stored, the open rows of the device are the incidents of its engine, and no kind
is open twice. -/
theorem store_and_engine_agree {simulate : Bool} {session : String} {at_ : ℤ} {d : Daemon}
    (hstart : Daemon.start {} [] simulate session at_ = .ok d) {ops : List DaemonOp}
    (hlimits : Transition.Along Daemon.step Daemon.WithinLimits d ops)
    (hfinds : Transition.Along Daemon.step Daemon.FindsOpen d ops)
    (hopen : (d.run ops).deviceOpen) (hstored : (d.run ops).stored) :
    let d' := d.run ops
    (∀ id kind, d'.history.db.openRow id = some (d'.monitor.currentId, kind) ↔
      ∃ i, d'.monitor.engine.active[kind]? = some i ∧ i.id = id) ∧
    ∀ id id' kind, d'.history.db.openRow id = some (d'.monitor.currentId, kind) →
      d'.history.db.openRow id' = some (d'.monitor.currentId, kind) → id = id' := by
  intro d'
  have htracks : d'.Tracks := ((Transition.along_and _).2 ⟨hlimits, hfinds⟩).induction _
    (Daemon.tracks_start hstart) fun _ op h hop => h.step op hop.1 hop.2
  have heventually : d'.eventually = d'.history.db.openRow := by
    obtain ⟨hstoring, hqueue, hpending⟩ := hstored
    simp only [Daemon.eventually, Daemon.updates, d', hstoring, hqueue, hpending, Option.elim_none,
      List.flatMap_nil, List.append_nil, List.map_nil, after_nil]
  have hengine := htracks.engine (htracks.sourced.currentId_ne hopen)
  have hdistinct := htracks.distinct
  rw [heventually] at hengine hdistinct
  exact ⟨fun id kind => (hengine id kind).symm, fun id id' kind => hdistinct id id' _⟩

/-- The storage thread stores a batch with a number of writes. -/
def stores (writes : ℕ) : List DaemonOp :=
  .take :: (List.replicate writes (.write id)).concat .written

/-- Unit A reports a fault and is unplugged; unit B takes its place and is
unplugged; unit A comes back.  Each time, the storage thread has caught up. -/
theorem store_and_engine_agree_after_swap :
    let ops : List DaemonOp := List.flatten [
      [.openDevice (powerSupply "A") "s1" true, .sync trippedSample, .observe ("a" ++ ·), .bound,
        .publish true, .pollFailed "unplugged" "u1" 1000 false], stores 7,
      [.openDevice (powerSupply "B") "s2" true, .sync Telemetry.blank, .observe ("b" ++ ·), .bound,
        .publish true, .pollFailed "unplugged" "u2" 3000 false], stores 4,
      [.openDevice (powerSupply "A") "s3" true]]
    ∃ d, Daemon.start {} [] false "s0" 0 = .ok d ∧
      (d.run ops).monitor.engine.incidents.length = 2 ∧
      ∀ id kind, (d.run ops).history.db.openRow id = some ((d.run ops).monitor.currentId, kind) ↔
        ∃ i, (d.run ops).monitor.engine.active[kind]? = some i ∧ i.id = id := by
  intro ops
  exact ⟨_, Daemon.start_eq .., by decide +kernel, (store_and_engine_agree (Daemon.start_eq ..)
    (by decide +kernel) (by decide +kernel) (by decide +kernel) (by decide +kernel)).1⟩

/-- Unit B takes the place of unit A and cannot be polled: its outage is filed
with unit A. -/
theorem incident_of_another_device :
    let ops : List DaemonOp := List.flatten [
      [.openDevice (powerSupply "A") "s1" true, .sync Telemetry.blank, .observe ("a" ++ ·), .bound,
        .publish true, .pollFailed "unplugged" "u1" 1000 false], stores 4,
      [.openDevice (powerSupply "B") "s2" true, .pollFailed "timeout" "u2" 2000 false], stores 3,
      [.openDevice (powerSupply "B") "s3" true]]
    ∃ d, Daemon.start {} [] false "s0" 0 = .ok d ∧
      Transition.Along Daemon.step Daemon.WithinLimits d ops ∧
      (d.run ops).deviceOpen ∧ (d.run ops).stored ∧
      ¬ ∀ id kind, (d.run ops).history.db.openRow id = some ((d.run ops).monitor.currentId, kind) ↔
        ∃ i, (d.run ops).monitor.engine.active[kind]? = some i ∧ i.id = id := by
  intro ops
  refine ⟨_, Daemon.start_eq .., by decide +kernel, by decide +kernel, by decide +kernel, ?_⟩
  intro hagree
  have hrow := (hagree "u2" monitoringUnavailable).2 (Option.map_eq_some_iff.1 (by decide +kernel))
  revert hrow
  decide +kernel

end Railwatch
