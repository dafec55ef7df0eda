/-
# The evidence of an incident

Which readings the monitor attaches to an incident that a sample opens: the
ring, the sample, and the samples that follow until its window closes.

The ring is cut to 60 s when a sample joins it, which is after the events of the
sample have been given what it held.  `evidence_is_its_window` says that the
evidence is the 60 s before the trigger and the 120 s after it exactly when
nothing older than 60 s is left in the ring at that moment; after a suspend or a
slow poll something is (`ring_is_attached_after_suspend`).

`Records` says once what a step does to the ring, the open windows and the evidence, and
every later lemma goes through it.  A run is then cut at the step that opens the
incident: that step gives it what the ring holds and its own sample (`step_opens`), the
steps after it one sample each until the window is closed (`evidenceOf_held`), and those
after that nothing (`evidenceOf_gone`).  A window is closed by a sample that comes too
late for it, by newer windows that need its place, and by another device.
-/

import Railwatch.General.Windows
import Railwatch.Runtime.Accounting

namespace Railwatch

open Windows

/-! ### The windows and one sample -/

/-- The windows that the events of a sample open. -/
def windows (t : Telemetry) (events : List Incident) : List (String × ℕ) :=
  (opened events).map fun i => (i.id, t.monotonicMs + 120000)

/-- **What the events of a sample do to the windows.** Those that are opened push their
windows into a list with limited room, and what falls out of it is counted. -/
theorem foldl_captureAdd {capturing : List (String × ℕ)}
    (hroom : capturing.length ≤ maxEvidenceWindows) (ring : List Telemetry) (t : Telemetry)
    (events : List Incident) :
    events.foldl (Capture.add ring t) ⟨capturing, [], 0⟩ =
      { capturing := (capturing ++ windows t events).rtake maxEvidenceWindows
        evidence := (opened events).flatMap fun i => ring.map fun pre => (i.id, pre)
        truncated := ((capturing ++ windows t events).rdrop maxEvidenceWindows).length } := by
  induction events using List.reverseRecOn with
  | nil =>
      have hrdrop : capturing.rdrop maxEvidenceWindows = [] := by
        rw [List.rdrop, Nat.sub_eq_zero_of_le hroom, List.take_zero]
      simp [windows, opened, rtake_of_length_le hroom, hrdrop]
  | append_singleton events event ih =>
      rw [List.foldl_append, ih]
      by_cases hopen : event.recoveredAtMs.isNone
      · have hopened : opened (events ++ [event]) = opened events ++ [event] := by
          simp [opened, List.filter_append, hopen]
        have hwindows : capturing ++ windows t (events ++ [event]) =
            (capturing ++ windows t events) ++ [(event.id, t.monotonicMs + 120000)] := by
          rw [windows, hopened, List.map_append, ← List.append_assoc]
          rfl
        rw [hwindows, hopened, ← push_rtake (by decide), length_rdrop_concat]
        simp [Capture.add, hopen, push]
      · have hopened : opened (events ++ [event]) = opened events := by
          simp [opened, List.filter_append, hopen]
        simp [Capture.add, hopen, windows, hopened]

/-- The windows that a sample finds open, its own among them. -/
def Monitor.keeps (m : Monitor) (t : Telemetry) (events : List Incident) : List (String × ℕ) :=
  ((m.capturing ++ windows t events).rtake maxEvidenceWindows).filter fun w => t.monotonicMs ≤ w.2

/-- The windows that a sample closes for want of room. -/
def Monitor.evicts (m : Monitor) (t : Telemetry) (events : List Incident) : List (String × ℕ) :=
  (m.capturing ++ windows t events).rdrop maxEvidenceWindows

/-- A sample is captured by the windows that are open; those it ends are closed. -/
theorem Monitor.capture_eq {m : Monitor} (hroom : m.capturing.length ≤ maxEvidenceWindows)
    (t : Telemetry) (events : List Incident) :
    m.capture t events =
      { capturing := m.keeps t events
        evidence := ((opened events).flatMap fun i => m.ring.map fun pre => (i.id, pre)) ++
          (m.keeps t events).map fun w => (w.1, t)
        truncated := (m.evicts t events).length } := by
  rw [Monitor.capture, foldl_captureAdd hroom]
  rfl

/-! ### What an action does to the ring and the windows -/

/-- The sample of a successful poll. -/
def Daemon.polls (d : Daemon) : DaemonOp → List Telemetry
  | .observe uuid =>
      match d.monitor.phase with
      | .synced t policy =>
          if d.fresh (d.monitor.engine.observe uuid t policy maxGapMs).1 then [t] else []
      | _ => []
  | _ => []

/-- The windows that are closed for want of room, with their deadlines. Only an
observation opens windows, so no other action closes one in this way. -/
def Daemon.evicts (d : Daemon) : DaemonOp → List (String × ℕ)
  | .observe uuid =>
      match d.monitor.phase with
      | .synced t policy =>
          let events := (d.monitor.engine.observe uuid t policy maxGapMs).1
          if d.fresh events then d.monitor.evicts t events else []
      | _ => []
  | _ => []

/-- A device is opened, and the ring cleared. -/
def Daemon.clears (d : Daemon) : DaemonOp → Bool
  | .openDevice info _ _ => d.mayOpen ∧ info.id ≠ ""
  | _ => false

/-- Another device is opened, and the windows are closed. -/
def Daemon.changesDevice (d : Daemon) : DaemonOp → Bool
  | .openDevice info _ _ => d.mayOpen ∧ info.id ≠ "" ∧ d.monitor.currentId ≠ info.id
  | _ => false

/-- The ring with one more sample. -/
def trimmed (ring : List Telemetry) (t : Telemetry) : List Telemetry :=
  (ring ++ [t]).dropWhile fun p => 60000 < t.monotonicMs - p.monotonicMs

/-- The ring and the windows before and after an action. All actions but an observation
and an opened device leave both alone. -/
inductive Daemon.Records (d : Daemon) (op : DaemonOp) (d' : Daemon) : Prop where
  | idle (hpolls : d.polls op = []) (hcaptures : d.captures op = []) (hevicts : d.evicts op = [])
      (hclears : d.clears op = false) (hchanges : d.changesDevice op = false)
      (hring : d'.monitor.ring = d.monitor.ring)
      (hcapturing : d'.monitor.capturing = d.monitor.capturing)
      (htruncated : d'.shared.truncatedEvidenceWindows = d.shared.truncatedEvidenceWindows)
      (hissued : d'.issued = d.issued)
  | opens (hpolls : d.polls op = []) (hcaptures : d.captures op = []) (hevicts : d.evicts op = [])
      (hclears : d.clears op = true) (hring : d'.monitor.ring = [])
      (hcapturing : d'.monitor.capturing =
        if d.changesDevice op then [] else d.monitor.capturing)
      (htruncated : d'.shared.truncatedEvidenceWindows = d.shared.truncatedEvidenceWindows)
      (hissued : d'.issued = d.issued)
  | loses {event : Incident} (hnew : event.id ∉ d.issued.map (·.id)) (hpolls : d.polls op = [])
      (hcaptures : d.captures op = d.monitor.ring.map fun t => (event.id, t))
      (hevicts : d.evicts op = []) (hclears : d.clears op = false)
      (hchanges : d.changesDevice op = false) (hring : d'.monitor.ring = d.monitor.ring)
      (hcapturing : d'.monitor.capturing = d.monitor.capturing)
      (htruncated : d'.shared.truncatedEvidenceWindows = d.shared.truncatedEvidenceWindows)
      (hissued : d'.issued = d.issued ++ [event])
  | samples {t : Telemetry} {events : List Incident} (hfresh : d.fresh events)
      (hpolls : d.polls op = [t]) (hemits : d.emits op = events)
      (hcaptures : d.captures op = (d.monitor.capture t events).evidence)
      (hevicts : d.evicts op = d.monitor.evicts t events)
      (hclears : d.clears op = false) (hchanges : d.changesDevice op = false)
      (hring : d'.monitor.ring = trimmed d.monitor.ring t)
      (hcapturing : d'.monitor.capturing = (d.monitor.capture t events).capturing)
      (htruncated : d'.shared.truncatedEvidenceWindows =
        d.shared.truncatedEvidenceWindows + (d.monitor.capture t events).truncated)
      (hissued : d'.issued = d.issued ++ opened events)

/-- A sample goes to the ring and to the windows that are open. -/
theorem Daemon.records_observe (d : Daemon) (uuid : String → String) :
    d.Records (.observe uuid) (d.step (.observe uuid)) := by
  cases hphase : d.monitor.phase with
  | synced t policy =>
      by_cases hfresh : d.fresh (d.monitor.engine.observe uuid t policy maxGapMs).1
      · refine .samples (t := t) hfresh ?_ ?_ ?_ ?_ rfl rfl ?_ ?_ ?_ ?_ <;>
          simp [Daemon.step, Daemon.observe, Daemon.polls, Daemon.evicts, trimmed, hphase, hfresh]
      · refine .idle ?_ ?_ ?_ rfl rfl ?_ ?_ ?_ ?_ <;>
          simp [Daemon.step, Daemon.polls, Daemon.evicts, hphase, hfresh]
  | _ =>
      refine .idle ?_ ?_ ?_ rfl rfl ?_ ?_ ?_ ?_ <;>
        simp [Daemon.step, Daemon.polls, Daemon.evicts, hphase]

/-- Opening a device clears the ring, and closes the windows if it is another one. It
takes no sample, so it records no evidence itself. -/
theorem Daemon.records_openDevice (d : Daemon) (info : DeviceInfo) (session : String)
    (readable : Bool) : d.Records (.openDevice info session readable)
      (d.step (.openDevice info session readable)) := by
  by_cases hopen : d.mayOpen ∧ info.id ≠ ""
  · have hstep : d.step (.openDevice info session readable) = d.openDevice info session readable :=
      if_pos hopen
    rw [hstep]
    by_cases hsame : d.monitor.currentId = info.id
    · rw [Daemon.openDevice_same hsame]
      refine .opens rfl rfl rfl ?_ rfl ?_ rfl rfl <;>
        simp [Daemon.clears, Daemon.changesDevice, hopen, hsame]
    · rw [Daemon.openDevice_other hsame]
      refine .opens rfl rfl rfl ?_ rfl ?_ rfl rfl <;>
        simp [Daemon.clears, Daemon.changesDevice, hopen, hsame]
  · have hstep : d.step (.openDevice info session readable) = d := if_neg hopen
    rw [hstep]
    refine .idle rfl rfl rfl ?_ ?_ rfl rfl rfl rfl
    · simpa [Daemon.clears] using hopen
    · simp only [Daemon.changesDevice, decide_eq_false_iff_not]
      exact fun h => hopen ⟨h.1, h.2.1⟩

/-- A failed poll files an incident without a recovery. -/
theorem Daemon.lost_isOpen {d : Daemon} {error uuid : String} {at_ : ℤ} {event : Incident}
    (h : (d.lost error uuid at_).1 = some event) : event.recoveredAtMs = none := by
  unfold Daemon.lost AlertEngine.monitoringLost at h
  split at h
  · dsimp only at h
    split_ifs at h
    rw [← Option.some.inj h]
  · cases h

/-- An outage has the ring as its evidence, and opens no window: there is no sample to
go on with. An outage that lasts already records nothing. -/
theorem Daemon.records_pollFailed (d : Daemon) (error uuid : String) (at_ : ℤ) (full : Bool) :
    d.Records (.pollFailed error uuid at_ full) (d.step (.pollFailed error uuid at_ full)) := by
  have hsame (event : Option Incident) (engine : AlertEngine) :
      (d.pollFailed error event engine full).monitor.ring = d.monitor.ring ∧
        (d.pollFailed error event engine full).monitor.capturing = d.monitor.capturing ∧
        (d.pollFailed error event engine full).shared.truncatedEvidenceWindows =
          d.shared.truncatedEvidenceWindows := by
    unfold Daemon.pollFailed
    dsimp only
    split
    · simp
    · split <;> simp
  by_cases hpoll : d.mayPoll ∧ d.fresh (d.lost error uuid at_).1.toList
  · have hstep : d.step (.pollFailed error uuid at_ full) =
        d.pollFailed error (d.lost error uuid at_).1 (d.lost error uuid at_).2 full :=
      if_pos hpoll
    obtain ⟨hring, hcapturing, htruncated⟩ :=
      hsame (d.lost error uuid at_).1 (d.lost error uuid at_).2
    have hissued := (d.pollFailed_frame error (d.lost error uuid at_).1
      (d.lost error uuid at_).2 full).2.1
    rw [hstep]
    cases hlost : (d.lost error uuid at_).1 with
    | none =>
        rw [hlost] at hring hcapturing htruncated hissued
        refine .idle rfl ?_ rfl rfl rfl hring hcapturing htruncated ?_
        · simp [hlost]
        · simpa [opened] using hissued
    | some event =>
        have hopen := Daemon.lost_isOpen hlost
        have hfresh : d.fresh [event] := by simpa [hlost] using hpoll.2
        rw [hlost] at hring hcapturing htruncated hissued
        have hnew : event.id ∉ d.issued.map (·.id) := hfresh.2 event (by simp [opened, hopen])
        refine .loses hnew rfl ?_ rfl rfl rfl hring hcapturing htruncated ?_
        · simp [hlost, hpoll.1, hfresh]
        · simpa [opened, hopen] using hissued
  · have hstep : d.step (.pollFailed error uuid at_ full) = d := if_neg hpoll
    rw [hstep]
    exact .idle rfl (by simp [hpoll]) rfl rfl rfl rfl rfl rfl rfl

/-- **What an action does to the ring and the windows.** Only an observation adds to
them, and only a device that is opened clears them. -/
theorem Daemon.step_records (d : Daemon) {op : DaemonOp} (hop : op.staysUp) :
    d.Records op (d.step op) := by
  cases op with
  | restart => cases hop
  | observe uuid => exact d.records_observe uuid
  | openDevice info session readable => exact d.records_openDevice info session readable
  | pollFailed error uuid at_ full => exact d.records_pollFailed error uuid at_ full
  | bound =>
      rcases d.step_does .bound with hstep | hdoes
      · rw [hstep]
        exact .idle rfl rfl rfl rfl rfl rfl rfl rfl rfl
      · generalize d.step .bound = d' at hdoes
        cases hdoes with
        | bound hphase =>
            refine .idle rfl rfl rfl rfl rfl ?_ ?_ ?_ ?_ <;> simp only [Daemon.boundPending]
        | startOver hop => simp at hop
  | publish full =>
      rcases d.step_does (.publish full) with hstep | hdoes
      · rw [hstep]
        exact .idle rfl rfl rfl rfl rfl rfl rfl rfl rfl
      · generalize d.step (.publish full) = d' at hdoes
        cases hdoes with
        | publish hphase =>
            refine .idle rfl rfl rfl rfl rfl ?_ ?_ ?_ ?_ <;>
            · unfold Daemon.publish
              dsimp only
              split <;> rfl
        | startOver hop => simp at hop
  | _ =>
      rcases d.step_does _ with hstep | hdoes
      · rw [hstep]
        exact .idle rfl rfl rfl rfl rfl rfl rfl rfl rfl
      · generalize d.step _ = d' at hdoes
        cases hdoes <;> exact .idle rfl rfl rfl rfl rfl rfl rfl rfl rfl

/-! ### Runs -/

/-- The windows fit, and are of incidents that were opened. So no window is opened under
an id that had one before. -/
structure Daemon.Windowed (d : Daemon) : Prop where
  /-- There are 32 at most. -/
  room : d.monitor.capturing.length ≤ maxEvidenceWindows
  /-- Each belongs to an incident that was opened. -/
  known : ∀ w ∈ d.monitor.capturing, w.1 ∈ d.issued.map (·.id)

/-- A window that stays was open, or belongs to an incident of this sample. -/
theorem Monitor.mem_keeps {m : Monitor} {t : Telemetry} {events : List Incident} {w : String × ℕ}
    (h : w ∈ m.keeps t events) : w ∈ m.capturing ∨ w ∈ windows t events :=
  List.mem_append.1 (List.mem_of_mem_drop (List.mem_filter.1 h).1)

/-- A window belongs to an incident that has been issued. -/
theorem mem_windows_known {issued : List Incident} {t : Telemetry} {events : List Incident}
    {w : String × ℕ} (h : w ∈ windows t events) : w.1 ∈ (issued ++ opened events).map (·.id) := by
  obtain ⟨i, hi, rfl⟩ := List.mem_map.1 h
  exact List.mem_map.2 ⟨i, List.mem_append_right _ hi, rfl⟩

/-- An incident that has been issued stays so. -/
theorem mem_issued_append {issued : List Incident} {id : String}
    (h : id ∈ issued.map (·.id)) (issued' : List Incident) :
    id ∈ (issued ++ issued').map (·.id) := by
  rw [List.map_append]
  exact List.mem_append_left _ h

/-- The windows of a running process belong to its incidents, and there are 32 at most,
whichever of the four kinds of step is made. -/
theorem Daemon.Windowed.step {d : Daemon} (h : d.Windowed) {op : DaemonOp} (hop : op.staysUp) :
    (d.step op).Windowed := by
  cases d.step_records hop with
  | idle _ _ _ _ _ _ hcapturing _ hissued =>
      exact ⟨hcapturing ▸ h.room, by rw [hcapturing, hissued]; exact h.known⟩
  | opens _ _ _ _ _ hcapturing _ hissued =>
      constructor
      · rw [hcapturing]
        split_ifs
        · exact Nat.zero_le _
        · exact h.room
      · intro w hw
        rw [hcapturing] at hw
        rw [hissued]
        split_ifs at hw
        · cases hw
        · exact h.known w hw
  | loses _ _ _ _ _ _ _ hcapturing _ hissued =>
      refine ⟨hcapturing ▸ h.room, fun w hw => ?_⟩
      rw [hcapturing] at hw
      rw [hissued]
      exact mem_issued_append (h.known w hw) _
  | samples _ _ _ _ _ _ _ _ hcapturing _ hissued =>
      rw [Monitor.capture_eq h.room] at hcapturing
      constructor
      · rw [hcapturing]
        exact (List.length_filter_le ..).trans ((length_rtake _).trans_le (min_le_left ..))
      · intro w hw
        rw [hcapturing] at hw
        rw [hissued]
        rcases Monitor.mem_keeps hw with hw | hw
        · exact mem_issued_append (h.known w hw) _
        · exact mem_windows_known hw

/-- The samples polled in a run. -/
def Daemon.polled (d : Daemon) (ops : List DaemonOp) : List Telemetry :=
  Transition.outputs Daemon.step Daemon.polls d ops

/-- The windows closed for want of room in a run. -/
def Daemon.evicted (d : Daemon) (ops : List DaemonOp) : List (String × ℕ) :=
  Transition.outputs Daemon.step Daemon.evicts d ops

/-- The samples polled since the ring was last cleared. -/
def Daemon.sinceCleared (d : Daemon) (ops : List DaemonOp) : List Telemetry :=
  Transition.outputsSince Daemon.step Daemon.clears Daemon.polls [] d ops

/-- The window of an incident is closed, by the limit or by another device. -/
def Daemon.closes (id : String) (d : Daemon) (op : DaemonOp) : Bool :=
  d.changesDevice op || (d.evicts op).any (·.1 = id)

/-- The samples polled until the window of an incident is closed. -/
def Daemon.heldSamples (d : Daemon) (id : String) (ops : List DaemonOp) : List Telemetry :=
  Transition.outputsUntil Daemon.step (Daemon.closes id) Daemon.polls d ops

/-- The readings attached to one incident. -/
def evidenceFor (id : String) (evidence : List (String × Telemetry)) : List Telemetry :=
  (evidence.filter (·.1 = id)).map Prod.snd

/-- The evidence generated for an incident in a run. -/
def Daemon.evidenceOf (d : Daemon) (id : String) (ops : List DaemonOp) : List Telemetry :=
  evidenceFor id (d.captured ops)

/-- The evidence of an incident in two lists. -/
theorem evidenceFor_append (id : String) (l l' : List (String × Telemetry)) :
    evidenceFor id (l ++ l') = evidenceFor id l ++ evidenceFor id l' := by
  simp [evidenceFor]

/-- The ring under an id is evidence of that incident alone. -/
theorem evidenceFor_ring (id id' : String) (ring : List Telemetry) :
    evidenceFor id (ring.map fun pre => (id', pre)) = if id' = id then ring else [] := by
  unfold evidenceFor
  split_ifs with h
  · rw [List.filter_eq_self.2 (by simp [h]), List.map_map]
    exact List.map_id ring
  · rw [List.filter_eq_nil_iff.2 (by simp [h])]
    rfl

/-- A sample is evidence for the windows that it finds open. -/
theorem evidenceFor_windows (id : String) (capturing : List (String × ℕ)) (t : Telemetry) :
    evidenceFor id (capturing.map fun w => (w.1, t)) =
      (capturing.filter (·.1 = id)).map fun _ => t := by
  simp [evidenceFor, List.filter_map, Function.comp_def]

/-- The ring before a sample is evidence for the incidents that it opens, and for no
other. -/
theorem evidenceFor_notOpened {id : String} {incidents : List Incident}
    (hid : id ∉ incidents.map (·.id)) (ring : List Telemetry) :
    evidenceFor id (incidents.flatMap fun i => ring.map fun pre => (i.id, pre)) = [] := by
  unfold evidenceFor
  rw [List.map_eq_nil_iff, List.filter_eq_nil_iff]
  intro e he hid'
  obtain ⟨i, hi, he⟩ := List.mem_flatMap.1 he
  obtain ⟨pre, -, rfl⟩ := List.mem_map.1 he
  exact hid (List.mem_map.2 ⟨i, hi, of_decide_eq_true hid'⟩)

/-- An incident gets the ring when it is opened. -/
theorem evidenceFor_opened {i : Incident} {incidents : List Incident}
    (hnodup : (incidents.map (·.id)).Nodup) (hi : i ∈ incidents) (ring : List Telemetry) :
    evidenceFor i.id (incidents.flatMap fun i => ring.map fun pre => (i.id, pre)) = ring := by
  induction incidents with
  | nil => cases hi
  | cons j incidents ih =>
      rw [List.map_cons, List.nodup_cons] at hnodup
      rw [List.flatMap_cons, evidenceFor_append, evidenceFor_ring]
      rcases List.mem_cons.1 hi with rfl | hi
      · rw [if_pos rfl, evidenceFor_notOpened hnodup.1, List.append_nil]
      · have hne : j.id ≠ i.id := fun h => hnodup.1 (h ▸ List.mem_map_of_mem hi)
        rw [if_neg hne, List.nil_append, ih hnodup.2 hi]

/-- The window of one incident, when a sample has come. -/
theorem Monitor.keeps_filter {m : Monitor} {t : Telemetry} {events : List Incident} {id : String}
    {until_ : ℕ}
    (h : (m.capturing ++ windows t events).filter (·.1 = id) = [(id, until_)]) :
    (m.keeps t events).filter (·.1 = id) =
      if (m.evicts t events).any (·.1 = id) then []
      else if t.monotonicMs ≤ until_ then [(id, until_)] else [] := by
  rw [Monitor.keeps, List.filter_comm, filter_rtake h]
  change List.filter _ (if (m.evicts t events).any (·.1 = id) then [] else _) = _
  split_ifs with hevicted hopen
  · rfl
  · simp [hopen]
  · simp [hopen]

/-- No window is of an incident that is yet to be opened. -/
theorem Daemon.Windowed.filter_new {d : Daemon} (h : d.Windowed) {id : String}
    (hid : id ∉ d.issued.map (·.id)) : d.monitor.capturing.filter (·.1 = id) = [] :=
  List.filter_eq_nil_iff.2 fun w hw hw' => hid (of_decide_eq_true hw' ▸ h.known w hw)

/-- A sample opens no window of an incident that was opened before. -/
theorem Daemon.fresh.filter_windows {d : Daemon} {events : List Incident} (h : d.fresh events)
    {id : String} (hid : id ∈ d.issued.map (·.id)) (t : Telemetry) :
    (windows t events).filter (·.1 = id) = [] := by
  rw [List.filter_eq_nil_iff]
  intro w hw hw'
  obtain ⟨i, hi, rfl⟩ := List.mem_map.1 hw
  have hsame : i.id = id := of_decide_eq_true hw'
  exact h.2 i hi (hsame ▸ hid)

/-- No incident is opened twice. -/
theorem Daemon.fresh.notOpened {d : Daemon} {events : List Incident} (h : d.fresh events)
    {id : String} (hid : id ∈ d.issued.map (·.id)) : id ∉ (opened events).map (·.id) := by
  intro hmem
  obtain ⟨i, hi, rfl⟩ := List.mem_map.1 hmem
  exact h.2 i hi hid

/-- **After its window an incident gets nothing.** A window is opened with the incident
only, and the id of an incident is used once. -/
theorem Daemon.Windowed.step_gone {d : Daemon} (h : d.Windowed) {op : DaemonOp}
    (hop : op.staysUp) {id : String} (hid : id ∈ d.issued.map (·.id))
    (hgone : d.monitor.capturing.filter (·.1 = id) = []) :
    evidenceFor id (d.captures op) = [] ∧ id ∈ (d.step op).issued.map (·.id) ∧
      (d.step op).monitor.capturing.filter (·.1 = id) = [] := by
  cases d.step_records hop with
  | idle _ hcaptures _ _ _ _ hcapturing _ hissued =>
      rw [hcaptures, hcapturing, hissued]
      exact ⟨rfl, hid, hgone⟩
  | opens _ hcaptures _ _ _ hcapturing _ hissued =>
      rw [hcaptures, hcapturing, hissued]
      refine ⟨rfl, hid, ?_⟩
      split_ifs
      · rfl
      · exact hgone
  | @loses event hnew _ hcaptures _ _ _ _ hcapturing _ hissued =>
      have hne : event.id ≠ id := fun he => hnew (he ▸ hid)
      rw [hcaptures, hcapturing, hissued, evidenceFor_ring, if_neg hne]
      exact ⟨rfl, mem_issued_append hid _, hgone⟩
  | @samples t events hfresh _ _ hcaptures _ _ _ _ hcapturing _ hissued =>
      rw [Monitor.capture_eq h.room] at hcaptures hcapturing
      have hkeeps : (d.monitor.keeps t events).filter (·.1 = id) = [] := by
        rw [List.filter_eq_nil_iff]
        intro w hw hw'
        rcases Monitor.mem_keeps hw with hw | hw
        · exact List.filter_eq_nil_iff.1 hgone w hw hw'
        · exact List.filter_eq_nil_iff.1 (hfresh.filter_windows hid t) w hw hw'
      rw [hcaptures, hcapturing, hissued, evidenceFor_append,
        evidenceFor_notOpened (hfresh.notOpened hid), evidenceFor_windows, hkeeps]
      exact ⟨rfl, mem_issued_append hid _, rfl⟩

/-- Once its window is closed an incident gets no more evidence. -/
theorem Daemon.Windowed.evidenceOf_gone {d : Daemon} (h : d.Windowed) {ops : List DaemonOp}
    (hops : ∀ op ∈ ops, op.staysUp) {id : String} (hid : id ∈ d.issued.map (·.id))
    (hgone : d.monitor.capturing.filter (·.1 = id) = []) : d.evidenceOf id ops = [] := by
  induction ops generalizing d with
  | nil => rfl
  | cons op ops ih =>
      obtain ⟨hop, hops⟩ := List.forall_mem_cons.1 hops
      obtain ⟨hnow, hid, hgone⟩ := h.step_gone hop hid hgone
      change evidenceFor id (d.captures op ++ (d.step op).captured ops) = []
      rw [evidenceFor_append, hnow, List.nil_append]
      exact ih (h.step hop) hops hid hgone

/-- **An incident gets what its window sees**, and its window stays unless it is
closed or the sample is too late for it. -/
theorem Daemon.Windowed.step_held {d : Daemon} (h : d.Windowed) {op : DaemonOp}
    (hop : op.staysUp) {id : String} {until_ : ℕ} (hid : id ∈ d.issued.map (·.id))
    (hheld : d.monitor.capturing.filter (·.1 = id) = [(id, until_)]) :
    id ∈ (d.step op).issued.map (·.id) ∧
      evidenceFor id (d.captures op) =
        (if d.closes id op then [] else (d.polls op).filter (·.monotonicMs ≤ until_)) ∧
      (d.step op).monitor.capturing.filter (·.1 = id) =
        if d.closes id op ∨ ∃ t ∈ d.polls op, until_ < t.monotonicMs then []
        else [(id, until_)] := by
  cases d.step_records hop with
  | idle hpolls hcaptures hevicts _ hchanges _ hcapturing _ hissued =>
      have hcloses : d.closes id op = false := by simp [Daemon.closes, hchanges, hevicts]
      rw [hcaptures, hcapturing, hissued, hpolls, hcloses, hheld]
      exact ⟨hid, by simp [evidenceFor], by simp⟩
  | opens hpolls hcaptures hevicts _ _ hcapturing _ hissued =>
      have hcloses : d.closes id op = d.changesDevice op := by simp [Daemon.closes, hevicts]
      rw [hcaptures, hcapturing, hissued, hpolls, hcloses]
      refine ⟨hid, by simp [evidenceFor], ?_⟩
      split_ifs with hchanges <;> simp_all
  | @loses event hnew hpolls hcaptures hevicts _ hchanges _ hcapturing _ hissued =>
      have hcloses : d.closes id op = false := by simp [Daemon.closes, hchanges, hevicts]
      have hne : event.id ≠ id := fun he => hnew (he ▸ hid)
      rw [hcaptures, hcapturing, hissued, hpolls, hcloses, hheld, evidenceFor_ring, if_neg hne]
      exact ⟨mem_issued_append hid _, by simp, by simp⟩
  -- a sample: no new window is of this incident, so its own decides
  | @samples t events hfresh hpolls _ hcaptures hevicts _ hchanges _ hcapturing _ hissued =>
      have hcloses : d.closes id op = (d.monitor.evicts t events).any (·.1 = id) := by
        simp [Daemon.closes, hchanges, hevicts]
      have hone : (d.monitor.capturing ++ windows t events).filter (·.1 = id) =
          [(id, until_)] := by
        rw [List.filter_append, hheld, hfresh.filter_windows hid, List.append_nil]
      rw [Monitor.capture_eq h.room] at hcaptures hcapturing
      rw [hcaptures, hcapturing, hissued, hpolls, hcloses, evidenceFor_append,
        evidenceFor_notOpened (hfresh.notOpened hid), evidenceFor_windows,
        Monitor.keeps_filter hone]
      refine ⟨mem_issued_append hid _, ?_, ?_⟩
      · split_ifs with hevicted hopen
        · rfl
        · simp [hopen]
        · simp [hopen]
      · simp only [List.mem_singleton, exists_eq_left]
        rcases le_or_gt t.monotonicMs until_ with hopen | hlate
        · simp only [hopen, hopen.not_gt, or_false, if_true]
        · simp only [hlate, hlate.not_ge, or_true, if_true, if_false, ite_self]

/-- The clock of the samples, `CLOCK_BOOTTIME`, does not step back. -/
def BootClockForward (samples : List Telemetry) : Prop :=
  samples.Pairwise fun p q => p.monotonicMs ≤ q.monotonicMs

instance (samples : List Telemetry) : Decidable (BootClockForward samples) := by
  unfold BootClockForward
  infer_instance

/-- **What follows the trigger.**  An incident with an open window gets the
samples that come before it is closed, if they are not too late. -/
theorem Daemon.Windowed.evidenceOf_held {d : Daemon} (h : d.Windowed) {ops : List DaemonOp}
    (hops : ∀ op ∈ ops, op.staysUp) (hclock : BootClockForward (d.polled ops)) {id : String}
    {until_ : ℕ} (hid : id ∈ d.issued.map (·.id))
    (hheld : d.monitor.capturing.filter (·.1 = id) = [(id, until_)]) :
    d.evidenceOf id ops = (d.heldSamples id ops).filter (·.monotonicMs ≤ until_) := by
  induction ops generalizing d with
  | nil => rfl
  | cons op ops ih =>
      obtain ⟨hop, hops⟩ := List.forall_mem_cons.1 hops
      obtain ⟨hid, hnow, hthen⟩ := h.step_held hop hid hheld
      have hsplit : d.evidenceOf id (op :: ops) =
          evidenceFor id (d.captures op) ++ (d.step op).evidenceOf id ops :=
        evidenceFor_append ..
      obtain ⟨-, hclockThen, hlater⟩ := List.pairwise_append.1 hclock
      rw [hsplit, hnow, Daemon.heldSamples, Transition.outputsUntil]
      by_cases hcloses : d.closes id op
      · have hgone : (d.step op).monitor.capturing.filter (·.1 = id) = [] := by
          rw [hthen, if_pos (Or.inl hcloses)]
        rw [if_pos hcloses, if_pos hcloses, (h.step hop).evidenceOf_gone hops hid hgone]
        rfl
      · rw [if_neg hcloses, if_neg hcloses, List.filter_append]
        congr 1
        by_cases hlate : ∃ t ∈ d.polls op, until_ < t.monotonicMs
        · -- the window is over, and so are all samples that follow
          have hgone : (d.step op).monitor.capturing.filter (·.1 = id) = [] := by
            rw [hthen, if_pos (Or.inr hlate)]
          rw [(h.step hop).evidenceOf_gone hops hid hgone, eq_comm, List.filter_eq_nil_iff]
          intro p hp hle
          obtain ⟨t, ht, hlt⟩ := hlate
          have hle' := hlater t ht p (Transition.outputsUntil_subset _ _ _ _ _ hp)
          exact absurd (of_decide_eq_true hle) (hlt.trans_le hle').not_ge
        · have hstays : (d.step op).monitor.capturing.filter (·.1 = id) = [(id, until_)] := by
            rw [hthen, if_neg (not_or.2 ⟨hcloses, hlate⟩)]
          exact ih (h.step hop) hops hclockThen hid hstays

/-- Evidence is of incidents that were opened: those opened just now, with the ring, or
those that have a window. -/
theorem Daemon.Windowed.captures_known {d : Daemon} (h : d.Windowed) {op : DaemonOp}
    (hop : op.staysUp) {e : String × Telemetry} (he : e ∈ d.captures op) :
    e.1 ∈ (d.step op).issued.map (·.id) := by
  cases d.step_records hop with
  | idle _ hcaptures =>
      rw [hcaptures] at he
      cases he
  | opens _ hcaptures =>
      rw [hcaptures] at he
      cases he
  | @loses event _ _ hcaptures _ _ _ _ _ _ hissued =>
      rw [hcaptures] at he
      obtain ⟨pre, -, rfl⟩ := List.mem_map.1 he
      rw [hissued]
      simp
  | @samples t events _ _ _ hcaptures _ _ _ _ _ _ hissued =>
      rw [hcaptures, Monitor.capture_eq h.room] at he
      rw [hissued]
      rcases List.mem_append.1 he with he | he
      · obtain ⟨i, hi, he⟩ := List.mem_flatMap.1 he
        obtain ⟨pre, -, rfl⟩ := List.mem_map.1 he
        exact List.mem_map.2 ⟨i, List.mem_append_right _ hi, rfl⟩
      · obtain ⟨w, hw, rfl⟩ := List.mem_map.1 he
        rcases Monitor.mem_keeps hw with hw | hw
        · exact mem_issued_append (h.known w hw) _
        · exact mem_windows_known hw

/-- An incident that has been issued stays so after an action. -/
theorem Daemon.mem_issued_step {d : Daemon} {op : DaemonOp} (hop : op.staysUp) {id : String}
    (h : id ∈ d.issued.map (·.id)) : id ∈ (d.step op).issued.map (·.id) := by
  cases d.step_records hop with
  | idle _ _ _ _ _ _ _ _ hissued => exact hissued ▸ h
  | opens _ _ _ _ _ _ _ hissued => exact hissued ▸ h
  | loses _ _ _ _ _ _ _ _ _ hissued => exact hissued ▸ mem_issued_append h _
  | samples _ _ _ _ _ _ _ _ _ _ hissued => exact hissued ▸ mem_issued_append h _

/-- **The run before the trigger**: the windows are known, all evidence is of
incidents that were opened, and every window that was closed for want of room is
counted. -/
theorem Daemon.Windowed.run {d : Daemon} (h : d.Windowed) {ops : List DaemonOp}
    (hops : ∀ op ∈ ops, op.staysUp) :
    (d.run ops).Windowed ∧ (∀ e ∈ d.captured ops, e.1 ∈ (d.run ops).issued.map (·.id)) ∧
      (d.run ops).shared.truncatedEvidenceWindows =
        d.shared.truncatedEvidenceWindows + (d.evicted ops).length := by
  induction ops using List.reverseRecOn with
  | nil => exact ⟨h, fun _ he => (List.not_mem_nil he).elim, rfl⟩
  | append_singleton ops op ih =>
      obtain ⟨hwindowed, hknown, hcount⟩ := ih fun op' h => hops op' (List.mem_append_left _ h)
      have hop := hops op (by simp)
      rw [Daemon.run_concat]
      refine ⟨hwindowed.step hop, ?_, ?_⟩
      · intro e he
        rw [Daemon.captured, Transition.outputs_concat] at he
        rcases List.mem_append.1 he with he | he
        · exact Daemon.mem_issued_step hop (hknown e he)
        · exact hwindowed.captures_known hop he
      · rw [Daemon.evicted, Transition.outputs_concat, List.length_append, ← Nat.add_assoc]
        refine Eq.trans ?_ (congrArg (· + _) hcount)
        change _ = _ + ((d.run ops).evicts op).length
        cases (d.run ops).step_records hop with
        | idle _ _ hevicts _ _ _ _ htruncated => rw [htruncated, hevicts]; rfl
        | opens _ _ hevicts _ _ _ htruncated => rw [htruncated, hevicts]; rfl
        | loses _ _ _ hevicts _ _ _ _ htruncated => rw [htruncated, hevicts]; rfl
        | samples _ _ _ _ hevicts _ _ _ _ htruncated =>
            rw [htruncated, hevicts, Monitor.capture_eq hwindowed.room]

/-- **The ring.**  What was polled since it was cleared and is not more than 60 s
older than a moment to come is in it. -/
theorem Daemon.filter_ring {d : Daemon} (hring : d.monitor.ring = []) {ops : List DaemonOp}
    (hops : ∀ op ∈ ops, op.staysUp) {now : ℕ} (hnow : ∀ p ∈ d.polled ops, p.monotonicMs ≤ now) :
    (d.run ops).monitor.ring.filter (fun p => now - 60000 ≤ p.monotonicMs) =
      (d.sinceCleared ops).filter fun p => now - 60000 ≤ p.monotonicMs := by
  induction ops using List.reverseRecOn with
  | nil => rw [Daemon.run, Transition.run_nil, hring]; rfl
  | append_singleton ops op ih =>
      rw [Daemon.polled, Transition.outputs_concat] at hnow
      specialize ih (fun op' h => hops op' (List.mem_append_left _ h))
        fun p hp => hnow p (List.mem_append_left _ hp)
      rw [Daemon.run_concat, Daemon.sinceCleared, Transition.outputsSince_concat]
      change _ = List.filter _ (if (d.run ops).clears op then []
        else d.sinceCleared ops ++ (d.run ops).polls op)
      cases (d.run ops).step_records (hops op (by simp)) with
      | idle hpolls _ _ hclears _ hring => simpa [hpolls, hclears, hring] using ih
      | opens _ _ _ hclears hring => simp [hclears, hring]
      | loses _ hpolls _ _ hclears _ hring => simpa [hpolls, hclears, hring] using ih
      | @samples t _ _ hpolls _ _ _ hclears _ hring =>
          have ht : t.monotonicMs ≤ now := by
            refine hnow t (List.mem_append_right _ ?_)
            change t ∈ (d.run ops).polls op
            simp [hpolls]
          rw [hring, hpolls, hclears, trimmed, filter_dropWhile, List.filter_append, ih,
            if_neg Bool.false_ne_true, List.filter_append]
          · intro p hold hyoung
            have hold := of_decide_eq_true hold
            have hyoung := of_decide_eq_true hyoung
            omega

/-! ### The trigger -/

/-- **What the trigger attaches**: the ring, and the sample itself if the window
of the incident is not closed at once. -/
theorem Daemon.Windowed.step_opens {d : Daemon} (h : d.Windowed) {op : DaemonOp}
    (hop : op.staysUp) {t : Telemetry} (ht : d.polls op = [t]) {i : Incident}
    (hi : i ∈ opened (d.emits op)) :
    let kept := i ∈ (opened (d.emits op)).rtake maxEvidenceWindows
    i.id ∉ d.issued.map (·.id) ∧
      evidenceFor i.id (d.captures op) = d.monitor.ring ++ (if kept then [t] else []) ∧
      i.id ∈ (d.step op).issued.map (·.id) ∧
      (d.step op).monitor.capturing.filter (·.1 = i.id) =
        if kept then [(i.id, t.monotonicMs + 120000)] else [] := by
  intro kept
  cases d.step_records hop with
  | idle hpolls => rw [hpolls] at ht; cases ht
  | opens hpolls => rw [hpolls] at ht; cases ht
  | loses _ hpolls => rw [hpolls] at ht; cases ht
  | @samples t' events hfresh hpolls hemits hcaptures _ _ _ _ hcapturing _ hissued =>
      obtain rfl : t' = t := by simpa using hpolls.symm.trans ht
      subst hemits
      have hnew := hfresh.2 i hi
      have hwindow : (windows t' (d.emits op)).filter (·.1 = i.id) =
          [(i.id, t'.monotonicMs + 120000)] := by
        rw [windows, List.filter_map]
        exact congrArg (List.map _) (filter_key_eq hfresh.1 hi)
      have hone : (d.monitor.capturing ++ windows t' (d.emits op)).filter (·.1 = i.id) =
          [(i.id, t'.monotonicMs + 120000)] := by
        rw [List.filter_append, h.filter_new hnew, List.nil_append, hwindow]
      have hkept : (d.monitor.evicts t' (d.emits op)).any (·.1 = i.id) = !decide kept := by
        have hrdrop : (windows t' (d.emits op)).rdrop maxEvidenceWindows =
            ((opened (d.emits op)).rdrop maxEvidenceWindows).map
              fun i => (i.id, t'.monotonicMs + 120000) := by
          rw [windows, List.rdrop, List.rdrop, List.map_take, List.length_map]
        rw [Monitor.evicts, any_rdrop_append, hrdrop, List.any_map]
        · by_cases hmem : kept
          · simpa [hmem] using (mem_rtake_iff hfresh.1 hi).1 hmem
          · have hany := mt (mem_rtake_iff hfresh.1 hi).2 hmem
            simpa [hmem] using hany
        · exact List.filter_eq_nil_iff.1 (h.filter_new hnew)
      rw [Monitor.capture_eq h.room] at hcaptures hcapturing
      rw [hcaptures, hcapturing, hissued, evidenceFor_append, evidenceFor_opened hfresh.1 hi,
        evidenceFor_windows, Monitor.keeps_filter hone, hkept]
      refine ⟨hnew, ?_, List.mem_map.2 ⟨i, List.mem_append_right _ hi, rfl⟩, ?_⟩
      · by_cases hmem : kept <;> simp [hmem]
      · by_cases hmem : kept <;> simp [hmem]

/-- **The evidence of an incident**: all of the ring, and, if its window is not
closed at once, the trigger and what follows. -/
theorem Daemon.Windowed.evidenceOf_opened {d : Daemon} (h : d.Windowed)
    {before after : List DaemonOp} {trigger : DaemonOp}
    (hops : ∀ op ∈ before ++ trigger :: after, op.staysUp)
    (hclock : BootClockForward (d.polled (before ++ trigger :: after)))
    {t : Telemetry} (ht : (d.run before).polls trigger = [t]) {i : Incident}
    (hi : i ∈ opened ((d.run before).emits trigger)) :
    d.evidenceOf i.id (before ++ trigger :: after) = (d.run before).monitor.ring ++
      if i ∈ (opened ((d.run before).emits trigger)).rtake maxEvidenceWindows then
        t :: ((d.run (before ++ [trigger])).heldSamples i.id after).filter
          (·.monotonicMs ≤ t.monotonicMs + 120000)
      else [] := by
  have htrigger : trigger.staysUp := hops trigger (by simp)
  have hafter : ∀ op ∈ after, op.staysUp := fun op h =>
    hops op (List.mem_append_right _ (List.mem_cons_of_mem _ h))
  obtain ⟨hbefore, hknown, -⟩ := h.run fun op h => hops op (List.mem_append_left _ h)
  obtain ⟨hnew, hnow, hid, hwindow⟩ := hbefore.step_opens htrigger ht hi
  have hpast : evidenceFor i.id (d.captured before) = [] := by
    rw [evidenceFor, List.map_eq_nil_iff, List.filter_eq_nil_iff]
    exact fun e he hsame => hnew (of_decide_eq_true hsame ▸ hknown e he)
  have hsplit : d.evidenceOf i.id (before ++ trigger :: after) =
      evidenceFor i.id (d.captured before) ++ (evidenceFor i.id ((d.run before).captures trigger) ++
        ((d.run before).step trigger).evidenceOf i.id after) := by
    rw [Daemon.evidenceOf, Daemon.captured, Transition.outputs_append, evidenceFor_append,
      Transition.outputs, evidenceFor_append]
    rfl
  rw [Daemon.polled, Transition.outputs_append, Transition.outputs] at hclock
  have hclockAfter := (List.pairwise_append.1 (List.pairwise_append.1 hclock).2.1).2.1
  rw [hsplit, hpast, hnow, List.nil_append, List.append_assoc, Daemon.run_concat]
  congr 1
  have hthen := hbefore.step htrigger
  split_ifs at hwindow ⊢ with hkept
  · rw [hthen.evidenceOf_held hafter hclockAfter hid hwindow]
    rfl
  · rw [hthen.evidenceOf_gone hafter hid hwindow]
    rfl

/-- The window of an incident that the sample `t` opens: the 60 s before it since
the ring was cleared, the sample, and the 120 s after it until the window is
closed. -/
def Daemon.windowAround (d : Daemon) (before : List DaemonOp) (trigger : DaemonOp)
    (after : List DaemonOp) (id : String) (t : Telemetry) : List Telemetry :=
  ((d.sinceCleared before).filter fun p =>
      t.monotonicMs - 60000 ≤ p.monotonicMs ∧ p.monotonicMs ≤ t.monotonicMs) ++
    t :: ((d.run (before ++ [trigger])).heldSamples id after).filter
      (·.monotonicMs ≤ t.monotonicMs + 120000)

/-- The readings a trigger at `t` finds in the ring, without those that are too
old. -/
theorem Daemon.windowAround_eq {d : Daemon} (hring : d.monitor.ring = [])
    {before after : List DaemonOp} {trigger : DaemonOp} (hbefore : ∀ op ∈ before, op.staysUp)
    {t : Telemetry} (hpast : ∀ p ∈ d.polled before, p.monotonicMs ≤ t.monotonicMs) (id : String) :
    d.windowAround before trigger after id t =
      ((d.run before).monitor.ring.filter fun p => t.monotonicMs - 60000 ≤ p.monotonicMs) ++
        t :: ((d.run (before ++ [trigger])).heldSamples id after).filter
          (·.monotonicMs ≤ t.monotonicMs + 120000) := by
  have hsince : ∀ p ∈ d.sinceCleared before, p.monotonicMs ≤ t.monotonicMs :=
    fun p hp => hpast p (Transition.outputsSince_subset _ _ _ _ _ hp)
  have hupper : ((d.sinceCleared before).filter fun p =>
        t.monotonicMs - 60000 ≤ p.monotonicMs ∧ p.monotonicMs ≤ t.monotonicMs) =
      (d.sinceCleared before).filter fun p => t.monotonicMs - 60000 ≤ p.monotonicMs :=
    List.filter_congr fun p hp => decide_eq_decide.2 (and_iff_left (hsince p hp))
  rw [Daemon.windowAround, Daemon.filter_ring hring hbefore hpast, hupper]

/-- **The evidence of an incident is its window exactly when the ring is fresh.**
In any run of a started daemon, at every point `after` a sample `t` has opened
the incident `i`: the evidence generated for it is the samples since the ring was
cleared that are at most 60 s older than `t`, `t` itself, and the samples that
follow up to 120 s until the window is closed, if and only if no sample in the
ring was more than 60 s older than `t` (and `t` opened no 32 further incidents).
The windows closed for want of room are counted. -/
theorem evidence_is_its_window {db : Database} {issued : List Incident} {simulate : Bool}
    {session : String} {at_ : ℤ} {d : Daemon}
    (hstart : Daemon.start db issued simulate session at_ = .ok d)
    {before after : List DaemonOp} {trigger : DaemonOp}
    (hops : ∀ op ∈ before ++ trigger :: after, op.staysUp)
    (hclock : BootClockForward (d.polled (before ++ trigger :: after)))
    {t : Telemetry} (ht : (d.run before).polls trigger = [t]) {i : Incident}
    (hi : i ∈ opened ((d.run before).emits trigger)) :
    (d.evidenceOf i.id (before ++ trigger :: after) =
        d.windowAround before trigger after i.id t ↔
      (∀ p ∈ (d.run before).monitor.ring, t.monotonicMs - 60000 ≤ p.monotonicMs) ∧
        i ∈ (opened ((d.run before).emits trigger)).rtake maxEvidenceWindows) ∧
    (d.run (before ++ trigger :: after)).shared.truncatedEvidenceWindows =
      (d.evicted (before ++ trigger :: after)).length := by
  have hstarted : d.Windowed ∧ d.monitor.ring = [] := by
    rw [Daemon.start_eq] at hstart
    obtain rfl := Except.ok.inj hstart
    exact ⟨⟨Nat.zero_le _, fun w hw => by cases hw⟩, rfl⟩
  obtain ⟨hwindowed, hring⟩ := hstarted
  have hcounted : d.shared.truncatedEvidenceWindows = 0 := by
    rw [Daemon.start_eq] at hstart
    obtain rfl := Except.ok.inj hstart
    rfl
  have hbefore : ∀ op ∈ before, op.staysUp := fun op h => hops op (List.mem_append_left _ h)
  have hpast : ∀ p ∈ d.polled before, p.monotonicMs ≤ t.monotonicMs := by
    rw [Daemon.polled, Transition.outputs_append] at hclock
    refine fun p hp => (List.pairwise_append.1 hclock).2.2 p hp t ?_
    refine List.mem_append_left _ ?_
    change t ∈ (d.run before).polls trigger
    simp [ht]
  refine ⟨?_, by rw [(hwindowed.run hops).2.2, hcounted, Nat.zero_add]⟩
  rw [hwindowed.evidenceOf_opened hops hclock ht hi, Daemon.windowAround_eq hring hbefore hpast]
  constructor
  · intro heq
    have hkept : i ∈ (opened ((d.run before).emits trigger)).rtake maxEvidenceWindows := by
      -- without the trigger, the readings that are young enough are too few
      by_contra hgone
      rw [if_neg hgone, List.append_nil] at heq
      have hcount := congrArg (fun l => (l.filter fun p : Telemetry =>
        t.monotonicMs - 60000 ≤ p.monotonicMs).length) heq
      simp [List.filter_append, List.filter_filter] at hcount
    rw [if_pos hkept] at heq
    exact ⟨fun p hp => of_decide_eq_true
      (List.filter_eq_self.1 (List.append_cancel_right heq).symm p hp), hkept⟩
  · rintro ⟨hyoung, hkept⟩
    rw [if_pos hkept, List.filter_eq_self.2 fun p hp => decide_eq_true (hyoung p hp)]

/-- A power supply is opened and polled once. -/
def polledOnce : List DaemonOp :=
  [.openDevice (powerSupply "psu") "s" true, .sync Telemetry.blank, .observe ("a" ++ ·), .bound,
    .publish false]

/-- One second after the first sample the second one trips, and a third one
follows: the evidence is all three. -/
theorem evidence_is_its_window_after_a_second :
    let before := polledOnce ++ [.sync { trippedSample with monotonicMs := 1000 }]
    let trigger := DaemonOp.observe ("b" ++ ·)
    let after : List DaemonOp := [.bound, .publish false,
      .sync { Telemetry.blank with monotonicMs := 2000 }, .observe ("c" ++ ·)]
    let ops := before ++ trigger :: after
    ∃ d t, Daemon.start {} [] false "s" 0 = .ok d ∧
      ∃ i ∈ opened ((d.run before).emits trigger),
        (d.evidenceOf i.id ops).map (·.monotonicMs) = [0, 1000, 2000] ∧
        d.evidenceOf i.id ops = d.windowAround before trigger after i.id t := by
  intro before trigger after ops
  let d : Daemon := {
    simulate := false, active := [], shared := {}, monitor := { session := "s" },
    history := {}, issued := [] }
  let t : Telemetry :=
    { trippedSample with deviceId := "psu", sessionId := "s", sequence := 1, monotonicMs := 1000 }
  have hstart : Daemon.start {} [] false "s" 0 = .ok d := Daemon.start_eq ..
  obtain ⟨i, hi, hevidence, hkept⟩ : ∃ i ∈ opened ((d.run before).emits trigger),
      (d.evidenceOf i.id ops).map (·.monotonicMs) = [0, 1000, 2000] ∧
        i ∈ (opened ((d.run before).emits trigger)).rtake maxEvidenceWindows := by decide +kernel
  refine ⟨d, t, hstart, i, hi, hevidence, ?_⟩
  exact (evidence_is_its_window hstart (by decide) (by decide +kernel) (by decide +kernel)
    hi).1.2 ⟨by decide +kernel, hkept⟩

/-- The second sample comes 70 s after the first one, after a suspend, and trips:
the first one is attached. -/
theorem ring_is_attached_after_suspend :
    let before := polledOnce ++ [.sync { trippedSample with monotonicMs := 70000 }]
    let trigger := DaemonOp.observe ("b" ++ ·)
    let ops := before ++ [trigger]
    ∃ d t, Daemon.start {} [] false "s" 0 = .ok d ∧ (∀ op ∈ ops, op.staysUp) ∧
      BootClockForward (d.polled ops) ∧ (d.run before).polls trigger = [t] ∧
      ∃ i ∈ opened ((d.run before).emits trigger),
        (d.evidenceOf i.id ops).map (·.monotonicMs) = [0, 70000] ∧
        (d.windowAround before trigger [] i.id t).map (·.monotonicMs) = [70000] := by
  intro before trigger ops
  refine ⟨_, { trippedSample with
    deviceId := "psu", sessionId := "s", sequence := 1, monotonicMs := 70000 },
    Daemon.start_eq .., by decide, ?_⟩
  decide +kernel

end Railwatch
