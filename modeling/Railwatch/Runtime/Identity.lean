/-
# One incident for each id

An incident is copied into the engine, the snapshot, the batches on their way to
the database, and its row there.  `Identified` says that all copies belong to an
incident that was opened once: the id determines the device and the kind.  It
holds of every reachable daemon (`identified_run`), because UUIDs are fresh and
nothing else makes up an incident.

Its consequences are used everywhere below: an upsert under an id that is stored
concerns the same incident, an acknowledgement finds the incident it was made for, and
an engine that is restored takes up the incidents of its own device only.

An update that leaves the monitor is an incident of the engine with some fields changed,
so each copy keeps the id, the device and the kind of the one that was issued.  The
actions differ in the copies they make: `Identified.frame` is for those that neither
open nor close incidents, `Identified.issues` for those that pass events of the engine
on.
-/

import Railwatch.Runtime.Daemon

namespace Railwatch

open Std (TreeMap)
open TreeMaps
open Sql

/-- The incident is one of those that were opened. -/
def Incident.KnownIn (i : Incident) (issued : List Incident) : Prop :=
  ∃ o ∈ issued, o.id = i.id ∧ o.deviceId = i.deviceId ∧ o.kind = i.kind

/-- What is known stays known. -/
theorem Incident.KnownIn.append {i : Incident} {issued : List Incident} (h : i.KnownIn issued)
    (issued' : List Incident) : i.KnownIn (issued ++ issued') := by
  obtain ⟨o, ho, h⟩ := h
  exact ⟨o, List.mem_append_left _ ho, h⟩

/-- The id determines the device and the kind. -/
theorem Incident.KnownIn.eq_of_id {i j : Incident} {issued : List Incident}
    (hissued : (issued.map (·.id)).Nodup) (hi : i.KnownIn issued) (hj : j.KnownIn issued)
    (h : i.id = j.id) : i.deviceId = j.deviceId ∧ i.kind = j.kind := by
  obtain ⟨o, ho, hid, hdevice, hkind⟩ := hi
  obtain ⟨o', ho', hid', hdevice', hkind'⟩ := hj
  obtain rfl : o = o' := List.inj_on_of_nodup_map hissued ho ho' (by rw [hid, hid', h])
  exact ⟨hdevice.symm.trans hdevice', hkind.symm.trans hkind'⟩

/-- The updates on their way to the database: of the batch the storage thread
works on, in the queue, and pending. -/
def Daemon.updates (d : Daemon) : List Incident :=
  (d.storing.elim [] fun batch => batch.1.events) ++
    (d.queue.flatMap Persist.events ++ d.monitor.pendingEvents)

/-- A row agrees with the incident it stores. Its columns repeat what the record says,
and are written with it. -/
structure IncidentRow.Stores (r : IncidentRow) (id : String) (issued : List Incident) : Prop where
  /-- The key is the id. -/
  id : r.json.id = id
  /-- The column of the device is that of the record. -/
  device : r.json.deviceId = r.device
  /-- And so is that of the kind. -/
  kind : r.json.kind = r.kind
  /-- The end is the recovery. -/
  recovered : r.json.recoveredAtMs = r.endMs
  /-- The incident was opened. -/
  known : r.json.KnownIn issued

/-- And so does what a row stores. -/
theorem IncidentRow.Stores.append {r : IncidentRow} {id : String} {issued : List Incident}
    (h : r.Stores id issued) (issued' : List Incident) : r.Stores id (issued ++ issued') :=
  ⟨h.id, h.device, h.kind, h.recovered, h.known.append issued'⟩

/-- All copies of an incident belong to one that was opened. The list of those that were
opened has no id twice. -/
structure Daemon.Identified (d : Daemon) : Prop where
  /-- No id is given twice. -/
  issued : (d.issued.map (·.id)).Nodup
  /-- The incidents of the start are open ones. -/
  active : ∀ i ∈ d.active, i.recoveredAtMs = none ∧ i.KnownIn d.issued
  /-- Those of the snapshot were opened. -/
  shared : ∀ i ∈ d.shared.activeIncidents, i.KnownIn d.issued
  /-- The engine has each under its kind. -/
  keyed : d.monitor.engine.Keyed
  /-- And they were opened. -/
  engine : ∀ (k : String) (i : Incident), d.monitor.engine.active[k]? = some i →
    i.KnownIn d.issued
  /-- So were those that are still to write. -/
  updates : ∀ i ∈ d.updates, i.KnownIn d.issued
  /-- And those of the table. -/
  rows : ∀ id r, d.history.db.incidents.find? id = some r → r.Stores id d.issued

/-! ### The engine's incidents -/

/-- The last incident of a list wins its kind, over the earlier ones and over what the
map had. -/
theorem getElem?_foldl_insert (incidents : List Incident) (active : TreeMap String Incident)
    (k : String) :
    (incidents.foldl (fun active i => active.insert i.kind i) active)[k]? =
      (incidents.reverse.find? (·.kind = k)).or active[k]? := by
  induction incidents using List.reverseRecOn with
  | nil => rfl
  | append_singleton incidents i ih =>
      rw [List.foldl_concat, List.reverse_append, List.reverse_singleton, List.singleton_append,
        List.find?_cons]
      by_cases h : i.kind = k
      · subst h
        rw [Std.TreeMap.getElem?_insert_self]
        simp
      · rw [getElem?_insert_of_ne (Ne.symm h), ih]
        simp [h]

/-- What `restore` files under a kind. -/
theorem AlertEngine.getElem?_restore (e : AlertEngine) (currentId : String)
    (incidents : List Incident) (k : String) :
    (e.restore currentId incidents).active[k]? =
      ((incidents.filter (·.deviceId = currentId)).reverse.find? (·.kind = k)).or e.active[k]? :=
  getElem?_foldl_insert ..

/-- What is in a slot after the restore is one of the incidents of this device, or was
there before. -/
theorem AlertEngine.mem_restore {e : AlertEngine} {currentId : String}
    {incidents : List Incident} {k : String} {i : Incident}
    (h : (e.restore currentId incidents).active[k]? = some i) :
    (i ∈ incidents ∧ i.deviceId = currentId ∧ i.kind = k) ∨ e.active[k]? = some i := by
  rw [AlertEngine.getElem?_restore, Option.or_eq_some_iff] at h
  rcases h with h | ⟨-, h⟩
  · have hmem := List.mem_reverse.1 (List.mem_of_find?_eq_some h)
    obtain ⟨hmem, hdevice⟩ := List.mem_filter.1 hmem
    exact Or.inl ⟨hmem, of_decide_eq_true hdevice, by simpa using List.find?_some h⟩
  · exact Or.inr h

/-- The acknowledgement `syncAcks` leaves an incident with: that of the last
listed copy, or its own. -/
def Incident.syncedAck (i : Incident) (incidents : List Incident) (k : String) : Option ℤ :=
  match incidents.reverse.find? fun j => j.kind = k ∧ j.id = i.id with
  | some j => j.acknowledgedAtMs
  | none => i.acknowledgedAtMs

/-- An acknowledgement from the table goes to the incident with its id, and to no other,
also to none of the same kind that has been opened since. -/
theorem getElem?_syncAck (active : TreeMap String Incident) (j : Incident) (k : String) :
    (syncAck active j)[k]? = active[k]?.map fun i =>
      if j.kind = k ∧ j.id = i.id then { i with acknowledgedAtMs := j.acknowledgedAtMs }
      else i := by
  unfold syncAck
  by_cases hk : j.kind = k
  · subst hk
    cases hi : active[j.kind]? with
    | none => simp [hi]
    | some i =>
        by_cases hid : i.id = j.id
        · simp [hid]
        · simp [hid, hi, Ne.symm hid]
  · have hid : (fun i : Incident => if j.kind = k ∧ j.id = i.id then
        { i with acknowledgedAtMs := j.acknowledgedAtMs } else i) = id :=
      funext fun i => if_neg fun h => hk h.1
    rw [hid, Option.map_id_fun, id]
    split
    · split_ifs
      · exact getElem?_insert_of_ne (Ne.symm hk) _
      · rfl
    · rfl

/-- **`syncAcks` changes nothing but acknowledgements.** It looks an incident up by its
kind, and passes over one with another id. -/
theorem AlertEngine.getElem?_syncAcks (e : AlertEngine) (incidents : List Incident) (k : String) :
    (e.syncAcks incidents).active[k]? =
      e.active[k]?.map fun i => { i with acknowledgedAtMs := i.syncedAck incidents k } := by
  unfold AlertEngine.syncAcks
  dsimp only
  induction incidents using List.reverseRecOn with
  | nil => simp [Incident.syncedAck]
  | append_singleton incidents j ih =>
      rw [List.foldl_concat, getElem?_syncAck, ih, Option.map_map]
      refine Option.map_congr fun i _ => ?_
      by_cases h : j.kind = k ∧ j.id = i.id
      · simp [Incident.syncedAck, h]
      · simp [Incident.syncedAck, h]

/-! ### The incidents in the database -/

/-- An open incident comes from a row that has not ended. -/
theorem mem_openIncidents {db : Database} {i : Incident} (h : i ∈ db.openIncidents) :
    ∃ id r, db.incidents.find? id = some r ∧ r.endMs = none ∧ i = r.read := by
  obtain ⟨r, hr, rfl⟩ := List.mem_map.1 h
  have hr := (List.perm_insertionSort _ _).mem_iff.1 (List.mem_of_mem_take hr)
  obtain ⟨hr, hend⟩ := List.mem_filter.1 hr
  obtain ⟨⟨id, r'⟩, hmem, rfl⟩ := List.mem_map.1 hr
  exact ⟨id, r', Table.find?_eq_some_iff.2 hmem, Option.isNone_iff_eq_none.1 hend, rfl⟩

/-- What a write of a batch does to the incidents: nothing, or the upsert of its
own event. -/
theorem Persist.write_incidents
    {scan : List (String × String × ℤ) → List (String × String × ℤ)} {item : Persist} {next : ℕ}
    {w : History → Except String History} {h h' : History}
    (hw : (item.writes scan)[next]? = some w) (hok : w h = .ok h') :
    (h'.db.incidents = h.db.incidents ∧ (next = 0 ∨ item.events.length < next)) ∨
      ∃ j event, next = j + 1 ∧ item.events[j]? = some event ∧
        h'.db.incidents = h.db.incidents.exec event.upsert := by
  rcases item.writes_cases scan hw with ⟨rfl, rfl⟩ | ⟨j, event, rfl, hevent, rfl⟩ |
    ⟨j, v, rfl, -, rfl⟩ | ⟨rfl, rfl⟩
  · exact Or.inl ⟨(History.record_ok hok).2.2.1, Or.inl rfl⟩
  · exact Or.inr ⟨j, event, rfl, hevent, by rw [← Except.ok.inj hok]; rfl⟩
  · exact Or.inl ⟨by rw [← Except.ok.inj hok]; rfl, Or.inr (by omega)⟩
  · exact Or.inl ⟨by rw [← Except.ok.inj hok]; rfl, Or.inr (by omega)⟩

/-! ### Updates on their way -/

/-- What the engine makes of a failed poll. -/
theorem Daemon.lost_transitions (d : Daemon) (error uuid : String) (at_ : ℤ) :
    ∃ device, Transitions device d.monitor.engine (d.lost error uuid at_).2
      (d.lost error uuid at_).1.toList := by
  unfold Daemon.lost
  cases d.shared.telemetry with
  | none => exact ⟨"", by simp, by simp, fun _ _ => rfl⟩
  | some last => exact ⟨_, monitoringLost_transitions _ _ last error at_⟩

/-- A failed poll closes nothing. -/
theorem Daemon.lost_keeps {d : Daemon} {k : String} {i : Incident}
    (h : d.monitor.engine.active[k]? = some i) (error uuid : String) (at_ : ℤ) :
    (d.lost error uuid at_).2.active[k]? = some i := by
  unfold Daemon.lost
  cases d.shared.telemetry with
  | none => exact h
  | some last =>
      dsimp only [AlertEngine.monitoringLost]
      split_ifs with hcontains
      · exact h
      · refine (getElem?_insert_of_ne (fun hk => hcontains ?_) _).trans h
        rw [contains_eq_isSome, ← hk, h]
        rfl

/-- The transitions of a sample go behind the updates that are still to write. -/
theorem Daemon.updates_observe (d : Daemon) (t : Telemetry) (events : List Incident)
    (engine : AlertEngine) : (d.observe t events engine).updates = d.updates ++ events := by
  simp [Daemon.updates, Daemon.observe]

/-- The limits only take updates away. -/
theorem Daemon.updates_boundPending (d : Daemon) (t : Telemetry) :
    (d.boundPending t).updates.Sublist d.updates := by
  simp only [Daemon.updates, Daemon.boundPending]
  refine List.Sublist.append_left (List.Sublist.append_left ?_ _) _
  exact List.drop_sublist ..

/-- A batch moves updates to the queue, and they are still to write. -/
theorem Daemon.updates_publish (d : Daemon) (t : Telemetry) (full : Bool) :
    (d.publish t full).updates = d.updates := by
  unfold Daemon.publish
  dsimp only
  split
  · rename_i queue hsend
    simp [Daemon.updates, trySend_ok hsend]
  · rename_i item hsend
    simp [Daemon.updates, trySend_error hsend]

/-- An outage goes behind the updates. -/
theorem Daemon.updates_pollFailed (d : Daemon) (error uuid : String) (at_ : ℤ) (full : Bool) :
    (d.pollFailed error (d.lost error uuid at_).1 (d.lost error uuid at_).2 full).updates =
      d.updates ++ (d.lost error uuid at_).1.toList := by
  cases hlast : d.shared.telemetry with
  | none => simp [Daemon.pollFailed, Daemon.lost, Daemon.updates, hlast]
  | some last =>
      simp only [Daemon.pollFailed, hlast]
      split
      · rename_i queue hsend
        simp [Daemon.updates, trySend_ok hsend]
      · rename_i item hsend
        simp [Daemon.updates, trySend_error hsend]

/-! ### Every action keeps the copies together -/

/-- Restoring from a list of known incidents keeps the engine in order: each incident
under its own kind, not recovered, and known. -/
theorem AlertEngine.Keyed.restore {e : AlertEngine} {issued incidents : List Incident}
    (hkeyed : e.Keyed)
    (he : ∀ (k : String) (i : Incident), e.active[k]? = some i → i.KnownIn issued)
    (hincidents : ∀ i ∈ incidents, i.recoveredAtMs = none ∧ i.KnownIn issued)
    (currentId : String) :
    (e.restore currentId incidents).Keyed ∧
      ∀ (k : String) (i : Incident), (e.restore currentId incidents).active[k]? = some i →
        i.KnownIn issued := by
  constructor
  · intro k i hi
    rcases AlertEngine.mem_restore hi with ⟨hmem, -, hkind⟩ | hi
    · exact ⟨hkind, (hincidents i hmem).1⟩
    · exact hkeyed k i hi
  · intro k i hi
    rcases AlertEngine.mem_restore hi with ⟨hmem, -, -⟩ | hi
    · exact (hincidents i hmem).2
    · exact he k i hi

/-- An engine without incidents has each under its own kind. -/
theorem AlertEngine.keyed_empty : AlertEngine.Keyed {} := by
  intro k i hi
  rw [Std.TreeMap.getElem?_emptyc] at hi
  cases hi

section Identified

variable {d : Daemon} (h : d.Identified)
include h

/-- The open incidents of the table have been issued. -/
theorem Daemon.Identified.openIncidents {i : Incident} (hi : i ∈ d.history.db.openIncidents) :
    i.recoveredAtMs = none ∧ i.KnownIn d.issued := by
  obtain ⟨id, r, hr, hend, rfl⟩ := mem_openIncidents hi
  have hstores := h.rows id r hr
  exact ⟨hstores.recovered.trans hend, hstores.known⟩

/-- And so have those that a device gets back. -/
theorem Daemon.Identified.restored {readable : Bool} {i : Incident}
    (hi : i ∈ d.restored readable) : i.recoveredAtMs = none ∧ i.KnownIn d.issued := by
  unfold Daemon.restored at hi
  cases readable with
  | false => exact h.active i hi
  | true =>
      rw [if_pos rfl, Database.incidentList_open] at hi
      exact h.openIncidents hi

/-- A call of the engine keeps the copies together: an event that opens is issued with
it, and one that closes is a copy of an incident that the engine had. -/
theorem Daemon.Identified.transitions {device : String} {e' : AlertEngine}
    {events : List Incident} (ht : Transitions device d.monitor.engine e' events) :
    e'.Keyed ∧ (∀ event ∈ events, event.KnownIn (d.issued ++ opened events)) ∧
      ∀ (k : String) (i : Incident), e'.active[k]? = some i →
        i.KnownIn (d.issued ++ opened events) := by
  have hevents : ∀ event ∈ events, event.KnownIn (d.issued ++ opened events) := by
    intro event hevent
    rcases ht.event event hevent with ⟨-, -, hopen, -⟩ | ⟨i, at_, hi, rfl, -⟩
    · exact ⟨event, List.mem_append_right _ (List.mem_filter.2 ⟨hevent, by rw [hopen]; rfl⟩),
        rfl, rfl, rfl⟩
    · exact (h.engine _ i hi).append _
  refine ⟨ht.keyed h.keyed, hevents, fun k i hi => ?_⟩
  rcases ht.getElem?_eq_some.1 hi with ⟨hevent, -⟩ | ⟨hi, -⟩
  · exact hevents i hevent
  · exact (h.engine k i hi).append _

/-- The row of an upsert agrees with the incident it stores. If there is one already it
is of the same incident, as identifiers are issued once, so its device and kind are the
same. -/
theorem Daemon.Identified.exec {event : Incident} (hevent : event.KnownIn d.issued) {id : String}
    {r : IncidentRow} (hr : (d.history.db.incidents.exec event.upsert).find? id = some r) :
    r.Stores id d.issued := by
  rw [Table.find?_exec] at hr
  split_ifs at hr with hid
  · obtain rfl : id = event.id := hid
    cases hold : d.history.db.incidents.find? event.id with
    | none =>
        rw [hold] at hr
        obtain rfl := Option.some.inj hr
        exact ⟨rfl, rfl, rfl, rfl, hevent⟩
    | some r₀ =>
        rw [hold] at hr
        obtain rfl := Option.some.inj hr
        have hstores := h.rows _ r₀ hold
        obtain ⟨hdevice, hkind⟩ :=
          hevent.eq_of_id h.issued hstores.known hstores.id.symm
        exact ⟨rfl, hdevice.trans hstores.device, hkind.trans hstores.kind, rfl, hevent⟩
  · exact h.rows id r hr

/-- New incidents have new ids. -/
theorem Daemon.Identified.issued_append {events : List Incident} (hfresh : d.fresh events) :
    ((d.issued ++ opened events).map (·.id)).Nodup := by
  rw [List.map_append, List.nodup_append]
  refine ⟨h.issued, hfresh.1, ?_⟩
  rintro id hid id' hid' rfl
  obtain ⟨i, hi, rfl⟩ := List.mem_map.1 hid'
  exact hfresh.2 i hi hid

/-- An action that neither opens nor closes incidents keeps the copies together. -/
theorem Daemon.Identified.frame {d' : Daemon} (hissued : d'.issued = d.issued)
    (hactive : d'.active = d.active)
    (hshared : ∀ i ∈ d'.shared.activeIncidents, i.KnownIn d.issued)
    (hengine : d'.monitor.engine = d.monitor.engine) (hupdates : ∀ i ∈ d'.updates, i ∈ d.updates)
    (hrows : d'.history.db.incidents = d.history.db.incidents) : d'.Identified := by
  constructor <;> simp only [hissued, hactive, hengine, hrows]
  · exact h.issued
  · exact h.active
  · exact hshared
  · exact h.keyed
  · exact h.engine
  · exact fun i hi => h.updates i (hupdates i hi)
  · exact h.rows

/-- An action that calls the engine and passes its events on keeps the copies
together. -/
theorem Daemon.Identified.issues {d' : Daemon} {device : String} {events : List Incident}
    (ht : Transitions device d.monitor.engine d'.monitor.engine events) (hfresh : d.fresh events)
    (hissued : d'.issued = d.issued ++ opened events) (hactive : d'.active = d.active)
    (hshared : ∀ i ∈ d'.shared.activeIncidents,
      i ∈ d.shared.activeIncidents ∨ i ∈ d'.monitor.engine.incidents)
    (hupdates : d'.updates = d.updates ++ events)
    (hrows : d'.history.db.incidents = d.history.db.incidents) : d'.Identified := by
  obtain ⟨hkeyed, hevents, hengine⟩ := h.transitions ht
  rw [← hissued] at hevents hengine
  have hmore {i : Incident} (hi : i.KnownIn d.issued) : i.KnownIn d'.issued := by
    rw [hissued]
    exact hi.append _
  refine ⟨?_, fun i hi => ?_, fun i hi => ?_, hkeyed, hengine, fun i hi => ?_, fun id r hr => ?_⟩
  · rw [hissued]
    exact h.issued_append hfresh
  · rw [hactive] at hi
    exact ⟨(h.active i hi).1, hmore (h.active i hi).2⟩
  · rcases hshared i hi with hi | hi
    · exact hmore (h.shared i hi)
    · obtain ⟨k, hk⟩ := AlertEngine.mem_incidents.1 hi
      exact hengine k i hk
  · rw [hupdates] at hi
    rcases List.mem_append.1 hi with hi | hi
    · exact hmore (h.updates i hi)
    · exact hevents i hi
  · rw [hrows] at hr
    rw [hissued]
    exact (h.rows id r hr).append _

/-- **Every action keeps the copies together.** A copy is made of the one that is in the
engine, and afterwards they differ in their acknowledgement and in their end at most. -/
theorem Daemon.Identified.step (op : DaemonOp) : (d.step op).Identified := by
  rcases d.step_does op with hstep | hdoes
  · rw [hstep]
    exact h
  generalize d.step op = d' at hdoes
  cases hdoes with
  | restart hstart =>
      rw [Daemon.start_eq] at hstart
      obtain rfl := Except.ok.inj hstart
      refine ⟨h.issued, fun i hi => h.openIncidents hi, fun i hi => (h.openIncidents hi).2,
        AlertEngine.keyed_empty, fun k i hi => ?_, ?_, h.rows⟩
      · rw [Std.TreeMap.getElem?_emptyc] at hi
        cases hi
      · simp [Daemon.updates]
  | @openDevice info session readable hopen hid =>
      by_cases hsame : d.monitor.currentId = info.id
      · rw [Daemon.openDevice_same hsame]
        exact h.frame rfl rfl h.shared rfl (fun i hi => hi) rfl
      · rw [Daemon.openDevice_other hsame]
        have hempty : ∀ (k : String) (i : Incident), ({} : AlertEngine).active[k]? = some i →
            i.KnownIn d.issued := by
          intro k i hi
          rw [Std.TreeMap.getElem?_emptyc] at hi
          cases hi
        have hrestored : ∀ i ∈ d.restored readable, i.recoveredAtMs = none ∧ i.KnownIn d.issued :=
          fun i hi => h.restored hi
        obtain ⟨hkeyed, hengine⟩ := AlertEngine.keyed_empty.restore hempty hrestored info.id
        exact ⟨h.issued, h.active, h.shared, hkeyed, hengine, h.updates, h.rows⟩
  | openFailed => exact h.frame rfl rfl h.shared rfl (fun i hi => hi) rfl
  | openSimulator =>
      obtain ⟨hkeyed, hengine⟩ := h.keyed.restore h.engine h.active simulatorInfo.id
      exact ⟨h.issued, h.active, h.shared, hkeyed, hengine, h.updates, h.rows⟩
  | sync =>
      refine ⟨h.issued, h.active, h.shared, fun k i hi => ?_, fun k i hi => ?_, h.updates,
        h.rows⟩ <;>
        obtain ⟨i₀, hi₀, rfl⟩ :=
          Option.map_eq_some_iff.1 ((AlertEngine.getElem?_syncAcks ..).symm.trans hi)
      · exact h.keyed k i₀ hi₀
      · exact h.engine k i₀ hi₀
  | observe hphase hfresh =>
      exact h.issues (observe_transitions h.keyed _ _ _ _) hfresh rfl rfl (fun i hi => Or.inl hi)
        (Daemon.updates_observe ..) rfl
  | @bound t hphase =>
      obtain ⟨hactive, hissued, hhistory, -, -, -, -, hengine, -, -, -, hshown⟩ :=
        d.boundPending_frame t
      exact h.frame hissued hactive (by rw [hshown]; exact h.shared) hengine
        (fun i hi => (d.updates_boundPending t).subset hi) (by rw [hhistory])
  | @publish full t hphase =>
      obtain ⟨hactive, hissued, hhistory, -, -, -, hengine, -, -, -, hshown⟩ :=
        d.publish_frame t full
      refine h.frame hissued hactive (fun i hi => ?_) hengine
        (fun i hi => d.updates_publish t full ▸ hi) (by rw [hhistory])
      rw [hshown] at hi
      obtain ⟨k, hk⟩ := AlertEngine.mem_incidents.1 hi
      exact h.engine k i hk
  | @pollFailed error uuid at_ full hpoll hfresh =>
      obtain ⟨device, ht⟩ := d.lost_transitions error uuid at_
      obtain ⟨hactive, hissued, hhistory, -, -, -, hengine, -, -, -, hshown⟩ :=
        d.pollFailed_frame error (d.lost error uuid at_).1 (d.lost error uuid at_).2 full
      rw [← hengine] at ht
      refine h.issues ht hfresh hissued hactive (fun i hi => Or.inr ?_)
        (d.updates_pollFailed error uuid at_ full) (by rw [hhistory])
      rwa [hshown, ← hengine] at hi
  | take hstoring hqueue =>
      refine h.frame rfl rfl h.shared rfl (fun i hi => ?_) rfl
      simpa [Daemon.updates, hstoring, hqueue] using hi
  | write hstoring hw hok =>
      refine ⟨h.issued, h.active, h.shared, h.keyed, h.engine, fun i hi => h.updates i ?_, ?_⟩
      · simpa [Daemon.updates, hstoring] using hi
      · rcases Persist.write_incidents hw hok with ⟨hsame, -⟩ | ⟨j, event, -, hevent, hexec⟩
        · rw [hsame]
          exact h.rows
        · have hmem : event ∈ d.updates := by
            have := List.mem_of_getElem? hevent
            simp [Daemon.updates, hstoring, this]
          intro id r hr
          rw [hexec] at hr
          exact h.exec (h.updates event hmem) hr
  | startOver hop hstoring =>
      refine h.frame rfl rfl h.shared rfl (fun i hi => ?_) rfl
      simpa [Daemon.updates, hstoring] using hi
  | written hstoring hdone =>
      exact h.frame rfl rfl h.shared rfl (fun i hi => List.mem_append_right _ hi) rfl
  | ackCommit hdb =>
      refine ⟨h.issued, h.active, h.shared, h.keyed, h.engine, h.updates, fun id r hr => ?_⟩
      rw [Database.find?_acknowledge hdb] at hr
      obtain ⟨r₀, hr₀, rfl⟩ := Option.map_eq_some_iff.1 hr
      have hstores := h.rows id r₀ hr₀
      split_ifs
      · exact ⟨hstores.id, hstores.device, hstores.kind, hstores.recovered, hstores.known⟩
      · exact hstores
  | ackPublish hid =>
      refine h.frame rfl rfl (fun i hi => ?_) rfl (fun i hi => hi) rfl
      obtain ⟨i₀, hi₀, rfl⟩ := List.mem_map.1 hi
      have hknown := h.shared i₀ hi₀
      split_ifs
      · exact hknown
      · exact hknown
  | setPolicy hdb =>
      obtain ⟨-, rfl⟩ := Database.setPolicy_ok hdb
      exact h.frame rfl rfl h.shared rfl (fun i hi => hi) rfl

end Identified

/-- A daemon started over an empty database. -/
theorem identified_start {simulate : Bool} {session : String} {at_ : ℤ} {d : Daemon}
    (hstart : Daemon.start {} [] simulate session at_ = .ok d) : d.Identified := by
  rw [Daemon.start_eq] at hstart
  obtain rfl := Except.ok.inj hstart
  have hnone : Database.openIncidents {} = [] := rfl
  refine ⟨List.nodup_nil, ?_, ?_, AlertEngine.keyed_empty, fun k i hi => ?_, ?_, ?_⟩
  · simp [hnone]
  · simp [hnone]
  · rw [Std.TreeMap.getElem?_emptyc] at hi
    cases hi
  · simp [Daemon.updates]
  · intro id r hr
    cases hr

/-- **Every reachable daemon keeps the copies of an incident together.** Nothing is
issued at the start, and from there it is one step after the other. -/
theorem identified_run {simulate : Bool} {session : String} {at_ : ℤ} {d : Daemon}
    (hstart : Daemon.start {} [] simulate session at_ = .ok d) (ops : List DaemonOp) :
    (d.run ops).Identified :=
  Transition.run_induction _ (identified_start hstart) (fun _ op h => h.step op) ops

end Railwatch
