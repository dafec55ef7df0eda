/-
# Acknowledgements in the live view

Whether a snapshot shows the acknowledgements that clients were told of.

An acknowledgement is committed to the database, then noted in the snapshot, and
copied to the engine by the next `sync`.  A poll that ends overwrites the
snapshot from the engine.  The successful one syncs first, earlier in its cycle;
the failed one does not, and an acknowledgement that was noted since the last
`sync` disappears (`acknowledgement_is_lost`).

`unsynced` keeps track of these acknowledgements.  Every snapshot shows what it
should exactly in the runs in which no overwrite lists one of them
(`acknowledgements_stay_visible`).
-/

import Railwatch.Runtime.Identity

namespace Railwatch

open Std (TreeMap)
open Sql

/-- The daemon and the ids of the `Acknowledge` requests that have returned: all
of them, those that returned to the present process, and those that no section
has copied to the engine since. -/
structure Watched where
  /-- The daemon. -/
  daemon : Daemon
  /-- All that have returned. -/
  returned : List String := []
  /-- Those that returned to this process. -/
  sinceStart : List String := []
  /-- Those of them that the engine has not got yet. -/
  unsynced : List String := []

/-- The request that returns. -/
def Watched.returns (w : Watched) : DaemonOp → List String
  | .ackPublish id _ => if id ∈ w.daemon.acking then [id] else []
  | _ => []

/-- The unsynced ids after an action.  A `sync` copies what the snapshot lists.
An engine restored from the database has all acknowledgements, one restored from
the incidents of the start has those from before the start. -/
def Watched.nextUnsynced (w : Watched) : DaemonOp → List String
  | .restart .. => []
  | .openDevice info _ readable =>
      if w.daemon.mayOpen ∧ info.id ≠ "" ∧ w.daemon.monitor.currentId ≠ info.id then
        if readable then [] else w.sinceStart
      else w.unsynced
  | .openSimulator =>
      if w.daemon.simulate = true ∧ w.daemon.monitor.currentId = "" then w.sinceStart
      else w.unsynced
  | .sync _ =>
      if w.daemon.mayPoll then
        w.unsynced.filter fun id => id ∉ w.daemon.shared.activeIncidents.map (·.id)
      else w.unsynced
  | op => w.unsynced ++ w.returns op

/-- The watched daemon after an action. The acknowledgements that return are noted; a
start forgets which of them were made in the life of the process, and what has not been
synced is cleared by a sync. -/
def Watched.step (w : Watched) (op : DaemonOp) : Watched where
  daemon := w.daemon.step op
  returned := w.returned ++ w.returns op
  sinceStart :=
    match op with
    | .restart .. => []
    | _ => w.sinceStart ++ w.returns op
  unsynced := w.nextUnsynced op

/-- The run of a watched daemon. -/
def Watched.run (w : Watched) (ops : List DaemonOp) : Watched := Transition.run Watched.step w ops

/-- The snapshot shows the acknowledgements that have returned. -/
def Watched.Shown (w : Watched) : Prop :=
  ∀ i ∈ w.daemon.shared.activeIncidents, i.id ∈ w.returned → i.acknowledgedAtMs.isSome

/-- The engine holds no incident with an acknowledgement it has not heard of. -/
def Watched.UpToDate (w : Watched) : Prop :=
  ∀ i ∈ w.daemon.monitor.engine.incidents, i.acknowledgedAtMs.isNone → i.id ∉ w.unsynced

/-- An action that overwrites the listed incidents finds the engine up to date. -/
def Watched.OverwritesUpToDate (w : Watched) : DaemonOp → Prop
  | .publish _ => w.daemon.monitor.phase matches .bounded _ → w.UpToDate
  | .pollFailed error uuid at_ _ =>
      w.daemon.mayPoll ∧ w.daemon.fresh (w.daemon.lost error uuid at_).1.toList → w.UpToDate
  | _ => True

instance (w : Watched) : Decidable w.Shown := by
  unfold Watched.Shown
  infer_instance

instance (w : Watched) : Decidable w.UpToDate := by
  unfold Watched.UpToDate
  infer_instance

instance (w : Watched) (op : DaemonOp) : Decidable (w.OverwritesUpToDate op) := by
  cases op <;> unfold Watched.OverwritesUpToDate <;> infer_instance

/-! ### What holds whatever the order -/

/-- The id has an acknowledged row. -/
def Daemon.Acknowledged (d : Daemon) (id : String) : Prop :=
  ∃ r, d.history.db.incidents.find? id = some r ∧ r.ackMs.isSome

/-- The acknowledgements are in the database, and in the engine except for the
unsynced ones. -/
structure Watched.Inv (w : Watched) : Prop where
  /-- All copies of an incident are of one that was opened. -/
  identified : w.daemon.Identified
  /-- What is acknowledged, or is about to be, is so in the database. -/
  committed : ∀ id, id ∈ w.returned ∨ id ∈ w.daemon.acking → w.daemon.Acknowledged id
  /-- The incidents of the start have what was acknowledged before it. -/
  startup : ∀ i ∈ w.daemon.active, i.id ∈ w.returned → i.id ∉ w.sinceStart →
    i.acknowledgedAtMs.isSome
  /-- Those of the engine have all but the unsynced. -/
  engine : ∀ (k : String) (i : Incident), w.daemon.monitor.engine.active[k]? = some i →
    i.id ∈ w.returned → i.id ∉ w.unsynced → i.acknowledgedAtMs.isSome
  /-- What returned since the start has returned. -/
  sinceStart : ∀ id ∈ w.sinceStart, id ∈ w.returned
  /-- What is unsynced returned since the start. -/
  unsynced : ∀ id ∈ w.unsynced, id ∈ w.sinceStart

/-- An acknowledged row stays acknowledged: an upsert keeps the time of a row that is
there, another acknowledgement too, and nothing deletes incidents. -/
theorem Daemon.Acknowledged.step {d : Daemon} {id : String} (h : d.Acknowledged id)
    (op : DaemonOp) : (d.step op).Acknowledged id := by
  rcases d.step_does op with hstep | hdoes
  · rwa [hstep]
  obtain ⟨r, hr, hack⟩ := h
  generalize d.step op = d' at hdoes
  cases hdoes with
  | restart hstart =>
      rw [Daemon.start_eq] at hstart
      obtain rfl := Except.ok.inj hstart
      exact ⟨r, hr, hack⟩
  | bound =>
      exact ⟨r, by rw [(d.boundPending_frame _).2.2.1]; exact hr, hack⟩
  | publish =>
      exact ⟨r, by rw [(d.publish_frame _ _).2.2.1]; exact hr, hack⟩
  | pollFailed =>
      exact ⟨r, by rw [(d.pollFailed_frame _ _ _ _).2.2.1]; exact hr, hack⟩
  | write hstoring hw hok =>
      rcases Persist.write_incidents hw hok with ⟨hsame, -⟩ | ⟨j, event, -, -, hexec⟩
      · exact ⟨r, by rw [hsame]; exact hr, hack⟩
      · by_cases hid : id = event.id
        · refine ⟨r.update event, ?_, hack⟩
          rw [hexec, Table.find?_exec, Incident.upsert_key, if_pos hid, hr]
          rfl
        · exact ⟨r, by rw [hexec, Table.find?_exec, Incident.upsert_key, if_neg hid, hr], hack⟩
  | @ackCommit id' at_ db hdb =>
      have hfind := Database.find?_acknowledge hdb id
      rw [hr, Option.map_some] at hfind
      by_cases hid : id = id'
      · rw [if_pos hid] at hfind
        exact ⟨_, hfind, rfl⟩
      · rw [if_neg hid] at hfind
        exact ⟨r, hfind, hack⟩
  | setPolicy hdb =>
      obtain ⟨-, rfl⟩ := Database.setPolicy_ok hdb
      exact ⟨r, hr, hack⟩
  | @openDevice info session readable =>
      by_cases hsame : d.monitor.currentId = info.id
      · rw [Daemon.openDevice_same hsame]
        exact ⟨r, hr, hack⟩
      · rw [Daemon.openDevice_other hsame]
        exact ⟨r, hr, hack⟩
  | _ => exact ⟨r, hr, hack⟩

/-- An incident read from an acknowledged row is acknowledged. -/
theorem Daemon.Identified.openIncidents_acknowledged {d : Daemon} (h : d.Identified)
    {i : Incident} (hi : i ∈ d.history.db.openIncidents) (hack : d.Acknowledged i.id) :
    i.acknowledgedAtMs.isSome := by
  obtain ⟨id, r, hr, -, rfl⟩ := mem_openIncidents hi
  obtain ⟨r', hr', hack⟩ := hack
  have hid : r.read.id = id := (h.rows id r hr).id
  rw [hid, hr] at hr'
  obtain rfl := Option.some.inj hr'
  exact hack

/-- An id that returned is that of an incident that was opened. -/
theorem Watched.Inv.mem_issued {w : Watched} (h : w.Inv) {id : String} (hid : id ∈ w.returned) :
    id ∈ w.daemon.issued.map (·.id) := by
  obtain ⟨r, hr, -⟩ := h.committed id (Or.inl hid)
  have hstores := h.identified.rows id r hr
  obtain ⟨o, ho, heq, -⟩ := hstores.known
  exact List.mem_map.2 ⟨o, ho, heq.trans hstores.id⟩

/-- An action that returns nothing and touches the engine with fresh incidents
only. -/
theorem Watched.Inv.frame {w : Watched} (h : w.Inv) {d' : Daemon} (hidentified : d'.Identified)
    (hacks : ∀ id, w.daemon.Acknowledged id → d'.Acknowledged id)
    (hacking : ∀ id ∈ d'.acking, d'.Acknowledged id) (hactive : d'.active = w.daemon.active)
    (hengine : ∀ (k : String) (i : Incident), d'.monitor.engine.active[k]? = some i →
      w.daemon.monitor.engine.active[k]? = some i ∨ i.id ∉ w.daemon.issued.map (·.id)) :
    Watched.Inv { w with daemon := d' } where
  identified := hidentified
  committed id hid := by
    rcases hid with hid | hid
    · exact hacks id (h.committed id (Or.inl hid))
    · exact hacking id hid
  startup := hactive ▸ h.startup
  engine k i hi hreturned hsynced := by
    rcases hengine k i hi with hi | hnew
    · exact h.engine k i hi hreturned hsynced
    · exact absurd (h.mem_issued hreturned) hnew
  sinceStart := h.sinceStart
  unsynced := h.unsynced

/-- The incidents an engine takes from a call are its old ones and fresh ones. -/
theorem Transitions.old_or_fresh {device : String} {e e' : AlertEngine} {events : List Incident}
    (ht : Transitions device e e' events) {d : Daemon} (hfresh : d.fresh events) {k : String}
    {i : Incident} (hi : e'.active[k]? = some i) :
    e.active[k]? = some i ∨ i.id ∉ d.issued.map (·.id) := by
  rcases ht.getElem?_eq_some.1 hi with ⟨hevent, -, hrecovered⟩ | ⟨hi, -⟩
  · exact Or.inr (hfresh.2 i (List.mem_filter.2 ⟨hevent, by rw [hrecovered]; rfl⟩))
  · exact Or.inl hi

/-- Most actions change no acknowledgement that a client knows of: they leave the
engine's incidents as they are, or bring new ones, whose identifiers no client can have
used. -/
theorem Watched.Inv.step_daemon {w : Watched} (h : w.Inv) {op : DaemonOp}
    (hop : op matches .openFailed _ | .observe _ | .bound | .publish _ | .pollFailed _ _ _ _ |
      .take | .write _ | .writeFailed _ | .written | .ackCommit _ _ | .setPolicy _ _) :
    Watched.Inv { w with daemon := w.daemon.step op } := by
  have hacks (id : String) (hid : w.daemon.Acknowledged id) := hid.step op
  have hacking : ∀ id ∈ w.daemon.acking, (w.daemon.step op).Acknowledged id := fun id hid =>
    hacks id (h.committed id (Or.inr hid))
  have hframe := h.frame (h.identified.step op) hacks
  rcases w.daemon.step_does op with hstep | hdoes
  · rw [hstep]
    exact h
  generalize w.daemon.step op = d' at hdoes hacking hframe ⊢
  cases hdoes with
  | observe hphase hfresh =>
      exact hframe hacking rfl fun k i hi =>
        (observe_transitions h.identified.keyed _ _ _ _).old_or_fresh hfresh hi
  | @bound t hphase =>
      obtain ⟨hactive, -, -, -, hsame, -, -, hengine, -⟩ := w.daemon.boundPending_frame t
      exact hframe (fun id hid => hacking id (by rwa [hsame] at hid)) hactive
        fun k i hi => Or.inl (by rwa [hengine] at hi)
  | @publish full t hphase =>
      obtain ⟨hactive, -, -, -, hsame, -, hengine, -⟩ := w.daemon.publish_frame t full
      exact hframe (fun id hid => hacking id (by rwa [hsame] at hid)) hactive
        fun k i hi => Or.inl (by rwa [hengine] at hi)
  | @pollFailed error uuid at_ full hpoll hfresh =>
      obtain ⟨device, ht⟩ := w.daemon.lost_transitions error uuid at_
      obtain ⟨hactive, -, -, -, hsame, -, hengine, -⟩ := w.daemon.pollFailed_frame error
        (w.daemon.lost error uuid at_).1 (w.daemon.lost error uuid at_).2 full
      exact hframe (fun id hid => hacking id (by rwa [hsame] at hid)) hactive
        fun k i hi =>
        ht.old_or_fresh hfresh (by rwa [hengine] at hi)
  | ackCommit hdb =>
      refine hframe (fun id hid => ?_) rfl fun k i hi => Or.inl hi
      rcases List.mem_append.1 hid with hid | hid
      · exact hacking id hid
      · obtain rfl := List.mem_singleton.1 hid
        obtain ⟨hmem, -⟩ := Database.acknowledge_ok hdb
        obtain ⟨r, hr⟩ := Option.isSome_iff_exists.1 (Table.find?_isSome_iff.2 hmem)
        have hfind := Database.find?_acknowledge hdb id
        rw [hr, Option.map_some, if_pos rfl] at hfind
        exact ⟨_, hfind, rfl⟩
  | restart => cases hop
  | openDevice => cases hop
  | openSimulator => cases hop
  | sync => cases hop
  | ackPublish => cases hop
  | _ => exact hframe hacking rfl fun k i hi => Or.inl hi

/-! ### The sections that move acknowledgements -/

/-- A new process has the history of the old one, and nothing else. -/
theorem Daemon.step_restart (d : Daemon) (simulate : Bool) (session : String) (at_ : ℤ) :
    d.step (.restart simulate session at_) = {
      simulate := simulate
      active := d.history.db.openIncidents
      shared := {
        startedAtMs := at_
        policyRevision := d.history.db.currentPolicy.1
        policy := d.history.db.currentPolicy.2
        activeIncidents := d.history.db.openIncidents }
      monitor := { session := session }
      history := { db := d.history.db }
      issued := d.issued } := by
  simp [Daemon.step, Daemon.start_eq, Except.toOption]

/-- An action that returns nothing and is not about the engine's source. -/
theorem Watched.step_eq (w : Watched) {op : DaemonOp}
    (hop : op matches .openFailed _ | .observe _ | .bound | .publish _ | .pollFailed _ _ _ _ |
      .take | .write _ | .writeFailed _ | .written | .ackCommit _ _ | .setPolicy _ _) :
    w.step op = { w with daemon := w.daemon.step op } := by
  cases op <;> first
    | exact absurd hop Bool.false_ne_true
    | simp [Watched.step, Watched.returns, Watched.nextUnsynced]

section Sections

variable {w : Watched} (h : w.Inv)
include h

/-- A new process reads what is committed, so nothing is left to sync. The engine starts
empty, and the incidents it is going to restore are acknowledged where a client was told
so. -/
theorem Watched.Inv.restart (simulate : Bool) (session : String) (at_ : ℤ) :
    (w.step (.restart simulate session at_)).Inv := by
  have hstep : w.step (.restart simulate session at_) =
      ⟨w.daemon.step (.restart simulate session at_), w.returned, [], []⟩ := by
    simp [Watched.step, Watched.returns, Watched.nextUnsynced]
  rw [hstep]
  refine ⟨h.identified.step (.restart simulate session at_), fun id hid => ?_,
    fun i hi hreturned _ => ?_, fun k i hi => ?_,
    fun id hid => absurd hid List.not_mem_nil, fun id hid => absurd hid List.not_mem_nil⟩
  · rw [Daemon.step_restart] at hid
    exact (h.committed id (Or.inl (hid.resolve_right List.not_mem_nil))).step _
  · rw [Daemon.step_restart] at hi
    exact h.identified.openIncidents_acknowledged hi (h.committed _ (Or.inl hreturned))
  · rw [Daemon.step_restart, Std.TreeMap.getElem?_emptyc] at hi
    cases hi

/-- A device that is opened again keeps its engine. Another one restores it, from the
store if that can be read, and else from what the start has found, which lacks the
acknowledgements made since. -/
theorem Watched.Inv.openDevice (info : DeviceInfo) (session : String) (readable : Bool) :
    (w.step (.openDevice info session readable)).Inv := by
  by_cases hopen : w.daemon.mayOpen ∧ info.id ≠ ""
  · have hdaemon : w.daemon.step (.openDevice info session readable) =
        w.daemon.openDevice info session readable := if_pos hopen
    have hidentified := h.identified.step (.openDevice info session readable)
    by_cases hsame : w.daemon.monitor.currentId = info.id
    · have hstep : w.step (.openDevice info session readable) =
          { w with daemon := w.daemon.openDevice info session readable } := by
        simp [Watched.step, Watched.returns, Watched.nextUnsynced, hdaemon, hsame]
      rw [hstep]
      rw [hdaemon] at hidentified
      rw [Daemon.openDevice_same hsame] at hidentified ⊢
      exact h.frame hidentified (fun id hid => hid) (fun id hid => h.committed id (Or.inr hid)) rfl
        fun k i hi => Or.inl hi
    · have hstep : w.step (.openDevice info session readable) =
          { w with
            daemon := w.daemon.openDevice info session readable
            unsynced := if readable then [] else w.sinceStart } := by
        simp [Watched.step, Watched.returns, Watched.nextUnsynced, hdaemon, hopen, hsame]
      rw [hstep]
      rw [hdaemon] at hidentified
      rw [Daemon.openDevice_other hsame] at hidentified ⊢
      refine ⟨hidentified, h.committed, h.startup, fun k i hi hreturned hsynced => ?_,
        h.sinceStart, fun id hid => ?_⟩
      · rcases AlertEngine.mem_restore hi with ⟨hmem, -, -⟩ | hi
        · cases readable with
          | true =>
              rw [Daemon.restored, if_pos rfl, Database.incidentList_open] at hmem
              exact h.identified.openIncidents_acknowledged hmem
                (h.committed _ (Or.inl hreturned))
          | false => exact h.startup i hmem hreturned hsynced
        · rw [Std.TreeMap.getElem?_emptyc] at hi
          cases hi
      · cases readable with
        | true => cases hid
        | false => exact hid
  · have hstep : w.step (.openDevice info session readable) = w := by
      have hno : ¬(w.daemon.mayOpen ∧ info.id ≠ "" ∧ w.daemon.monitor.currentId ≠ info.id) :=
        fun hyes => hopen ⟨hyes.1, hyes.2.1⟩
      have hdaemon : w.daemon.step (.openDevice info session readable) = w.daemon := if_neg hopen
      simp only [Watched.step, Watched.returns, Watched.nextUnsynced, hdaemon, if_neg hno,
        List.append_nil]
    rw [hstep]
    exact h

/-- Opening the simulator gives the engine the incidents of the start, which may lack
what was acknowledged since. -/
theorem Watched.Inv.openSimulator : (w.step .openSimulator).Inv := by
  by_cases hopen : w.daemon.simulate = true ∧ w.daemon.monitor.currentId = ""
  · have hdaemon : w.daemon.step .openSimulator = w.daemon.openSimulator := if_pos hopen
    have hidentified := h.identified.step .openSimulator
    have hstep : w.step .openSimulator =
        { w with daemon := w.daemon.openSimulator, unsynced := w.sinceStart } := by
      simp [Watched.step, Watched.returns, Watched.nextUnsynced, hdaemon, hopen]
    rw [hstep]
    rw [hdaemon] at hidentified
    refine ⟨hidentified, h.committed, h.startup, fun k i hi hreturned hsynced => ?_,
      h.sinceStart, fun id hid => hid⟩
    rcases AlertEngine.mem_restore hi with ⟨hmem, -, -⟩ | hi
    · exact h.startup i hmem hreturned hsynced
    · exact h.engine k i hi hreturned fun hid => hsynced (h.unsynced _ hid)
  · have hstep : w.step .openSimulator = w := by
      have hdaemon : w.daemon.step .openSimulator = w.daemon := if_neg hopen
      simp only [Watched.step, Watched.returns, Watched.nextUnsynced, hdaemon, if_neg hopen,
        List.append_nil]
    rw [hstep]
    exact h

/-- A `sync` brings the engine up to date with what the snapshot lists. An incident that
is listed has its acknowledgement there, and one that is not listed was in order before,
or stays in the list of those that are not synced. -/
theorem Watched.Inv.sync (hshown : w.Shown) (reading : Telemetry) :
    (w.step (.sync reading)).Inv := by
  by_cases hpoll : w.daemon.mayPoll
  · have hdaemon : w.daemon.step (.sync reading) = w.daemon.sync reading := if_pos hpoll
    have hidentified := h.identified.step (.sync reading)
    have hstep : w.step (.sync reading) =
        { w with
          daemon := w.daemon.sync reading
          unsynced := w.unsynced.filter fun id =>
            id ∉ w.daemon.shared.activeIncidents.map (·.id) } := by
      simp [Watched.step, Watched.returns, Watched.nextUnsynced, hdaemon, hpoll]
    rw [hstep]
    rw [hdaemon] at hidentified
    refine ⟨hidentified, h.committed, h.startup, fun k i hi hreturned hsynced => ?_,
      h.sinceStart, fun id hid => h.unsynced id (List.mem_of_mem_filter hid)⟩
    obtain ⟨i₀, hi₀, rfl⟩ :=
      Option.map_eq_some_iff.1 ((AlertEngine.getElem?_syncAcks ..).symm.trans hi)
    dsimp only [Incident.syncedAck] at *
    cases hfind : w.daemon.shared.activeIncidents.reverse.find? fun j =>
        j.kind = k ∧ j.id = i₀.id with
    | some j =>
        have hmem := List.mem_reverse.1 (List.mem_of_find?_eq_some hfind)
        have hj : j.kind = k ∧ j.id = i₀.id := by simpa using List.find?_some hfind
        exact hshown j hmem (by rw [hj.2]; exact hreturned)
    | none =>
        -- no listed copy: the incident was in order before
        refine h.engine k i₀ hi₀ hreturned fun hid => hsynced (List.mem_filter.2 ⟨hid, ?_⟩)
        simp only [decide_eq_true_eq]
        intro hlisted
        obtain ⟨j, hj, hid⟩ := List.mem_map.1 hlisted
        have hkind := ((h.identified.shared j hj).eq_of_id h.identified.issued
          (h.identified.engine k i₀ hi₀) hid).2
        refine List.find?_eq_none.1 hfind j (List.mem_reverse.2 hj) ?_
        simp [hid, hkind, (h.identified.keyed k i₀ hi₀).1]
  · have hstep : w.step (.sync reading) = w := by
      have hdaemon : w.daemon.step (.sync reading) = w.daemon := if_neg hpoll
      simp only [Watched.step, Watched.returns, Watched.nextUnsynced, hdaemon, if_neg hpoll,
        List.append_nil]
    rw [hstep]
    exact h

/-- An acknowledgement that is published returns, and the engine has not got it yet: its
identifier is added to those not synced, until the next `sync`. -/
theorem Watched.Inv.ackPublish (id : String) (at_ : ℤ) : (w.step (.ackPublish id at_)).Inv := by
  by_cases hid : id ∈ w.daemon.acking
  · have hdaemon : w.daemon.step (.ackPublish id at_) =
        { w.daemon with
          shared := w.daemon.shared.acknowledge id at_
          acking := w.daemon.acking.erase id } := if_pos hid
    have hidentified := h.identified.step (.ackPublish id at_)
    have hstep : w.step (.ackPublish id at_) =
        ⟨{ w.daemon with
            shared := w.daemon.shared.acknowledge id at_
            acking := w.daemon.acking.erase id },
          w.returned ++ [id], w.sinceStart ++ [id], w.unsynced ++ [id]⟩ := by
      simp [Watched.step, Watched.returns, Watched.nextUnsynced, hdaemon, hid]
    rw [hstep]
    rw [hdaemon] at hidentified
    refine ⟨hidentified, fun id' hid' => ?_, fun i hi hreturned hsince => ?_,
      fun k i hi hreturned hsynced => ?_, fun id' hid' => ?_, fun id' hid' => ?_⟩
    · rcases hid' with hid' | hid'
      · rcases List.mem_append.1 hid' with hid' | hid'
        · exact h.committed id' (Or.inl hid')
        · rw [List.mem_singleton.1 hid']
          exact h.committed id (Or.inr hid)
      · exact h.committed id' (Or.inr (List.mem_of_mem_erase hid'))
    · rw [List.mem_append, not_or] at hsince
      exact h.startup i hi ((List.mem_append.1 hreturned).resolve_right hsince.2) hsince.1
    · rw [List.mem_append, not_or] at hsynced
      exact h.engine k i hi ((List.mem_append.1 hreturned).resolve_right hsynced.2) hsynced.1
    · exact (List.mem_append.1 hid').elim
        (fun hid' => List.mem_append_left _ (h.sinceStart id' hid')) (List.mem_append_right _)
    · exact (List.mem_append.1 hid').elim
        (fun hid' => List.mem_append_left _ (h.unsynced id' hid')) (List.mem_append_right _)
  · have hstep : w.step (.ackPublish id at_) = w := by
      have hdaemon : w.daemon.step (.ackPublish id at_) = w.daemon := if_neg hid
      simp only [Watched.step, Watched.returns, Watched.nextUnsynced, hdaemon, if_neg hid,
        List.append_nil]
    rw [hstep]
    exact h

/-- **The acknowledgements stay where they are known**, whatever the daemon
does, as long as the snapshot shows them. -/
theorem Watched.Inv.step (hshown : w.Shown) (op : DaemonOp) : (w.step op).Inv := by
  cases op with
  | restart simulate session at_ => exact h.restart simulate session at_
  | openDevice info session readable => exact h.openDevice info session readable
  | openSimulator => exact h.openSimulator
  | sync reading => exact h.sync hshown reading
  | ackPublish id at_ => exact h.ackPublish id at_
  | _ =>
      rw [w.step_eq (by rfl)]
      exact h.step_daemon (by rfl)

end Sections

/-! ### The snapshot -/

/-- The snapshot that lists the engine's incidents shows the acknowledgements
exactly if the engine is up to date. -/
theorem Watched.Inv.upToDate_iff {w : Watched} (h : w.Inv) :
    (∀ i ∈ w.daemon.monitor.engine.incidents, i.id ∈ w.returned → i.acknowledgedAtMs.isSome) ↔
      w.UpToDate := by
  constructor
  · intro hshown i hi hnone hunsynced
    have hsome := hshown i hi (h.sinceStart _ (h.unsynced _ hunsynced))
    rw [Option.isNone_iff_eq_none.1 hnone] at hsome
    cases hsome
  · intro hupToDate i hi hreturned
    by_contra hsome
    obtain ⟨k, hk⟩ := AlertEngine.mem_incidents.1 hi
    have hnone := Option.not_isSome_iff_eq_none.1 hsome
    exact hsome (h.engine k i hk hreturned
      (hupToDate i hi (Option.isNone_iff_eq_none.2 hnone)))

/-- The actions that leave the listed incidents alone: the list is written when a sample
or an outage is published, when a client's acknowledgement is, and at the start. -/
theorem Daemon.step_listed (d : Daemon) {op : DaemonOp}
    (hop : !op matches .restart _ _ _ | .publish _ | .pollFailed _ _ _ _ | .ackPublish _ _) :
    (d.step op).shared.activeIncidents = d.shared.activeIncidents := by
  rcases d.step_does op with hstep | hdoes
  · rw [hstep]
  generalize d.step op = d' at hdoes
  cases hdoes with
  | @openDevice info session readable =>
      by_cases hsame : d.monitor.currentId = info.id
      · rw [Daemon.openDevice_same hsame]
      · rw [Daemon.openDevice_other hsame]
  | bound => exact (d.boundPending_frame _).2.2.2.2.2.2.2.2.2.2.2
  | restart => cases hop
  | publish => cases hop
  | pollFailed => cases hop
  | ackPublish => cases hop
  | _ => rfl

/-- A step that leaves the listed incidents and the returned requests alone. -/
theorem Watched.Shown.frame {w w' : Watched} (h : w.Shown)
    (hlisted : w'.daemon.shared.activeIncidents = w.daemon.shared.activeIncidents)
    (hreturned : w'.returned = w.returned) : w'.Shown := by
  unfold Watched.Shown
  rw [hlisted, hreturned]
  exact h

/-- **What one action does to the snapshot.** Only an action that overwrites the open
incidents from the engine can hide an acknowledgement, and it does so if the engine has
not been told of it. -/
theorem Watched.Inv.shown_step_iff {w : Watched} (h : w.Inv) (hshown : w.Shown) (op : DaemonOp) :
    (w.step op).Shown ↔ w.OverwritesUpToDate op := by
  cases op with
  | restart simulate session at_ =>
      refine iff_of_true (fun i hi hreturned => ?_) trivial
      simp only [Watched.step, Daemon.step_restart, Watched.returns, List.append_nil]
        at hi hreturned
      exact h.identified.openIncidents_acknowledged hi (h.committed _ (Or.inl hreturned))
  | publish full =>
      cases hphase : w.daemon.monitor.phase with
      | bounded t =>
          have hstep : w.daemon.step (.publish full) = w.daemon.publish t full := by
            simp only [Daemon.step, hphase]
          have hlisted := (w.daemon.publish_frame t full).2.2.2.2.2.2.2.2.2.2
          simp only [Watched.Shown, Watched.OverwritesUpToDate, Watched.step, Watched.returns,
            List.append_nil, hstep, hlisted, hphase, forall_true_left]
          exact h.upToDate_iff
      | _ =>
          have hstep : w.daemon.step (.publish full) = w.daemon := by
            simp only [Daemon.step, hphase]
          simp only [Watched.OverwritesUpToDate, hphase]
          refine iff_of_true (hshown.frame ?_ (List.append_nil _)) (by simp)
          simp only [Watched.step, hstep]
  | pollFailed error uuid at_ full =>
      by_cases hpoll : w.daemon.mayPoll ∧ w.daemon.fresh (w.daemon.lost error uuid at_).1.toList
      · have hstep : w.daemon.step (.pollFailed error uuid at_ full) =
            w.daemon.pollFailed error (w.daemon.lost error uuid at_).1
              (w.daemon.lost error uuid at_).2 full := if_pos hpoll
        have hlisted := (w.daemon.pollFailed_frame error (w.daemon.lost error uuid at_).1
          (w.daemon.lost error uuid at_).2 full).2.2.2.2.2.2.2.2.2.2
        simp only [Watched.Shown, Watched.OverwritesUpToDate, Watched.step, Watched.returns,
          List.append_nil, hstep, hlisted, hpoll, and_self, forall_true_left]
        rw [← h.upToDate_iff]
        obtain ⟨device, ht⟩ := w.daemon.lost_transitions error uuid at_
        -- the failed poll adds a fresh incident at most
        constructor
        · intro hafter i hi
          obtain ⟨k, hk⟩ := AlertEngine.mem_incidents.1 hi
          exact hafter i (AlertEngine.mem_incidents.2 ⟨k, Daemon.lost_keeps hk error uuid at_⟩)
        · intro hbefore i hi hreturned
          obtain ⟨k, hk⟩ := AlertEngine.mem_incidents.1 hi
          rcases ht.old_or_fresh hpoll.2 hk with hk | hnew
          · exact hbefore i (AlertEngine.mem_incidents.2 ⟨k, hk⟩) hreturned
          · exact absurd (h.mem_issued hreturned) hnew
      · have hstep : w.daemon.step (.pollFailed error uuid at_ full) = w.daemon := if_neg hpoll
        simp only [Watched.OverwritesUpToDate]
        refine iff_of_true (hshown.frame ?_ (List.append_nil _)) fun hyes => absurd hyes hpoll
        simp only [Watched.step, hstep]
  | ackPublish id at_ =>
      refine iff_of_true ?_ trivial
      by_cases hid : id ∈ w.daemon.acking
      · intro i hi hreturned
        simp only [Watched.step, Watched.returns, Daemon.step, if_pos hid, Snapshot.acknowledge]
          at hi hreturned
        obtain ⟨i₀, hi₀, rfl⟩ := List.mem_map.1 hi
        split_ifs at hreturned ⊢ with heq
        · rfl
        · rcases List.mem_append.1 hreturned with hreturned | hreturned
          · exact hshown i₀ hi₀ hreturned
          · exact absurd (List.mem_singleton.1 hreturned) heq
      · refine hshown.frame ?_ ?_
        · simp only [Watched.step, Daemon.step, if_neg hid]
        · simp only [Watched.step, Watched.returns, if_neg hid, List.append_nil]
  | _ =>
      -- the other actions leave the list alone
      refine iff_of_true (hshown.frame ?_ (List.append_nil _)) trivial
      exact w.daemon.step_listed (by rfl)

/-- A daemon over an empty database that no client has written to. -/
theorem Watched.inv_start {simulate : Bool} {session : String} {at_ : ℤ} {d : Daemon}
    (hstart : Daemon.start {} [] simulate session at_ = .ok d) : Watched.Inv ⟨d, [], [], []⟩ := by
  have hidentified := identified_start hstart
  rw [Daemon.start_eq] at hstart
  obtain rfl := Except.ok.inj hstart
  exact ⟨hidentified, by simp, by simp, by simp, by simp, by simp⟩

/-- **Acknowledgements stay visible exactly if no overwrite forgets one.** By induction
on the run: every action keeps them shown if and only if it overwrites with an engine
that is up to date. -/
theorem acknowledgements_stay_visible {simulate : Bool} {session : String} {at_ : ℤ} {d : Daemon}
    (hstart : Daemon.start {} [] simulate session at_ = .ok d) (ops : List DaemonOp) :
    (∀ ops', ops' <+: ops → (Watched.run ⟨d, [], [], []⟩ ops').Shown) ↔
      Transition.Along Watched.step Watched.OverwritesUpToDate ⟨d, [], [], []⟩ ops :=
  Transition.along_iff_forall_prefix _ (fun _ op h hshown => h.step hshown op)
    (fun _ op h hshown => h.shown_step_iff hshown op) (Watched.inv_start hstart)
    (fun _ _ hid => absurd hid List.not_mem_nil) ops

/-- A unit reports a fault, the storage thread stores it, and a client acknowledges
the incident. -/
def acknowledgedFault : List DaemonOp := [.openDevice (powerSupply "A") "s1" true,
  .sync trippedSample, .observe ("a" ++ ·), .bound, .publish false, .take, .write id, .write id,
  .ackCommit "asafeguard.connector1" 500, .ackPublish "asafeguard.connector1" 501]

/-- If a successful poll follows, a failed one may come then. -/
theorem acknowledgements_stay_visible_after_sync :
    let ops := acknowledgedFault ++ [
      .sync { trippedSample with capturedAtMs := 1000, monotonicMs := 1000 },
      .observe ("b" ++ ·), .bound, .publish false, .pollFailed "unplugged" "c" 2000 false]
    ∃ d, Daemon.start {} [] false "s0" 0 = .ok d ∧
      (Watched.run ⟨d, [], [], []⟩ ops).returned = ["asafeguard.connector1"] ∧
      ∀ ops', ops' <+: ops → (Watched.run ⟨d, [], [], []⟩ ops').Shown := by
  intro ops
  exact ⟨_, Daemon.start_eq .., by decide +kernel,
    (acknowledgements_stay_visible (Daemon.start_eq ..) ops).2 (by decide +kernel)⟩

/-- If the failed poll comes first, it overwrites the acknowledgement. -/
theorem acknowledgement_is_lost :
    ∃ d, Daemon.start {} [] false "s0" 0 = .ok d ∧
      ¬ (Watched.run ⟨d, [], [], []⟩
        (acknowledgedFault ++ [.pollFailed "unplugged" "c" 1000 false])).Shown :=
  ⟨_, Daemon.start_eq .., by decide +kernel⟩

end Railwatch
