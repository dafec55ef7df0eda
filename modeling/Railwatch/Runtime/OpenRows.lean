/-
# Open incidents, now and eventually

`openRow` is what the incidents table says is open, `eventually` what it will say
once the updates on their way are stored.  The storage thread moves the table
towards `eventually` without changing it, however often it begins a batch again;
only the monitor changes it, with an update it emits (`eventually_append`).

`Lists` and `Holds` compare a list of incidents and an engine with such a state.
An engine restored from a list that has the open incidents of its device holds
them if no kind is open twice (`holds_restore`).

The updates of one call of the engine are `Transitions`: each id occurs once, and an
update either opens an incident with a fresh id or closes one that the engine holds.  So
the state after them is known id by id (`Transitions.after_eq_some`), and no kind is
open twice afterwards if none was before (`Distinct.transitions`).
-/

import Railwatch.General.Overwrites
import Railwatch.Runtime.Identity

namespace Railwatch

open Std (TreeMap)
open Overwrites

/-- The ids of the incidents that are open, with their device and kind. -/
abbrev OpenIds := String → Option (String × String)

/-- The open rows of the incidents table. -/
def Database.openRow (db : Database) : OpenIds := fun id =>
  (db.incidents.find? id).bind fun r => if r.endMs.isNone then some (r.device, r.kind) else none

/-- How many rows are open. -/
def Database.openCount (db : Database) : ℕ :=
  ((db.incidents.rows.map Prod.snd).filter fun r => r.endMs.isNone).length

/-- What an update makes of the row of its incident. -/
def Incident.overwrite (i : Incident) : String × Option (String × String) :=
  (i.id, if i.recoveredAtMs.isNone then some (i.deviceId, i.kind) else none)

/-- The open rows once all updates on their way are stored. -/
def Daemon.eventually (d : Daemon) : OpenIds :=
  after d.history.db.openRow (d.updates.map Incident.overwrite)

/-- The list has the incidents that are open on a device. -/
def Lists (incidents : List Incident) (device : String) (S : OpenIds) : Prop :=
  ∀ id kind, (∃ i ∈ incidents, i.id = id ∧ i.deviceId = device ∧ i.kind = kind) ↔
    S id = some (device, kind)

/-- The engine has the incidents that are open on a device. -/
def AlertEngine.Holds (e : AlertEngine) (device : String) (S : OpenIds) : Prop :=
  ∀ (id kind : String), (∃ i, e.active[kind]? = some i ∧ i.id = id) ↔ S id = some (device, kind)

/-- A device has one open incident of a kind at most. -/
def Distinct (S : OpenIds) : Prop := ∀ id id' p, S id = some p → S id' = some p → id = id'

/-- Two states can be compared on the ids that one of them may have open, which makes
the comparison a finite one. -/
theorem lists_iff {incidents : List Incident} {device : String} {S : OpenIds} {ids : List String}
    (hids : ∀ id, (S id).isSome → id ∈ ids) :
    Lists incidents device S ↔
      (∀ i ∈ incidents, i.deviceId = device → S i.id = some (device, i.kind)) ∧
        ∀ id ∈ ids, ∀ p ∈ S id, p.1 = device →
          ∃ i ∈ incidents, i.id = id ∧ i.deviceId = device ∧ i.kind = p.2 := by
  constructor
  · intro h
    refine ⟨fun i hi hdevice => (h i.id i.kind).1 ⟨i, hi, rfl, hdevice, rfl⟩, ?_⟩
    rintro id - ⟨device', kind⟩ hid rfl
    exact (h id kind).2 hid
  · rintro ⟨hlisted, hopen⟩ id kind
    constructor
    · rintro ⟨i, hi, rfl, hdevice, rfl⟩
      exact hlisted i hi hdevice
    · intro hid
      exact hopen id (hids id (by rw [hid]; rfl)) _ hid rfl

/-- It is enough to compare the incidents that there are. -/
theorem distinct_iff {S : OpenIds} {ids : List String} (hids : ∀ id, (S id).isSome → id ∈ ids) :
    Distinct S ↔ ∀ id ∈ ids, ∀ id' ∈ ids, ∀ p ∈ S id, S id' = some p → id = id' := by
  refine ⟨fun h id _ id' _ p hid hid' => h id id' p hid hid', fun h id id' p hid hid' => ?_⟩
  exact h id (hids id (by rw [hid]; rfl)) id' (hids id' (by rw [hid']; rfl)) p hid hid'

/-! ### The table -/

/-- Only an incident of the table is open in it. -/
theorem Database.openRow_support (db : Database) (id : String) (h : (db.openRow id).isSome) :
    id ∈ db.incidents.keys := by
  refine Sql.Table.find?_isSome_iff.1 ?_
  unfold Database.openRow at h
  cases hr : db.incidents.find? id with
  | none => simp [hr] at h
  | some r => rfl

instance (db : Database) : Decidable (Distinct db.openRow) :=
  decidable_of_iff _ (distinct_iff db.openRow_support).symm

/-- What is open is a row without an end. -/
theorem Database.openRow_eq_some {db : Database} {id device kind : String} :
    db.openRow id = some (device, kind) ↔
      ∃ r, db.incidents.find? id = some r ∧ r.endMs = none ∧ r.device = device ∧ r.kind = kind := by
  unfold Database.openRow
  cases db.incidents.find? id with
  | none => simp
  | some r =>
      cases hend : r.endMs with
      | none => simp [hend]
      | some endMs => simp [hend]

/-- The open incidents that are read from the table are its open rows, if they
are not too many. -/
theorem Daemon.Identified.lists_openIncidents {d : Daemon} (h : d.Identified)
    (hcount : d.history.db.openCount ≤ 1000) (device : String) :
    Lists d.history.db.openIncidents device d.history.db.openRow := by
  intro id kind
  rw [Database.openRow_eq_some]
  constructor
  · rintro ⟨i, hi, rfl, rfl, rfl⟩
    obtain ⟨id, r, hr, hend, rfl⟩ := mem_openIncidents hi
    have hstores := h.rows id r hr
    refine ⟨r, ?_, hend, hstores.device.symm, hstores.kind.symm⟩
    rw [show r.read.id = id from hstores.id]
    exact hr
  · rintro ⟨r, hr, hend, rfl, rfl⟩
    have hstores := h.rows id r hr
    refine ⟨r.read, List.mem_map_of_mem ?_, hstores.id, hstores.device, hstores.kind⟩
    have hmem : r ∈ (d.history.db.incidents.rows.map Prod.snd).filter fun r => r.endMs.isNone :=
      List.mem_filter.2 ⟨List.mem_map_of_mem (Sql.Table.find?_eq_some_iff.1 hr), by rw [hend]; rfl⟩
    rw [List.take_of_length_le (by rw [List.length_insertionSort]; exact hcount)]
    exact (List.perm_insertionSort _ _).mem_iff.2 hmem

/-- An upsert overwrites what is open: under its own id, with its device and kind or
with nothing if it has recovered. A row that is there has the same device and kind, so
the columns that an upsert keeps say the same. -/
theorem Daemon.Identified.openRow_exec {d : Daemon} (h : d.Identified) {event : Incident}
    (hevent : event.KnownIn d.issued) {db : Database}
    (hdb : db.incidents = d.history.db.incidents.exec event.upsert) :
    db.openRow = Function.update d.history.db.openRow event.overwrite.1 event.overwrite.2 := by
  funext id
  unfold Database.openRow
  rw [hdb, Sql.Table.find?_exec, Incident.upsert_key]
  by_cases hid : id = event.id
  · subst hid
    rw [if_pos rfl, Incident.overwrite, Function.update_self]
    cases hr : d.history.db.incidents.find? event.id with
    | none => rfl
    | some r =>
        have hstores := h.rows _ r hr
        obtain ⟨hdevice, hkind⟩ := hevent.eq_of_id h.issued hstores.known hstores.id.symm
        rw [hdevice, hkind, hstores.device, hstores.kind]
        rfl
  · rw [if_neg hid, Incident.overwrite, Function.update_of_ne hid]

/-- The table's open rows depend on the incidents only. -/
theorem Database.openRow_congr {db db' : Database} (h : db'.incidents = db.incidents) :
    db'.openRow = db.openRow := by
  unfold Database.openRow
  rw [h]

/-- An acknowledgement opens and closes nothing. -/
theorem openRow_acknowledge {db db' : Database} {id : String} {at_ : ℤ}
    (h : db.acknowledge id at_ = .ok db') : db'.openRow = db.openRow := by
  funext id'
  unfold Database.openRow
  rw [Database.find?_acknowledge h]
  cases db.incidents.find? id' with
  | none => rfl
  | some r =>
      by_cases hid : id' = id
      · rw [Option.map_some, if_pos hid]
        rfl
      · rw [Option.map_some, if_neg hid]

/-! ### Updates on their way -/

/-- Only an incident of the table, or one still to write, will be open. -/
theorem Daemon.eventually_support (d : Daemon) (id : String) (h : (d.eventually id).isSome) :
    id ∈ d.history.db.incidents.keys ++ (d.updates.map Incident.overwrite).map Prod.fst := by
  rw [List.mem_append, or_iff_not_imp_right]
  intro hmem
  rw [Daemon.eventually, after_of_notMem hmem] at h
  exact d.history.db.openRow_support id h

instance (d : Daemon) (incidents : List Incident) (device : String) :
    Decidable (Lists incidents device d.eventually) :=
  decidable_of_iff _ (lists_iff d.eventually_support).symm

/-- An update that the monitor emits. -/
theorem Daemon.eventually_append {d d' : Daemon} {events : List Incident}
    (hdb : d'.history = d.history) (hupdates : d'.updates = d.updates ++ events) :
    d'.eventually = after d.eventually (events.map Incident.overwrite) := by
  rw [Daemon.eventually, Daemon.eventually, hdb, hupdates, List.map_append, after_append]

/-- The ids that are open eventually are those of incidents that were opened. -/
theorem Daemon.Identified.eventually_issued {d : Daemon} (h : d.Identified) {id : String}
    {p : String × String} (hid : d.eventually id = some p) : id ∈ d.issued.map (·.id) := by
  by_cases hmem : id ∈ (d.updates.map Incident.overwrite).map Prod.fst
  · obtain ⟨u, hu, rfl⟩ := List.mem_map.1 hmem
    obtain ⟨i, hi, rfl⟩ := List.mem_map.1 hu
    obtain ⟨o, ho, heq, -⟩ := h.updates i hi
    exact List.mem_map.2 ⟨o, ho, heq⟩
  · rw [Daemon.eventually, after_of_notMem hmem] at hid
    obtain ⟨r, hr, -⟩ := Database.openRow_eq_some.1 hid
    have hstores := h.rows id r hr
    obtain ⟨o, ho, heq, -⟩ := hstores.known
    exact List.mem_map.2 ⟨o, ho, heq.trans hstores.id⟩

/-! ### Engines -/

/-- **An engine that is restored** from the open incidents of its device holds
them. -/
theorem AlertEngine.holds_restore {e : AlertEngine} {incidents : List Incident} {device : String}
    {S : OpenIds} (hempty : ∀ k : String, e.active[k]? = none) (hlists : Lists incidents device S)
    (hdistinct : Distinct S) : (e.restore device incidents).Holds device S := by
  intro id kind
  constructor
  · rintro ⟨i, hi, rfl⟩
    rcases AlertEngine.mem_restore hi with ⟨hmem, hdevice, hkind⟩ | hi
    · exact (hlists i.id kind).1 ⟨i, hmem, rfl, hdevice, hkind⟩
    · rw [hempty] at hi
      cases hi
  · intro hid
    obtain ⟨i, hmem, rfl, hdevice, hkind⟩ := (hlists id kind).2 hid
    cases hj : (e.restore device incidents).active[kind]? with
    | none =>
        rw [AlertEngine.getElem?_restore, Option.or_eq_none_iff] at hj
        have hfind := List.find?_eq_none.1 hj.1 i
          (List.mem_reverse.2 (List.mem_filter.2 ⟨hmem, decide_eq_true hdevice⟩))
        simp [hkind] at hfind
    | some j =>
        refine ⟨j, rfl, ?_⟩
        rcases AlertEngine.mem_restore hj with ⟨hmem', hdevice', hkind'⟩ | hj
        · exact hdistinct _ _ _ ((hlists j.id kind).1 ⟨j, hmem', rfl, hdevice', hkind'⟩) hid
        · rw [hempty] at hj
          cases hj

/-- Copied acknowledgements change no incident that is held. -/
theorem AlertEngine.Holds.syncAcks {e : AlertEngine} {device : String} {S : OpenIds}
    (h : e.Holds device S) (incidents : List Incident) : (e.syncAcks incidents).Holds device S := by
  intro id kind
  rw [← h id kind]
  simp [AlertEngine.getElem?_syncAcks]

section Transitions

variable {d : Daemon} {device : String} {e' : AlertEngine} {events : List Incident}
  (hholds : d.monitor.engine.Holds device d.eventually)
  (ht : Transitions device d.monitor.engine e' events) (hfresh : d.fresh events)
include hholds ht hfresh

/-- An event opens an incident with a fresh id, or closes one that the engine
holds. -/
theorem Transitions.opens_or_closes {event : Incident} (hevent : event ∈ events) :
    (event.id ∉ d.issued.map (·.id) ∧ event ∈ opened events) ∨
      d.eventually event.id = some (device, event.kind) := by
  rcases ht.event event hevent with ⟨-, -, hopen, -⟩ | ⟨i, at_, hi, rfl, -⟩
  · have hmem : event ∈ opened events := List.mem_filter.2 ⟨hevent, by rw [hopen]; rfl⟩
    exact Or.inl ⟨hfresh.2 event hmem, hmem⟩
  · exact Or.inr ((hholds _ _).1 ⟨i, hi, rfl⟩)

variable (h : d.Identified)
include h

/-- The events of a call concern different incidents. -/
theorem Transitions.overwrites_nodup : ((events.map Incident.overwrite).map Prod.fst).Nodup := by
  rw [List.map_map, List.Nodup, List.pairwise_map]
  have hkinds : events.Pairwise fun a b => a.kind ≠ b.kind := List.pairwise_map.1 ht.kinds
  refine hkinds.imp_of_mem fun {a b} ha hb hne hid => ?_
  replace hid : a.id = b.id := hid
  rcases ht.opens_or_closes hholds hfresh ha with ⟨hnew, hopen⟩ | hheld <;>
    rcases ht.opens_or_closes hholds hfresh hb with ⟨hnew', hopen'⟩ | hheld'
  · exact hne (congrArg Incident.kind (List.inj_on_of_nodup_map hfresh.1 hopen hopen' hid))
  · exact hnew (hid ▸ h.eventually_issued hheld')
  · exact hnew' (hid ▸ h.eventually_issued hheld)
  · rw [hid, hheld'] at hheld
    exact hne (Prod.ext_iff.1 (Option.some.inj hheld)).2.symm

/-- What is open after the events of a call: what they open, and what was open
and no event is about. -/
theorem Transitions.after_eq_some {id : String} {p : String × String} :
    after d.eventually (events.map Incident.overwrite) id = some p ↔
      (∃ event ∈ events, event.id = id ∧ event.recoveredAtMs = none ∧
        p = (device, event.kind)) ∨
      (d.eventually id = some p ∧ ∀ event ∈ events, event.id ≠ id) := by
  have hdevice : ∀ event ∈ events, event.recoveredAtMs = none →
      event.overwrite = (event.id, some (device, event.kind)) := by
    intro event hevent hopen
    rcases ht.event event hevent with ⟨-, -, -, rfl⟩ | ⟨i, at_, -, rfl, -⟩
    · rw [Incident.overwrite, hopen]
      rfl
    · cases hopen
  have hmem : ∀ event ∈ events, after d.eventually (events.map Incident.overwrite) event.id =
      event.overwrite.2 := fun event hevent =>
    after_of_mem (ht.overwrites_nodup hholds hfresh h) (List.mem_map_of_mem hevent)
  by_cases hid : ∃ event ∈ events, event.id = id
  · obtain ⟨event, hevent, rfl⟩ := hid
    rw [hmem event hevent]
    constructor
    · intro hp
      cases hopen : event.recoveredAtMs with
      | none =>
          rw [hdevice event hevent hopen] at hp
          exact Or.inl ⟨event, hevent, rfl, hopen, (Option.some.inj hp).symm⟩
      | some at_ => simp [Incident.overwrite, hopen] at hp
    · rintro (⟨event', hevent', heq, hopen, rfl⟩ | ⟨-, hother⟩)
      · rw [← hmem event hevent, ← heq, hmem event' hevent', hdevice event' hevent' hopen]
      · exact absurd rfl (hother event hevent)
  · have hother : ∀ event ∈ events, event.id ≠ id := fun event hevent heq =>
      hid ⟨event, hevent, heq⟩
    rw [after_of_notMem]
    · refine ⟨fun hp => Or.inr ⟨hp, hother⟩, fun hp => ?_⟩
      exact (hp.resolve_left fun ⟨event, hevent, heq, _⟩ => hother event hevent heq).1
    · rw [List.map_map]
      intro hkey
      obtain ⟨event, hevent, heq⟩ := List.mem_map.1 hkey
      exact hother event hevent heq

/-- **A call keeps the engine together with what will be open.** Each event is on its
way to the table, so that the table will have the incident open, or closed, as the
engine has it. -/
theorem AlertEngine.Holds.transitions :
    e'.Holds device (after d.eventually (events.map Incident.overwrite)) := by
  intro id kind
  rw [ht.after_eq_some hholds hfresh h]
  constructor
  · rintro ⟨i, hi, rfl⟩
    rcases ht.getElem?_eq_some.1 hi with ⟨hevent, rfl, hopen⟩ | ⟨hi, hquiet⟩
    · exact Or.inl ⟨i, hevent, rfl, hopen, rfl⟩
    · have hheld := (hholds i.id kind).1 ⟨i, hi, rfl⟩
      refine Or.inr ⟨hheld, fun event hevent heq => ?_⟩
      rcases ht.opens_or_closes hholds hfresh hevent with ⟨hnew, -⟩ | hheld'
      · exact hnew (heq ▸ h.eventually_issued hheld)
      · rw [heq, hheld] at hheld'
        exact hquiet event hevent (Prod.ext_iff.1 (Option.some.inj hheld')).2.symm
  · rintro (⟨event, hevent, rfl, hopen, hp⟩ | ⟨hheld, hother⟩)
    · exact ⟨event, ht.getElem?_eq_some.2 (Or.inl ⟨hevent, (Prod.ext_iff.1 hp).2.symm, hopen⟩), rfl⟩
    · obtain ⟨i, hi, rfl⟩ := (hholds id kind).2 hheld
      refine ⟨i, ht.getElem?_eq_some.2 (Or.inr ⟨hi, fun event hevent hkind => ?_⟩), rfl⟩
      rcases ht.event event hevent with ⟨hnone, -⟩ | ⟨j, at_, hj, rfl, -⟩
      · rw [hkind, hi] at hnone
        cases hnone
      · rw [hkind, hi] at hj
        exact hother _ hevent (congrArg Incident.id (Option.some.inj hj)).symm

/-- A call opens no kind twice: a kind that opens was not open, by the engine, and the
kinds of one call's events are distinct. -/
theorem Distinct.transitions (hdistinct : Distinct d.eventually) :
    Distinct (after d.eventually (events.map Incident.overwrite)) := by
  have hclash : ∀ event ∈ events, event.recoveredAtMs = none → ∀ id,
      d.eventually id ≠ some (device, event.kind) := by
    intro event hevent hopen id hid
    obtain ⟨i, hi, -⟩ := (hholds id event.kind).2 hid
    rcases ht.event event hevent with ⟨hnone, -⟩ | ⟨j, at_, -, rfl, -⟩
    · rw [hi] at hnone
      cases hnone
    · cases hopen
  intro id id' p hid hid'
  rcases (ht.after_eq_some hholds hfresh h).1 hid with
    ⟨event, hevent, rfl, hopen, rfl⟩ | ⟨hid, -⟩ <;>
  rcases (ht.after_eq_some hholds hfresh h).1 hid' with
    ⟨event', hevent', rfl, hopen', hp⟩ | ⟨hid', -⟩
  · rw [List.inj_on_of_nodup_map ht.kinds hevent hevent' (Prod.ext_iff.1 hp).2]
  · exact absurd hid' (hclash event hevent hopen _)
  · rw [hp] at hid
    exact absurd hid (hclash event' hevent' hopen' _)
  · exact hdistinct _ _ _ hid hid'

end Transitions

end Railwatch
