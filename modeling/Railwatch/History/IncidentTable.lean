/-
# What the incident table shows

An incident is kept three times: as JSON, in the column `end_ms`, and, as far as
its acknowledgement goes, in the column `ack_ms`.  An upsert replaces the JSON
and `end_ms`, an acknowledgement fills `ack_ms`, and `incidents` reads the JSON
with `ack_ms` put over it.  After any calls the three agree with the calls
themselves (`Shows`): a row has its latest body and its first acknowledgement.

These columns are written by different threads, so it matters that an upsert leaves the
acknowledgement alone, and that a second acknowledgement does not replace the first one.
`incident_table_presents_calls` says what the table shows after any sequence of both.

The calls are a list of `IncidentCall`, and the table they leave is compared with two
readings of this list: the last body of an id, and the acknowledgement of its first body
or the first one made after it.  `Shows` is kept by an upsert and by an acknowledgement,
and what `incidents` returns follows from it (`incidentList_presents`).
-/

import Railwatch.General.Transition
import Railwatch.History.Store

namespace Railwatch

open Sql

/-- A call that writes to `incidents`: an upsert of the storage thread, or an
acknowledgement of a client. -/
inductive IncidentCall where
  | upsert (i : Incident)
  | acknowledge (id : String) (at_ : ℤ)

/-- One call; one that fails changes nothing. -/
def Database.incidentCall (db : Database) : IncidentCall → Database
  | .upsert i => db.upsertIncident i
  | .acknowledge id at_ => (db.acknowledge id at_).toOption.getD db

/-- The database after some calls. -/
def Database.incidentCalls (db : Database) (calls : List IncidentCall) : Database :=
  Transition.run Database.incidentCall db calls

/-! ### What the calls say -/

/-- The incident a call upserts under an id. -/
def IncidentCall.body? (id : String) : IncidentCall → Option Incident
  | .upsert i => if i.id = id then some i else none
  | .acknowledge .. => none

/-- The body of the latest upsert of an id. -/
def latestBody (id : String) (calls : List IncidentCall) : Option Incident :=
  (calls.filterMap (IncidentCall.body? id)).getLast?

/-- The time of the first acknowledgement of an id. -/
def firstAcknowledge (id : String) : List IncidentCall → Option ℤ
  | [] => none
  | .acknowledge id' at_ :: calls => if id' = id then some at_ else firstAcknowledge id calls
  | .upsert _ :: calls => firstAcknowledge id calls

/-- The acknowledgement of the first upsert of an id if it has one, and else the
first `acknowledge` after it. -/
def acknowledgedAt (id : String) : List IncidentCall → Option ℤ
  | [] => none
  | .upsert i :: calls =>
      if i.id = id then i.acknowledgedAtMs <|> firstAcknowledge id calls
      else acknowledgedAt id calls
  | .acknowledge .. :: calls => acknowledgedAt id calls

/-- What is presented of an id: its latest body with its acknowledgement. -/
def presented (id : String) (calls : List IncidentCall) : Option Incident :=
  (latestBody id calls).map fun i => { i with acknowledgedAtMs := acknowledgedAt id calls }

/-- The ids that were upserted and, if only active ones are asked for, whose
latest body has no recovery time. -/
def presentedIds (active : Bool) (calls : List IncidentCall) : Finset String :=
  (calls.filterMap fun
    | .upsert i => some i.id
    | .acknowledge .. => none).toFinset.filter fun id =>
      active = true → ∀ i ∈ latestBody id calls, i.recoveredAtMs = none

/-- Without calls there is no body. -/
@[simp] theorem latestBody_nil (id : String) : latestBody id [] = none := rfl

/-- The body of an incident is that of its last upsert. -/
theorem latestBody_upsert (id : String) (calls : List IncidentCall) (i : Incident) :
    latestBody id (calls ++ [.upsert i]) = if i.id = id then some i else latestBody id calls := by
  unfold latestBody
  rw [List.filterMap_append]
  split_ifs with h <;> simp [IncidentCall.body?, h]

/-- An acknowledgement changes no body. -/
@[simp] theorem latestBody_acknowledge (id : String) (calls : List IncidentCall) (id' : String)
    (at_ : ℤ) : latestBody id (calls ++ [.acknowledge id' at_]) = latestBody id calls := by
  unfold latestBody
  rw [List.filterMap_append]
  simp [IncidentCall.body?]

/-- The first call matters only if no later one is for the same incident. -/
theorem latestBody_cons_upsert (id : String) (calls : List IncidentCall) (i : Incident) :
    latestBody id (.upsert i :: calls) =
      if i.id = id then some ((latestBody id calls).getD i) else latestBody id calls := by
  unfold latestBody
  rw [List.filterMap_cons]
  by_cases h : i.id = id
  · simp only [IncidentCall.body?, if_pos h, List.getLast?_cons]
  · simp only [IncidentCall.body?, if_neg h]

/-- The body of an id has this id. -/
theorem id_of_latestBody {id : String} {calls : List IncidentCall} {i : Incident}
    (h : latestBody id calls = some i) : i.id = id := by
  obtain ⟨call, -, hcall⟩ := List.mem_filterMap.1 (List.mem_of_getLast? h)
  cases call with
  | upsert j =>
      simp only [IncidentCall.body?] at hcall
      split_ifs at hcall with hid
      obtain rfl := Option.some.inj hcall
      exact hid
  | acknowledge id' at_ => cases hcall

/-- An upsert acknowledges nothing. -/
theorem firstAcknowledge_upsert (id : String) (calls : List IncidentCall) (i : Incident) :
    firstAcknowledge id (calls ++ [.upsert i]) = firstAcknowledge id calls := by
  induction calls with
  | nil => rfl
  | cons call calls ih =>
      cases call with
      | upsert j => exact ih
      | acknowledge id' at_ =>
          simp only [List.cons_append, firstAcknowledge, ih]

/-- The first acknowledgement counts, and a later one is not taken. -/
theorem firstAcknowledge_acknowledge (id : String) (calls : List IncidentCall) (id' : String)
    (at_ : ℤ) : firstAcknowledge id (calls ++ [.acknowledge id' at_]) =
      if id' = id then some ((firstAcknowledge id calls).getD at_)
      else firstAcknowledge id calls := by
  induction calls with
  | nil => rfl
  | cons call calls ih =>
      cases call with
      | upsert j => exact ih
      | acknowledge id'' at' =>
          simp only [List.cons_append, firstAcknowledge, ih]
          split_ifs <;> rfl

/-- An upsert settles the acknowledgement only if it is the first one. A later upsert
brings a new body, but the time of the acknowledgement stays what the row has. -/
theorem acknowledgedAt_upsert (id : String) (calls : List IncidentCall) (i : Incident) :
    acknowledgedAt id (calls ++ [.upsert i]) =
      if i.id = id ∧ latestBody id calls = none then i.acknowledgedAtMs
      else acknowledgedAt id calls := by
  induction calls with
  | nil =>
      simp only [List.nil_append, acknowledgedAt, latestBody_nil, and_true, firstAcknowledge]
      split_ifs
      · cases i.acknowledgedAtMs <;> rfl
      · rfl
  | cons call calls ih =>
      cases call with
      | upsert j =>
          simp only [List.cons_append, acknowledgedAt, latestBody_cons_upsert,
            firstAcknowledge_upsert, ih]
          by_cases hj : j.id = id
          · simp [hj]
          · simp [hj]
      | acknowledge id' at_ => exact ih

/-- An acknowledgement counts if the row exists, and if it is the first. Afterwards the
row has a time, which no call changes any more. -/
theorem acknowledgedAt_acknowledge (id : String) (calls : List IncidentCall) (id' : String)
    (at_ : ℤ) : acknowledgedAt id (calls ++ [.acknowledge id' at_]) =
      if id' = id ∧ latestBody id calls ≠ none then some ((acknowledgedAt id calls).getD at_)
      else acknowledgedAt id calls := by
  induction calls with
  | nil => simp [acknowledgedAt]
  | cons call calls ih =>
      cases call with
      | upsert j =>
          simp only [List.cons_append, acknowledgedAt, latestBody_cons_upsert,
            firstAcknowledge_acknowledge, ih]
          by_cases hj : j.id = id
          · by_cases hid : id' = id
            · cases hack : j.acknowledgedAtMs <;> simp [hj, hid]
            · simp [hj, hid]
          · simp [hj]
      | acknowledge id'' at' => exact ih

/-! ### The table agrees with the calls -/

/-- The row of an id, if there is one, has the latest body in its JSON and its
`end_ms`, and the acknowledgement in its `ack_ms`. -/
structure Shows (incidents : Table String IncidentRow) (calls : List IncidentCall)
    (id : String) : Prop where
  /-- `json` is that of the last upsert, and there is no row without one. -/
  body : (incidents.find? id).map IncidentRow.json = latestBody id calls
  /-- `end_ms` is its recovery. -/
  ended : ∀ r ∈ incidents.find? id, r.endMs = r.json.recoveredAtMs
  /-- `ack_ms` is the acknowledgement that the calls have left. -/
  acknowledged : ∀ r ∈ incidents.find? id, r.ackMs = acknowledgedAt id calls

/-- There is a row exactly for the incidents that were upserted. -/
theorem Shows.find?_eq_none_iff {incidents : Table String IncidentRow}
    {calls : List IncidentCall} {id : String} (h : Shows incidents calls id) :
    incidents.find? id = none ↔ latestBody id calls = none := by
  rw [← h.body, Option.map_eq_none_iff]

/-- An upsert keeps the agreement. The row gets the new body and its end; the time of
the acknowledgement is the body's for a new row, and otherwise the one that was there. -/
theorem Shows.upsert {incidents : Table String IncidentRow} {calls : List IncidentCall}
    {id : String} (h : Shows incidents calls id) (i : Incident) :
    Shows (incidents.upsert i.id i.row (IncidentRow.update i)) (calls ++ [.upsert i]) id := by
  by_cases hid : i.id = id
  · have hfind := Table.find?_upsert incidents i.id id i.row (IncidentRow.update i)
    rw [if_pos hid.symm] at hfind
    have hlatest : latestBody id (calls ++ [.upsert i]) = some i := by
      rw [latestBody_upsert, if_pos hid]
    constructor
    · rw [hfind, hlatest]
      cases incidents.find? id <;> rfl
    · rw [hfind]
      rintro r ⟨⟩
      cases incidents.find? id <;> rfl
    · rw [hfind, acknowledgedAt_upsert]
      rintro r ⟨⟩
      cases hr : incidents.find? id with
      | none =>
          rw [if_pos ⟨hid, h.find?_eq_none_iff.1 hr⟩]
          rfl
      | some r =>
          have hne : latestBody id calls ≠ none := fun hno => by
            rw [h.find?_eq_none_iff.2 hno] at hr
            cases hr
          rw [if_neg fun hand => hne hand.2]
          exact h.acknowledged r hr
  · have hfind := Table.find?_upsert incidents i.id id i.row (IncidentRow.update i)
    rw [if_neg fun he => hid he.symm] at hfind
    constructor
    · rw [hfind, latestBody_upsert, if_neg hid]
      exact h.body
    · rw [hfind]
      exact h.ended
    · rw [hfind, acknowledgedAt_upsert, if_neg fun hand => hid hand.1]
      exact h.acknowledged

/-- An acknowledgement keeps the agreement. It is refused where the calls so far have no
upsert of the row, and then nothing changes; else it sets the time of that row if it has
none, and leaves the body alone. -/
theorem shows_acknowledge {db : Database} {calls : List IncidentCall}
    (h : ∀ id, Shows db.incidents calls id) (id id' : String) (at_ : ℤ) :
    Shows (db.incidentCall (.acknowledge id' at_)).incidents
      (calls ++ [.acknowledge id' at_]) id := by
  cases hack : db.acknowledge id' at_ with
  | error e =>
      have hcall : db.incidentCall (.acknowledge id' at_) = db := by
        rw [Database.incidentCall, hack]
        rfl
      have hkey : id' ∉ db.incidents.keys := by
        unfold Database.acknowledge at hack
        split_ifs at hack with hkey
        exact hkey
      have hlatest := (h id').find?_eq_none_iff.1 (Table.find?_eq_none_iff.2 hkey)
      have hsame : acknowledgedAt id (calls ++ [.acknowledge id' at_]) =
          acknowledgedAt id calls := by
        rw [acknowledgedAt_acknowledge, if_neg]
        rintro ⟨rfl, hne⟩
        exact hne hlatest
      rw [hcall]
      exact ⟨by rw [latestBody_acknowledge, (h id).body], (h id).ended,
        by rw [hsame]; exact (h id).acknowledged⟩
  | ok db' =>
      have hcall : db.incidentCall (.acknowledge id' at_) = db' := by
        rw [Database.incidentCall, hack]
        rfl
      have hfind := Database.find?_acknowledge hack id
      rw [hcall]
      constructor
      · rw [hfind, latestBody_acknowledge, ← (h id).body, Option.map_map]
        refine Option.map_congr fun r _ => ?_
        simp only [Function.comp_apply]
        split_ifs <;> rfl
      · rw [hfind]
        intro r' hr'
        obtain ⟨r, hr, rfl⟩ := Option.mem_map.1 hr'
        have := (h id).ended r hr
        split_ifs <;> exact this
      · rw [hfind, acknowledgedAt_acknowledge]
        intro r' hr'
        obtain ⟨r, hr, rfl⟩ := Option.mem_map.1 hr'
        have hne : latestBody id calls ≠ none := fun hno => by
          rw [(h id).find?_eq_none_iff.2 hno] at hr
          cases hr
        by_cases hid : id = id'
        · rw [if_pos hid, if_pos ⟨hid.symm, hne⟩, ← (h id).acknowledged r hr]
          rfl
        · rw [if_neg hid, if_neg fun hand => hid hand.1.symm]
          exact (h id).acknowledged r hr

/-- **After any calls the table agrees with them.** By induction on the calls, from the
last one: an upsert writes all columns but the acknowledgement, and an acknowledgement
that one only if it is empty. -/
theorem shows_of_incidentCalls {db : Database} (hempty : db.incidents = ∅)
    (calls : List IncidentCall) (id : String) :
    Shows (db.incidentCalls calls).incidents calls id := by
  induction calls using List.reverseRecOn generalizing id with
  | nil => exact ⟨by rw [Database.incidentCalls, Transition.run_nil, hempty]; rfl,
      by rw [Database.incidentCalls, Transition.run_nil, hempty]; rintro r ⟨⟩,
      by rw [Database.incidentCalls, Transition.run_nil, hempty]; rintro r ⟨⟩⟩
  | append_singleton calls call ih =>
      rw [Database.incidentCalls, Transition.run_concat]
      cases call with
      | upsert i => exact (ih id).upsert i
      | acknowledge id' at_ => exact shows_acknowledge ih id id' at_

/-! ### The list -/

/-- The incidents that are presented are those with a body; if only active ones are
asked for, those of them that have not recovered. -/
theorem mem_presentedIds {active : Bool} {calls : List IncidentCall} {id : String} :
    id ∈ presentedIds active calls ↔
      ∃ i, latestBody id calls = some i ∧ (active = true → i.recoveredAtMs = none) := by
  have hmem : id ∈ (calls.filterMap fun
      | .upsert i => some i.id
      | .acknowledge .. => none) ↔ latestBody id calls ≠ none := by
    unfold latestBody
    rw [Ne, List.getLast?_eq_none_iff, List.filterMap_eq_nil_iff, List.mem_filterMap]
    push Not
    refine exists_congr fun call => and_congr_right fun _ => ?_
    cases call <;> simp [IncidentCall.body?]
  rw [presentedIds, Finset.mem_filter, List.mem_toFinset, hmem]
  cases latestBody id calls <;> simp

/-- **The list has every id once, with what is to be presented of it**, as long
as the limit is not reached. -/
theorem incidentList_presents {db : Database} (hempty : db.incidents = ∅)
    (calls : List IncidentCall) (active : Bool) {limit : ℕ} (hlimit : 1 ≤ limit ∧ limit ≤ 1000)
    (hcard : (presentedIds active calls).card ≤ limit) :
    ∃ list, (db.incidentCalls calls).incidentList active limit = .ok list ∧
      (list.map Incident.id).Nodup ∧ (list.map Incident.id).toFinset = presentedIds active calls ∧
      ∀ i ∈ list, presented i.id calls = some i := by
  have hshows := shows_of_incidentCalls hempty calls
  generalize db.incidentCalls calls = db at hshows
  -- each row is filed under the id of its body
  have hrow (kr : String × IncidentRow) (h : kr ∈ db.incidents.rows) :
      kr.2.json.id = kr.1 ∧ latestBody kr.1 calls = some kr.2.json ∧
        kr.2.endMs = kr.2.json.recoveredAtMs ∧ presented kr.1 calls = some kr.2.read := by
    have hfind : db.incidents.find? kr.1 = some kr.2 := Table.find?_eq_some_iff.2 h
    have hbody : latestBody kr.1 calls = some kr.2.json := by
      rw [← (hshows kr.1).body, hfind]
      rfl
    refine ⟨id_of_latestBody hbody, hbody, (hshows kr.1).ended _ hfind, ?_⟩
    rw [presented, hbody, ← (hshows kr.1).acknowledged _ hfind]
    rfl
  set rows := db.incidents.rows.filter fun kr => !active || kr.2.endMs.isNone with hrows
  have hmem (kr : String × IncidentRow) (h : kr ∈ rows) : kr ∈ db.incidents.rows :=
    (List.mem_filter.1 h).1
  have hnodup : (rows.map Prod.fst).Nodup :=
    db.incidents.primary.sublist (List.filter_sublist.map _)
  have hids : (rows.map Prod.fst).toFinset = presentedIds active calls := by
    ext id
    rw [List.mem_toFinset, mem_presentedIds, List.mem_map]
    constructor
    · rintro ⟨kr, hkr, rfl⟩
      obtain ⟨-, hbody, hended, -⟩ := hrow kr (hmem kr hkr)
      refine ⟨_, hbody, fun hactive => ?_⟩
      have := (List.mem_filter.1 hkr).2
      rw [hactive, hended] at this
      simpa using this
    · rintro ⟨i, hbody, hactive⟩
      obtain ⟨r, hr, rfl⟩ := Option.map_eq_some_iff.1 ((hshows id).body.trans hbody)
      have hr' := Table.find?_eq_some_iff.1 hr
      refine ⟨(id, r), List.mem_filter.2 ⟨hr', ?_⟩, rfl⟩
      rw [(hrow _ hr').2.2.1]
      cases active with
      | false => rfl
      | true => simp [hactive rfl]
  have hlen : rows.length ≤ limit := by
    rw [← hids, List.toFinset_card_of_nodup hnodup, List.length_map] at hcard
    exact hcard
  -- the sorted list is a rearrangement of these rows
  have hfilter : (db.incidents.rows.map Prod.snd).filter (fun r => !active || r.endMs.isNone) =
      rows.map Prod.snd := List.filter_map ..
  set sorted := (rows.map Prod.snd).insertionSort fun a b => b.startMs ≤ a.startMs
  have hperm : sorted.Perm (rows.map Prod.snd) := List.perm_insertionSort _ _
  have hmap : ((rows.map Prod.snd).map fun r => r.read.id) = rows.map Prod.fst := by
    rw [List.map_map]
    exact List.map_congr_left fun kr hkr => (hrow kr (hmem kr hkr)).1
  have hread : ((sorted.map IncidentRow.read).map Incident.id).Perm (rows.map Prod.fst) := by
    rw [← hmap, List.map_map]
    exact hperm.map _
  refine ⟨sorted.map IncidentRow.read, ?_, hread.nodup_iff.2 hnodup, ?_, fun i hi => ?_⟩
  · have htake : sorted.take limit = sorted := List.take_of_length_le (by
      rw [hperm.length_eq, List.length_map]
      exact hlen)
    rw [Database.incidentList, if_pos hlimit, hfilter, htake]
  · rw [List.toFinset_eq_of_perm _ _ hread, hids]
  · obtain ⟨r, hr, rfl⟩ := List.mem_map.1 hi
    obtain ⟨kr, hkr, rfl⟩ := List.mem_map.1 (hperm.mem_iff.1 hr)
    obtain ⟨hid, -, -, hpresented⟩ := hrow kr (hmem kr hkr)
    exact (congrArg (presented · calls) hid).trans hpresented

/-- An acknowledgement fails exactly for an id without a row, and its statement
then changes no row. -/
theorem acknowledge_error_iff {db : Database} (hempty : db.incidents = ∅)
    (calls : List IncidentCall) (id : String) (at_ : ℤ) :
    ((∃ e, (db.incidentCalls calls).acknowledge id at_ = .error e) ↔ latestBody id calls = none) ∧
      (latestBody id calls = none → (db.incidentCalls calls).incidents.modify id
        (IncidentRow.acknowledge at_) = (db.incidentCalls calls).incidents) := by
  have hshows := shows_of_incidentCalls hempty calls id
  rw [← hshows.find?_eq_none_iff, Table.find?_eq_none_iff]
  constructor
  · unfold Database.acknowledge
    split_ifs with h <;> simp [h]
  · intro hkey
    refine Table.ext_find (Table.keys_modify ..) fun id' => ?_
    rw [Table.find?_modify]
    split_ifs with hid
    · rw [hid, Table.find?_eq_none_iff.2 hkey, Option.map_none]
    · rfl

/-- **The incident table presents the latest body and the first
acknowledgement**, after any upserts and acknowledgements. -/
theorem incident_table_presents_calls (db : Database) (hempty : db.incidents = ∅)
    (calls : List IncidentCall) :
    (∀ active limit, 1 ≤ limit ∧ limit ≤ 1000 → (presentedIds active calls).card ≤ limit →
      ∃ list, (db.incidentCalls calls).incidentList active limit = .ok list ∧
        (list.map Incident.id).Nodup ∧
        (list.map Incident.id).toFinset = presentedIds active calls ∧
        ∀ i ∈ list, presented i.id calls = some i) ∧
    ∀ id at_,
      ((∃ e, (db.incidentCalls calls).acknowledge id at_ = .error e) ↔
        latestBody id calls = none) ∧
      (latestBody id calls = none → (db.incidentCalls calls).incidents.modify id
        (IncidentRow.acknowledge at_) = (db.incidentCalls calls).incidents) :=
  ⟨fun active _ hlimit hcard => incidentList_presents hempty calls active hlimit hcard,
    fun id at_ => acknowledge_error_iff hempty calls id at_⟩

/-- An outage of one device, as it is opened. Its id is that of the device, so that
outages of different devices have different rows. -/
def outageOf (device : String) : Incident where
  id := device
  deviceId := device
  kind := "monitoring.unavailable"
  source := "daemon"
  severity := "warning"
  message := "PSU monitoring is unavailable"
  startedAtMs := 0
  recoveredAtMs := none
  acknowledgedAtMs := none
  policy := none
  triggerSample := Telemetry.blank

/-- An outage is acknowledged, recovers, and is acknowledged again. -/
theorem incident_table_presents_calls_of_a_recovery :
    let calls : List IncidentCall := [.acknowledge "psu" 1, .upsert (outageOf "psu"),
      .acknowledge "psu" 5, .upsert { outageOf "psu" with recoveredAtMs := some 7 },
      .acknowledge "psu" 9]
    presented "psu" calls =
        some { outageOf "psu" with recoveredAtMs := some 7, acknowledgedAtMs := some 5 } ∧
      ∃ list, (Database.incidentCalls {} calls).incidentList false 10 = .ok list ∧
        (list.map Incident.id).Nodup ∧
        (list.map Incident.id).toFinset = presentedIds false calls ∧
        ∀ i ∈ list, presented i.id calls = some i :=
  ⟨by decide +kernel, (incident_table_presents_calls {} rfl _).1 false 10 (by decide)
    ((Finset.card_filter_le _ _).trans ((List.toFinset_card_le _).trans (by decide)))⟩

end Railwatch
