/-
# The desktop notifier

`src/notify.rs`: the loop of `notify run`.  Every two seconds it asks the daemon
for the active incidents, collects those that are due, hands their messages to
the desktop in one call of `deliver`, and notes the attempt.

The notes are kept in memory and in `notifications.json`, which is written after
every delivery and read when the process starts; a write that fails ends the
process.  The file holds what `serde_json` makes of a `State` and is only read
back as one, so it is the state.

`Notifier` is the file, the process, if one runs, and the calls of `deliver`
made so far.  What the two programs behind a call do is an input of the cycle.
-/

import Railwatch.General.Transition
import Railwatch.General.TreeMaps

namespace Railwatch

open Std (TreeMap)
open TreeMaps

/-- `Delivery`: what the notifier remembers of one incident. An incident that was never
tried has a record of zeros. -/
structure Delivery where
  /-- It was shown. -/
  delivered : Bool := false
  /-- How often that was tried. -/
  attempts : ℕ := 0
  /-- When it was tried last. -/
  lastAtMs : ℤ := 0
  /-- Why it failed then. -/
  error : Option String := none
  deriving DecidableEq, Repr

/-- `State`: the records, and the time until which sounds are off. -/
structure NotifyState where
  /-- Until when there is no sound. -/
  silencedUntilMs : ℤ := 0
  /-- The records, by the ids of the incidents. -/
  deliveries : TreeMap String Delivery := ∅

instance : Inhabited NotifyState := ⟨{}⟩

/-- What the loop reads of a listed incident: the texts, where they are texts,
and whether `acknowledged_at_ms` is null. -/
structure ListedIncident where
  id : Option String
  acknowledged : Bool
  severity : Option String
  message : Option String
  deriving DecidableEq, Repr

/-- An incident that is due: its id, whether it is critical, and its message. It is due
again if the attempt fails. -/
structure Pending where
  id : String
  critical : Bool
  message : String
  deriving DecidableEq, Repr

/-- A call of `deliver`, with the incidents it is made for and how it ended. The first
four of them are in its message. -/
structure DeliverCall where
  /-- The clock of its cycle. -/
  atMs : ℤ
  title : String
  message : String
  critical : Bool
  sound : Bool
  /-- The incidents that it is made for. -/
  pending : List Pending
  /-- How it ended. -/
  result : Except String Unit

/-- The call returned no error. -/
def DeliverCall.succeeded (call : DeliverCall) : Bool := call.result.toBool

/-! ### One cycle -/

/-- What one turn of the loop meets: the clock, the content of the `silence`
file, if it is a number, the daemon's answer, the ends of the two programs that
`deliver` runs, and whether the state can be saved. -/
structure Cycle where
  /-- The clock. -/
  now : ℤ
  /-- What the `silence` file says. -/
  silence : Option ℤ := none
  /-- What the daemon answers. -/
  snapshot : Except String (List ListedIncident)
  /-- How `notify-send` ends. -/
  notification : Except String Unit := .ok ()
  /-- How the player does. -/
  player : Except String Unit := .ok ()
  /-- Whether the state can be saved. -/
  save : Except String Unit := .ok ()

/-- The incident is not due: delivered and not critical, attempted three times,
or attempted in the last thirty seconds. -/
def Delivery.holdsBack (d : Delivery) (critical : Bool) (now : ℤ) : Bool :=
  (!critical && d.delivered) || 3 ≤ d.attempts || now - d.lastAtMs < 30000

/-- One listed incident: it gets a record, and is pending if it is due. One without an
id, or that has been acknowledged, gets no record; a record that holds it back stays as
it is. -/
def collectOne (now : ℤ) (acc : TreeMap String Delivery × List Pending)
    (incident : ListedIncident) : TreeMap String Delivery × List Pending :=
  match incident.id with
  | none => acc
  | some id =>
      if incident.acknowledged then acc
      else
        let critical := incident.severity = some "critical"
        let deliveries := acc.1.insertIfNew id {}
        if (deliveries[id]?.getD {}).holdsBack critical now then (deliveries, acc.2)
        else (deliveries, acc.2 ++ [⟨id, critical, incident.message.getD "PSU incident"⟩])

/-- The records and the pending incidents after the loop over the list. -/
def collect (now : ℤ) (deliveries : TreeMap String Delivery) (incidents : List ListedIncident) :
    TreeMap String Delivery × List Pending :=
  incidents.foldl (collectOne now) (deliveries, [])

/-- `pending.iter().take(4).map(..).join("\n")`. -/
def deliveryText (pending : List Pending) : String :=
  "\n".intercalate ((pending.take 4).map Pending.message)

/-- `deliver`: the notification, and the sound if there is to be one. -/
def deliver (sound : Bool) (notification player : Except String Unit) : Except String Unit := do
  notification
  if sound then player

/-- What an attempt leaves in a record. -/
def Delivery.attempted (now : ℤ) (result : Except String Unit) (d : Delivery) : Delivery where
  delivered := result.toBool
  attempts := d.attempts + 1
  lastAtMs := now
  error := match result with
    | .ok () => none
    | .error e => some e

/-- The loop over the pending incidents. -/
def noteAttempts (now : ℤ) (result : Except String Unit) (deliveries : TreeMap String Delivery)
    (pending : List Pending) : TreeMap String Delivery :=
  pending.foldl (fun m p => m.modify p.id (Delivery.attempted now result)) deliveries

/-- `retain`: records of the last thirty days. -/
def retainRecent (now : ℤ) (deliveries : TreeMap String Delivery) : TreeMap String Delivery :=
  deliveries.filter fun _ d => now - d.lastAtMs < 30 * 86400000

/-- The `while` loop: it removes the record with the oldest attempt, the first
of them by id, until 4096 are left; `fuel` turns at most. -/
def evictOldest : ℕ → TreeMap String Delivery → TreeMap String Delivery
  | 0, m => m
  | fuel + 1, m =>
      if 4096 < m.size then
        match m.toList.minOn? fun kd => kd.2.lastAtMs with
        | some oldest => evictOldest fuel (m.erase oldest.1)
        | none => m
      else m

/-- The records that are kept after a delivery. -/
def keepRecords (now : ℤ) (deliveries : TreeMap String Delivery) : TreeMap String Delivery :=
  let recent := retainRecent now deliveries
  evictOldest recent.size recent

/-- The call of `deliver` for the pending incidents. One critical incident among them
makes the whole message critical. The sound is left out in a silent process, and until
the time that the user has asked for. -/
def deliverCall (silent : Bool) (silencedUntilMs : ℤ) (c : Cycle) (pending : List Pending) :
    DeliverCall :=
  let critical := pending.any Pending.critical
  let sound := !silent && decide (silencedUntilMs ≤ c.now)
  { atMs := c.now
    title := if critical then "Railwatch critical alert" else "Railwatch warning"
    message := deliveryText pending
    critical := critical
    sound := sound
    pending := pending
    result := deliver sound c.notification c.player }

/-! ### The process and its file -/

/-- A running process: its `--silent` flag and its state. The state is in memory and
ahead of the file. -/
structure NotifyProcess where
  /-- `--silent`. -/
  silent : Bool
  /-- What it remembers. -/
  state : NotifyState

/-- The notifier of a user session: its file, the process if one runs, and all calls so
far. -/
structure Notifier where
  /-- The state in the file. -/
  file : NotifyState := {}
  /-- The process, if one runs. -/
  process : Option NotifyProcess := none
  /-- The calls of `deliver` so far. -/
  calls : List DeliverCall := []

instance : Inhabited Notifier := ⟨{}⟩

/-- What may happen: a process starts, in place of one that runs, or the running
one goes through its loop once. -/
inductive NotifyOp where
  | start (silent : Bool)
  | cycle (c : Cycle)

/-- The incidents that are due in a cycle, if the daemon answers. -/
def NotifyProcess.due (p : NotifyProcess) (c : Cycle) : List Pending :=
  match c.snapshot with
  | .error _ => []
  | .ok incidents => (collect c.now p.state.deliveries incidents).2

/-- One turn of the loop. The silence is read in every turn, also without an answer of
the daemon. Records are dropped only after a delivery, and the state is saved then,
whether the delivery has succeeded or not. -/
def NotifyProcess.cycle (p : NotifyProcess) (n : Notifier) (c : Cycle) : Notifier :=
  let silencedUntilMs := c.silence.getD 0
  match c.snapshot with
  | .error _ => { n with process := some ⟨p.silent, { p.state with silencedUntilMs }⟩ }
  | .ok incidents =>
      let (deliveries, pending) := collect c.now p.state.deliveries incidents
      if pending.isEmpty then { n with process := some ⟨p.silent, ⟨silencedUntilMs, deliveries⟩⟩ }
      else
        let call := deliverCall p.silent silencedUntilMs c pending
        let state : NotifyState :=
          ⟨silencedUntilMs, keepRecords c.now (noteAttempts c.now call.result deliveries pending)⟩
        match c.save with
        | .ok () =>
            { file := state, process := some ⟨p.silent, state⟩, calls := n.calls ++ [call] }
        | .error _ => { n with process := none, calls := n.calls ++ [call] }

/-- One step of the notifier. -/
def Notifier.step (n : Notifier) : NotifyOp → Notifier
  | .start silent => { n with process := some ⟨silent, n.file⟩ }
  | .cycle c => n.process.elim n fun p => p.cycle n c

/-- The notifier after a sequence of steps. -/
def Notifier.run (n : Notifier) (ops : List NotifyOp) : Notifier :=
  Transition.run Notifier.step n ops

/-- A warning that the daemon lists. -/
def listedWarning (name : String) : ListedIncident := ⟨some name, false, some "warning", some name⟩

/-- One cycle with warnings of these names. -/
def warningCycle (now : ℤ) (names : List String) : NotifyOp :=
  .cycle { now := now, snapshot := .ok (names.map listedWarning) }

/-! ### What a cycle does -/

/-- The list has an unacknowledged incident of this id. -/
def ListsUnacknowledged (incidents : List ListedIncident) (id : String) : Prop :=
  ∃ i ∈ incidents, i.id = some id ∧ i.acknowledged = false

instance (incidents : List ListedIncident) (id : String) :
    Decidable (ListsUnacknowledged incidents id) := by
  unfold ListsUnacknowledged
  infer_instance

/-- A listed incident is the pending one. It has been listed with an id and not
acknowledged. -/
structure ListedIncident.Reports (i : ListedIncident) (q : Pending) : Prop where
  /-- It has an id. -/
  id : i.id = some q.id
  /-- Nobody has acknowledged it. -/
  acknowledged : i.acknowledged = false
  /-- Its severity says how it is shown. -/
  critical : q.critical = decide (i.severity = some "critical")
  /-- Its message, or what stands for it. -/
  message : q.message = i.message.getD "PSU incident"

/-- The records and the pending incidents of a list, over the records before. New
records are empty, and old ones stay as they are. -/
structure Collects (now : ℤ) (m : TreeMap String Delivery) (incidents : List ListedIncident)
    (acc : TreeMap String Delivery × List Pending) : Prop where
  /-- A record of an incident that had none is the empty one. -/
  record : ∀ id : String, acc.1[id]?.getD {} = m[id]?.getD {}
  /-- And there is a new record only for a listed incident. -/
  fresh : ∀ id : String, acc.1[id]?.isSome → m[id]?.isSome ∨ ListsUnacknowledged incidents id
  /-- What is due is listed, and its record does not hold it back. -/
  due : ∀ q ∈ acc.2, (∃ i ∈ incidents, i.Reports q) ∧
    (m[q.id]?.getD {}).holdsBack q.critical now = false
  /-- In the order of the list. -/
  ids : List.Sublist (acc.2.map Pending.id) (incidents.filterMap ListedIncident.id)

/-- What one more incident leaves. One without an identifier or already acknowledged is
passed over; any other gets a record if it has none, and is pending unless that record
holds it back. -/
theorem Collects.collectOne {now : ℤ} {m : TreeMap String Delivery}
    {incidents : List ListedIncident} {acc : TreeMap String Delivery × List Pending}
    (h : Collects now m incidents acc) (i : ListedIncident) :
    Collects now m (incidents ++ [i]) (collectOne now acc i) := by
  have hfresh (id : String) (hid : acc.1[id]?.isSome) :
      m[id]?.isSome ∨ ListsUnacknowledged (incidents ++ [i]) id := by
    refine (h.fresh id hid).imp_right ?_
    rintro ⟨j, hj, hlisted⟩
    exact ⟨j, List.mem_append_left _ hj, hlisted⟩
  have hdue (q : Pending) (hq : q ∈ acc.2) : (∃ j ∈ incidents ++ [i], j.Reports q) ∧
      (m[q.id]?.getD {}).holdsBack q.critical now = false := by
    obtain ⟨⟨j, hj, hreports⟩, hback⟩ := h.due q hq
    exact ⟨⟨j, List.mem_append_left _ hj, hreports⟩, hback⟩
  have hids : List.Sublist (acc.2.map Pending.id)
      ((incidents ++ [i]).filterMap ListedIncident.id) := by
    rw [List.filterMap_append]
    exact h.ids.trans (List.sublist_append_left ..)
  unfold Railwatch.collectOne
  cases hid : i.id with
  | none => exact ⟨h.record, hfresh, hdue, hids⟩
  | some id =>
      dsimp only
      split_ifs with hack hback
      · exact ⟨h.record, hfresh, hdue, hids⟩
      all_goals
        have hlisted : ListsUnacknowledged (incidents ++ [i]) id :=
          ⟨i, by simp, hid, Bool.eq_false_of_not_eq_true hack⟩
        -- a record that is entered counts no attempt, as if it were not there
        have hentry : ((acc.1.insertIfNew id {})[id]?).getD {} = m[id]?.getD {} := by
          rw [getElem?_insertIfNew_self, Option.getD_some, h.record]
        have hrecord (id' : String) :
            ((acc.1.insertIfNew id {})[id']?).getD {} = m[id']?.getD {} := by
          by_cases heq : id' = id
          · rw [heq, hentry]
          · rw [getElem?_insertIfNew_of_ne heq, h.record]
        have hnew (id' : String) (hsome : (acc.1.insertIfNew id {})[id']?.isSome) :
            m[id']?.isSome ∨ ListsUnacknowledged (incidents ++ [i]) id' := by
          by_cases heq : id' = id
          · exact Or.inr (heq ▸ hlisted)
          · rw [getElem?_insertIfNew_of_ne heq] at hsome
            exact hfresh id' hsome
      · exact ⟨hrecord, hnew, hdue, hids⟩
      · refine ⟨hrecord, hnew, fun q hq => ?_, ?_⟩
        · rcases List.mem_append.1 hq with hq | hq
          · exact hdue q hq
          · obtain rfl := List.mem_singleton.1 hq
            refine ⟨⟨i, by simp, hid, Bool.eq_false_of_not_eq_true hack, rfl, rfl⟩, ?_⟩
            rw [hentry] at hback
            exact Bool.eq_false_of_not_eq_true hback
        · rw [List.map_append, List.filterMap_append]
          refine h.ids.append ?_
          simp [hid]

/-- **The loop over the list.** By induction on it, from its end: one more incident adds
a record at most, and is pending at most once. -/
theorem collects (now : ℤ) (m : TreeMap String Delivery) (incidents : List ListedIncident) :
    Collects now m incidents (collect now m incidents) := by
  induction incidents using List.reverseRecOn with
  | nil =>
      exact ⟨fun _ => rfl, fun _ h => Or.inl h, fun q hq => (List.not_mem_nil hq).elim,
        List.Sublist.refl _⟩
  | append_singleton incidents i ih =>
      have hstep : collect now m (incidents ++ [i]) =
          collectOne now (collect now m incidents) i := List.foldl_concat ..
      rw [hstep]
      exact ih.collectOne i

/-- The loop over the pending incidents notes an attempt of each, and leaves the other
records alone. Since their identifiers are distinct, no record is noted twice. -/
theorem getElem?_noteAttempts (now : ℤ) (result : Except String Unit)
    {pending : List Pending} (hids : (pending.map Pending.id).Nodup) (m : TreeMap String Delivery)
    (id : String) : (noteAttempts now result m pending)[id]? =
      if id ∈ pending.map Pending.id then m[id]?.map (Delivery.attempted now result)
      else m[id]? := by
  induction pending generalizing m with
  | nil => rfl
  | cons q pending ih =>
      obtain ⟨hq, hids⟩ := List.nodup_cons.1 hids
      have hstep : noteAttempts now result m (q :: pending) =
          noteAttempts now result (m.modify q.id (Delivery.attempted now result)) pending := rfl
      rw [hstep, ih hids]
      by_cases heq : id = q.id
      · subst heq
        rw [if_neg hq, List.map_cons, if_pos (List.mem_cons_self ..),
          Std.TreeMap.getElem?_modify_self]
      · rw [getElem?_modify_of_ne heq, List.map_cons]
        simp only [List.mem_cons, heq, false_or]

/-- Eviction only removes records: one that is left is as it was before. -/
theorem getElem?_of_evictOldest {fuel : ℕ} {m : TreeMap String Delivery} {id : String}
    {d : Delivery} (h : (evictOldest fuel m)[id]? = some d) : m[id]? = some d := by
  induction fuel generalizing m with
  | zero => exact h
  | succ fuel ih =>
      unfold evictOldest at h
      split_ifs at h
      · split at h
        · rename_i oldest _
          have herase := ih h
          by_cases heq : id = oldest.1
          · rw [heq, Std.TreeMap.getElem?_erase_self] at herase
            cases herase
          · rwa [getElem?_erase_of_ne heq] at herase
        · exact h
      · exact h

/-- The turns it has are enough: at most 4096 records are left. Each turn removes one,
the one with the oldest attempt, as long as there are more. -/
theorem size_evictOldest {fuel : ℕ} {m : TreeMap String Delivery} (h : m.size ≤ fuel + 4096) :
    (evictOldest fuel m).size ≤ 4096 := by
  induction fuel generalizing m with
  | zero => simpa [evictOldest] using h
  | succ fuel ih =>
      unfold evictOldest
      split_ifs with hsize
      · split
        · rename_i oldest holdest
          refine ih ?_
          have hmem := List.minOn?_mem holdest
          have hin : m.contains oldest.1 = true := by
            rw [contains_eq_isSome, Std.TreeMap.mem_toList_iff_getElem?_eq_some.1 hmem]
            rfl
          rw [Std.TreeMap.size_erase, if_pos hin]
          omega
        · rename_i hnone
          have hnil : m.toList = [] := by
            by_contra hne
            obtain ⟨kd, hkd⟩ := List.exists_mem_of_ne_nil _ hne
            have hsome := List.isSome_minOn?_of_mem (f := fun kd => kd.2.lastAtMs) hkd
            rw [hnone] at hsome
            cases hsome
          have := Std.TreeMap.length_toList (t := m)
          rw [hnil] at this
          simp only [List.length_nil] at this
          omega
      · exact not_lt.1 hsize

/-- What is kept after a delivery was there, and it is at most 4096 records. -/
theorem getElem?_of_keepRecords {now : ℤ} {m : TreeMap String Delivery} {id : String} {d : Delivery}
    (h : (keepRecords now m)[id]? = some d) : m[id]? = some d := by
  have hretained := getElem?_of_evictOldest h
  rw [retainRecent, Std.TreeMap.getElem?_filter', Option.filter_eq_some_iff] at hretained
  exact hretained.1

/-- At most 4096 records are kept. -/
theorem size_keepRecords (now : ℤ) (m : TreeMap String Delivery) :
    (keepRecords now m).size ≤ 4096 := size_evictOldest (Nat.le_add_right ..)

/-- The incidents the daemon lists, if it answers. -/
def Cycle.listed (c : Cycle) : List ListedIncident := c.snapshot.toOption.getD []

/-- The snapshot lists every id once. -/
def Cycle.Distinct (c : Cycle) : Prop := (c.listed.filterMap ListedIncident.id).Nodup

instance (c : Cycle) : Decidable c.Distinct := by
  unfold Cycle.Distinct
  infer_instance

/-- A step that lists every id once, if it lists any. -/
def NotifyOp.Distinct : NotifyOp → Prop
  | .start _ => True
  | .cycle c => c.Distinct

instance : (op : NotifyOp) → Decidable op.Distinct
  | .start _ => isTrue trivial
  | .cycle c => inferInstanceAs (Decidable c.Distinct)

section Process

variable (p : NotifyProcess) (n : Notifier) (c : Cycle)

/-- What is due are the incidents that `collect` has picked. -/
theorem NotifyProcess.due_eq :
    p.due c = (collect c.now p.state.deliveries c.listed).2 := by
  unfold NotifyProcess.due Cycle.listed
  cases c.snapshot <;> rfl

/-- What is due is listed, and its record does not hold it back. -/
theorem NotifyProcess.due_spec {q : Pending} (hq : q ∈ p.due c) :
    (∃ i ∈ c.listed, i.Reports q) ∧
      (p.state.deliveries[q.id]?.getD {}).holdsBack q.critical c.now = false := by
  rw [p.due_eq] at hq
  exact (collects ..).due q hq

/-- A record after a cycle comes from the one before, or from the list. Nothing else
makes records. -/
structure Follows (m m' : TreeMap String Delivery) (incidents : List ListedIncident)
    (note : String → Delivery → Delivery) : Prop where
  /-- A record is what the cycle has noted in the one before. -/
  record : ∀ (id : String) d, m'[id]? = some d → d = note id (m[id]?.getD {})
  /-- There is no record of what was never listed. -/
  fresh : ∀ (id : String) d, m'[id]? = some d → m[id]?.isSome ∨ ListsUnacknowledged incidents id

/-- **A cycle with nothing due** leaves the file alone. The process may still have got
records of its own, for incidents that wait. -/
theorem NotifyProcess.cycle_quiet (h : p.due c = []) :
    ∃ p', p.cycle n c = { n with process := some p' } ∧
      Follows p.state.deliveries p'.state.deliveries c.listed fun _ d => d := by
  unfold NotifyProcess.cycle NotifyProcess.due Cycle.listed at *
  cases hsnapshot : c.snapshot with
  | error e =>
      refine ⟨_, rfl, fun id d hd => ?_, fun id d hd => Or.inl ?_⟩
      · exact (congrArg (Option.getD · {}) hd).symm
      · exact Option.isSome_of_eq_some hd
  | ok incidents =>
      rw [hsnapshot] at h
      dsimp only at h ⊢
      rw [h]
      have hcollects := collects c.now p.state.deliveries incidents
      refine ⟨_, rfl, fun id d hd => ?_, fun id d hd => ?_⟩
      · rw [← hcollects.record id]
        exact (congrArg (Option.getD · {}) hd).symm
      · exact hcollects.fresh id (Option.isSome_of_eq_some hd)

/-- The call a cycle makes, if something is due. -/
def NotifyProcess.call : DeliverCall := deliverCall p.silent (c.silence.getD 0) c (p.due c)

/-- What a cycle notes in a record. -/
def NotifyProcess.note (id : String) (d : Delivery) : Delivery :=
  if id ∈ (p.due c).map Pending.id then d.attempted c.now (p.call c).result else d

/-- **A cycle that delivers** makes one call for everything due and notes it in
memory and in the file, or ends the process. -/
theorem NotifyProcess.cycle_delivers (h : p.due c ≠ []) (hdistinct : c.Distinct) :
    match c.save with
    | .ok () => ∃ p', p.cycle n c =
        { file := p'.state, process := some p', calls := n.calls ++ [p.call c] } ∧
        Follows p.state.deliveries p'.state.deliveries c.listed (p.note c)
    | .error _ => p.cycle n c = { n with process := none, calls := n.calls ++ [p.call c] } := by
  have hdue := p.due_eq c
  have hcollects := collects c.now p.state.deliveries c.listed
  have hids : ((p.due c).map Pending.id).Nodup := by
    rw [hdue]
    exact hdistinct.sublist hcollects.ids
  have hnotempty : (p.due c).isEmpty = false := by simpa using h
  obtain ⟨incidents, hsnapshot⟩ : ∃ incidents, c.snapshot = .ok incidents := by
    cases hsnapshot : c.snapshot with
    | ok incidents => exact ⟨incidents, rfl⟩
    | error e =>
        unfold NotifyProcess.due at h
        rw [hsnapshot] at h
        exact absurd rfl h
  have hlisted : c.listed = incidents := by rw [Cycle.listed, hsnapshot]; rfl
  obtain ⟨state, hstate, hcycle⟩ : ∃ state : NotifyState, state.deliveries = keepRecords c.now
        (noteAttempts c.now (p.call c).result (collect c.now p.state.deliveries c.listed).1
          (p.due c)) ∧ p.cycle n c = match c.save with
      | .ok () =>
          { file := state, process := some ⟨p.silent, state⟩, calls := n.calls ++ [p.call c] }
      | .error _ => { n with process := none, calls := n.calls ++ [p.call c] } := by
    refine ⟨⟨c.silence.getD 0, _⟩, rfl, ?_⟩
    rw [hdue, hlisted] at hnotempty
    rw [NotifyProcess.call, hdue, hlisted, NotifyProcess.cycle, hsnapshot]
    dsimp only
    rw [hnotempty]
    rfl
  rw [hcycle]
  cases c.save with
  | error e => rfl
  | ok u =>
      refine ⟨⟨p.silent, state⟩, rfl, fun id d hd => ?_, fun id d hd => ?_⟩ <;>
        rw [hstate] at hd <;>
        have hd := getElem?_of_keepRecords hd <;>
        rw [getElem?_noteAttempts _ _ hids] at hd
      · rw [NotifyProcess.note, ← hcollects.record id]
        split_ifs at hd ⊢
        · obtain ⟨d₀, hd₀, rfl⟩ := Option.map_eq_some_iff.1 hd
          rw [hd₀]
          rfl
        · rw [hd]
          rfl
      · refine hcollects.fresh id ?_
        split_ifs at hd
        · obtain ⟨d₀, hd₀, -⟩ := Option.map_eq_some_iff.1 hd
          rw [hd₀]
          rfl
        · rw [hd]
          rfl

end Process

/-- What a step makes of the notifier: it starts or ends, goes through a quiet cycle, or
makes a call. -/
inductive Notifier.Does (n : Notifier) : NotifyOp → Notifier → Prop where
  | start (silent : Bool) : n.Does (.start silent) { n with process := some ⟨silent, n.file⟩ }
  | idle {c : Cycle} (hprocess : n.process = none) : n.Does (.cycle c) n
  | quiet {c : Cycle} {p p' : NotifyProcess} (hprocess : n.process = some p) (hdue : p.due c = [])
      (hfollows : Follows p.state.deliveries p'.state.deliveries c.listed fun _ d => d) :
      n.Does (.cycle c) { n with process := some p' }
  | delivers {c : Cycle} {p p' : NotifyProcess} (hprocess : n.process = some p)
      (hdue : p.due c ≠ []) (hsave : c.save = .ok ())
      (hfollows : Follows p.state.deliveries p'.state.deliveries c.listed (p.note c)) :
      n.Does (.cycle c)
        { file := p'.state, process := some p', calls := n.calls ++ [p.call c] }
  | exits {c : Cycle} {p : NotifyProcess} {error : String} (hprocess : n.process = some p)
      (hdue : p.due c ≠ []) (hsave : c.save = .error error) :
      n.Does (.cycle c) { n with process := none, calls := n.calls ++ [p.call c] }

/-- **What a step does**, if the snapshot lists every id once. It is a quiet cycle, a
call of `deliver` with its records, a start, or the end of a process. -/
theorem Notifier.step_does (n : Notifier) {op : NotifyOp} (hdistinct : op.Distinct) :
    n.Does op (n.step op) := by
  cases op with
  | start silent => exact .start silent
  | cycle c =>
      change n.Does (.cycle c) (n.process.elim n fun p => p.cycle n c)
      cases hprocess : n.process with
      | none => exact .idle hprocess
      | some p =>
          rw [Option.elim_some]
          by_cases hdue : p.due c = []
          · obtain ⟨p', hcycle, hfollows⟩ := p.cycle_quiet n c hdue
            rw [hcycle]
            exact .quiet hprocess hdue hfollows
          · have hdelivers := p.cycle_delivers n c hdue hdistinct
            cases hsave : c.save with
            | ok =>
                rw [hsave] at hdelivers
                obtain ⟨p', hcycle, hfollows⟩ := hdelivers
                rw [hcycle]
                exact .delivers hprocess hdue hsave hfollows
            | error e =>
                rw [hsave] at hdelivers
                dsimp only at hdelivers
                rw [hdelivers]
                exact .exits hprocess hdue hsave

end Railwatch
