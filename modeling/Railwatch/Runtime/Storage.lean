/-
# The storage thread

`src/runtime.rs`: the thread that takes a batch from the queue and commits its
writes, one by one, starting over from the first whenever one fails.

`Persist.writes` are the writes of a batch.  `persist_retryable` says that they
bear repetition: `record` ignores a sample that is stored, an upsert touches no
column that is not rewritten by the next upsert of the incident, evidence is
inserted once, and `prune` comes last.  The only writes other connections make
to these tables are acknowledgements, which commute with all of them.

Repetition is proved write by write: once a write is committed, an attempt from there
leaves what the attempt would have left without it (`Persist.rerun`).  Acknowledgements
are moved behind the batch, past one kind of write after the other.  The induction over
the runs of the thread is that of `General/Retry`, which asks for these two facts only
(`persist_retryable`).
-/

import Railwatch.History.Delivery
import Railwatch.General.Retry

namespace Railwatch

open Sql

/-- `MAX_GAP_MS`. -/
def maxGapMs : ℕ := 3500

/-- `Persist::Sample`: a batch for the storage thread. It is written in this order, and
again from the start if a write fails. -/
structure Persist where
  /-- The sample. -/
  sample : Telemetry
  /-- The transitions up to it. -/
  events : List Incident
  /-- And the evidence for them. -/
  evidence : List (String × Telemetry)
  deriving DecidableEq

/-- `History::upsert_incident`. -/
def History.upsertIncident (h : History) (i : Incident) : History :=
  { h with db := h.db.upsertIncident i }

/-- `History::record_evidence`. -/
def History.recordEvidence (h : History) (id : String) (sample : Telemetry) : History :=
  { h with db := h.db.recordEvidence id sample }

/-- `History::prune`. -/
def History.prune (scan : List (String × String × ℤ) → List (String × String × ℤ)) (h : History)
    (now : ℤ) : History :=
  { h with db := h.db.prune scan now }

/-- What one attempt at a batch writes, in order: the sample with its energy, the
incidents, the evidence and, every sixtieth sample, the removal of old samples. The
first failure ends the attempt. -/
def Persist.writes (scan : List (String × String × ℤ) → List (String × String × ℤ))
    (item : Persist) : List (History → Except String History) :=
  (fun h => h.record item.sample maxGapMs) ::
    (item.events.map (fun event h => .ok (h.upsertIncident event)) ++
      (item.evidence.map (fun v h => .ok (h.recordEvidence v.1 v.2)) ++
        if item.sample.sequence % 60 = 0 then
          [fun h => .ok (h.prune scan item.sample.capturedAtMs)]
        else []))

/-- An `Acknowledge` request, as the database sees it. It may come between any two
writes of a batch. -/
structure Ack where
  /-- The incident. -/
  id : String
  /-- When it is acknowledged. -/
  at_ : ℤ
  deriving DecidableEq

/-- What an `Acknowledge` request does to the database; one that does not find
its incident does nothing. -/
def Ack.apply (a : Ack) (h : History) : History :=
  { h with db := (h.db.acknowledge a.id a.at_).toOption.getD h.db }

/-- The request finds its incident. -/
def Ack.Finds (a : Ack) (h : History) : Prop := a.id ∈ h.db.incidents.keys

instance (a : Ack) (h : History) : Decidable (a.Finds h) := by
  unfold Ack.Finds
  infer_instance

/-! ### What the writes touch -/

/-- The upsert of an incident. -/
def Incident.upsert (i : Incident) : Upsert String IncidentRow :=
  ⟨i.id, i.row, IncidentRow.update i⟩

/-- A row has the id of its incident as its key. -/
@[simp] theorem Incident.upsert_key (i : Incident) : i.upsert.key = i.id := rfl

/-- The insertion of an evidence reading. -/
def evidenceInsert (v : String × Telemetry) : Upsert (String × ℤ) Telemetry :=
  ⟨(v.1, v.2.capturedAtMs), v.2, id⟩

/-- The statement of `upsert_incident`. -/
theorem History.upsertIncident_eq (h : History) (i : Incident) :
    h.upsertIncident i =
      { h with db := { h.db with incidents := h.db.incidents.exec i.upsert } } := rfl

/-- The statement of `record_evidence`. -/
theorem History.recordEvidence_eq (h : History) (v : String × Telemetry) :
    h.recordEvidence v.1 v.2 =
      { h with db := { h.db with evidence := h.db.evidence.exec (evidenceInsert v) } } := by
  unfold History.recordEvidence Database.recordEvidence
  rw [Table.insertOrIgnore_eq_exec]
  rfl

/-- The transitions of a batch, one statement for each. -/
theorem History.foldl_upsertIncident (h : History) (events : List Incident) :
    events.foldl History.upsertIncident h =
      { h with db := { h.db with
          incidents := (events.map Incident.upsert).foldl Table.exec h.db.incidents } } := by
  induction events generalizing h with
  | nil => rfl
  | cons i events ih => rw [List.foldl_cons, ih, h.upsertIncident_eq]; rfl

/-- And its evidence. -/
theorem History.foldl_recordEvidence (h : History) (evidence : List (String × Telemetry)) :
    evidence.foldl (fun h v => h.recordEvidence v.1 v.2) h =
      { h with db := { h.db with
          evidence := (evidence.map evidenceInsert).foldl Table.exec h.db.evidence } } := by
  induction evidence generalizing h with
  | nil => rfl
  | cons v evidence ih => rw [List.foldl_cons, ih, h.recordEvidence_eq]; rfl

/-- What an attempt does after `record`. -/
def Persist.finish (scan : List (String × String × ℤ) → List (String × String × ℤ))
    (item : Persist) (h : History) : History :=
  let h := item.evidence.foldl (fun h v => h.recordEvidence v.1 v.2)
    (item.events.foldl History.upsertIncident h)
  if item.sample.sequence % 60 = 0 then h.prune scan item.sample.capturedAtMs else h

/-- An attempt at a batch is `record`, and then all the rest, which cannot fail by
itself. -/
theorem Persist.attempt_writes (scan : List (String × String × ℤ) → List (String × String × ℤ))
    (item : Persist) (h : History) :
    Retry.attempt (item.writes scan) h =
      (h.record item.sample maxGapMs).map (item.finish scan) := by
  rw [Persist.writes, Retry.attempt_cons]
  cases h.record item.sample maxGapMs with
  | error e => rfl
  | ok h' =>
      have hevents := Retry.attempt_map_ok (ε := String) (fun i h => History.upsertIncident h i)
        item.events h'
      have hevidence := Retry.attempt_map_ok (ε := String)
        (fun (v : String × Telemetry) h => History.recordEvidence h v.1 v.2) item.evidence
        (item.events.foldl History.upsertIncident h')
      simp only [Except.bind, Retry.attempt_append, hevents, hevidence, Except.map, Persist.finish]
      split_ifs <;> rfl

/-- A stored sample is not recorded again. -/
theorem History.record_of_stored {h : History} {sample : Telemetry}
    (hkey : sample.key ∈ h.db.samples.keys) (hseq : sample.sequence < 2 ^ 63) (g : ℕ) :
    h.record sample g = .ok h := by
  rw [History.record, if_neg (not_le.2 hseq)]
  exact if_pos hkey

/-- A sample that `record` accepts is in the table then, and the incidents and their
evidence are as they were. -/
theorem History.record_ok {h h' : History} {sample : Telemetry} {g : ℕ}
    (hr : h.record sample g = .ok h') :
    sample.sequence < 2 ^ 63 ∧ sample.key ∈ h'.db.samples.keys ∧
      h'.db.incidents = h.db.incidents ∧ h'.db.evidence = h.db.evidence := by
  have hseq : sample.sequence < 2 ^ 63 := by
    by_contra hno
    rw [History.record, if_pos (not_lt.1 hno)] at hr
    cases hr
  have hstep : h.step (.record sample g) = h' := by
    rw [History.step, hr]
    rfl
  rcases h.step_record sample g with ⟨hi, hsame⟩ | ⟨hi, hnew⟩
  · rw [hstep] at hsame
    subst hsame
    refine ⟨hseq, ?_, rfl, rfl⟩
    by_contra hno
    rw [History.inserted, if_pos ⟨hseq, hno⟩] at hi
    cases hi
  · refine ⟨hseq, hstep ▸ History.key_mem_step hi, ?_, ?_⟩ <;> rw [← hstep, hnew]

/-! ### The writes bear repetition -/

section Retryable

variable (scan : List (String × String × ℤ) → List (String × String × ℤ)) (item : Persist)

/-- The first `i` writes have taken effect. Other writers may have acted since, and have
undone none of them. -/
structure Persist.Done (i : ℕ) (h : History) : Prop where
  /-- The first write stores the sample. -/
  sample : 0 < i → item.sample.sequence < 2 ^ 63 ∧ item.sample.key ∈ h.db.samples.keys
  /-- The next ones its transitions. -/
  events : ∀ event ∈ item.events.take (i - 1), event.id ∈ h.db.incidents.keys
  /-- And then its evidence. -/
  evidence : ∀ v ∈ item.evidence.take (i - 1 - item.events.length),
    (evidenceInsert v).key ∈ h.db.evidence.keys

/-- The `i`-th write of a batch: the record, an event, a piece of evidence, or the
pruning, in this order. The last of them is not in every batch. -/
theorem Persist.writes_cases {i : ℕ} {w : History → Except String History}
    (h : (item.writes scan)[i]? = some w) :
    (i = 0 ∧ w = fun h => h.record item.sample maxGapMs) ∨
      (∃ j event, i = j + 1 ∧ item.events[j]? = some event ∧
        w = fun h => .ok (h.upsertIncident event)) ∨
      (∃ j v, i = item.events.length + j + 1 ∧ item.evidence[j]? = some v ∧
        w = fun h => .ok (h.recordEvidence v.1 v.2)) ∨
      (i = item.events.length + item.evidence.length + 1 ∧
        w = fun h => .ok (h.prune scan item.sample.capturedAtMs)) := by
  rw [Persist.writes] at h
  cases i with
  | zero => exact Or.inl ⟨rfl, (Option.some.inj h).symm⟩
  | succ i =>
      right
      rw [List.getElem?_cons_succ] at h
      rcases lt_or_ge i item.events.length with hi | hi
      · left
        rw [List.getElem?_append_left (by rwa [List.length_map]), List.getElem?_map] at h
        obtain ⟨event, hevent, rfl⟩ := Option.map_eq_some_iff.1 h
        exact ⟨i, event, rfl, hevent, rfl⟩
      · right
        rw [List.getElem?_append_right (by rwa [List.length_map]), List.length_map] at h
        rcases lt_or_ge (i - item.events.length) item.evidence.length with hj | hj
        · left
          rw [List.getElem?_append_left (by rwa [List.length_map]), List.getElem?_map] at h
          obtain ⟨v, hv, rfl⟩ := Option.map_eq_some_iff.1 h
          exact ⟨i - item.events.length, v, by omega, hv, rfl⟩
        · right
          rw [List.getElem?_append_right (by rwa [List.length_map]), List.length_map] at h
          obtain ⟨hlt, hw⟩ := List.getElem?_eq_some_iff.1 h
          split_ifs at hlt hw with hseq
          · simp only [List.length_singleton] at hlt
            have hzero : i - item.events.length - item.evidence.length = 0 := by omega
            simp only [hzero, List.getElem_singleton] at hw
            exact ⟨by omega, hw.symm⟩
          · exact absurd hlt (by simp)

/-- A batch has a write for its sample, for each transition and for each reading, and
one for the pruning. -/
theorem Persist.length_writes : (item.writes scan).length ≤
    item.events.length + item.evidence.length + 2 := by
  simp only [Persist.writes, List.length_cons, List.length_append, List.length_map]
  split_ifs <;> simp only [List.length_singleton, List.length_nil] <;> omega

/-- An upsert of the batch, run before all its upserts, makes no difference once the
rows of those before it are there: its own row is written again at its place. -/
theorem foldl_events_rerun {table : Table String IncidentRow} {j : ℕ} {event : Incident}
    (hevent : item.events[j]? = some event)
    (hdone : ∀ e ∈ item.events.take j, e.id ∈ table.keys) :
    (item.events.map Incident.upsert).foldl Table.exec (table.exec event.upsert) =
      (item.events.map Incident.upsert).foldl Table.exec table := by
  obtain ⟨hj, hget⟩ := List.getElem?_eq_some_iff.1 hevent
  have hsplit : item.events = item.events.take j ++ event :: item.events.drop (j + 1) := by
    rw [← hget, ← List.drop_eq_getElem_cons hj, List.take_append_drop]
  rw [hsplit, List.map_append, List.map_cons]
  refine Table.foldl_exec_rerun rfl (fun u hu hkey r => ?_) fun u hu => ?_
  · rcases List.mem_cons.1 hu with rfl | hu
    · rfl
    · obtain ⟨e, -, rfl⟩ := List.mem_map.1 hu
      rfl
  · obtain ⟨e, he, rfl⟩ := List.mem_map.1 hu
    exact hdone e he

/-- Writing evidence again changes nothing: its insertions ignore what is there, and the
pieces before it are. -/
theorem foldl_evidence_rerun {table : Table (String × ℤ) Telemetry} {j : ℕ}
    {v : String × Telemetry} (hv : item.evidence[j]? = some v)
    (hdone : ∀ v' ∈ item.evidence.take j, (evidenceInsert v').key ∈ table.keys) :
    (item.evidence.map evidenceInsert).foldl Table.exec (table.exec (evidenceInsert v)) =
      (item.evidence.map evidenceInsert).foldl Table.exec table := by
  obtain ⟨hj, hget⟩ := List.getElem?_eq_some_iff.1 hv
  have hsplit : item.evidence = item.evidence.take j ++ v :: item.evidence.drop (j + 1) := by
    rw [← hget, ← List.drop_eq_getElem_cons hj, List.take_append_drop]
  rw [hsplit, List.map_append, List.map_cons]
  refine Table.foldl_exec_rerun rfl (fun u hu hkey r => ?_) fun u hu => ?_
  · rcases List.mem_cons.1 hu with rfl | hu
    · rfl
    · obtain ⟨e, -, rfl⟩ := List.mem_map.1 hu
      rfl
  · obtain ⟨e, he, rfl⟩ := List.mem_map.1 hu
    exact hdone e he

/-- What an attempt does after `record`, table by table. -/
theorem Persist.finish_eq (h : History) :
    item.finish scan h =
      let h' : History := { h with db := { h.db with
        incidents := (item.events.map Incident.upsert).foldl Table.exec h.db.incidents
        evidence := (item.evidence.map evidenceInsert).foldl Table.exec h.db.evidence } }
      if item.sample.sequence % 60 = 0 then h'.prune scan item.sample.capturedAtMs else h' := by
  unfold Persist.finish
  rw [History.foldl_upsertIncident, History.foldl_recordEvidence]

/-- **A committed write makes no difference to a later attempt.** Each write is
idempotent, and those behind it overwrite what it does, or leave it as it is. -/
theorem Persist.rerun {i : ℕ} {w : History → Except String History} {h h' : History}
    (hlt : i + 1 < (item.writes scan).length) (hi : (item.writes scan)[i]? = some w)
    (hdone : item.Done i h) (hw : w h = .ok h') :
    Retry.attempt (item.writes scan) h' = Retry.attempt (item.writes scan) h := by
  rw [item.attempt_writes, item.attempt_writes]
  rcases item.writes_cases scan hi with ⟨rfl, rfl⟩ | ⟨j, event, rfl, hevent, rfl⟩ |
    ⟨j, v, rfl, hv, rfl⟩ | ⟨rfl, rfl⟩
  · dsimp only at hw
    obtain ⟨hseq, hkey, -, -⟩ := History.record_ok hw
    rw [hw, History.record_of_stored hkey hseq]
  · obtain ⟨hseq, hkey⟩ := hdone.sample (Nat.succ_pos j)
    obtain rfl := Except.ok.inj hw
    have hsame : item.finish scan (h.upsertIncident event) = item.finish scan h := by
      rw [item.finish_eq, item.finish_eq, h.upsertIncident_eq,
        foldl_events_rerun item hevent fun e he => hdone.events e (by simpa using he)]
    rw [History.record_of_stored hkey hseq,
      History.record_of_stored (h := h.upsertIncident event) hkey hseq]
    exact congrArg Except.ok hsame
  · obtain ⟨hseq, hkey⟩ := hdone.sample (Nat.succ_pos _)
    obtain rfl := Except.ok.inj hw
    have hsame : item.finish scan (h.recordEvidence v.1 v.2) = item.finish scan h := by
      rw [item.finish_eq, item.finish_eq, h.recordEvidence_eq, foldl_evidence_rerun item hv
        fun v' hv' => hdone.evidence v' (by simpa using hv')]
    rw [History.record_of_stored hkey hseq,
      History.record_of_stored (h := h.recordEvidence v.1 v.2) hkey hseq]
    exact congrArg Except.ok hsame
  · exact absurd hlt (by have := item.length_writes scan; omega)

/-- An acknowledgement is an update of one row. -/
theorem Ack.apply_eq {a : Ack} {h : History} (ha : a.Finds h) :
    a.apply h = { h with db := { h.db with
      incidents := h.db.incidents.modify a.id (IncidentRow.acknowledge a.at_) } } := by
  have hack : h.db.acknowledge a.id a.at_ = .ok { h.db with
      incidents := h.db.incidents.modify a.id (IncidentRow.acknowledge a.at_) } := if_pos ha
  rw [Ack.apply, hack]
  rfl

/-- Where there is no row it changes nothing. -/
theorem Ack.apply_of_not_finds {a : Ack} {h : History} (ha : ¬a.Finds h) : a.apply h = h := by
  have hack : h.db.acknowledge a.id a.at_ = .error "incident not found" := if_neg ha
  rw [Ack.apply, hack]
  rfl

/-- A transition does not take the row away. -/
theorem Ack.finds_upsert {a : Ack} {h : History} (ha : a.Finds h) (i : Incident) :
    a.Finds (h.upsertIncident i) :=
  (Table.mem_keys_exec (u := i.upsert)).2 (Or.inr ha)

/-- An acknowledgement changes no table but that of the incidents, and there no
key. -/
theorem Ack.apply_frame (a : Ack) (h : History) :
    (a.apply h).db.samples = h.db.samples ∧ (a.apply h).db.energy = h.db.energy ∧
      (a.apply h).db.evidence = h.db.evidence ∧ (a.apply h).previous = h.previous ∧
      (a.apply h).db.incidents.keys = h.db.incidents.keys := by
  by_cases ha : a.Finds h
  · rw [Ack.apply_eq ha]
    exact ⟨rfl, rfl, rfl, rfl, Table.keys_modify ..⟩
  · rw [Ack.apply_of_not_finds ha]
    exact ⟨rfl, rfl, rfl, rfl, rfl⟩

/-- `record` neither reads nor writes what an acknowledgement changes. -/
theorem Ack.record_comm {a : Ack} {h : History} (ha : a.Finds h) (sample : Telemetry) (g : ℕ) :
    (a.apply h).record sample g = (h.record sample g).map a.apply := by
  rw [Ack.apply_eq ha, History.record, History.record]
  dsimp only
  split_ifs with h₁ h₂
  · rfl
  · exact congrArg Except.ok (Ack.apply_eq ha).symm
  · refine congrArg Except.ok (Eq.trans ?_ (Ack.apply_eq ?_).symm)
    · rfl
    · exact ha

/-- An acknowledgement and a transition may change places: neither writes what the other
does. -/
theorem Ack.upsert_comm {a : Ack} {h : History} (ha : a.Finds h) (i : Incident) :
    (a.apply h).upsertIncident i = a.apply (h.upsertIncident i) := by
  have hcomm := Table.exec_modify_comm (u := i.upsert) (f := IncidentRow.acknowledge a.at_) ha
    fun r => rfl
  rw [Ack.apply_eq ha, Ack.apply_eq (Ack.finds_upsert ha i), History.upsertIncident_eq,
    History.upsertIncident_eq]
  dsimp only
  rw [hcomm]

/-- So may an acknowledgement and evidence. -/
theorem Ack.evidence_comm {a : Ack} {h : History} (ha : a.Finds h) (v : String × Telemetry) :
    (a.apply h).recordEvidence v.1 v.2 = a.apply (h.recordEvidence v.1 v.2) := by
  have ha' : a.Finds (h.recordEvidence v.1 v.2) := ha
  rw [Ack.apply_eq ha, Ack.apply_eq ha', History.recordEvidence_eq, History.recordEvidence_eq]

/-- And an acknowledgement and the pruning. -/
theorem Ack.prune_comm {a : Ack} {h : History} (ha : a.Finds h) (now : ℤ) :
    (a.apply h).prune scan now = a.apply (h.prune scan now) := by
  have ha' : a.Finds (h.prune scan now) := ha
  rw [Ack.apply_eq ha, Ack.apply_eq ha']
  rfl

/-- **The writes of a batch bear repetition**, with acknowledgements in
between. -/
theorem persist_retryable :
    Retry.Retryable (item.writes scan) Ack.apply Ack.Finds (item.Done) where
  done_zero h := ⟨fun h => absurd h (lt_irrefl 0), by simp, by simp⟩
  done_write i w h h' hlt hi hdone hw := by
    rcases item.writes_cases scan hi with ⟨rfl, rfl⟩ | ⟨j, event, rfl, hevent, rfl⟩ |
      ⟨j, v, rfl, hv, rfl⟩ | ⟨rfl, rfl⟩
    · dsimp only at hw
      obtain ⟨hseq, hkey, -, -⟩ := History.record_ok hw
      exact ⟨fun _ => ⟨hseq, hkey⟩, by simp, by simp⟩
    · obtain rfl := Except.ok.inj hw
      obtain ⟨hj, -⟩ := List.getElem?_eq_some_iff.1 hevent
      refine ⟨fun _ => hdone.sample (Nat.succ_pos j), fun e he => ?_, fun v hv => ?_⟩
      · rw [Nat.add_sub_cancel, List.take_add_one, hevent] at he
        refine Table.mem_keys_exec (u := event.upsert).2 ?_
        rcases List.mem_append.1 he with he | he
        · exact Or.inr (hdone.events e (by simpa using he))
        · rw [List.mem_singleton.1 he]
          exact Or.inl rfl
      · rw [Nat.add_sub_cancel, Nat.sub_eq_zero_of_le hj] at hv
        cases hv
    · obtain rfl := Except.ok.inj hw
      refine ⟨fun _ => hdone.sample (Nat.succ_pos _), fun e he => ?_, fun v' hv' => ?_⟩
      · exact hdone.events e (by
          rw [List.take_of_length_le (by omega)] at he ⊢
          exact he)
      · rw [h.recordEvidence_eq]
        rw [show item.events.length + j + 1 + 1 - 1 - item.events.length = j + 1 by omega,
          List.take_add_one, hv] at hv'
        refine Table.mem_keys_exec.2 ?_
        rcases List.mem_append.1 hv' with hv' | hv'
        · exact Or.inr (hdone.evidence v' (by simpa using hv'))
        · rw [List.mem_singleton.1 hv']
          exact Or.inl rfl
    · exact absurd hlt (by have := item.length_writes scan; omega)
  done_act i a h hdone := by
    obtain ⟨hsamples, -, hevidence, -, hkeys⟩ := a.apply_frame h
    refine ⟨fun hi => ?_, fun e he => ?_, fun v hv => ?_⟩
    · rw [hsamples]
      exact hdone.sample hi
    · rw [hkeys]
      exact hdone.events e he
    · rw [hevidence]
      exact hdone.evidence v hv
  rerun i w h h' := item.rerun scan
  idle a h ha := Ack.apply_of_not_finds ha
  commute a w h hw ha := by
    obtain ⟨i, hi⟩ := List.mem_iff_getElem?.1 hw
    rcases item.writes_cases scan hi with ⟨rfl, rfl⟩ | ⟨j, event, rfl, -, rfl⟩ |
      ⟨j, v, rfl, -, rfl⟩ | ⟨rfl, rfl⟩
    · exact Ack.record_comm ha _ _
    · exact congrArg Except.ok (Ack.upsert_comm ha event)
    · exact congrArg Except.ok (Ack.evidence_comm ha v)
    · exact congrArg Except.ok (Ack.prune_comm scan ha _)
  enabled_write a w h h' hw ha hok := by
    obtain ⟨i, hi⟩ := List.mem_iff_getElem?.1 hw
    rcases item.writes_cases scan hi with ⟨rfl, rfl⟩ | ⟨j, event, rfl, -, rfl⟩ |
      ⟨j, v, rfl, -, rfl⟩ | ⟨rfl, rfl⟩
    · dsimp only at hok
      rw [Ack.Finds, (History.record_ok hok).2.2.1]
      exact ha
    · obtain rfl := Except.ok.inj hok
      exact Ack.finds_upsert ha event
    · obtain rfl := Except.ok.inj hok
      exact ha
    · obtain rfl := Except.ok.inj hok
      exact ha
  enabled_act a b h ha := by
    rw [Ack.Finds, (b.apply_frame h).2.2.2.2]
    exact ha

end Retryable

/-! ### Exactly once -/

/-- The storage thread at work on a batch: which writes commit and which fail,
and the acknowledgements in between. -/
abbrev StorageStep := Retry.Step Ack

/-- The storage thread after some steps at a batch. -/
def Persist.work (scan : List (String × String × ℤ) → List (String × String × ℤ)) (item : Persist)
    (h : History) (steps : List StorageStep) : Retry.State History :=
  Transition.run (Retry.step (item.writes scan) Ack.apply) ⟨0, h⟩ steps

/-- The acknowledgements that found their incident. -/
def Persist.acknowledged (scan : List (String × String × ℤ) → List (String × String × ℤ))
    (item : Persist) (h : History) (steps : List StorageStep) : List Ack :=
  Retry.effective (item.writes scan) Ack.apply Ack.Finds ⟨0, h⟩ steps

/-- The rows after an acknowledgement. -/
theorem Ack.find?_apply (a : Ack) (h : History) (id : String) :
    (a.apply h).db.incidents.find? id = if id = a.id then
      (h.db.incidents.find? id).map (IncidentRow.acknowledge a.at_)
    else h.db.incidents.find? id := by
  by_cases ha : a.Finds h
  · rw [Ack.apply_eq ha]
    exact Table.find?_modify ..
  · rw [Ack.apply_of_not_finds ha]
    split_ifs with hid
    · rw [hid, Table.find?_eq_none_iff.2 ha]
      rfl
    · rfl

/-- Acknowledgements change nothing but rows of the incidents table. -/
theorem foldl_ack_frame (acks : List Ack) (h : History) :
    (acks.foldl (fun h a => a.apply h) h).db.samples = h.db.samples ∧
      (acks.foldl (fun h a => a.apply h) h).db.energy = h.db.energy ∧
      (acks.foldl (fun h a => a.apply h) h).db.evidence = h.db.evidence ∧
      (acks.foldl (fun h a => a.apply h) h).previous = h.previous ∧
      (acks.foldl (fun h a => a.apply h) h).db.incidents.keys = h.db.incidents.keys := by
  induction acks generalizing h with
  | nil => exact ⟨rfl, rfl, rfl, rfl, rfl⟩
  | cons a acks ih =>
      obtain ⟨h₁, h₂, h₃, h₄, h₅⟩ := a.apply_frame h
      obtain ⟨i₁, i₂, i₃, i₄, i₅⟩ := ih (a.apply h)
      exact ⟨i₁.trans h₁, i₂.trans h₂, i₃.trans h₃, i₄.trans h₄, i₅.trans h₅⟩

/-- Acknowledgements leave the other columns of a row and a time that is set, and give a
time to each row that they name. -/
theorem find?_foldl_ack (acks : List Ack) {h : History} {id : String} {row : IncidentRow}
    (hrow : h.db.incidents.find? id = some row) :
    ∃ row', (acks.foldl (fun h a => a.apply h) h).db.incidents.find? id = some row' ∧
      row'.endMs = row.endMs ∧ row'.json = row.json ∧
      (row.ackMs.isSome → row'.ackMs = row.ackMs) ∧
      ((∃ a ∈ acks, a.id = id) → row'.ackMs.isSome) := by
  induction acks generalizing h row with
  | nil => exact ⟨row, hrow, rfl, rfl, fun _ => rfl, by simp⟩
  | cons a acks ih =>
      have hnext := a.find?_apply h id
      rw [hrow] at hnext
      by_cases hid : id = a.id
      · rw [if_pos hid] at hnext
        obtain ⟨row', h₁, h₂, h₃, h₄, -⟩ := ih hnext
        have hset : row'.ackMs = some (row.ackMs.getD a.at_) := h₄ rfl
        refine ⟨row', h₁, h₂, h₃, fun hsome => ?_, fun _ => by rw [hset]; rfl⟩
        obtain ⟨ms, hms⟩ := Option.isSome_iff_exists.1 hsome
        rw [hset, hms]
        rfl
      · rw [if_neg hid] at hnext
        obtain ⟨row', h₁, h₂, h₃, h₄, h₅⟩ := ih hnext
        refine ⟨row', h₁, h₂, h₃, h₄, ?_⟩
        rintro ⟨b, hb, rfl⟩
        rcases List.mem_cons.1 hb with rfl | hb
        · exact absurd rfl hid
        · exact h₅ ⟨b, hb, rfl⟩

/-- The last event of an incident decides its row: its end and its body, whatever the
table had before. -/
theorem find?_foldl_upsert (table : Table String IncidentRow) (earlier : List Incident)
    {later : List Incident} {event : Incident} (hlast : ∀ e ∈ later, e.id ≠ event.id) :
    ∃ row, (((earlier ++ event :: later).map Incident.upsert).foldl Table.exec table).find?
      event.id = some row ∧ row.endMs = event.recoveredAtMs ∧ row.json = event := by
  rw [List.map_append, List.foldl_append, List.map_cons, List.foldl_cons]
  generalize (earlier.map Incident.upsert).foldl Table.exec table = t
  have hlater : ∀ t : Table String IncidentRow,
      ((later.map Incident.upsert).foldl Table.exec t).find? event.id = t.find? event.id := by
    induction later with
    | nil => exact fun _ => rfl
    | cons e later ih =>
        intro t
        rw [List.map_cons, List.foldl_cons, ih (fun e' h => hlast e' (List.mem_cons_of_mem _ h)),
          Table.find?_exec, Incident.upsert_key, if_neg (hlast e (List.mem_cons_self ..)).symm]
  rw [hlater, Table.find?_exec, Incident.upsert_key, if_pos rfl]
  refine ⟨_, rfl, ?_⟩
  cases t.find? event.id <;> exact ⟨rfl, rfl⟩

/-- **Storage retries are exactly-once in effect.**  For any batch and store,
any pattern of writes that commit and fail, and any acknowledgements in between:
once all writes have committed in a row, the store and the remembered sample are
those of one uninterrupted attempt, with the acknowledgements that found their
incident on top.  The last event of an incident decides its state, and every
such acknowledgement is still there. -/
theorem storage_retries_exactly_once
    (scan : List (String × String × ℤ) → List (String × String × ℤ)) (item : Persist) (h : History)
    (steps : List StorageStep)
    (hdone : (item.work scan h steps).next = (item.writes scan).length) :
    let final := (item.work scan h steps).store
    let acks := item.acknowledged scan h steps
    (∃ once, Retry.attempt (item.writes scan) h = .ok once ∧
      final = acks.foldl (fun h a => a.apply h) once ∧
      (final.db.samples = once.db.samples ∧ final.db.energy = once.db.energy ∧
        final.db.evidence = once.db.evidence ∧ final.previous = once.previous) ∧
      (acks = [] → final = once)) ∧
    (∀ earlier event later, item.events = earlier ++ event :: later →
      (∀ e ∈ later, e.id ≠ event.id) →
      ∃ row, final.db.incidents.find? event.id = some row ∧
        row.endMs = event.recoveredAtMs ∧ row.json = event) ∧
    (∀ a ∈ acks, ∃ row, final.db.incidents.find? a.id = some row ∧ row.ackMs.isSome) := by
  intro final acks
  have hretryable := persist_retryable scan item
  obtain ⟨once, honce, hfinal⟩ := hretryable.exactly_once hdone
  have hfinal : final = acks.foldl (fun h a => a.apply h) once := hfinal
  refine ⟨⟨once, honce, hfinal, ?_, fun hnil => ?_⟩, fun earlier event later hevents hlast => ?_,
    fun a ha => ?_⟩
  · obtain ⟨hsamples, henergy, hevidence, hprevious, -⟩ := foldl_ack_frame acks once
    rw [hfinal]
    exact ⟨hsamples, henergy, hevidence, hprevious⟩
  · rw [hfinal, hnil]
    rfl
  · rw [item.attempt_writes] at honce
    obtain ⟨recorded, hrecorded, honce⟩ : ∃ recorded,
        h.record item.sample maxGapMs = .ok recorded ∧ item.finish scan recorded = once := by
      cases hr : h.record item.sample maxGapMs with
      | error e => rw [hr] at honce; cases honce
      | ok recorded => rw [hr] at honce; exact ⟨recorded, rfl, Except.ok.inj honce⟩
    obtain ⟨row, hrow, hend, hjson⟩ :=
      find?_foldl_upsert recorded.db.incidents earlier hlast
    have hincidents : once.db.incidents =
        (item.events.map Incident.upsert).foldl Table.exec recorded.db.incidents := by
      rw [← honce, item.finish_eq]
      dsimp only
      split_ifs <;> rfl
    rw [← hevents, ← hincidents] at hrow
    obtain ⟨row', hrow', hend', hjson', -⟩ := find?_foldl_ack acks hrow
    exact ⟨row', by rw [hfinal]; exact hrow', hend'.trans hend, hjson'.trans hjson⟩
  · have hfinds : a.Finds final := hretryable.enabled_of_mem_effective ha
    obtain ⟨-, -, -, -, hkeys⟩ := foldl_ack_frame acks once
    rw [Ack.Finds, hfinal, hkeys, ← Table.find?_isSome_iff, Option.isSome_iff_exists] at hfinds
    obtain ⟨row, hrow⟩ := hfinds
    obtain ⟨row', hrow', -, -, -, hack⟩ := find?_foldl_ack acks hrow
    exact ⟨row', by rw [hfinal]; exact hrow', hack ⟨a, ha, rfl⟩⟩

/-- An attempt that fails at the pruning and is repeated keeps the
acknowledgement made meanwhile. -/
theorem storage_retry_keeps_acknowledgement :
    let sample := simulatedSample 60 true
    let event := openIncident id sample default "hardware.fan_fault" ⟨true, true, "critical", ""⟩
    ∃ row, ((⟨sample, [event], []⟩ : Persist).work id {} [.write, .write, .other ⟨event.id, 5⟩,
        .fail, .write, .write, .write]).store.db.incidents.find? event.id = some row ∧
      row.ackMs.isSome := by
  intro sample event
  exact (storage_retries_exactly_once id ⟨sample, [event], []⟩ {} [.write, .write,
    .other ⟨event.id, 5⟩, .fail, .write, .write, .write] (by decide +kernel)).2.2 ⟨event.id, 5⟩
      (by decide +kernel)

end Railwatch
