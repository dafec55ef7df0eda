/-
# Where the samples go

Every sample that a process of the daemon publishes is either counted in
`dropped_samples` or, once its batch has been written, in the `samples` table, until
`prune` removes it for a later one that is stored.

The samples of a process are numbered, and its sessions are its own.  So no two of them
have the same primary key, and `INSERT OR IGNORE` only ever ignores a sample that is
already there: the last one, which a failed poll sends a second time.  The batches are
written in the order of their samples, each one's own sample first; so what is pruned is
older than the sample of the batch in hand, which stays.

`Keeps` is the invariant: which samples were published, which of them were dropped, and
where each of the others is, in the queue, in the batch that is being written or in the
table.  No batch of the queue has an earlier sample than the batch in hand, whose prune
comes after its first write; so the later sample that `Expired` asks for is the one of
that batch.
-/

import Railwatch.Runtime.Limits
import Railwatch.Runtime.Agreement

namespace Railwatch

open Sql Handoff

/-! ### What an action publishes and drops -/

/-- The sample an action publishes. -/
@[simp] def Daemon.publishes (d : Daemon) : DaemonOp → List Telemetry
  | .publish _ =>
      match d.monitor.phase with
      | .bounded t => [t]
      | _ => []
  | _ => []

/-- The sample an action publishes without storing it: its batch is refused. -/
@[simp] def Daemon.drops (d : Daemon) : DaemonOp → List Telemetry
  | .publish full =>
      match d.monitor.phase with
      | .bounded t => if full ∨ storageQueueSize ≤ d.queue.length then [t] else []
      | _ => []
  | _ => []

/-- The session an action draws. -/
def DaemonOp.session : DaemonOp → Option String
  | .openDevice _ session _ => some session
  | _ => none

/-- The samples published in a run. -/
def Daemon.published (d : Daemon) (ops : List DaemonOp) : List Telemetry :=
  Transition.outputs Daemon.step Daemon.publishes d ops

/-- The samples dropped in a run. -/
def Daemon.dropped (d : Daemon) (ops : List DaemonOp) : List Telemetry :=
  Transition.outputs Daemon.step Daemon.drops d ops

/-! ### Where a sample may be -/

/-- The row of a sample. -/
def Telemetry.row (t : Telemetry) : SampleRow := ⟨t.capturedAtMs, t⟩

/-- A sample is in the table. -/
def Daemon.HasStored (d : Daemon) (t : Telemetry) : Prop :=
  d.history.db.samples.find? t.key = some t.row

/-- A sample is in a batch that is not finished. -/
def Daemon.Holds (d : Daemon) (t : Telemetry) : Prop :=
  ∃ item, (item ∈ d.queue ∨ ∃ next, d.storing = some (item, next)) ∧ item.sample = t

/-- A sample is 48 hours older than one that was published after it and is in the
table. -/
def Daemon.Expired (d : Daemon) (published : List Telemetry) (t : Telemetry) : Prop :=
  ∃ later ∈ published, t.sequence < later.sequence ∧
    t.capturedAtMs < later.capturedAtMs - 48 * 3600000 ∧ d.HasStored later

/-- More samples are published, and the table stays. -/
theorem Daemon.Expired.mono {d d' : Daemon} {published published' : List Telemetry}
    {t : Telemetry} (h : d.Expired published t) (hpublished : published ⊆ published')
    (hsamples : d'.history.db.samples = d.history.db.samples) : d'.Expired published' t := by
  obtain ⟨later, hlater, hseq, hold, hstored⟩ := h
  refine ⟨later, hpublished hlater, hseq, hold, ?_⟩
  rw [Daemon.HasStored, hsamples]
  exact hstored

/-! ### What a write does to the table -/

/-- `record` inserts its sample, or finds its key; in both cases the table is what
`INSERT OR IGNORE` makes of it. -/
theorem History.record_samples {h h' : History} {sample : Telemetry} {g : ℕ}
    (hr : h.record sample g = .ok h') :
    h'.db.samples = h.db.samples.insertOrIgnore sample.key sample.row := by
  have hseq := (History.record_ok hr).1
  by_cases hkey : sample.key ∈ h.db.samples.keys
  · rw [History.record_of_stored hkey hseq] at hr
    rw [← Except.ok.inj hr, Table.insertOrIgnore_of_mem hkey]
  · have hstep : h.step (.record sample g) = h' := by
      rw [History.step, hr]
      rfl
    obtain ⟨hno, -⟩ | ⟨-, heq⟩ := h.step_record sample g
    · rw [History.inserted, if_pos ⟨hseq, hkey⟩] at hno
      cases hno
    · rw [← hstep, heq]
      rfl

/-- What `prune` leaves of a row: one that is left was there, and one that is not left
was older than 48 hours at the time of the batch. -/
theorem Database.find?_prune (db : Database)
    (scan : List (String × String × ℤ) → List (String × String × ℤ)) (now : ℤ)
    (key : String × String × ℤ) (r : SampleRow) :
    ((db.prune scan now).samples.find? key = some r → db.samples.find? key = some r) ∧
      (db.samples.find? key = some r →
        (db.prune scan now).samples.find? key = some r ∨ r.atMs < now - 48 * 3600000) := by
  simp only [Database.prune, Table.find?_eq_some_iff, Table.deleteWhere, List.mem_filter]
  refine ⟨fun h => h.1, fun h => ?_⟩
  by_cases hvictim : key ∈ ((scan db.samples.keys).filter fun k =>
      (db.samples.find? k).any fun r => r.atMs < now - 48 * 3600000).take 1000
  · refine .inr ?_
    have hold := (List.mem_filter.1 (List.mem_of_mem_take hvictim)).2
    rw [Table.find?_eq_some_iff.2 h] at hold
    simpa using hold
  · exact .inl ⟨h, by simpa using hvictim⟩

/-- What a write of a batch does to the samples: the first one inserts the batch's own, and
the others may remove old ones. -/
theorem Persist.write_samples
    {scan : List (String × String × ℤ) → List (String × String × ℤ)} {item : Persist} {next : ℕ}
    {w : History → Except String History} {h h' : History}
    (hw : (item.writes scan)[next]? = some w) (hok : w h = .ok h') :
    (next = 0 ∧ h'.db.samples = h.db.samples.insertOrIgnore item.sample.key item.sample.row) ∨
      0 < next ∧ (h'.db.samples = h.db.samples ∨
        h' = h.prune scan item.sample.capturedAtMs) := by
  obtain ⟨rfl, rfl⟩ | ⟨j, event, rfl, -, rfl⟩ | ⟨j, v, rfl, -, rfl⟩ | ⟨rfl, rfl⟩ :=
    item.writes_cases scan hw
  · exact .inl ⟨rfl, History.record_samples hok⟩
  · exact .inr ⟨Nat.succ_pos _, .inl (by rw [← Except.ok.inj hok]; rfl)⟩
  · exact .inr ⟨Nat.succ_pos _, .inl (by rw [← Except.ok.inj hok]; rfl)⟩
  · exact .inr ⟨Nat.succ_pos _, .inr (Except.ok.inj hok).symm⟩

/-- What publishing does with the sample. -/
theorem Daemon.publish_sends (d : Daemon) {t : Telemetry} (hphase : d.monitor.phase = .bounded t)
    (full : Bool) :
    (d.publish t full).monitor.sequence = d.monitor.sequence + 1 ∧
      (d.publish t full).monitor.phase = .top ∧
      (d.publish t full).monitor.session = d.monitor.session ∧
      (d.publish t full).shared.droppedSamples =
        d.shared.droppedSamples + (d.drops (.publish full)).length ∧
      ∃ sent, (d.publish t full).queue = d.queue ++ sent ∧
        (sent = [] ∧ d.drops (.publish full) = [t] ∨
          d.drops (.publish full) = [] ∧ ∃ item, sent = [item] ∧ item.sample = t) := by
  by_cases hfull : full ∨ storageQueueSize ≤ d.queue.length
  · simp [Daemon.publish, trySend, hphase, hfull]
  · simp [Daemon.publish, trySend, hphase, hfull]

/-- What a failed poll does with the last sample. -/
theorem Daemon.pollFailed_sends (d : Daemon) (error : String) (event : Option Incident)
    (engine : AlertEngine) (full : Bool) :
    (d.pollFailed error event engine full).monitor.sequence = d.monitor.sequence + 1 ∧
      (d.pollFailed error event engine full).monitor.phase = d.monitor.phase ∧
      (d.pollFailed error event engine full).monitor.session = d.monitor.session ∧
      (d.pollFailed error event engine full).shared.droppedSamples = d.shared.droppedSamples ∧
      ∃ sent, (d.pollFailed error event engine full).queue = d.queue ++ sent ∧
        ∀ item ∈ sent, d.shared.telemetry = some item.sample := by
  cases hlast : d.shared.telemetry with
  | none => simp [Daemon.pollFailed, hlast]
  | some last =>
      by_cases hfull : full ∨ storageQueueSize ≤ d.queue.length
      · simp [Daemon.pollFailed, trySend, hlast, hfull]
      · simp [Daemon.pollFailed, trySend, hlast, hfull]

/-- Nothing is after the last of a list. -/
theorem le_getLast? {published : List Telemetry} {t last : Telemetry}
    (hordered : published.Pairwise fun a b => a.sequence < b.sequence) (ht : t ∈ published)
    (hlast : published.getLast? = some last) : t.sequence ≤ last.sequence := by
  obtain ⟨front, rfl⟩ := List.getLast?_eq_some_iff.1 hlast
  obtain ht | ht := List.mem_append.1 ht
  · exact ((List.pairwise_append.1 hordered).2.2 t ht last (List.mem_singleton_self last)).le
  · rw [List.mem_singleton.1 ht]

/-- Batches with the last sample come after all others. -/
theorem inOrder_append {published : List Telemetry} {batches sent : List Persist}
    (hordered : published.Pairwise fun a b => a.sequence < b.sequence)
    (hbatches : ∀ item ∈ batches, item.sample ∈ published)
    (hinOrder : batches.Pairwise fun a b => a.sample.sequence ≤ b.sample.sequence)
    (hsent : ∀ item ∈ sent, published.getLast? = some item.sample) :
    (batches ++ sent).Pairwise fun a b => a.sample.sequence ≤ b.sample.sequence := by
  refine List.pairwise_append.2 ⟨hinOrder, ?_, fun a ha b hb => ?_⟩
  · refine List.pairwise_of_forall_mem_list fun a ha b hb => ?_
    rw [Option.some.inj ((hsent a ha).symm.trans (hsent b hb))]
  · exact le_getLast? hordered (hbatches a ha) (hsent b hb)

/-! ### The invariant -/

/-- The samples of a process: those published are numbered below the counter and in its
sessions, the last one is shown, the batches carry them, the table has of its sessions
those of the batches that were taken and no others, with that of the batch in hand once
its first write is done, and each of them is somewhere. -/
structure Daemon.Keeps (d : Daemon) (sessions : List String) (published dropped : List Telemetry)
    (taken : List Persist) : Prop where
  /-- The next sequence number is a new one. -/
  below : ∀ t ∈ published, t.sequence < d.monitor.sequence
  /-- The sample that is worked on has this number. -/
  current : ∀ t, d.monitor.phase.sample = some t →
    t.sequence = d.monitor.sequence ∧ t.sessionId ∈ sessions
  /-- The session is one of this process. -/
  session : d.monitor.session ∈ sessions
  /-- The numbers rise. -/
  ordered : published.Pairwise fun a b => a.sequence < b.sequence
  /-- All samples are of its sessions. -/
  drawn : ∀ t ∈ published, t.sessionId ∈ sessions
  /-- The last one is shown. -/
  last : d.shared.telemetry = published.getLast?
  /-- A batch has a sample that was published. -/
  batches : ∀ item ∈ taken ++ d.queue, item.sample ∈ published
  /-- And the batches have them in order. -/
  inOrder : (taken ++ d.queue).Pairwise fun a b => a.sample.sequence ≤ b.sample.sequence
  /-- The batch in hand is the last one that was taken. -/
  storing : ∀ item next, d.storing = some (item, next) → taken.getLast? = some item
  /-- The table has nothing of these sessions but what was taken, each at its key. -/
  own : ∀ key r, d.history.db.samples.find? key = some r → key.2.1 ∈ sessions →
    (∃ item ∈ taken, item.sample = r.json) ∧ key = r.json.key ∧ r = r.json.row
  /-- Behind its first write the batch in hand has stored its sample. -/
  recorded : ∀ item next, d.storing = some (item, next) → 0 < next → d.HasStored item.sample
  /-- A sample is refused, on its way, stored or expired. -/
  accounted : ∀ t ∈ published,
    t ∈ dropped ∨ d.Holds t ∨ d.HasStored t ∨ d.Expired published t
  /-- The counter counts those that were refused. -/
  refused : dropped.Sublist published ∧ dropped.length = d.shared.droppedSamples

namespace Daemon.Keeps

variable {d d' : Daemon} {sessions : List String} {published dropped : List Telemetry}
  {taken : List Persist}

/-- The number of a published sample is its own. -/
theorem eq_of_sequence (h : d.Keeps sessions published dropped taken) {t t' : Telemetry}
    (ht : t ∈ published) (ht' : t' ∈ published) (hseq : t.sequence = t'.sequence) : t = t' := by
  obtain ⟨i, hi, rfl⟩ := List.getElem_of_mem ht
  obtain ⟨j, hj, rfl⟩ := List.getElem_of_mem ht'
  have hordered := List.pairwise_iff_getElem.1 h.ordered
  obtain hlt | rfl | hlt := lt_trichotomy i j
  · exact absurd hseq (hordered i j hi hj hlt).ne
  · rfl
  · exact absurd hseq (hordered j i hj hi hlt).ne'

/-- A published sample whose key is in the table is stored. -/
theorem hasStored_of_key (h : d.Keeps sessions published dropped taken) {t : Telemetry}
    (ht : t ∈ published) {r : SampleRow} (hr : d.history.db.samples.find? t.key = some r) :
    d.HasStored t := by
  obtain ⟨⟨item, hitem, hsample⟩, hkey, hrow⟩ := h.own t.key r hr (h.drawn t ht)
  have hmem : r.json ∈ published := hsample ▸ h.batches item (List.mem_append_left _ hitem)
  have hseq : (t.sequence : ℤ) = r.json.sequence := congrArg (fun k => k.2.2) hkey
  have heq : r.json = t := h.eq_of_sequence hmem ht (Nat.cast_inj.1 hseq.symm)
  rw [Daemon.HasStored, hr, ← heq, ← hrow]

/-- An action that stores nothing: it may count on, show another state and send batches
with samples that are published. -/
theorem frame (h : d.Keeps sessions published dropped taken) (sent : List Persist)
    (hsequence : d.monitor.sequence ≤ d'.monitor.sequence)
    (hcurrent : ∀ t, d'.monitor.phase.sample = some t →
      t.sequence = d'.monitor.sequence ∧ t.sessionId ∈ sessions)
    (hsession : d'.monitor.session ∈ sessions)
    (htelemetry : d'.shared.telemetry = d.shared.telemetry)
    (hdropped : d'.shared.droppedSamples = d.shared.droppedSamples)
    (hqueue : d'.queue = d.queue ++ sent)
    (hsent : ∀ item ∈ sent, published.getLast? = some item.sample)
    (hstoring : d'.storing = d.storing)
    (hsamples : d'.history.db.samples = d.history.db.samples) :
    d'.Keeps sessions published dropped taken where
  below t ht := (h.below t ht).trans_le hsequence
  current := hcurrent
  session := hsession
  ordered := h.ordered
  drawn := h.drawn
  last := htelemetry.trans h.last
  batches item hitem := by
    rw [hqueue, ← List.append_assoc, List.mem_append] at hitem
    exact hitem.elim (h.batches item) fun hitem => List.mem_of_getLast? (hsent item hitem)
  inOrder := by
    rw [hqueue, ← List.append_assoc]
    exact inOrder_append h.ordered h.batches h.inOrder hsent
  storing := by
    rw [hstoring]
    exact h.storing
  own := by
    rw [hsamples]
    exact h.own
  recorded item next hitem hnext := by
    rw [hstoring] at hitem
    rw [Daemon.HasStored, hsamples]
    exact h.recorded item next hitem hnext
  accounted t ht := by
    rw [Daemon.HasStored, hsamples]
    refine (h.accounted t ht).imp_right
      (Or.imp ?_ (Or.imp_right fun hold => hold.mono (List.Subset.refl _) hsamples))
    rintro ⟨item, hitem, hsample⟩
    refine ⟨item, hitem.imp (fun hmem => ?_) (fun hmem => ?_), hsample⟩
    · rw [hqueue]
      exact List.mem_append_left _ hmem
    · rwa [hstoring]
  refused := ⟨h.refused.1, h.refused.2.trans hdropped.symm⟩

/-- The storage thread starts over with its batch, from the first write. What it has
stored stays in the table, and the sample of the batch is still on its way. -/
theorem startOver (h : d.Keeps sessions published dropped taken) {item : Persist} {next : ℕ}
    (hstoring : d.storing = some (item, next)) (shared : Snapshot)
    (htelemetry : shared.telemetry = d.shared.telemetry)
    (hdropped : shared.droppedSamples = d.shared.droppedSamples) :
    Daemon.Keeps { d with storing := some (item, 0), shared := shared } sessions published dropped
      taken := by
  refine ⟨h.below, h.current, h.session, h.ordered, h.drawn, htelemetry.trans h.last, h.batches,
    h.inOrder, ?_, h.own, ?_, fun t ht => ?_, h.refused.1, h.refused.2.trans hdropped.symm⟩
  · rintro item' next' heq
    obtain ⟨rfl, -⟩ := Prod.mk.inj (Option.some.inj heq)
    exact h.storing item next hstoring
  · rintro item' next' heq hnext
    obtain ⟨-, rfl⟩ := Prod.mk.inj (Option.some.inj heq)
    exact absurd hnext (lt_irrefl _)
  · refine (h.accounted t ht).imp_right (Or.imp_left ?_)
    rintro ⟨item', hitem, hsample⟩
    refine ⟨item', hitem.imp_right ?_, hsample⟩
    rintro ⟨next', heq⟩
    rw [hstoring] at heq
    obtain ⟨rfl, -⟩ := Prod.mk.inj (Option.some.inj heq)
    exact ⟨0, rfl⟩

/-- The storage thread finishes a batch, whose sample is in the table since its first
write. -/
theorem written (h : d.Keeps sessions published dropped taken) {item : Persist} {next : ℕ}
    (hstoring : d.storing = some (item, next)) (hnext : 0 < next) (shared : Snapshot)
    (htelemetry : shared.telemetry = d.shared.telemetry)
    (hdropped : shared.droppedSamples = d.shared.droppedSamples) :
    Daemon.Keeps { d with storing := none, shared := shared } sessions published dropped taken := by
  refine ⟨h.below, h.current, h.session, h.ordered, h.drawn, htelemetry.trans h.last, h.batches,
    h.inOrder, fun _ _ heq => absurd heq.symm (Option.some_ne_none _), h.own,
    fun _ _ heq => absurd heq.symm (Option.some_ne_none _), fun t ht => ?_, h.refused.1,
    h.refused.2.trans hdropped.symm⟩
  obtain hdrop | ⟨item', hitem, rfl⟩ | hstored := h.accounted t ht
  · exact .inl hdrop
  · obtain hmem | ⟨next', heq⟩ := hitem
    · exact .inr (.inl ⟨item', .inl hmem, rfl⟩)
    · rw [hstoring] at heq
      obtain ⟨rfl, rfl⟩ := Prod.mk.inj (Option.some.inj heq)
      exact .inr (.inr (.inl (h.recorded item next hstoring hnext)))
  · exact .inr (.inr hstored)

/-- The storage thread takes a batch, the oldest of the queue. Nothing of it is stored
yet. -/
theorem take (h : d.Keeps sessions published dropped taken) {item : Persist}
    {queue : List Persist} (hstoring : d.storing = none) (hqueue : d.queue = item :: queue) :
    Daemon.Keeps { d with queue := queue, storing := some (item, 0) } sessions published dropped
      (taken ++ [item]) := by
  refine ⟨h.below, h.current, h.session, h.ordered, h.drawn, h.last, fun item' hitem => ?_, ?_, ?_,
    fun key r hr hkey => ?_, ?_, fun t ht => ?_, h.refused⟩
  · refine h.batches item' ?_
    rw [hqueue]
    simpa using hitem
  · have hinOrder := h.inOrder
    rw [hqueue] at hinOrder
    simpa using hinOrder
  · rintro item' next' heq
    obtain ⟨rfl, -⟩ := Prod.mk.inj (Option.some.inj heq)
    exact List.getLast?_concat
  · obtain ⟨⟨item', hitem, hsample⟩, hrow⟩ := h.own key r hr hkey
    exact ⟨⟨item', List.mem_append_left _ hitem, hsample⟩, hrow⟩
  · rintro item' next' heq hnext
    obtain ⟨-, rfl⟩ := Prod.mk.inj (Option.some.inj heq)
    exact absurd hnext (lt_irrefl _)
  · refine (h.accounted t ht).imp_right (Or.imp_left ?_)
    rintro ⟨item', hitem, hsample⟩
    refine ⟨item', ?_, hsample⟩
    obtain hmem | ⟨next', heq⟩ := hitem
    · rw [hqueue, List.mem_cons] at hmem
      obtain rfl | hmem := hmem
      · exact .inr ⟨0, rfl⟩
      · exact .inl hmem
    · rw [hstoring] at heq
      cases heq

/-- What is stored has come no later than the batch in hand. -/
theorem sequence_le (h : d.Keeps sessions published dropped taken) {item : Persist} {next : ℕ}
    (hstoring : d.storing = some (item, next)) {t : Telemetry} (ht : t ∈ published)
    (hstored : d.HasStored t) : t.sequence ≤ item.sample.sequence := by
  obtain ⟨⟨item', hitem, hsample⟩, -⟩ := h.own t.key t.row hstored (h.drawn t ht)
  have hsample : item'.sample = t := hsample
  obtain ⟨front, rfl⟩ := List.getLast?_eq_some_iff.1 (h.storing item next hstoring)
  have hinOrder := (List.pairwise_append.1 h.inOrder).1
  obtain hitem | hitem := List.mem_append.1 hitem
  · rw [← hsample]
    exact (List.pairwise_append.1 hinOrder).2.2 item' hitem item (List.mem_singleton_self item)
  · rw [← hsample, List.mem_singleton.1 hitem]

/-- The batch in hand carries a published sample. -/
theorem sample_mem (h : d.Keeps sessions published dropped taken) {item : Persist} {next : ℕ}
    (hstoring : d.storing = some (item, next)) : item ∈ taken ∧ item.sample ∈ published := by
  have hitem := List.mem_of_getLast? (h.storing item next hstoring)
  exact ⟨hitem, h.batches item (List.mem_append_left _ hitem)⟩

/-- A write keeps the invariant if it only inserts the sample of its batch, only removes
what is 48 hours older than that, and leaves that sample in the table. -/
theorem store (h : d.Keeps sessions published dropped taken) {item : Persist} {next : ℕ}
    (hstoring : d.storing = some (item, next)) {history : History}
    (hold : ∀ key r, history.db.samples.find? key = some r →
      d.history.db.samples.find? key = some r ∨ key = item.sample.key ∧ r = item.sample.row)
    (hkeep : ∀ t, d.HasStored t → history.db.samples.find? t.key = some t.row ∨
      t.capturedAtMs < item.sample.capturedAtMs - 48 * 3600000)
    (hrecorded : history.db.samples.find? item.sample.key = some item.sample.row) :
    Daemon.Keeps { d with history := history, storing := some (item, next + 1) } sessions published
      dropped taken := by
  obtain ⟨htaken, hpublished⟩ := h.sample_mem hstoring
  -- what is removed has come before the batch in hand
  have hstays (t : Telemetry) (ht : t ∈ published) (hstored : d.HasStored t) :
      history.db.samples.find? t.key = some t.row ∨ t.sequence < item.sample.sequence ∧
        t.capturedAtMs < item.sample.capturedAtMs - 48 * 3600000 := by
    refine (hkeep t hstored).imp_right fun hlt => ⟨?_, hlt⟩
    refine (h.sequence_le hstoring ht hstored).lt_of_ne fun hseq => ?_
    rw [h.eq_of_sequence ht hpublished hseq] at hlt
    omega
  refine ⟨h.below, h.current, h.session, h.ordered, h.drawn, h.last, h.batches,
    h.inOrder, ?_, fun key r hr hkey => ?_, ?_, fun t ht => ?_, h.refused⟩
  · rintro item' next' heq
    obtain ⟨rfl, -⟩ := Prod.mk.inj (Option.some.inj heq)
    exact h.storing item next hstoring
  · obtain hr | ⟨rfl, rfl⟩ := hold key r hr
    · exact h.own key r hr hkey
    · exact ⟨⟨item, htaken, rfl⟩, rfl, rfl⟩
  · rintro item' next' heq -
    obtain ⟨rfl, -⟩ := Prod.mk.inj (Option.some.inj heq)
    exact hrecorded
  · obtain hdrop | ⟨item', hitem, hsample⟩ | hstored | ⟨later, hlater, hseq, hlt, hstored⟩ :=
      h.accounted t ht
    · exact .inl hdrop
    · refine .inr (.inl ⟨item', hitem.imp_right ?_, hsample⟩)
      rintro ⟨next', heq⟩
      rw [hstoring] at heq
      obtain ⟨rfl, -⟩ := Prod.mk.inj (Option.some.inj heq)
      exact ⟨next + 1, rfl⟩
    · exact .inr (.inr ((hstays t ht hstored).imp_right fun hexpired =>
        ⟨item.sample, hpublished, hexpired.1, hexpired.2, hrecorded⟩))
    · refine .inr (.inr (.inr ?_))
      obtain hstored' | ⟨hseq', hlt'⟩ := hstays later hlater hstored
      · exact ⟨later, hlater, hseq, hlt, hstored'⟩
      · exact ⟨item.sample, hpublished, hseq.trans hseq', by omega, hrecorded⟩

/-- The storage thread makes a write. The first one inserts the batch's sample at its
key, where there is nothing or the same; a pruning at the end deletes old rows, never
the batch's own; the writes between them leave the samples alone. -/
theorem write (h : d.Keeps sessions published dropped taken)
    {scan : List (String × String × ℤ) → List (String × String × ℤ)} {item : Persist} {next : ℕ}
    {w : History → Except String History} {history : History}
    (hstoring : d.storing = some (item, next)) (hw : (item.writes scan)[next]? = some w)
    (hok : w d.history = .ok history) :
    Daemon.Keeps { d with history := history, storing := some (item, next + 1) } sessions published
      dropped taken := by
  obtain ⟨-, hpublished⟩ := h.sample_mem hstoring
  obtain ⟨-, hsamples⟩ | ⟨hnext, hsamples | rfl⟩ := Persist.write_samples hw hok
  · have hfind := fun key =>
      (congrArg (·.find? key) hsamples).trans (Table.find?_insertOrIgnore _ _ key _)
    refine h.store hstoring (fun key r hr => ?_) (fun t ht => .inl ?_) ?_
    · rw [hfind] at hr
      split_ifs at hr with hkey
      · cases hfound : d.history.db.samples.find? key with
        | none =>
            rw [hfound] at hr
            exact .inr ⟨hkey, (Option.some.inj hr).symm⟩
        | some r' =>
            rw [hfound] at hr
            exact .inl hr
      · exact .inl hr
    · rw [hfind, show d.history.db.samples.find? t.key = some t.row from ht]
      split_ifs <;> rfl
    · rw [hfind, if_pos rfl]
      cases hfound : d.history.db.samples.find? item.sample.key with
      | none => rfl
      | some r => exact hfound.symm.trans (h.hasStored_of_key hpublished hfound)
  · refine h.store hstoring (fun key r hr => .inl ?_) (fun t ht => .inl ?_) ?_
    · rwa [hsamples] at hr
    · rw [hsamples]
      exact ht
    · rw [hsamples]
      exact h.recorded item next hstoring hnext
  · have hpruned := fun (t : Telemetry) (ht : d.HasStored t) =>
      (d.history.db.find?_prune scan item.sample.capturedAtMs t.key t.row).2 ht
    refine h.store hstoring (fun key r hr => .inl ?_) hpruned ?_
    · exact (d.history.db.find?_prune scan item.sample.capturedAtMs key r).1 hr
    · -- the batch's own sample is not that old
      refine (hpruned item.sample (h.recorded item next hstoring hnext)).resolve_right ?_
      have hrow : item.sample.row.atMs = item.sample.capturedAtMs := rfl
      omega

/-- A sample is published: it is in the batch that is sent, or dropped. It has the
sequence number that all earlier ones are below, so what is published and what is sent
stay in order. -/
theorem next (h : d.Keeps sessions published dropped taken) {t : Telemetry}
    {sent : List Persist} {lost : List Telemetry} (ht : d.monitor.phase.sample = some t)
    (hsequence : d'.monitor.sequence = d.monitor.sequence + 1)
    (hphase : d'.monitor.phase = .top) (hsession : d'.monitor.session = d.monitor.session)
    (htelemetry : d'.shared.telemetry = some t)
    (hdropped : d'.shared.droppedSamples = d.shared.droppedSamples + lost.length)
    (hqueue : d'.queue = d.queue ++ sent) (hstoring : d'.storing = d.storing)
    (hsamples : d'.history.db.samples = d.history.db.samples)
    (hsent : ∀ item ∈ sent, item.sample = t) (hlost : lost.Sublist [t])
    (hplace : t ∈ lost ∨ ∃ item ∈ sent, item.sample = t) :
    d'.Keeps sessions (published ++ [t]) (dropped ++ lost) taken := by
  obtain ⟨hcurrent, hdrawn⟩ := h.current t ht
  have hordered : (published ++ [t]).Pairwise fun a b => a.sequence < b.sequence := by
    refine List.pairwise_append.2 ⟨h.ordered, List.pairwise_singleton _ _, fun t' ht' u hu => ?_⟩
    rw [List.mem_singleton.1 hu, hcurrent]
    exact h.below t' ht'
  refine ⟨?_, ?_, hsession ▸ h.session, hordered, ?_, ?_, ?_, ?_, ?_, ?_, ?_, ?_, ?_⟩
  · intro t' ht'
    rw [hsequence]
    obtain ht' | ht' := List.mem_append.1 ht'
    · exact (h.below t' ht').trans (Nat.lt_succ_self _)
    · rw [List.mem_singleton.1 ht', hcurrent]
      exact Nat.lt_succ_self _
  · rw [hphase]
    exact fun t' ht' => absurd ht'.symm (Option.some_ne_none t')
  · intro t' ht'
    obtain ht' | ht' := List.mem_append.1 ht'
    · exact h.drawn t' ht'
    · rwa [List.mem_singleton.1 ht']
  · rw [htelemetry, List.getLast?_concat]
  · intro item hitem
    rw [hqueue, ← List.append_assoc, List.mem_append] at hitem
    obtain hitem | hitem := hitem
    · exact List.mem_append_left _ (h.batches item hitem)
    · rw [hsent item hitem]
      exact List.mem_append_right _ (List.mem_singleton_self t)
  · rw [hqueue, ← List.append_assoc]
    refine inOrder_append hordered (fun item hitem => ?_) h.inOrder fun item hitem => ?_
    · exact List.mem_append_left _ (h.batches item hitem)
    · rw [List.getLast?_concat, hsent item hitem]
  · rw [hstoring]
    exact h.storing
  · rw [hsamples]
    exact h.own
  · intro item next hitem hnext
    rw [hstoring] at hitem
    rw [Daemon.HasStored, hsamples]
    exact h.recorded item next hitem hnext
  · intro t' ht'
    rw [Daemon.HasStored, hsamples]
    obtain ht' | ht' := List.mem_append.1 ht'
    · refine (h.accounted t' ht').imp (List.mem_append_left _)
        (Or.imp ?_ (Or.imp_right fun hold => hold.mono (List.subset_append_left _ _) hsamples))
      rintro ⟨item, hitem, hsample⟩
      refine ⟨item, hitem.imp (fun hmem => ?_) (fun hmem => ?_), hsample⟩
      · rw [hqueue]
        exact List.mem_append_left _ hmem
      · rwa [hstoring]
    · rw [List.mem_singleton.1 ht']
      refine hplace.imp (List.mem_append_right _) fun hitem => .inl ?_
      obtain ⟨item, hitem, hsample⟩ := hitem
      refine ⟨item, .inl ?_, hsample⟩
      rw [hqueue]
      exact List.mem_append_right _ hitem
  · refine ⟨h.refused.1.append hlost, ?_⟩
    rw [List.length_append, h.refused.2, hdropped]

/-- A poll succeeds. Its sample is published with a batch of its own, or, if the queue
refuses that, without one and counted. -/
theorem publish (h : d.Keeps sessions published dropped taken) {t : Telemetry}
    (hphase : d.monitor.phase = .bounded t) (full : Bool) :
    (d.publish t full).Keeps sessions (published ++ [t])
      (dropped ++ d.drops (.publish full)) taken := by
  have ht : d.monitor.phase.sample = some t := by
    rw [hphase]
    rfl
  obtain ⟨-, -, hhistory, hstoring, -, -, -, -, -, htelemetry, -⟩ := d.publish_frame t full
  obtain ⟨hsequence, htop, hsession, hdropped, sent, hqueue, hplace⟩ := d.publish_sends hphase full
  refine h.next ht hsequence htop hsession htelemetry hdropped hqueue hstoring (by rw [hhistory])
    ?_ ?_ ?_
  · obtain ⟨rfl, -⟩ | ⟨-, item, rfl, rfl⟩ := hplace
    · exact fun item hitem => absurd hitem List.not_mem_nil
    · exact fun item' hitem => by rw [List.mem_singleton.1 hitem]
  · obtain ⟨-, heq⟩ | ⟨heq, -⟩ := hplace
    · rw [heq]
    · rw [heq]
      exact List.nil_sublist _
  · obtain ⟨-, heq⟩ | ⟨-, item, rfl, rfl⟩ := hplace
    · rw [heq]
      exact .inl (List.mem_singleton_self t)
    · exact .inr ⟨item, List.mem_singleton_self item, rfl⟩

/-- A poll fails: the last sample is sent again, with what is pending. -/
theorem pollFailed (h : d.Keeps sessions published dropped taken) (hpoll : d.mayPoll)
    (error : String) (event : Option Incident) (engine : AlertEngine) (full : Bool) :
    (d.pollFailed error event engine full).Keeps sessions published dropped taken := by
  obtain ⟨-, -, hhistory, hstoring, -, -, -, -, -, htelemetry, -⟩ :=
    d.pollFailed_frame error event engine full
  obtain ⟨hsequence, hphase, hsession, hdropped, sent, hqueue, hsent⟩ :=
    d.pollFailed_sends error event engine full
  refine h.frame sent (hsequence ▸ Nat.le_succ _) (fun t ht => ?_)
    (hsession ▸ h.session) htelemetry hdropped hqueue (fun item hitem => ?_) hstoring
    (by rw [hhistory])
  · rw [hphase, hpoll.phase] at ht
    cases ht
  · exact h.last.symm.trans (hsent item hitem)

/-- An action that does not concern the samples. -/
theorem same (h : d.Keeps sessions published dropped taken)
    (hsequence : d'.monitor.sequence = d.monitor.sequence)
    (hphase : d'.monitor.phase.sample = d.monitor.phase.sample)
    (hsession : d'.monitor.session = d.monitor.session)
    (htelemetry : d'.shared.telemetry = d.shared.telemetry)
    (hdropped : d'.shared.droppedSamples = d.shared.droppedSamples)
    (hqueue : d'.queue = d.queue) (hstoring : d'.storing = d.storing)
    (hsamples : d'.history.db.samples = d.history.db.samples) :
    d'.Keeps sessions published dropped taken := by
  refine h.frame [] hsequence.ge ?_ (hsession ▸ h.session) htelemetry hdropped
    (hqueue.trans (List.append_nil _).symm) (fun _ hmem => absurd hmem List.not_mem_nil)
    hstoring hsamples
  rw [hphase, hsequence]
  exact h.current

/-- A device is opened, with a session of this process. No sample is worked on at that
time, and nothing is sent. -/
theorem openDevice (h : d.Keeps sessions published dropped taken) (hopen : d.mayOpen)
    (info : DeviceInfo) {session : String} (hsession : session ∈ sessions) (readable : Bool) :
    (d.openDevice info session readable).Keeps sessions published dropped taken := by
  have hphase : d.monitor.phase.sample = none := by
    rw [hopen.phase]
    rfl
  have hcurrent : ∀ n : ℕ, ∀ t, d.monitor.phase.sample = some t →
      t.sequence = n ∧ t.sessionId ∈ sessions := by
    intro n t ht
    rw [hphase] at ht
    cases ht
  have hnone : ∀ item ∈ ([] : List Persist), published.getLast? = some item.sample :=
    fun _ hmem => absurd hmem List.not_mem_nil
  by_cases hsame : d.monitor.currentId = info.id
  · rw [Daemon.openDevice_same hsame]
    exact h.frame [] le_rfl (hcurrent _) hsession rfl rfl (List.append_nil _).symm hnone rfl rfl
  · rw [Daemon.openDevice_other hsame]
    exact h.frame [] le_rfl (hcurrent _) hsession rfl rfl (List.append_nil _).symm hnone rfl rfl

/-- What an action does that neither publishes nor takes anything: a poll gives its
sample the next number, a failed poll may send the last sample again, with the
transition of its outage, and storage goes on with its batch. -/
theorem does (h : d.Keeps sessions published dropped taken) {op : DaemonOp}
    (hdoes : d.Does op d') (hop : op.staysUp) (hpublish : ∀ full, op ≠ .publish full)
    (htake : op ≠ .take)
    (hsession : ∀ session, op.session = some session → session ∈ sessions) :
    d'.Keeps sessions published dropped taken := by
  cases hdoes with
  | restart _ => cases hop
  | publish _ => exact absurd rfl (hpublish _)
  | take _ _ => exact absurd rfl htake
  | openDevice hopen _ => exact h.openDevice hopen _ (hsession _ rfl) _
  | sync hpoll =>
      refine h.frame [] le_rfl (fun t ht => ?_) h.session rfl rfl
        (List.append_nil _).symm (fun _ hmem => absurd hmem List.not_mem_nil) rfl rfl
      obtain rfl := Option.some.inj ht
      exact ⟨rfl, h.session⟩
  | pollFailed hpoll _ => exact h.pollFailed hpoll _ _ _ _
  | write hstoring hw hok => exact h.write hstoring hw hok
  | startOver _ hstoring => exact h.startOver hstoring _ rfl rfl
  | @written item next hstoring hdone =>
      have hwrites : 0 < (item.writes id).length := by simp [Persist.writes]
      exact h.written hstoring (hwrites.trans_le hdone) _ rfl rfl
  | observe hphase _ =>
      refine h.same rfl ?_ rfl rfl rfl rfl rfl rfl
      rw [hphase]
      rfl
  | bound hphase =>
      apply h.same <;> simp [Daemon.boundPending, Phase.sample, hphase]
  | ackCommit hdb =>
      refine h.same rfl rfl rfl rfl rfl rfl rfl ?_
      rw [(Database.acknowledge_ok hdb).2]
  | setPolicy hdb =>
      refine h.same rfl rfl rfl rfl rfl rfl rfl ?_
      rw [(Database.setPolicy_ok hdb).2]
  | _ => exact h.same rfl rfl rfl rfl rfl rfl rfl rfl

/-- **No action loses a sample.** A sample is in the queue, in hand, stored or counted
as dropped; a batch that fails is still in hand, and one that is stored again finds its
row. -/
theorem step (h : d.Keeps sessions published dropped taken) {op : DaemonOp} (hop : op.staysUp)
    (hsession : ∀ session, op.session = some session → session ∈ sessions) :
    (d.step op).Keeps sessions (published ++ d.publishes op) (dropped ++ d.drops op)
      (taken ++ d.takes op) := by
  cases op with
  | publish full =>
      cases hphase : d.monitor.phase with
      | bounded t =>
          simp only [Daemon.step, hphase, Daemon.publishes, Daemon.takes, List.append_nil]
          exact h.publish hphase full
      | _ => simpa [Daemon.step, hphase] using h
  | take =>
      cases hstoring : d.storing with
      | some batch => simpa [Daemon.step, hstoring] using h
      | none =>
          cases hqueue : d.queue with
          | nil => simpa [Daemon.step, hstoring, hqueue] using h
          | cons item queue =>
              simp only [Daemon.step, hstoring, hqueue, Daemon.publishes, Daemon.drops,
                Daemon.takes, List.append_nil]
              exact h.take hstoring hqueue
  | _ =>
      simp only [Daemon.publishes, Daemon.drops, Daemon.takes, List.append_nil]
      obtain hstep | hdoes := d.step_does _
      · rwa [hstep]
      · exact h.does hdoes hop (fun _ heq => by cases heq) (fun heq => by cases heq) hsession

end Daemon.Keeps

/-! ### Runs -/

/-- The sessions a process draws. -/
def drawnSessions (session : String) (ops : List DaemonOp) : List String :=
  session :: ops.filterMap DaemonOp.session

/-- The accounts of the samples hold in every run of one process, if the table has no
samples of its sessions at the start, whose names are drawn anew. -/
theorem Daemon.keeps_run {db : Database} {issued : List Incident} {simulate : Bool}
    {session : String} {at_ : ℤ} {d : Daemon}
    (hstart : Daemon.start db issued simulate session at_ = .ok d) {sessions : List String}
    (hsession : session ∈ sessions) (hfresh : ∀ key ∈ db.samples.keys, key.2.1 ∉ sessions)
    (ops : List DaemonOp) (hops : ∀ op ∈ ops, op.staysUp)
    (hdrawn : ∀ op ∈ ops, ∀ session, op.session = some session → session ∈ sessions) :
    (d.run ops).Keeps sessions (d.published ops) (d.dropped ops) (d.taken ops) := by
  rw [Daemon.start_eq] at hstart
  obtain rfl := Except.ok.inj hstart
  induction ops using List.reverseRecOn with
  | nil =>
      have hnone : ∀ {α : Type} {P : α → Prop}, ∀ a ∈ ([] : List α), P a :=
        fun a ha => absurd ha List.not_mem_nil
      refine ⟨hnone, fun t ht => ?_, hsession, .nil, hnone, rfl, hnone, .nil,
        fun item next hitem => ?_, fun key r hr hkey => ?_, fun item next hitem => ?_, hnone,
        .slnil, rfl⟩
      · exact absurd ht.symm (Option.some_ne_none t)
      · exact absurd hitem.symm (Option.some_ne_none _)
      · exact absurd hkey (hfresh key (Table.find?_isSome_iff.1 (Option.isSome_of_mem hr)))
      · exact absurd hitem.symm (Option.some_ne_none _)
  | append_singleton ops op ih =>
      have hkeeps := ih (fun op' h => hops op' (List.mem_append_left _ h))
        fun op' h => hdrawn op' (List.mem_append_left _ h)
      have hlast : op ∈ ops ++ [op] := List.mem_append_right _ (List.mem_singleton_self op)
      simp only [Daemon.run_concat, Daemon.published, Daemon.dropped, Daemon.taken,
        Transition.outputs_concat]
      exact hkeeps.step (hops op hlast) (hdrawn op hlast)

/-- **Where the samples go.**  Take any run of one process of the daemon whose sessions are
not those of samples that are already stored.  The published samples are numbered in order;
those that were refused are counted; every other one is in a batch that is not finished, or
in the table, or 48 hours older than a later one that is in the table.  The table has nothing
else of these sessions, each sample at its own key, and the batches carry the samples in
order. -/
theorem samples_reach_the_store {db : Database} {issued : List Incident} {simulate : Bool}
    {session : String} {at_ : ℤ} {d : Daemon}
    (hstart : Daemon.start db issued simulate session at_ = .ok d) (ops : List DaemonOp)
    (hops : ∀ op ∈ ops, op.staysUp)
    (hfresh : ∀ key ∈ db.samples.keys, key.2.1 ∉ drawnSessions session ops) :
    let d' := d.run ops
    (d.published ops).Pairwise (fun a b => a.sequence < b.sequence) ∧
    ((d.dropped ops).Sublist (d.published ops) ∧
      (d.dropped ops).length = d'.shared.droppedSamples) ∧
    (∀ t ∈ d.published ops, t ∈ d.dropped ops ∨ d'.Holds t ∨ d'.HasStored t ∨
      d'.Expired (d.published ops) t) ∧
    (∀ key r, d'.history.db.samples.find? key = some r → key.2.1 ∈ drawnSessions session ops →
      r.json ∈ d.published ops ∧ key = r.json.key ∧ r = r.json.row) ∧
    (d.taken ops ++ d'.queue).Pairwise (fun a b => a.sample.sequence ≤ b.sample.sequence) ∧
    ∀ item ∈ d.taken ops ++ d'.queue, item.sample ∈ d.published ops := by
  intro d'
  have h : d'.Keeps (drawnSessions session ops) (d.published ops) (d.dropped ops) (d.taken ops) :=
    Daemon.keeps_run hstart (List.mem_cons_self ..) hfresh ops hops
      fun op hop s hs => List.mem_cons_of_mem _ (List.mem_filterMap.2 ⟨op, hop, hs⟩)
  refine ⟨h.ordered, h.refused, h.accounted, fun key r hr hkey => ?_, h.inOrder, h.batches⟩
  obtain ⟨⟨item, hitem, hsample⟩, hrow⟩ := h.own key r hr hkey
  exact ⟨hsample ▸ h.batches item (List.mem_append_left _ hitem), hrow⟩

/-- The first sample is stored and the second one refused; the failed poll that follows
sends the second one again. -/
def refusedOnce : List DaemonOp := [.openSimulator,
  .sync { simulatedSample 0 false with capturedAtMs := 0, monotonicMs := 0 },
  .observe ("a" ++ ·), .bound, .publish false, .take, .write id, .write id, .written,
  .sync { simulatedSample 1 false with capturedAtMs := 1000, monotonicMs := 1000 },
  .observe ("b" ++ ·), .bound, .publish true, .pollFailed "simulated disconnect" "c" 2000 false,
  .take, .write id]

/-- The queue refuses the second sample, which is counted as dropped; the batch of the
outage has it again, so that it is stored in the end. -/
theorem samples_reach_the_store_late :
    ∃ d, Daemon.start {} [] true "s" 0 = .ok d ∧ (d.run refusedOnce).shared.droppedSamples = 1 ∧
      (d.run refusedOnce).history.db.samples.rows.length = 2 ∧
      ∀ t ∈ d.published refusedOnce, t ∈ d.dropped refusedOnce ∨ (d.run refusedOnce).Holds t ∨
        (d.run refusedOnce).HasStored t ∨
        (d.run refusedOnce).Expired (d.published refusedOnce) t := by
  refine ⟨_, Daemon.start_eq .., by decide +kernel, by decide +kernel, ?_⟩
  exact (samples_reach_the_store (Daemon.start_eq ..) refusedOnce (by decide)
    fun key hkey => absurd hkey List.not_mem_nil).2.2.1

end Railwatch
