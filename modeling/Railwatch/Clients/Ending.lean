/-
# How a stream ends

`src/plugin.rs`: `--count` and the errors of a stream.  `stream_keeps_to_its_count` says how
many snapshots a stream publishes, and why it ends.

A stream ends when its count is reached, with a broken pipe, or with an error that it
does not try again after.  `Counted` ties the counter to the lines that have been
written, over all connections; `Ended` lists the reasons, each with the step that it
comes from.
-/

import Railwatch.Clients.Stream

namespace Railwatch.Plugin

open Effects

/-- What is known about the number of snapshots: the counter has it, and a stream with a
count that has not ended is below it and has met no error. -/
structure Stream.Counted (s : Stream) : Prop where
  /-- `delivered` counts the snapshots that were published. -/
  delivered : s.published.length = s.delivered
  /-- There are never more than were asked for. -/
  atMost : ∀ n, s.count = some n → s.delivered ≤ n
  /-- As long as it runs there are fewer, and no connection was lost. -/
  running : s.Running → ∀ n, s.count = some n →
    s.delivered < n ∧ ∀ line ∈ s.output, line.isOffline = false

/-- A turn that goes through publishes one snapshot, and no more than the count asks
for. -/
theorem Turned.counted {t : Turn} {nextHistory : ℕ} {s s' : Stream} {rest : List Event}
    (h : Turned t nextHistory s s' rest) (hs : s.Counted) (hrunning : s.Running) :
    s'.published.length = s'.delivered ∧ ∀ n, s'.count = some n →
      s'.delivered ≤ n ∧ ∀ line ∈ s'.output, line.isOffline = false := by
  obtain ⟨sent, -, hpublished⟩ := h.published
  refine ⟨by rw [hpublished, List.length_append, hs.delivered, h.delivered]; rfl, ?_⟩
  intro n hn
  have hbelow := hs.running hrunning n (h.count ▸ hn)
  exact ⟨by rw [h.delivered]; exact hbelow.1, h.quiet hbelow.2⟩

/-- A stream that fails is not in danger of passing its count: no snapshot is published
by the failure, and if the stream goes on at all, it has no count. -/
theorem Stream.lost_counted {s : Stream} (hdelivered : s.published.length = s.delivered)
    (hatMost : ∀ n, s.count = some n → s.delivered ≤ n) (e : StreamError)
    (offline : Except StreamError Unit) : (s.lost e offline).Counted := by
  obtain ⟨-, heq⟩ | ⟨-, ⟨e', -, heq⟩ | heq⟩ := s.lost_cases e offline
  · rw [heq]
    exact ⟨hdelivered, hatMost, fun h => absurd rfl (h _)⟩
  · rw [heq]
    exact ⟨hdelivered, hatMost, fun h => absurd rfl (h _)⟩
  · rw [heq]
    refine ⟨?_, hatMost, fun h n hn => ?_⟩
    · simp only [Stream.published, List.filterMap_append, Event.data, List.filterMap_cons,
        List.filterMap_nil, List.append_nil]
      exact hdelivered
    · have hsome : s.count.isSome = true := by rw [show s.count = some n from hn]; rfl
      exact absurd (if_pos hsome) (h _)

/-- A turn that fails has published what it counted. -/
theorem Failed.counted {t : Turn} {nextHistory : ℕ} {s s' : Stream} {e : StreamError}
    (h : Failed t nextHistory s s' e) (hs : s.Counted) (hrunning : s.Running) :
    s'.published.length = s'.delivered ∧ ∀ n, s'.count = some n →
      s'.delivered ≤ n ∧ ∀ line ∈ s'.output, line.isOffline = false := by
  obtain rfl | hturned := h.state
  · exact ⟨hs.delivered, fun n hn => ⟨hs.atMost n hn, (hs.running hrunning n hn).2⟩⟩
  · exact hturned.counted hs hrunning

/-- A stream in a phase that is not `stopped` runs. -/
theorem running_of_phase {s : Stream} {p : Phase} (h : s.phase = p)
    (hp : ∀ result, p ≠ .stopped result) : s.Running := by
  intro result hresult
  exact hp result (h ▸ hresult)

/-- The invariant of the count: what has been delivered is what has been published,
never more than the count, and less than the count while the stream is running. A count
of zero is refused before the stream starts, which is why it is left out. -/
theorem run_counted {count : Option ℕ} (timezone : String) (hcount : count ≠ some 0)
    (ops : List Op) : ((start count timezone).run ops).Counted := by
  refine Stream.run_induction ?_ ?_ ops
  · refine ⟨rfl, fun n _ => Nat.zero_le n, fun _ n hn => ⟨?_, fun line hline => ?_⟩⟩
    · refine Nat.pos_of_ne_zero fun h0 => hcount ?_
      rw [← h0]
      exact hn
    · exact absurd hline List.not_mem_nil
  · intro s op s' hs hdoes
    cases hdoes with
    | connected hphase =>
        exact ⟨hs.delivered, hs.atMost, fun _ => hs.running (running_of_phase hphase nofun)⟩
    | @refused elapsed e offline hphase =>
        exact Stream.lost_counted (s := { s with clock := s.clock + elapsed }) hs.delivered
          hs.atMost e offline
    | turned hphase hturn hlimit =>
        obtain ⟨hdelivered, hmost⟩ := hturn.counted hs (running_of_phase hphase nofun)
        refine ⟨hdelivered, fun n hn => (hmost n hn).1, fun _ n hn => ⟨?_, (hmost n hn).2⟩⟩
        rw [← hturn.count, hn] at hlimit
        rw [hturn.delivered]
        simpa using hlimit
    | last hphase hturn hlimit =>
        obtain ⟨hdelivered, hmost⟩ := hturn.counted hs (running_of_phase hphase nofun)
        exact ⟨hdelivered, fun n hn => (hmost n hn).1, fun h => absurd rfl (h _)⟩
    | failed hphase hfailed =>
        obtain ⟨hdelivered, hmost⟩ := hfailed.counted hs (running_of_phase hphase nofun)
        exact Stream.lost_counted hdelivered (fun n hn => (hmost n hn).1) _ _

/-- Nothing happens to a stream that has ended. -/
theorem Stream.step_of_stopped {s : Stream} {result : Except StreamError Unit}
    (h : s.phase = .stopped result) (op : Op) : s.step op = s := by
  cases op <;> simp only [Stream.step, h]

/-- A stream that has ended did so in one step. Its state before that step was running,
the step is one of `Does`, and the steps after it have changed nothing. -/
theorem Stream.stopped_at {s : Stream} (hs : s.Running) {ops : List Op}
    {result : Except StreamError Unit} (h : (s.run ops).phase = .stopped result) :
    ∃ before op after, ops = before ++ op :: after ∧ (s.run before).Running ∧
      s.run ops = s.run (before ++ [op]) ∧ (s.run before).Does op (s.run ops) := by
  induction ops using List.reverseRecOn with
  | nil => exact absurd h (hs result)
  | append_singleton ops op ih =>
      have hrun : s.run (ops ++ [op]) = (s.run ops).step op := Transition.run_concat ..
      by_cases hrunning : (s.run ops).Running
      · obtain heq | hdoes := (s.run ops).step_does op
        · rw [hrun, heq] at h
          exact absurd h (hrunning result)
        · exact ⟨ops, op, [], rfl, hrunning, rfl, hrun ▸ hdoes⟩
      · obtain ⟨result', hresult'⟩ := not_forall_not.1 hrunning
        have heq := Stream.step_of_stopped hresult' op
        rw [hrun, heq] at h ⊢
        obtain ⟨before, op', after, hops, hbefore, hrun', hdoes⟩ := ih h
        exact ⟨before, op', after ++ [op], by rw [hops, List.append_assoc]; rfl, hbefore, hrun',
          hdoes⟩

/-- The ways in which a step can end a stream: its count is reached; a pipe is broken, on
either side; the line of an error cannot be written; or, if it has a count, any error. -/
inductive Ended (s : Stream) (op : Op) : Except StreamError Unit → Prop where
  | counted (h : s.count = some s.published.length) : Ended s op (.ok ())
  | brokenPipe {e : StreamError} (hfails : op.Fails e) (hpipe : e.brokenPipe = true) :
      Ended s op (.ok ())
  | unwritable {e e' : StreamError} (hfails : op.Fails e') (hpipe : e'.brokenPipe = false)
      (hoffline : op.offline = .error e) : Ended s op (.error e)
  | failed {e : StreamError} {lines : List Event} (hfails : op.Fails e)
      (hpipe : e.brokenPipe = false) (hcount : s.count.isSome)
      (hlast : s.output = lines ++ [.offline e.text])
      (hquiet : ∀ line ∈ lines, line.isOffline = false) : Ended s op (.error e)

/-- A stream that a lost connection ends has the end that `Ended` allows: the pipe is
broken, or the line of the failure cannot be written, or the stream has a count and
reports its error instead of trying again. -/
theorem ended_of_lost {s : Stream} (op : Op) {e : StreamError} (hfails : op.Fails e)
    (hquiet : ∀ n, s.count = some n → ∀ line ∈ s.output, line.isOffline = false)
    {result : Except StreamError Unit} (h : (s.lost e op.offline).phase = .stopped result) :
    Ended (s.lost e op.offline) op result := by
  obtain ⟨hpipe, heq⟩ | ⟨hpipe, ⟨e', hoffline, heq⟩ | heq⟩ := s.lost_cases e op.offline
  · rw [heq] at h ⊢
    obtain rfl := Phase.stopped.inj h
    exact .brokenPipe hfails hpipe
  · rw [heq] at h ⊢
    obtain rfl := Phase.stopped.inj h
    exact .unwritable hfails hpipe hoffline
  · rw [heq] at h ⊢
    cases hcount : s.count with
    | none =>
        rw [hcount] at h
        cases h
    | some n =>
        have hresult : Phase.stopped (.error e) = .stopped result := by
          rw [← h, hcount]
          rfl
        obtain rfl := Phase.stopped.inj hresult
        exact .failed hfails hpipe (by simp) rfl (hquiet n hcount)

/-- A lost connection does not change the count that was asked for. -/
@[simp] theorem Stream.lost_count (s : Stream) (e : StreamError)
    (offline : Except StreamError Unit) : (s.lost e offline).count = s.count := by
  obtain ⟨-, heq⟩ | ⟨-, ⟨e', -, heq⟩ | heq⟩ := s.lost_cases e offline <;> rw [heq]

/-- Nor does any other step. -/
theorem Stream.Does.count {s s' : Stream} {op : Op} (h : s.Does op s') : s'.count = s.count := by
  cases h with
  | connected _ => rfl
  | refused _ => exact Stream.lost_count ..
  | turned _ hturn _ => exact hturn.count
  | last _ hturn _ => exact hturn.count
  | failed _ hfailed =>
      rw [Stream.lost_count]
      obtain rfl | hturned := hfailed.state
      · rfl
      · exact hturned.count

/-- So it is the same over a whole run. -/
theorem run_count {count : Option ℕ} (timezone : String) (ops : List Op) :
    ((start count timezone).run ops).count = count :=
  Stream.run_induction (I := fun s => s.count = count) rfl
    (fun _ _ _ hs hdoes => hdoes.count.trans hs) ops

/-- A step that ends a stream does so in one of these ways. A turn can only end it at
the count, where the invariant says how many snapshots there are; all other ends go back
to a failure, of the connection or of a turn. -/
theorem Stream.Does.ended {s s' : Stream} {op : Op} (h : s.Does op s') (hs : s.Counted)
    (hrunning : s.Running) {result : Except StreamError Unit}
    (hresult : s'.phase = .stopped result) : Ended s' op result := by
  have hquiet := fun n hn => (hs.running hrunning n hn).2
  cases h with
  | connected _ => cases hresult
  | @refused elapsed e offline _ =>
      exact ended_of_lost (s := { s with clock := s.clock + elapsed })
        (.connect elapsed (.error e) offline) rfl hquiet hresult
  | turned hphase hturn _ =>
      obtain ⟨-, hsame⟩ | ⟨asked, -, -, hsame, -⟩ := hturn.history
      · rw [hsame, hphase] at hresult
        cases hresult
      · rw [hsame] at hresult
        cases hresult
  | @last t offline nextHistory s' rest hphase hturn hlimit =>
      obtain rfl := Phase.stopped.inj hresult
      obtain ⟨hdelivered, hmost⟩ := hturn.counted hs hrunning
      cases hcount : s.count with
      | none =>
          rw [hcount] at hlimit
          cases hlimit
      | some n =>
          have hn : s'.count = some n := hturn.count.trans hcount
          have hle : s'.delivered ≤ n := (hmost n hn).1
          have hge : n ≤ s'.delivered := by
            rw [hcount, ← hturn.delivered] at hlimit
            simpa using hlimit
          refine .counted ?_
          show s'.count = some s'.published.length
          rw [hn, hdelivered, le_antisymm hle hge]
  | @failed t offline _ _ _ _ hfailed =>
      refine ended_of_lost (.turn t offline) hfailed.reason (fun n hn => ?_) hresult
      exact ((hfailed.counted hs hrunning).2 n hn).2

/-- **How a stream ends.**  A stream with a count never publishes more snapshots than
that, and while it runs it has published fewer and no error.  If it ends well, the count
was reached or a pipe is broken, be it that of the panel or that of the daemon; if it ends
with an error, it is the error of its last line, or that line could not be written.  A
stream without a count only ends in one of the other ways. -/
theorem stream_keeps_to_its_count {count : Option ℕ} (timezone : String)
    (hcount : count ≠ some 0) (ops : List Op) :
    let s := (start count timezone).run ops
    (∀ n, count = some n → s.published.length ≤ n ∧
      (s.Running → s.published.length < n ∧ ∀ line ∈ s.output, line.isOffline = false)) ∧
    ∀ result, s.phase = .stopped result → ∃ before op after, ops = before ++ op :: after ∧
      ((start count timezone).run before).Running ∧
      s = (start count timezone).run (before ++ [op]) ∧ Ended s op result := by
  intro s
  have hs : s.Counted := run_counted timezone hcount ops
  refine ⟨fun n hn => ?_, fun result hresult => ?_⟩
  · have hn' : s.count = some n := (run_count timezone ops).trans hn
    rw [hs.delivered]
    exact ⟨hs.atMost n hn', fun hrunning => hs.running hrunning n hn'⟩
  · obtain ⟨before, op, after, hops, hrunning, hrun, hdoes⟩ :=
      Stream.stopped_at (running_of_phase (p := .disconnected) rfl nofun) hresult
    exact ⟨before, op, after, hops, hrunning, hrun,
      hdoes.ended (run_counted timezone hcount before) hrunning hresult⟩

/-- A frame with a snapshot of the given time. -/
def frameAt (monotonicMs : ℕ) : Except StreamError (Option Json) :=
  .ok (some (.obj [("parameters", .obj [("stale", .bool false), ("snapshot", .obj
    [("device", .obj [("id", .str "psu-1")]),
      ("telemetry", .obj [("monotonic_ms", .int monotonicMs)])])])]))

/-- A connection that is lost after its first snapshot. -/
def lostAfterOne : List Op :=
  [.connect 0 (.ok ()) (.ok ()), .turn { frame := frameAt 0, nowMs := 1000 } (.ok ()),
    .turn { frame := .ok none, nowMs := 2000 } (.ok ())]

/-- Two snapshots were asked for, one came, and then the daemon was gone: the stream has
ended with an error, after one snapshot and the line that says so. -/
theorem stream_of_two_ends_early :
    let s := (start (some 2) "UTC").run lostAfterOne
    s.published.length ≤ 2 ∧ ∃ before op after, lostAfterOne = before ++ op :: after ∧
      Ended s op (.error ⟨"railwatchd disconnected", false⟩) := by
  obtain ⟨hatMost, hended⟩ :=
    stream_keeps_to_its_count "UTC" (show some 2 ≠ some 0 by decide) lostAfterOne
  obtain ⟨before, op, after, hops, -, -, hend⟩ := hended _ rfl
  exact ⟨(hatMost 2 rfl).1, before, op, after, hops, hend⟩

end Railwatch.Plugin
