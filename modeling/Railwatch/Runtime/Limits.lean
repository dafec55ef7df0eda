/-
# The limits of the pending buffers

`bound_pending` cuts the buffers in a successful poll only.  A failed poll that
opens an outage adds to them, and keeps what it added when the queue refuses the
batch.  `limits_hold_iff` says that the limits hold at the end of every cycle of
a run exactly if each such poll finds room; with two devices that alternate they
are exceeded by any amount (`events_exceed_limit`).

The round that exceeds the limits needs no fault of the daemon: a storage thread that is
slow, and two devices in turn, each of which is opened and then fails to answer.  Each
of these failed polls opens another outage, and nothing is dropped.
-/

import Railwatch.Runtime.Evidence

namespace Railwatch

/-- The limits that the documentation states, for what waits in memory between two
cycles. -/
structure Daemon.InMemoryLimits (d : Daemon) : Prop where
  /-- 256 pending incident updates. -/
  events : d.monitor.pendingEvents.length ≤ maxPendingEvents
  /-- 2048 pending evidence readings. -/
  evidence : d.monitor.pendingEvidence.length ≤ maxPendingEvidence
  /-- And 32 evidence windows. -/
  windows : d.monitor.capturing.length ≤ maxEvidenceWindows

/-- A failed poll opens an outage and its batch is refused. -/
def Daemon.keepsOutage (d : Daemon) (uuid : String) (full : Bool) : Prop :=
  d.mayPoll ∧ d.shared.telemetry.isSome ∧ monitoringUnavailable ∉ d.monitor.engine.active ∧
    uuid ∉ d.issued.map (·.id) ∧ (full = true ∨ storageQueueSize ≤ d.queue.length)

/-- A failed poll whose outage stays in the buffers finds room for it and for
the readings of the ring. -/
def OutageFits (d : Daemon) : DaemonOp → Prop
  | .pollFailed _ uuid _ full => d.keepsOutage uuid full →
      d.monitor.pendingEvents.length < maxPendingEvents ∧
        d.monitor.pendingEvidence.length + d.monitor.ring.length ≤ maxPendingEvidence
  | _ => True

/-! ### One action -/

/-- The limits hold but for the time between the events of a sample and
`bound_pending`. -/
structure Daemon.Bounded (d : Daemon) : Prop where
  /-- The windows are never too many. -/
  windowed : d.Windowed
  /-- What is pending is not too much, but in the middle of a round. -/
  pending : (∀ t, d.monitor.phase ≠ .observed t) →
    d.monitor.pendingEvents.length ≤ maxPendingEvents ∧
      d.monitor.pendingEvidence.length ≤ maxPendingEvidence

/-- At the start of a cycle that is all the limits. -/
theorem Daemon.Bounded.inMemoryLimits {d : Daemon} (h : d.Bounded)
    (hphase : d.monitor.phase = .top) : d.InMemoryLimits := by
  obtain ⟨hevents, hevidence⟩ := h.pending fun t => by
    rw [hphase]
    exact Phase.noConfusion
  exact ⟨hevents, hevidence, h.windowed.room⟩

/-- The limits hold right behind `bound_pending`. -/
theorem Daemon.boundPending_fits (d : Daemon) (t : Telemetry) :
    (d.boundPending t).monitor.pendingEvents.length ≤ maxPendingEvents ∧
      (d.boundPending t).monitor.pendingEvidence.length ≤ maxPendingEvidence := by
  simp only [Daemon.boundPending, List.length_drop]
  omega

/-- A batch takes what is pending along, or hands it back. -/
theorem Daemon.publish_pending (d : Daemon) (t : Telemetry) (full : Bool) :
    (d.publish t full).monitor.pendingEvents.length ≤ d.monitor.pendingEvents.length ∧
      (d.publish t full).monitor.pendingEvidence.length ≤ d.monitor.pendingEvidence.length := by
  unfold Daemon.publish
  dsimp only
  split
  · exact ⟨Nat.zero_le _, Nat.zero_le _⟩
  · next hsend =>
      rw [trySend_error hsend]
      exact ⟨le_rfl, le_rfl⟩

/-- **What a failed poll leaves in the buffers**: what its batch holds if it is
refused, and else nothing more than before. -/
theorem Daemon.pollFailed_pending (d : Daemon) (error : String) (event : Option Incident)
    (engine : AlertEngine) (full : Bool) :
    let d' := d.pollFailed error event engine full
    ((d.shared.telemetry.isSome ∧ (full = true ∨ storageQueueSize ≤ d.queue.length)) →
      d'.monitor.pendingEvents = d.monitor.pendingEvents ++ event.toList ∧
        d'.monitor.pendingEvidence.length =
          d.monitor.pendingEvidence.length + event.toList.length * d.monitor.ring.length) ∧
    (¬(d.shared.telemetry.isSome ∧ (full = true ∨ storageQueueSize ≤ d.queue.length)) →
      d'.monitor.pendingEvents.length ≤ d.monitor.pendingEvents.length ∧
        d'.monitor.pendingEvidence.length ≤ d.monitor.pendingEvidence.length) := by
  intro d'
  cases hlast : d.shared.telemetry with
  | none => simp [d', Daemon.pollFailed, hlast]
  | some last =>
      by_cases hfull : full = true ∨ storageQueueSize ≤ d.queue.length
      · refine ⟨fun _ => ?_, fun hno => absurd ⟨rfl, hfull⟩ hno⟩
        simp only [d', Daemon.pollFailed, hlast, trySend, if_pos hfull]
        cases event <;> simp
      · refine ⟨fun hand => absurd hand.2 hfull, fun _ => ?_⟩
        simp [d', Daemon.pollFailed, hlast, trySend, if_neg hfull]

/-- An outage is opened when there is a sample and none is open. -/
theorem Daemon.lost_event (d : Daemon) (error uuid : String) (at_ : ℤ) :
    ((d.shared.telemetry.isSome ∧ monitoringUnavailable ∉ d.monitor.engine.active) →
      ∃ event, (d.lost error uuid at_).1 = some event ∧ event.id = uuid) ∧
    (¬(d.shared.telemetry.isSome ∧ monitoringUnavailable ∉ d.monitor.engine.active) →
      (d.lost error uuid at_).1 = none) := by
  unfold Daemon.lost
  cases d.shared.telemetry with
  | none => simp
  | some last =>
      dsimp only [AlertEngine.monitoringLost]
      by_cases hactive : monitoringUnavailable ∈ d.monitor.engine.active
      · simp [hactive]
      · simp [hactive]

/-- Whether the UUID of an outage is fresh. -/
theorem Daemon.fresh_lost {d : Daemon} {error uuid : String} {at_ : ℤ} {event : Incident}
    (hlost : (d.lost error uuid at_).1 = some event) (hid : event.id = uuid) :
    d.fresh (d.lost error uuid at_).1.toList ↔ uuid ∉ d.issued.map (·.id) := by
  have hopen := Daemon.lost_isOpen hlost
  rw [hlost, Daemon.fresh, Option.toList_some]
  simp [opened, hopen, hid]

/-- A poll starts at the top of the loop. -/
theorem Daemon.mayPoll.phase {d : Daemon} (h : d.mayPoll) : d.monitor.phase = .top := by
  have := h.2
  cases hphase : d.monitor.phase <;> simp_all

/-- A device is opened at the start of a cycle. -/
theorem Daemon.mayOpen.phase {d : Daemon} (h : d.mayOpen) : d.monitor.phase = .top := by
  have htop := h.2.2
  cases hphase : d.monitor.phase with
  | top => rfl
  | _ =>
      rw [hphase] at htop
      cases htop

/-- **A failed poll keeps the limits exactly if what it adds fits.** A batch that the
queue refuses is taken back with what the poll has added to it, and nothing drops the
oldest of it there. -/
theorem Daemon.step_pollFailed_pending {d : Daemon} (h : d.Bounded) (hpoll : d.mayPoll)
    (error uuid : String) (at_ : ℤ) (full : Bool) :
    ((d.step (.pollFailed error uuid at_ full)).monitor.pendingEvents.length ≤
        maxPendingEvents ∧
      (d.step (.pollFailed error uuid at_ full)).monitor.pendingEvidence.length ≤
        maxPendingEvidence) ↔ OutageFits d (.pollFailed error uuid at_ full) := by
  have hlimits := h.inMemoryLimits hpoll.phase
  obtain ⟨hsome, hnone⟩ := d.lost_event error uuid at_
  by_cases hopens : d.shared.telemetry.isSome ∧ monitoringUnavailable ∉ d.monitor.engine.active
  · obtain ⟨event, hlost, hid⟩ := hsome hopens
    have hfresh := Daemon.fresh_lost hlost hid
    by_cases hnew : uuid ∉ d.issued.map (·.id)
    · have hstep : d.step (.pollFailed error uuid at_ full) =
          d.pollFailed error (some event) (d.lost error uuid at_).2 full := by
        rw [← hlost]
        exact if_pos ⟨hpoll, hfresh.2 hnew⟩
      obtain ⟨hrefused, hsent⟩ :=
        d.pollFailed_pending error (some event) (d.lost error uuid at_).2 full
      rw [hstep]
      by_cases hfull : full = true ∨ storageQueueSize ≤ d.queue.length
      -- the one case where the buffers grow: the outage opens and its batch is refused
      · obtain ⟨hevents, hevidence⟩ := hrefused ⟨hopens.1, hfull⟩
        have hkeeps : d.keepsOutage uuid full := ⟨hpoll, hopens.1, hopens.2, hnew, hfull⟩
        rw [hevents, hevidence]
        simp only [OutageFits, hkeeps, forall_const, Option.toList_some, List.length_append,
          List.length_singleton, one_mul]
        exact Iff.rfl
      · obtain ⟨hevents, hevidence⟩ := hsent fun hand => hfull hand.2
        exact iff_of_true ⟨hevents.trans hlimits.events, hevidence.trans hlimits.evidence⟩
          fun hkeeps => absurd hkeeps.2.2.2.2 hfull
    · have hstep : d.step (.pollFailed error uuid at_ full) = d :=
        if_neg fun hand => hnew (hfresh.1 hand.2)
      rw [hstep]
      exact iff_of_true ⟨hlimits.events, hlimits.evidence⟩ fun hkeeps =>
        absurd hkeeps.2.2.2.1 hnew
  · have hlost := hnone hopens
    have hstep : d.step (.pollFailed error uuid at_ full) =
        d.pollFailed error none (d.lost error uuid at_).2 full := by
      rw [← hlost]
      exact if_pos ⟨hpoll, by rw [hlost]; exact d.fresh_nil⟩
    obtain ⟨hrefused, hsent⟩ := d.pollFailed_pending error none (d.lost error uuid at_).2 full
    rw [hstep]
    refine iff_of_true ?_ fun hkeeps => absurd ⟨hkeeps.2.1, hkeeps.2.2.1⟩ hopens
    by_cases hfull : d.shared.telemetry.isSome ∧
        (full = true ∨ storageQueueSize ≤ d.queue.length)
    · obtain ⟨hevents, hevidence⟩ := hrefused hfull
      rw [hevents, hevidence]
      simpa using And.intro hlimits.events hlimits.evidence
    · obtain ⟨hevents, hevidence⟩ := hsent hfull
      exact ⟨hevents.trans hlimits.events, hevidence.trans hlimits.evidence⟩

/-- A new process has empty buffers. -/
theorem Daemon.bounded_of_start {db : Database} {issued : List Incident} {simulate : Bool}
    {session : String} {at_ : ℤ} {d : Daemon}
    (hstart : Daemon.start db issued simulate session at_ = .ok d) : d.Bounded := by
  rw [Daemon.start_eq] at hstart
  obtain rfl := Except.ok.inj hstart
  exact ⟨⟨Nat.zero_le _, by simp⟩, fun _ => ⟨Nat.zero_le _, Nat.zero_le _⟩⟩

/-- **Every action keeps the buffers bounded**, if a failed poll fits. A successful poll
drops what is too much before it sends, so only failed ones are to be looked at. -/
theorem Daemon.Bounded.step {d : Daemon} (h : d.Bounded) {op : DaemonOp}
    (hfits : OutageFits d op) : (d.step op).Bounded := by
  rcases d.step_does op with hstep | hdoes
  · rw [hstep]
    exact h
  have hwindowed (hop : op.staysUp) : (d.step op).Windowed := h.windowed.step hop
  generalize hafter : d.step op = d' at hdoes hwindowed
  cases hdoes with
  | restart hstart => exact Daemon.bounded_of_start hstart
  | @openDevice info session readable hopen hid =>
      refine ⟨hwindowed rfl, ?_⟩
      by_cases hsame : d.monitor.currentId = info.id
      · rw [Daemon.openDevice_same hsame]
        exact h.pending
      · rw [Daemon.openDevice_other hsame]
        exact h.pending
  | sync hpoll =>
      have hlimits := h.inMemoryLimits hpoll.phase
      exact ⟨hwindowed rfl, fun _ => ⟨hlimits.events, hlimits.evidence⟩⟩
  | observe => exact ⟨hwindowed rfl, fun hphase => absurd rfl (hphase _)⟩
  | bound hphase => exact ⟨hwindowed rfl, fun _ => d.boundPending_fits _⟩
  | publish hphase =>
      obtain ⟨hevents, hevidence⟩ := d.publish_pending _ _
      obtain ⟨hevents', hevidence'⟩ := h.pending fun t => by
        rw [hphase]
        exact Phase.noConfusion
      exact ⟨hwindowed rfl, fun _ => ⟨hevents.trans hevents', hevidence.trans hevidence'⟩⟩
  | pollFailed hpoll hfresh =>
      refine ⟨hwindowed rfl, fun _ => ?_⟩
      rw [← hafter]
      exact (d.step_pollFailed_pending h hpoll _ _ _ _).2 hfits
  | startOver hop =>
      have hup : op.staysUp := by rcases hop with ⟨scan, rfl⟩ | rfl <;> rfl
      exact ⟨hwindowed hup, h.pending⟩
  | _ => exact ⟨hwindowed rfl, h.pending⟩

/-! ### Runs -/

/-- A failed poll leaves the monitor at the top of its loop. -/
theorem Daemon.phase_pollFailed (d : Daemon) (error : String) (event : Option Incident)
    (engine : AlertEngine) (full : Bool) :
    (d.pollFailed error event engine full).monitor.phase = d.monitor.phase := by
  unfold Daemon.pollFailed
  dsimp only
  split
  · rfl
  · split <;> rfl

/-- **The limits hold at the end of every cycle of a run exactly if every outage
that a failed poll keeps in the buffers fits.** -/
theorem limits_hold_iff (db : Database) (issued : List Incident) (simulate : Bool)
    (session : String) (at_ : ℤ) (d : Daemon)
    (hstart : Daemon.start db issued simulate session at_ = .ok d) (ops : List DaemonOp) :
    (∀ before, before <+: ops → (d.run before).monitor.phase = .top →
      (d.run before).InMemoryLimits) ↔ Transition.Along Daemon.step OutageFits d ops := by
  have hbounded {ops : List DaemonOp} (h : Transition.Along Daemon.step OutageFits d ops) :
      (d.run ops).Bounded :=
    h.induction _ (Daemon.bounded_of_start hstart) fun _ _ hb hfits => hb.step hfits
  constructor
  · intro hall
    induction ops using List.reverseRecOn with
    | nil => trivial
    | append_singleton ops op ih =>
        have hbefore := ih fun before hpre htop =>
          hall before (hpre.trans (List.prefix_append ops [op])) htop
        refine (Transition.along_concat _).2 ⟨hbefore, ?_⟩
        have hafter := hall (ops ++ [op]) (List.prefix_refl _)
        rw [Daemon.run_concat] at hafter
        change OutageFits (d.run ops) op
        cases op with
        | pollFailed error uuid at_ full =>
            by_cases hpoll : (d.run ops).mayPoll
            · refine ((d.run ops).step_pollFailed_pending (hbounded hbefore) hpoll error uuid at_
                full).1 ?_
              have htop : ((d.run ops).step (.pollFailed error uuid at_ full)).monitor.phase =
                  .top := by
                simp only [Daemon.step]
                split_ifs
                · rw [Daemon.phase_pollFailed, hpoll.phase]
                · exact hpoll.phase
              exact ⟨(hafter htop).events, (hafter htop).evidence⟩
            · exact fun hkeeps => absurd hkeeps.1 hpoll
        | _ => trivial
  · intro halong before hpre htop
    exact (hbounded (halong.of_prefix _ hpre)).inMemoryLimits htop

/-- The device fails after its first sample, and the queue refuses the outage. -/
theorem limits_hold_with_a_refused_outage :
    let ops := polledOnce ++ [.pollFailed "gone" "u" 1000 true]
    ∃ d, Daemon.start {} [] false "s" 0 = .ok d ∧
      (d.run ops).monitor.pendingEvents.length = 1 ∧
      ∀ before, before <+: ops → (d.run before).monitor.phase = .top →
        (d.run before).InMemoryLimits := by
  intro ops
  exact ⟨_, Daemon.start_eq .., by decide +kernel,
    (limits_hold_iff {} [] false "s" 0 _ (Daemon.start_eq ..) ops).2
      ⟨trivial, trivial, trivial, trivial, trivial, fun _ => by decide +kernel, trivial⟩⟩

/-! ### Two devices that alternate -/

/-- A UUID that is longer than those of earlier rounds. -/
def roundUuid (n : ℕ) : String := String.ofList (List.replicate n 'u')

/-- The device of a round. -/
def roundDevice (n : ℕ) : DeviceInfo := powerSupply (if n % 2 = 0 then "a" else "b")

/-- The device fails, and the other one is opened, the database being busy. -/
def swapRound (n : ℕ) : List DaemonOp :=
  [.pollFailed "gone" (roundUuid n) 0 false, .openDevice (roundDevice (n + 1)) "s" false]

/-- One reading, and then a number of rounds. -/
def swapRounds : ℕ → List DaemonOp
  | 0 => [.openDevice (roundDevice 0) "s" false, .sync Telemetry.blank, .observe fun _ => "",
      .bound, .publish false]
  | n + 1 => swapRounds n ++ swapRound n

/-- A daemon before a round, nothing having been taken from the queue. The number counts
the rounds. -/
structure Daemon.Swapping (d : Daemon) (n : ℕ) : Prop where
  /-- It is a real device that goes away. -/
  simulate : d.simulate = false
  /-- One is open. -/
  device : d.monitor.device.isSome
  /-- The loop is at its top. -/
  phase : d.monitor.phase = .top
  /-- It is the device of this round. -/
  current : d.monitor.currentId = (roundDevice n).id
  /-- There was a sample, so an outage can be filed. -/
  shown : d.shared.telemetry.isSome
  /-- Nothing is left of the start. -/
  active : d.active = []
  /-- No outage is open. -/
  quiet : monitoringUnavailable ∉ d.monitor.engine.active
  /-- The ids of the rounds are told by their lengths. -/
  issued : ∀ i ∈ d.issued, i.id.length < n
  /-- The queue fills up with the first sixteen. -/
  queue : d.queue.length = min 16 (n + 1)
  /-- From then on each round leaves one more. -/
  pending : d.monitor.pendingEvents.length = n - 15

/-- **A round leaves one event more behind**, once the queue is full. The device that is
opened has no outage, so the failed poll opens one. -/
theorem Daemon.Swapping.round {d : Daemon} {n : ℕ} (h : d.Swapping n) :
    (d.run (swapRound n)).Swapping (n + 1) := by
  obtain ⟨last, hlast⟩ := Option.isSome_iff_exists.1 h.shown
  have hpoll : d.mayPoll := ⟨by simp [h.simulate, h.device], by rw [h.phase]⟩
  obtain ⟨event, hlost, hid⟩ := (d.lost_event "gone" (roundUuid n) 0).1 ⟨h.shown, h.quiet⟩
  have hnew : roundUuid n ∉ d.issued.map (·.id) := by
    intro hmem
    obtain ⟨i, hi, heq⟩ := List.mem_map.1 hmem
    have := h.issued i hi
    rw [heq, roundUuid, String.length_ofList, List.length_replicate] at this
    omega
  have hfailed : d.step (.pollFailed "gone" (roundUuid n) 0 false) =
      d.pollFailed "gone" (some event) (d.lost "gone" (roundUuid n) 0).2 false := by
    rw [← hlost]
    exact if_pos ⟨hpoll, (Daemon.fresh_lost hlost hid).2 hnew⟩
  set d' := d.pollFailed "gone" (some event) (d.lost "gone" (roundUuid n) 0).2 false with hd'
  obtain ⟨hactive, hissued, -, -, -, hsimulate, -, hcurrent, hdevice, htelemetry, -⟩ :=
    d.pollFailed_frame "gone" (some event) (d.lost "gone" (roundUuid n) 0).2 false
  rw [← hd'] at hactive hissued hsimulate hcurrent hdevice htelemetry
  have hphase : d'.monitor.phase = .top := (d.phase_pollFailed ..).trans h.phase
  have hqueue : d'.queue.length = min 16 (n + 2) ∧
      d'.monitor.pendingEvents.length = n + 1 - 15 := by
    have hlen := h.queue
    have hpending := h.pending
    by_cases hfull : storageQueueSize ≤ d.queue.length
    · have hrefused : d'.queue = d.queue ∧
          d'.monitor.pendingEvents = d.monitor.pendingEvents ++ [event] := by
        simp [hd', Daemon.pollFailed, hlast, trySend, hfull]
      rw [hrefused.1, hrefused.2, List.length_append, List.length_singleton]
      unfold storageQueueSize at hfull
      omega
    · have hsent : d'.queue.length = d.queue.length + 1 ∧ d'.monitor.pendingEvents = [] := by
        simp [hd', Daemon.pollFailed, hlast, trySend, hfull]
      rw [hsent.1, hsent.2, List.length_nil]
      unfold storageQueueSize at hfull
      omega
  have hopen : d'.mayOpen := ⟨hsimulate.trans h.simulate, by rw [hdevice]; rfl, by rw [hphase]⟩
  have hparity : (roundDevice n).id ≠ (roundDevice (n + 1)).id ∧ (roundDevice (n + 1)).id ≠ "" := by
    rcases Nat.mod_two_eq_zero_or_one n with hn | hn <;>
      simp [roundDevice, powerSupply, hn, Nat.add_mod]
  have hother : d'.monitor.currentId ≠ (roundDevice (n + 1)).id := by
    rw [hcurrent, h.current]
    exact hparity.1
  have hrun : d.run (swapRound n) = d'.openDevice (roundDevice (n + 1)) "s" false := by
    rw [Daemon.run, swapRound, Transition.run_cons, Transition.run_cons, Transition.run_nil,
      hfailed]
    exact if_pos ⟨hopen, hparity.2⟩
  rw [hrun, Daemon.openDevice_other hother]
  refine ⟨hsimulate.trans h.simulate, rfl, hphase, rfl, by rw [htelemetry]; exact h.shown,
    hactive.trans h.active, ?_, fun i hi => ?_, hqueue.1, hqueue.2⟩
  · simp [Daemon.restored, hactive, h.active, Except.toOption, AlertEngine.restore]
  · change i ∈ d'.issued at hi
    rw [hissued] at hi
    rcases List.mem_append.1 hi with hi | hi
    · exact Nat.lt_succ_of_lt (h.issued i hi)
    · obtain rfl := List.mem_singleton.1 (List.mem_filter.1 hi).1
      rw [hid, roundUuid, String.length_ofList, List.length_replicate]
      exact Nat.lt_succ_self n

/-- From an empty database, a daemon is before a round after any number of them. -/
theorem swapping_of_rounds {d : Daemon} (hstart : Daemon.start {} [] false "s" 0 = .ok d)
    (n : ℕ) : (d.run (swapRounds n)).Swapping n := by
  induction n with
  | zero =>
      rw [Daemon.start_eq] at hstart
      obtain rfl := Except.ok.inj hstart
      constructor
      case phase => rfl
      all_goals decide +kernel
  | succ n ih =>
      rw [swapRounds, Daemon.run, Transition.run_append]
      exact ih.round

/-- **The pending events exceed any bound**: two devices alternate, each failing
when it is open, and no batch is taken from the queue meanwhile. -/
theorem events_exceed_limit :
    ∃ d, Daemon.start {} [] false "s" 0 = .ok d ∧
      (d.run (swapRounds 272)).monitor.phase = .top ∧
      (d.run (swapRounds 272)).monitor.pendingEvents.length = 257 ∧
      ¬(d.run (swapRounds 272)).InMemoryLimits := by
  obtain ⟨d, hstart⟩ : ∃ d, Daemon.start {} [] false "s" 0 = .ok d := ⟨_, Daemon.start_eq ..⟩
  have hrounds := swapping_of_rounds hstart 272
  have hpending : (d.run (swapRounds 272)).monitor.pendingEvents.length = 257 := hrounds.pending
  refine ⟨d, hstart, hrounds.phase, hpending, fun hlimits => ?_⟩
  have := hlimits.events
  rw [hpending] at this
  exact absurd this (by decide)

end Railwatch
