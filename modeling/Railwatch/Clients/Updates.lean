/-
# Updates of the window

`UiUpdates` and the graph of `clients/gui/src/main.rs`: what becomes of an update,
`updates_reach_the_window`.

The worker makes the updates and the window takes them, so at every moment those that
have been shown are a beginning of those that were made (`Queued`).  The graph belongs
to the worker: it is a function of the snapshots so far (`graphOf`), and each snapshot
is sent with a copy of it (`Pictured`).
-/

import Railwatch.General.Windows
import Railwatch.Clients.Clicks

namespace Railwatch.Desktop

section

variable (date : String → Except String ℤ)

/-- The snapshots among some updates. -/
def snapshots (updates : List Update) : List Json :=
  updates.filterMap fun
    | .snapshot v _ => some v
    | _ => none

/-- The snapshots whose sample is not the one before. -/
def changes : Json → List Json → List Json
  | _, [] => []
  | last, v :: vs =>
      (if (sequenceOf v).eq last then [] else [v]) ++ changes (sequenceOf v) vs

/-- The sample of the last snapshot. -/
def lastSequence (vs : List Json) : Json := (vs.getLast?.map sequenceOf).getD .null

/-- The last 180 points of the snapshots with a new sample. -/
def graphOf (vs : List Json) : List Point := ((changes .null vs).map pointOf).rtake 180

/-- Before the first snapshot the graph has no points. -/
theorem graphOf_nil : graphOf [] = [] := List.rtake_nil ..

/-- A snapshot is a change if its sequence number is not that of the one before, and the
first one if it is not that of `last`. So one more snapshot adds itself to the changes,
or nothing. -/
theorem changes_concat (last : Json) (vs : List Json) (v : Json) :
    changes last (vs ++ [v]) = changes last vs ++
      if (sequenceOf v).eq ((vs.getLast?.map sequenceOf).getD last) then [] else [v] := by
  induction vs generalizing last with
  | nil => exact List.append_nil _
  | cons w vs ih =>
      have hlast : ((w :: vs).getLast?.map sequenceOf).getD last =
          (vs.getLast?.map sequenceOf).getD (sequenceOf w) := by
        cases vs with
        | nil => rfl
        | cons x vs =>
            rw [List.getLast?_cons_cons, List.getLast?_eq_getLast_of_ne_nil (List.cons_ne_nil x vs)]
            rfl
      show _ ++ changes (sequenceOf w) (vs ++ [v]) = (_ ++ changes (sequenceOf w) vs) ++ _
      rw [ih, hlast, List.append_assoc]

/-- The graph after a snapshot is that of all snapshots so far, if it was before. The
worker remembers the last sequence number, which is all it needs of the earlier ones to
tell whether the new one is a change. -/
theorem Memory.note_graph {l : Memory} {vs : List Json} (hgraph : l.graph = graphOf vs)
    (hlast : l.lastSeq = lastSequence vs) (v : Json) :
    (l.note v).graph = graphOf (vs ++ [v]) ∧ (l.note v).lastSeq = lastSequence (vs ++ [v]) := by
  have hseq : lastSequence (vs ++ [v]) = sequenceOf v := by
    rw [lastSequence, List.getLast?_concat]
    rfl
  have hchanges := changes_concat .null vs v
  rw [← lastSequence, ← hlast] at hchanges
  unfold Memory.note
  dsimp only
  rw [hseq, graphOf, hchanges]
  by_cases hsame : (sequenceOf v).eq l.lastSeq = true
  · rw [if_pos hsame, if_pos hsame, List.append_nil]
    exact ⟨hgraph, (Json.of_eq _ _ hsame).symm⟩
  · have hlimit : 0 < 180 := by omega
    rw [if_neg hsame, if_neg hsame, hgraph, graphOf, List.map_append, List.map_singleton]
    refine ⟨?_, rfl⟩
    dsimp only
    rw [Windows.concat_rtake hlimit]

/-- The updates that are about to be delivered. -/
def Stage.pending : Stage → List Update
  | .delivering u next => u :: next.pending
  | _ => []

/-- All updates that the worker has made. -/
def App.made (s : App) : List Update := s.delivered ++ s.lost ++ s.stage.pending

/-- Each snapshot comes with the graph of the snapshots up to it. -/
def Drawn (updates : List Update) : Prop :=
  ∀ before v graph after, updates = before ++ .snapshot v graph :: after →
    graph = graphOf (snapshots before ++ [v])

/-- Without updates there is nothing to draw. -/
theorem Drawn.nil : Drawn [] := fun before _ _ _ h =>
  absurd h.symm (List.append_ne_nil_of_right_ne_nil before (List.cons_ne_nil _ _))

/-- What is drawn right stays so if later updates are taken away. -/
theorem Drawn.of_prefix {updates updates' : List Update} (h : Drawn updates')
    (hle : updates <+: updates') : Drawn updates := by
  obtain ⟨rest, rfl⟩ := hle
  intro before v graph after heq
  refine h before v graph (after ++ rest) ?_
  rw [heq, List.append_assoc, List.cons_append]

/-- One more update, which draws the graph of the snapshots up to it. -/
theorem Drawn.concat {updates : List Update} (h : Drawn updates) {u : Update}
    (hu : ∀ v graph, u = .snapshot v graph → graph = graphOf (snapshots updates ++ [v])) :
    Drawn (updates ++ [u]) := by
  intro before v graph after heq
  obtain rfl | ⟨after', last, rfl⟩ := List.eq_nil_or_concat after
  · obtain ⟨rfl, hlast⟩ := List.append_inj' heq rfl
    exact hu v graph (List.cons.inj hlast).1
  · rw [List.concat_eq_append, ← List.cons_append, ← List.append_assoc] at heq
    exact h before v graph after' (List.append_inj' heq rfl).1

/-- What a step makes: nothing, an update that is no snapshot, or a snapshot with its
graph. -/
inductive App.Makes (s s' : App) : Prop where
  | nothing (hmade : s'.made = s.made) (hgraph : s'.memory.graph = s.memory.graph)
      (hlast : s'.memory.lastSeq = s.memory.lastSeq)
  | update {u : Update} (hu : snapshots [u] = []) (hmade : s'.made = s.made ++ [u])
      (hgraph : s'.memory.graph = s.memory.graph) (hlast : s'.memory.lastSeq = s.memory.lastSeq)
  | snapshot {v : Json} (hmade : s'.made = s.made ++ [.snapshot v (s.memory.note v).graph])
      (hgraph : s'.memory.graph = (s.memory.note v).graph)
      (hlast : s'.memory.lastSeq = (s.memory.note v).lastSeq)

/-- What the worker makes is what it has in hand, until it is delivered or lost. -/
theorem App.made_of_stage {s : App} (hstage : s.stage.pending = []) (s' : App)
    (hdelivered : s'.delivered = s.delivered) (hlost : s'.lost = s.lost) {made : List Update}
    (hstage' : s'.stage.pending = made) : s'.made = s.made ++ made := by
  unfold App.made
  rw [hdelivered, hlost, hstage, hstage', List.append_nil]

/-- The answers of a poll are no snapshots but for the first: an answer makes one
update, an error none, and neither changes what the worker remembers. -/
theorem App.makes_of_answered {s s' : App} {reply : Except String Json} {update : Json → Update}
    {next : Stage} (hupdate : ∀ v, snapshots [update v] = []) (hnext : next.pending = [])
    (hdelivered : s'.delivered = s.delivered) (hlost : s'.lost = s.lost)
    (hmemory : s'.memory = s.memory) (hstage : s.stage.pending = [])
    (hstage' : s'.stage = answered reply update next) : s.Makes s' := by
  cases reply with
  | ok v =>
      have hpending : s'.stage.pending = [update v] := by
        rw [hstage']
        exact congrArg (update v :: ·) hnext
      refine .update (hupdate v) (App.made_of_stage hstage s' hdelivered hlost hpending) ?_ ?_ <;>
        rw [hmemory]
  | error e =>
      have hpending : s'.stage.pending = [] := by
        rw [hstage']
        exact hnext
      refine .nothing ?_ ?_ ?_
      · rw [App.made_of_stage hstage s' hdelivered hlost hpending, List.append_nil]
      · rw [hmemory]
      · rw [hmemory]

/-- What a poll makes. Its first request makes a snapshot with the graph that has the
new point, or the update that says the daemon is out of reach; the other three make
updates that have no part in the graph. -/
theorem App.poll_makes (s : App) (i : Input) {p : Poll} (hstage : s.stage = .polling p) :
    s.Makes (s.poll i p) := by
  have hpending : s.stage.pending = [] := by rw [hstage]; rfl
  cases p with
  | snapshot =>
      have hnext : ∀ (c : Prop) [Decidable c],
          (if c then Stage.polling .energy else .receiving).pending = [] := by
        intro c _
        split_ifs <;> rfl
      cases hreply : i.reply with
      | ok v =>
          have hstage' : (s.poll i .snapshot).stage.pending =
              [.snapshot v (s.memory.note v).graph] := by
            unfold App.poll
            simp only [hreply]
            exact congrArg (List.cons _) (hnext _)
          have hmemory : (s.poll i .snapshot).memory.graph = (s.memory.note v).graph ∧
              (s.poll i .snapshot).memory.lastSeq = (s.memory.note v).lastSeq := by
            unfold App.poll
            simp only [hreply, and_self]
          exact .snapshot (App.made_of_stage hpending (s.poll i .snapshot) rfl rfl hstage')
            hmemory.1 hmemory.2
      | error e =>
          have hstage' : (s.poll i .snapshot).stage.pending =
              [.offline ("Cannot connect to railwatchd: " ++ e)] := by
            unfold App.poll
            simp only [hreply]
            exact congrArg (List.cons _) (hnext _)
          have hmemory : (s.poll i .snapshot).memory.graph = s.memory.graph ∧
              (s.poll i .snapshot).memory.lastSeq = s.memory.lastSeq := by
            unfold App.poll
            simp only [hreply, and_self]
          exact .update (u := .offline _) rfl
            (App.made_of_stage hpending (s.poll i .snapshot) rfl rfl hstage') hmemory.1 hmemory.2
  | energy =>
      exact App.makes_of_answered (fun _ => rfl) rfl rfl rfl rfl hpending rfl
  | tariffs =>
      exact App.makes_of_answered (fun _ => rfl) rfl rfl rfl rfl hpending rfl
  | incidents =>
      exact App.makes_of_answered (fun _ => rfl) rfl rfl rfl rfl hpending rfl

/-- What a step makes: an update is added to those made when an answer comes or an
action is finished, and only moves on when it is delivered or lost. As nothing is lost
while the window has its receiver, a delivery keeps the order. -/
theorem App.step_makes {s : App} (h : s.Ordered) (e : Event) : s.Makes (s.step date e) := by
  have hdoes := s.step_does date e
  generalize s.step date e = s' at hdoes
  have hmade {stage : Stage} (hstage : s.stage = stage) :
      s.made = s.delivered ++ s.lost ++ stage.pending := by
    rw [App.made, hstage]
  cases hdoes with
  | @polls i p hstage => exact s.poll_makes i hstage
  | ends hstage hrunning => exact .nothing (hmade hstage).symm rfl rfl
  | begins hstage hnext =>
      obtain rfl | rfl := hnext <;> exact .nothing (hmade hstage).symm rfl rfl
  | idles hstage => exact .nothing (hmade hstage).symm rfl rfl
  | receives hstage => exact .nothing (hmade hstage).symm rfl rfl
  | asks hstage => exact .nothing (hmade hstage).symm rfl rfl
  | @finishes i a r hstage =>
      refine .update (u := .result a r) rfl ?_ rfl rfl
      rw [hmade hstage]
      exact congrArg (· ++ _) (List.append_nil _).symm
  | @loses i u next hstage hreceiver =>
      refine .nothing ?_ rfl rfl
      rw [hmade hstage]
      show s.delivered ++ (s.lost ++ [u]) ++ next.pending = _ ++ u :: next.pending
      rw [← List.append_assoc, List.append_assoc (s.delivered ++ s.lost)]
      rfl
  | @delivers i u next hstage hreceiver hroom =>
      refine .nothing ?_ rfl rfl
      rw [hmade hstage]
      show s.delivered ++ [u] ++ s.lost ++ next.pending = _ ++ u :: next.pending
      rw [h.keeps hreceiver, List.append_nil, List.append_nil, List.append_assoc]
      rfl
  | _ => exact .nothing rfl rfl rfl

/-- The worker remembers the graph of its snapshots. So does each update, which is sent
with the graph as it was then. -/
structure App.Pictured (s : App) : Prop where
  /-- Each snapshot came with the graph up to it. -/
  drawn : Drawn s.made
  /-- The points that the worker keeps. -/
  graph : s.memory.graph = graphOf (snapshots s.made)
  /-- And the sequence number that it compares the next one with. -/
  last : s.memory.lastSeq = lastSequence (snapshots s.made)

/-- The snapshots of two runs of updates. -/
theorem snapshots_append (updates updates' : List Update) :
    snapshots (updates ++ updates') = snapshots updates ++ snapshots updates' :=
  List.filterMap_append

/-- **Every step keeps the graph.** Only a snapshot with a new number draws a point, and
the oldest point goes when there are more than 180. -/
theorem App.Pictured.step {s : App} (hordered : s.Ordered) (h : s.Pictured) (e : Event) :
    (s.step date e).Pictured := by
  have hmakes := App.step_makes date hordered e
  generalize s.step date e = s' at hmakes
  cases hmakes with
  | nothing hmade hgraph hlast =>
      refine ⟨?_, ?_, ?_⟩
      · rw [hmade]
        exact h.drawn
      · rw [hmade, hgraph, h.graph]
      · rw [hmade, hlast, h.last]
  | @update u hu hmade hgraph hlast =>
      have hsnapshots : snapshots s'.made = snapshots s.made := by
        rw [hmade, snapshots_append, hu, List.append_nil]
      refine ⟨?_, ?_, ?_⟩
      · rw [hmade]
        refine h.drawn.concat fun v graph heq => ?_
        rw [heq] at hu
        cases hu
      · rw [hsnapshots, hgraph, h.graph]
      · rw [hsnapshots, hlast, h.last]
  | @snapshot v hmade hgraph hlast =>
      have hnote := Memory.note_graph h.graph h.last v
      have hsnapshots : snapshots s'.made = snapshots s.made ++ [v] := by
        rw [hmade, snapshots_append]
        rfl
      refine ⟨?_, ?_, ?_⟩
      · rw [hmade]
        refine h.drawn.concat fun w graph heq => ?_
        obtain ⟨rfl, rfl⟩ := Update.snapshot.inj heq
        exact hnote.1
      · rw [hsnapshots, hgraph, hnote.1]
      · rw [hsnapshots, hlast, hnote.2]

/-- The updates are in the queue or with the window, for as long as it takes them. Then
the queue is dropped with its receiver. -/
structure App.Queued (s : App) : Prop where
  /-- `sync_channel(8)`. -/
  limit : s.updates.length ≤ 8
  /-- What was shown was delivered first, and in this order. -/
  shown : s.shown <+: s.delivered
  /-- As long as the window is there nothing is lost on the way. -/
  queue : s.receiver = true → s.delivered = s.shown ++ s.updates
  /-- When it is gone so is the queue. -/
  dropped : s.receiver = false → s.updates = []

/-- **Every step keeps the updates in order.** The worker adds one behind those that
wait, and the window takes the first of them. -/
theorem App.Queued.step {s : App} (h : s.Queued) (e : Event) : (s.step date e).Queued := by
  have hdoes := s.step_does date e
  generalize s.step date e = s' at hdoes
  cases hdoes with
  | @takes u rest hupdates =>
      have hlimit := h.limit
      rw [hupdates, List.length_cons] at hlimit
      have hreceiver : s.receiver = true := by
        refine Bool.eq_true_of_not_eq_false fun hreceiver => ?_
        rw [h.dropped hreceiver] at hupdates
        cases hupdates
      have hqueue : s.delivered = s.shown ++ [u] ++ rest := by
        rw [h.queue hreceiver, hupdates, List.append_assoc]
        rfl
      refine ⟨?_, ⟨rest, hqueue.symm⟩, fun _ => hqueue, fun h' => ?_⟩
      · show rest.length ≤ 8
        omega
      · exact absurd (hreceiver.symm.trans h') nofun
  | drops hrunning => exact ⟨Nat.zero_le _, h.shown, nofun, fun _ => rfl⟩
  | @polls i p hstage =>
      obtain ⟨memory, stage, requests, heq, -, -⟩ := s.poll_eq i p
      rw [heq]
      exact { h with }
  | @delivers i u next hstage hreceiver hroom =>
      refine ⟨?_, h.shown.trans (List.prefix_append _ _), fun h' => ?_, fun h' => ?_⟩
      · rw [List.length_append, List.length_singleton]
        omega
      · rw [h.queue hreceiver, List.append_assoc]
      · exact absurd (hreceiver.symm.trans h') nofun
  | _ => exact { h with }

/-- **What becomes of an update**: while the window is there, those that were delivered are
in a queue of at most eight or were taken from it in order, and each snapshot among them
comes with the last 180 points of the snapshots up to it that showed a new sample. -/
theorem updates_reach_the_window (timezone : String) (incident : Option String)
    (events : List Event) :
    let s := (start timezone incident).run date events
    s.updates.length ≤ 8 ∧ s.shown <+: s.delivered ∧
      (s.receiver = true → s.delivered = s.shown ++ s.updates) ∧ Drawn s.delivered := by
  intro s
  have hqueued : s.Queued := by
    refine Transition.run_induction _ ?_ (fun s e h => h.step date e) events
    exact ⟨Nat.zero_le _, List.prefix_rfl, fun _ => rfl, nofun⟩
  have hpictured : s.Ordered ∧ s.Pictured := by
    refine Transition.run_induction (I := fun s : App => s.Ordered ∧ s.Pictured) _ ?_
      (fun s e h => ⟨h.1.step date e, h.2.step date h.1 e⟩) events
    exact ⟨ordered_run date timezone incident [], ⟨Drawn.nil, graphOf_nil.symm, rfl⟩⟩
  refine ⟨hqueued.limit, hqueued.shown, hqueued.queue, hpictured.2.drawn.of_prefix ?_⟩
  rw [App.made, List.append_assoc]
  exact List.prefix_append _ _

end

end Railwatch.Desktop
