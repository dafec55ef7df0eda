/-
# Clicks

`queue_action` and the worker of `clients/gui/src/main.rs`: what becomes of a click,
`actions_are_handled_in_order`.

The queue between the window and the worker has room for sixteen actions, and a click
that finds it full is refused with a notice.  Only the worker takes from it, so the
actions that are taken are a beginning of those that were accepted, in their order;
`Ordered` says where each click and each result is.
-/

import Railwatch.General.Handoff
import Railwatch.Clients.Desktop

namespace Railwatch.Desktop

section

variable (date : String → Except String ℤ)

/-- The action whose result an update is. -/
def Update.action : Update → Option Action
  | .result a _ => some a
  | _ => none

/-- The actions whose results are among some updates. -/
def results (updates : List Update) : List Action := updates.filterMap Update.action

/-- The action that the worker is busy with. -/
def Stage.inHand : Stage → List Action
  | .handling a _ => [a]
  | .delivering u next => u.action.toList ++ next.inHand
  | _ => []

/-- There is nothing left to do but to end. -/
def Stage.endsNext : Stage → Bool
  | .ended => true
  | .delivering _ next => next.endsNext
  | _ => false

/-- An update adds its result, if it has one. -/
theorem results_concat (updates : List Update) (u : Update) :
    results (updates ++ [u]) = results updates ++ u.action.toList := by
  rw [results, List.filterMap_append]
  cases hu : u.action <;> simp [results, hu]

/-- The answer to a call that is no action leaves no action in hand. -/
theorem inHand_answered (reply : Except String Json) {update : Json → Update}
    (hupdate : ∀ v, (update v).action = none) {next : Stage} (hnext : next.inHand = [])
    (hended : next.endsNext = false) :
    (answered reply update next).inHand = [] ∧ (answered reply update next).endsNext = false := by
  cases reply with
  | ok v =>
      refine ⟨?_, hended⟩
      show (update v).action.toList ++ next.inHand = []
      rw [hupdate, hnext]
      rfl
  | error e => exact ⟨hnext, hended⟩

/-- What a poll changes. -/
theorem App.poll_eq (s : App) (i : Input) (p : Poll) :
    ∃ memory stage requests, s.poll i p = { s with memory, stage, requests } ∧
      stage.inHand = [] ∧ stage.endsNext = false := by
  cases p with
  | snapshot =>
      refine ⟨_, _, _, rfl, ?_, ?_⟩
      · unfold Stage.inHand
        cases i.reply <;> split_ifs <;> rfl
      · unfold Stage.endsNext
        split_ifs <;> rfl
  | energy => exact ⟨_, _, _, rfl, inHand_answered _ (fun _ => rfl) rfl rfl⟩
  | tariffs => exact ⟨_, _, _, rfl, inHand_answered _ (fun _ => rfl) rfl rfl⟩
  | incidents => exact ⟨_, _, _, rfl, inHand_answered _ (fun _ => rfl) rfl rfl⟩

/-- Every click has gone to one place, and every action that was taken is answered, but for
the one in hand. -/
structure App.Ordered (s : App) : Prop where
  /-- Every click was accepted or refused, in the order of the clicks. -/
  clicks : Handoff.Interleaves s.accepted s.refused s.clicks
  /-- What was accepted was taken by the worker, or waits in the queue. -/
  queue : s.accepted = s.taken ++ s.actions
  /-- `sync_channel(16)`. -/
  limit : s.actions.length ≤ 16
  /-- What was taken has a result among the updates, or is in hand. -/
  answered : s.taken = results (s.delivered ++ s.lost) ++ s.stage.inHand
  /-- The worker does one action at a time. -/
  one : s.stage.inHand.length ≤ 1
  /-- A click is refused for a full queue, and for no other reason. -/
  notices : s.notices = s.refused.map fun _ => stillProcessing
  /-- `running` is cleared when the window has been closed. -/
  runs : s.windowOpen = true → s.running = true
  /-- And the receiver of the updates is dropped behind that. -/
  receives : s.running = true → s.receiver = true
  /-- No update is lost before the receiver is gone. -/
  keeps : s.receiver = true → s.lost = []
  /-- The worker does not end before. -/
  alive : s.running = true → s.stage.endsNext = false

/-- Before an update is delivered. -/
theorem App.Ordered.atDelivery {s : App} (h : s.Ordered) {u : Update} {next : Stage}
    (hstage : s.stage = .delivering u next) :
    s.taken = results (s.delivered ++ s.lost) ++ (u.action.toList ++ next.inHand) ∧
      next.inHand.length ≤ 1 ∧ (s.running = true → next.endsNext = false) := by
  have hanswered := h.answered
  have hone := h.one
  have halive := h.alive
  rw [hstage] at hanswered hone halive
  refine ⟨hanswered, ?_, halive⟩
  have hlength : (u.action.toList ++ next.inHand).length ≤ 1 := hone
  rw [List.length_append] at hlength
  omega

/-- **Every step keeps the actions in order.** A click adds one behind those that wait,
the worker takes the first of them, and no other step touches the queue. -/
theorem App.Ordered.step {s : App} (h : s.Ordered) (e : Event) : (s.step date e).Ordered := by
  have hdoes := s.step_does date e
  generalize s.step date e = s' at hdoes
  cases hdoes with
  | stays => exact h
  | @accepts a hopen hroom =>
      refine { h with clicks := ?_, queue := ?_, limit := ?_ }
      · simpa using h.clicks.append (.keep [a])
      · rw [h.queue, List.append_assoc]
      · rw [List.length_append, List.length_singleton]
        omega
  | @refuses a notice hopen hnotice =>
      -- the other notice would mean that the worker has ended before the window
      have hnotice : notice = stillProcessing :=
        hnotice.resolve_left fun hended => by
          have halive := h.alive (h.runs hopen)
          rw [hended] at halive
          cases halive
      refine { h with clicks := ?_, notices := ?_ }
      · simpa using h.clicks.append (.drop [a])
      · rw [h.notices, List.map_append, hnotice]
        rfl
  | takes hupdates => exact { h with }
  | closes => exact { h with runs := nofun }
  | stops hopen =>
      refine { h with runs := fun h' => ?_, receives := nofun, alive := nofun }
      rw [hopen] at h'
      cases h'
  | drops hrunning =>
      refine { h with receives := fun h' => ?_, keeps := nofun }
      rw [hrunning] at h'
      cases h'
  | ends hstage hrunning =>
      have hanswered := h.answered
      rw [hstage] at hanswered
      refine { h with answered := hanswered, one := Nat.zero_le _, alive := fun h' => ?_ }
      rw [hrunning] at h'
      cases h'
  | begins hstage hnext =>
      have hanswered := h.answered
      rw [hstage] at hanswered
      obtain rfl | rfl := hnext <;>
        exact { h with answered := hanswered, one := Nat.zero_le _, alive := fun _ => rfl }
  | @polls i p hstage =>
      have hanswered := h.answered
      rw [hstage] at hanswered
      obtain ⟨memory, stage, requests, heq, hhand, hended⟩ := s.poll_eq i p
      rw [heq]
      refine { h with answered := ?_, one := ?_, alive := fun _ => hended }
      · rw [hhand]
        exact hanswered
      · rw [hhand]
        exact Nat.zero_le _
  | idles hstage =>
      have hanswered := h.answered
      rw [hstage] at hanswered
      exact { h with answered := hanswered, one := Nat.zero_le _, alive := fun _ => rfl }
  | @receives i a rest hstage hactions =>
      have hanswered := h.answered
      have hlimit := h.limit
      rw [hstage] at hanswered
      rw [hactions, List.length_cons] at hlimit
      refine { h with
        queue := ?_, limit := ?_, answered := ?_, one := le_rfl, alive := fun _ => rfl }
      · rw [h.queue, hactions, List.append_assoc]
        rfl
      · show rest.length ≤ 16
        omega
      · rw [hanswered, List.append_assoc]
        rfl
  | asks hstage =>
      have hanswered := h.answered
      rw [hstage] at hanswered
      exact { h with answered := hanswered, one := le_rfl, alive := fun _ => rfl }
  | finishes hstage =>
      have hanswered := h.answered
      rw [hstage] at hanswered
      exact { h with answered := hanswered, one := le_rfl, alive := fun _ => rfl }
  | @loses i u next hstage hreceiver =>
      obtain ⟨hanswered, hone, halive⟩ := h.atDelivery hstage
      refine { h with answered := ?_, one := hone, keeps := fun h' => ?_, alive := halive }
      · rw [hanswered, ← List.append_assoc s.delivered, results_concat, List.append_assoc]
      · exact absurd (hreceiver.symm.trans h') nofun
  | @delivers i u next hstage hreceiver hroom =>
      obtain ⟨hanswered, hone, halive⟩ := h.atDelivery hstage
      refine { h with answered := ?_, one := hone, alive := halive }
      rw [h.keeps hreceiver, List.append_nil] at hanswered ⊢
      rw [hanswered, results_concat, List.append_assoc]

/-- The order of the actions holds over every run. -/
theorem ordered_run (timezone : String) (incident : Option String) (events : List Event) :
    ((start timezone incident).run date events).Ordered := by
  refine Transition.run_induction _ ?_ (fun s e h => h.step date e) events
  refine ⟨.keep _, rfl, ?_, rfl, Nat.zero_le _, rfl, fun _ => rfl, fun _ => rfl, fun _ => rfl,
    fun _ => rfl⟩
  cases incident with
  | none => exact Nat.zero_le _
  | some id => exact Nat.one_le_ofNat

/-- **What becomes of a click**, in any order of what the window and the worker do.  Every
click has been queued or refused, and one that was refused has its notice, which is never
that the worker has stopped.  The worker takes the queued ones in order, and each one that
it took has one result among its updates, in order, but for the one in hand. -/
theorem actions_are_handled_in_order (timezone : String) (incident : Option String)
    (events : List Event) :
    let s := (start timezone incident).run date events
    Handoff.Interleaves s.accepted s.refused s.clicks ∧
      s.notices = s.refused.map (fun _ => stillProcessing) ∧
      s.accepted = s.taken ++ s.actions ∧ s.actions.length ≤ 16 ∧
      s.taken = results (s.delivered ++ s.lost) ++ s.stage.inHand ∧ s.stage.inHand.length ≤ 1 := by
  intro s
  have h : s.Ordered := ordered_run date timezone incident events
  exact ⟨h.clicks, h.notices, h.queue, h.limit, h.answered, h.one⟩

end

end Railwatch.Desktop
