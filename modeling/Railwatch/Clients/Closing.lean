/-
# Closing the window

The end of `main` of `clients/gui/src/main.rs`: what becomes of the worker,
`closing_releases_the_worker`.

The worker looks at `running` at the top of its loop only, so it first ends the poll or
the action that it has in hand.  `Stage.EndsIn` counts the steps that are left of it,
calls included, whatever they return: an action makes a few calls at most
(`handle_within`), and each of them has a time limit of its own.
-/

import Railwatch.Clients.Clicks

namespace Railwatch.Desktop

open Calls

section

variable (date : String → Except String ℤ)

/-- An action takes three calls at most: requests to the daemon, and for an export those
that write the file. The bound is counted along the program of the action, whatever the
answers are. -/
theorem handle_within (device : String) (a : Action) :
    Within (fun _ => True) 3 (handle date device a) := by
  have hgiven {α : Type} (r : Except String α) : Within (fun _ => True) 0 (given r) := .done r
  have hask (socket : Socket) (method : String) (p : Json) :
      Within (fun _ => True) 1 (ask socket method p) := within_perform trivial
  cases a with
  | energy from_ to_ zone period =>
      refine ((hgiven _).bind (m := 3) fun _ => (hgiven _).bind (m := 3) fun _ =>
        (hgiven _).bind (m := 3) fun _ => ((hask ..).bind (m := 0) fun _ => within_pure _).mono ?_)
      omega
  | tariff price currency effective =>
      refine ((hgiven _).bind (m := 3) fun _ => (hgiven _).bind (m := 3) fun _ =>
        ((hask ..).bind (m := 0) fun _ => within_pure _).mono ?_)
      omega
  | inspect => exact ((hask ..).bind (m := 2) fun _ => within_pure _)
  | acknowledge id =>
      exact ((hask ..).bind (m := 2) fun _ => (hask ..).bind (m := 1) fun _ => within_pure _)
  | evidence id => exact ((hask ..).bind (m := 2) fun _ => within_pure _)
  | exportData =>
      exact ((hask ..).bind (m := 2) fun _ => (within_perform trivial).bind (m := 1) fun _ =>
        (within_perform trivial).bind (m := 0) fun _ => within_pure _)
  | incidents => exact ((hask ..).bind (m := 2) fun _ => within_pure _)

/-- The steps from a call of a poll to the end, when the worker is to stop. -/
def Poll.steps : Poll → ℕ
  | .snapshot => 15
  | .energy => 13
  | .tariffs => 11
  | .incidents => 9

/-- The worker ends after a number of steps at most, when it is to stop. -/
def Stage.EndsIn : ℕ → Stage → Prop
  | _, .ended => True
  | n, .top => 1 ≤ n
  | n, .receiving => 7 ≤ n
  | n, .polling p => p.steps ≤ n
  | n, .handling _ rest => ∃ k, Within (fun _ => True) k rest ∧ k + 3 ≤ n
  | n, .delivering _ next => 1 ≤ n ∧ next.EndsIn (n - 1)

/-- A worker that ends within `n` steps ends within more. -/
theorem Stage.EndsIn.mono {n m : ℕ} {stage : Stage} (h : stage.EndsIn n) (hnm : n ≤ m) :
    stage.EndsIn m := by
  induction stage generalizing n m with
  | ended => trivial
  | top => exact le_trans h hnm
  | receiving => exact le_trans h hnm
  | polling p => exact le_trans h hnm
  | handling a rest =>
      obtain ⟨k, hk, hle⟩ := h
      exact ⟨k, hk, hle.trans hnm⟩
  | delivering u next ih => exact ⟨h.1.trans hnm, ih h.2 (by omega)⟩

/-- One answer, and then what comes next. -/
theorem endsIn_answered {n : ℕ} {reply : Except String Json} {update : Json → Update}
    {next : Stage} (h : next.EndsIn n) : (answered reply update next).EndsIn (n + 1) := by
  cases reply with
  | ok v => exact ⟨Nat.succ_le_succ (Nat.zero_le n), h⟩
  | error e => exact h.mono (Nat.le_succ n)

/-- A poll that has been started ends with the step that its kind leaves it. -/
theorem App.poll_endsIn (s : App) (i : Input) (p : Poll) :
    (s.poll i p).stage.EndsIn (p.steps - 1) := by
  cases p with
  | snapshot =>
      refine ⟨by decide, ?_⟩
      split_ifs
      · exact le_refl 13
      · exact (by decide : 7 ≤ 13)
  | energy => exact endsIn_answered (n := 11) (le_refl 11)
  | tariffs => exact endsIn_answered (n := 9) (le_refl 9)
  | incidents => exact endsIn_answered (n := 7) (le_refl 7)

/-- The worker never has more than fifteen steps to its end: a poll has that many when
it begins, and an action, from where the worker looks for it, seven at most. Each step
of the worker takes one from what is left, and the steps of the window take none and add
none. -/
theorem App.endsIn_step {s : App} (h : s.stage.EndsIn 15) (e : Event) :
    (s.step date e).stage.EndsIn 15 := by
  have hdoes := s.step_does date e
  generalize s.step date e = s' at hdoes
  cases hdoes with
  | ends => trivial
  | begins hstage hnext =>
      obtain rfl | rfl := hnext
      · exact le_refl 15
      · exact (by decide : 7 ≤ 15)
  | @polls i p hstage =>
      rw [hstage] at h
      exact (s.poll_endsIn i p).mono ((Nat.sub_le _ _).trans h)
  | idles => exact (by decide : 1 ≤ 15)
  | receives => exact ⟨3, handle_within date _ _, by decide⟩
  | asks hstage =>
      rw [hstage] at h
      obtain ⟨k, hk, hle⟩ := h
      cases hk with
      | call _ hnext => exact ⟨_, hnext _, by omega⟩
  | finishes => exact ⟨by decide, (by decide : 1 ≤ 14)⟩
  | loses hstage =>
      rw [hstage] at h
      exact h.2.mono (by decide)
  | delivers hstage =>
      rw [hstage] at h
      exact h.2.mono (by decide)
  | _ => exact h

/-- The window is closed and its end of the updates is gone. Both stay so, since no step
undoes them. -/
structure App.Closed (s : App) : Prop where
  /-- `running` is cleared. -/
  running : s.running = false
  /-- The receiver of the updates is dropped. -/
  receiver : s.receiver = false

/-- **A step of the worker brings it closer to its end**, once the window is closed. It
goes through what is left of the poll or of the action in hand, and at the top of its
loop it finds `running` cleared. -/
theorem App.Closed.work {s : App} (h : s.Closed) {n : ℕ} (hends : s.stage.EndsIn (n + 1))
    (i : Input) : (s.work date i).stage.EndsIn n := by
  unfold App.work
  cases hstage : s.stage with
  | ended =>
      dsimp only
      rw [hstage]
      trivial
  | top =>
      dsimp only
      rw [if_pos h.running]
      trivial
  | polling p =>
      rw [hstage] at hends
      have hle : p.steps ≤ n + 1 := hends
      exact (s.poll_endsIn i p).mono (by omega)
  | receiving =>
      rw [hstage] at hends
      have hle : 7 ≤ n + 1 := hends
      dsimp only
      split
      · show 1 ≤ n
        omega
      · exact ⟨3, handle_within date _ _, by omega⟩
  | handling a rest =>
      rw [hstage] at hends
      obtain ⟨k, hk, hle⟩ := hends
      cases hk with
      | done r =>
          refine ⟨by omega, ?_⟩
          show 1 ≤ n - 1
          omega
      | call _ hnext => exact ⟨_, hnext _, by omega⟩
  | delivering u next =>
      rw [hstage] at hends
      show (s.deliver u next).stage.EndsIn n
      unfold App.deliver
      rw [if_pos h.receiver]
      exact hends.2

/-- A step of the worker. -/
def Event.isWork : Event → Bool
  | .work _ => true
  | _ => false

/-- Only the worker moves the worker, and a closed window stays closed. No step sets the
flag that says the window is running again, and none brings the dropped receiver back. -/
theorem App.Closed.step {s : App} (h : s.Closed) (e : Event) :
    (s.step date e).Closed ∧ (e.isWork = false → (s.step date e).stage = s.stage) := by
  have hdoes := s.step_does date e
  generalize s.step date e = s' at hdoes
  obtain ⟨hrunning, hreceiver⟩ := h
  cases hdoes with
  | @polls i p hstage =>
      obtain ⟨memory, stage, requests, heq, -, -⟩ := s.poll_eq i p
      rw [heq]
      exact ⟨⟨hrunning, hreceiver⟩, nofun⟩
  | stops => exact ⟨⟨rfl, hreceiver⟩, fun _ => rfl⟩
  | drops => exact ⟨⟨hrunning, rfl⟩, fun _ => rfl⟩
  | stays => exact ⟨⟨hrunning, hreceiver⟩, fun _ => rfl⟩
  | accepts => exact ⟨⟨hrunning, hreceiver⟩, fun _ => rfl⟩
  | refuses => exact ⟨⟨hrunning, hreceiver⟩, fun _ => rfl⟩
  | takes => exact ⟨⟨hrunning, hreceiver⟩, fun _ => rfl⟩
  | closes => exact ⟨⟨hrunning, hreceiver⟩, fun _ => rfl⟩
  | _ => exact ⟨⟨hrunning, hreceiver⟩, nofun⟩

/-- Ending in no steps is having ended. -/
theorem Stage.eq_ended {stage : Stage} (h : stage.EndsIn 0) : stage = .ended := by
  cases stage with
  | ended => rfl
  | top => exact absurd h (by decide : ¬1 ≤ 0)
  | receiving => exact absurd h (by decide : ¬7 ≤ 0)
  | polling p =>
      have hle : p.steps ≤ 0 := h
      cases p <;> exact absurd hle (by decide)
  | handling a rest =>
      obtain ⟨k, -, hle⟩ := h
      omega
  | delivering u next => exact absurd h.1 (by decide)

/-- A closed window, for a number of steps: after as many steps of the worker as it has
left to its end, it has ended, whatever other steps come between them. -/
theorem App.Closed.run {s : App} (h : s.Closed) {n : ℕ} (hends : s.stage.EndsIn n)
    {events : List Event} (hcount : n ≤ events.countP Event.isWork) :
    (s.run date events).stage = .ended := by
  induction events generalizing s n with
  | nil => exact Stage.eq_ended (hends.mono hcount)
  | cons e events ih =>
      obtain ⟨hclosed, hstage⟩ := h.step date e
      rw [List.countP_cons] at hcount
      show (App.run date (s.step date e) events).stage = .ended
      cases hwork : e.isWork with
      | false =>
          rw [hwork] at hcount
          refine ih hclosed (n := n) ?_ hcount
          rw [hstage hwork]
          exact hends
      | true =>
          rw [hwork, if_pos rfl] at hcount
          refine ih hclosed (n := n - 1) ?_ (by omega)
          cases e with
          | work i => exact h.work date (hends.mono (by omega)) i
          | _ => cases hwork

/-- **Closing the window releases the worker**: however full the queues are, it is never held
back again, and ends after fifteen more of its own steps at most. -/
theorem closing_releases_the_worker (timezone : String) (incident : Option String)
    {before after : List Event}
    (hclosed : ((start timezone incident).run date before).receiver = false)
    (hsteps : 15 ≤ after.countP Event.isWork) :
    ((start timezone incident).run date (before ++ after)).stage = .ended := by
  have hends : ((start timezone incident).run date before).stage.EndsIn 15 := by
    refine Transition.run_induction (I := fun s : App => s.stage.EndsIn 15) _ ?_
      (fun s e h => App.endsIn_step date h e) before
    exact (by decide : 1 ≤ 15)
  have hordered := ordered_run date timezone incident before
  have hrunning : ((start timezone incident).run date before).running = false := by
    refine Bool.eq_false_of_not_eq_true fun hrunning => ?_
    exact absurd (hclosed.symm.trans (hordered.receives hrunning)) nofun
  rw [App.run, Transition.run_append]
  exact App.Closed.run date ⟨hrunning, hclosed⟩ hends hsteps

end

/-- The answer to every request. -/
def somePsu : Json := .obj [("snapshot", .obj [("device", .obj [("id", .str "psu")])])]

/-- A worker that is held back by a window that takes nothing, until it is closed. -/
def stalled : List Event :=
  (List.range 40).map (fun n => .work { instant := n * 1000000000, reply := .ok somePsu }) ++
    [.close, .stop, .dropTimer]

/-- The worker of a window that takes nothing: the ninth update waits for room. -/
theorem closing_releases_a_stalled_worker :
    ((start "UTC" none).run (fun _ => .ok 0) (stalled ++ List.replicate 15 (.work {}))).stage =
      .ended := by
  have hclosed : ((start "UTC" none).run (fun _ => .ok 0) stalled).receiver = false := by
    decide +kernel
  exact closing_releases_the_worker (fun _ => .ok 0) "UTC" none hclosed (by decide)

end Railwatch.Desktop
