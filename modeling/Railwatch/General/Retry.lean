/-
# Retrying a list of writes

A worker commits writes one at a time, each on its own, and starts over from
the first one when a write fails.  Others may act on the store in between.

`Retryable` collects what makes this harmless: a write that has been committed
makes no difference to a later attempt (`rerun`), and what others do either
changes nothing or commutes with the writes.  Then a run that ends with all
writes committed leaves what one attempt without any failure would have left,
with the actions of the others on top (`exactly_once`).

The conditions are on single writes; that a list of them can be started over at any
point, any number of times, follows from them by induction on the steps (`Inv`).
-/

import Railwatch.General.Transition

namespace Retry

variable {ε σ ι : Type*}

/-- One attempt: all writes in order, up to the first that fails. -/
def attempt (ws : List (σ → Except ε σ)) (s : σ) : Except ε σ := ws.foldlM (fun s w => w s) s

/-- There is nothing to write. -/
@[simp] theorem attempt_nil (s : σ) : attempt ([] : List (σ → Except ε σ)) s = .ok s := rfl

@[simp] theorem attempt_cons (w : σ → Except ε σ) (ws : List (σ → Except ε σ)) (s : σ) :
    attempt (w :: ws) s = (w s).bind (attempt ws) := rfl

/-- An attempt at two lists of writes is one at the first, and then one at the second. -/
theorem attempt_append (ws ws' : List (σ → Except ε σ)) (s : σ) :
    attempt (ws ++ ws') s = (attempt ws s).bind (attempt ws') := by
  simp only [attempt, List.foldlM_append]
  rfl

/-- Writes that never fail on their own. -/
theorem attempt_map_ok {β : Type*} (f : β → σ → σ) (l : List β) (s : σ) :
    attempt (l.map fun b s => (.ok (f b s) : Except ε σ)) s =
      .ok (l.foldl (fun s b => f b s) s) := by
  induction l generalizing s with
  | nil => rfl
  | cons b l ih => exact ih (f b s)

/-- What happens to the store: the worker's next write commits or fails, or
someone else acts. -/
inductive Step (ι : Type*) where
  | write
  | fail
  | other (i : ι)

/-- How many writes of the current attempt have committed, and the store. An attempt
that fails goes back to none. -/
structure State (σ : Type*) where
  /-- How many writes of this attempt have committed. -/
  next : ℕ
  /-- The store. -/
  store : σ

/-- One step.  A write that fails, for whatever reason, ends the attempt and
leaves the store as it is; once all writes have committed there are no more. -/
def step (ws : List (σ → Except ε σ)) (act : ι → σ → σ) (c : State σ) : Step ι → State σ
  | .write =>
      match ws[c.next]? with
      | none => c
      | some w =>
          match w c.store with
          | .ok s => ⟨c.next + 1, s⟩
          | .error _ => ⟨0, c.store⟩
  | .fail => if c.next < ws.length then ⟨0, c.store⟩ else c
  | .other i => ⟨c.next, act i c.store⟩

/-- The writes bear repetition.  `Done i` says that the first `i` of them have
taken effect, `Enabled` that an action of the others will change something. -/
structure Retryable (ws : List (σ → Except ε σ)) (act : ι → σ → σ) (Enabled : ι → σ → Prop)
    (Done : ℕ → σ → Prop) : Prop where
  /-- Nothing has to be done for none of them. -/
  done_zero : ∀ s, Done 0 s
  /-- A write that goes through has been done; of the last one nothing is asked. -/
  done_write : ∀ i w s s', i + 1 < ws.length → ws[i]? = some w → Done i s → w s = .ok s' →
    Done (i + 1) s'
  /-- The others do not undo a write. -/
  done_act : ∀ i a s, Done i s → Done i (act a s)
  /-- An attempt is the same whether its first writes have taken effect before or not. -/
  rerun : ∀ i w s s', i + 1 < ws.length → ws[i]? = some w → Done i s → w s = .ok s' →
    attempt ws s' = attempt ws s
  /-- An action that is not enabled changes nothing. -/
  idle : ∀ a s, ¬Enabled a s → act a s = s
  /-- One that is may come before or after a write. -/
  commute : ∀ a w s, w ∈ ws → Enabled a s → w (act a s) = (w s).map (act a)
  /-- A write disables no action. -/
  enabled_write : ∀ a w s s', w ∈ ws → Enabled a s → w s = .ok s' → Enabled a s'
  /-- Nor does another action. -/
  enabled_act : ∀ a b s, Enabled a s → Enabled a (act b s)

variable {ws : List (σ → Except ε σ)} {act : ι → σ → σ} {Enabled : ι → σ → Prop}
  {Done : ℕ → σ → Prop}

/-- The actions of the others that changed something. -/
def effective (ws : List (σ → Except ε σ)) (act : ι → σ → σ) (Enabled : ι → σ → Prop)
    [∀ a s, Decidable (Enabled a s)] (c : State σ) (steps : List (Step ι)) : List ι :=
  Transition.outputs (step ws act)
    (fun c a => match a with
      | .other i => if Enabled i c.store then [i] else []
      | _ => []) c steps

namespace Retryable

variable (h : Retryable ws act Enabled Done)
include h

/-- An action of the others commutes with any of the writes that follow it. -/
theorem attempt_act {ws' : List (σ → Except ε σ)} (hws : ∀ w ∈ ws', w ∈ ws) {a : ι} {s : σ}
    (ha : Enabled a s) : attempt ws' (act a s) = (attempt ws' s).map (act a) := by
  induction ws' generalizing s with
  | nil => rfl
  | cons w ws' ih =>
      have hw := hws w (List.mem_cons_self ..)
      rw [attempt_cons, attempt_cons, h.commute a w s hw ha]
      cases hs : w s with
      | error e => rfl
      | ok s' =>
          exact ih (fun w' h' => hws w' (List.mem_cons_of_mem _ h'))
            (h.enabled_write a w s s' hw ha hs)

/-- What is left of the attempt, and a fresh attempt while it is not complete,
both end where one attempt from `s` ends, with the others' actions on top. -/
structure Inv (ws : List (σ → Except ε σ)) (act : ι → σ → σ) (Done : ℕ → σ → Prop) (s : σ)
    (acted : List ι) (c : State σ) : Prop where
  /-- The writes of this attempt have been done. -/
  done : c.next < ws.length → Done c.next c.store
  /-- Its other writes lead where one attempt leads. -/
  rest : attempt (ws.drop c.next) c.store =
    (attempt ws s).map fun s => acted.foldl (fun s a => act a s) s
  /-- And so does a fresh attempt, if it fails now. -/
  again : c.next < ws.length → attempt ws c.store =
    (attempt ws s).map fun s => acted.foldl (fun s a => act a s) s

/-- A write that goes through is one of the attempt. If it is the last one the store is
done; if it fails the attempt starts over, which the invariant allows at any place. -/
theorem inv_write {s : σ} {acted : List ι} {c : State σ} (hc : Inv ws act Done s acted c) :
    Inv ws act Done s acted (step ws act c .write) := by
  unfold step
  cases hw : ws[c.next]? with
  | none => exact hc
  | some w =>
      obtain ⟨hlt, hget⟩ := List.getElem?_eq_some_iff.1 hw
      dsimp only
      cases hs : w c.store with
      | error e => exact ⟨fun _ => h.done_zero _, hc.again hlt, fun _ => hc.again hlt⟩
      | ok s' =>
          have hrest := hc.rest
          rw [List.drop_eq_getElem_cons hlt, hget, attempt_cons, hs] at hrest
          refine ⟨fun hlt' => h.done_write _ w _ s' hlt' hw (hc.done hlt) hs, hrest,
            fun hlt' => ?_⟩
          rw [h.rerun c.next w c.store s' hlt' hw (hc.done hlt) hs]
          exact hc.again hlt

/-- A failure starts the attempt over, with nothing changed. -/
theorem inv_fail {s : σ} {acted : List ι} {c : State σ} (hc : Inv ws act Done s acted c) :
    Inv ws act Done s acted (step ws act c .fail) := by
  unfold step
  dsimp only
  split_ifs with hlt
  · exact ⟨fun _ => h.done_zero _, hc.again hlt, fun _ => hc.again hlt⟩
  · exact hc

/-- What another thread does between two writes counts if it was enabled. It commutes
with the writes that are left and with a whole new attempt; where it is not enabled it
changes nothing. -/
theorem inv_other [∀ a s, Decidable (Enabled a s)] {s : σ} {acted : List ι} {c : State σ}
    (hc : Inv ws act Done s acted c) (a : ι) :
    Inv ws act Done s (acted ++ if Enabled a c.store then [a] else [])
      (step ws act c (.other a)) := by
  split_ifs with ha
  · have hmap (ws' : List (σ → Except ε σ)) (hws : ∀ w ∈ ws', w ∈ ws)
        (heq : attempt ws' c.store =
          (attempt ws s).map fun s => acted.foldl (fun s a => act a s) s) :
        attempt ws' (act a c.store) =
          (attempt ws s).map fun s => (acted ++ [a]).foldl (fun s a => act a s) s := by
      rw [h.attempt_act hws ha, heq]
      cases attempt ws s with
      | error e => rfl
      | ok s' => simp [Except.map, List.foldl_append]
    exact ⟨fun hlt => h.done_act _ a _ (hc.done hlt),
      hmap _ (fun w hw => List.mem_of_mem_drop hw) hc.rest,
      fun hlt => hmap _ (fun w hw => hw) (hc.again hlt)⟩
  · have hsame : step ws act c (.other a) = c := by
      rw [step, h.idle a c.store ha]
    rw [hsame, List.append_nil]
    exact hc

/-- The invariant holds in every run, with the effective actions of the other threads in
their order. -/
theorem inv_run [∀ a s, Decidable (Enabled a s)] (s : σ) (steps : List (Step ι)) :
    Inv ws act Done s (effective ws act Enabled ⟨0, s⟩ steps)
      (Transition.run (step ws act) ⟨0, s⟩ steps) := by
  induction steps using List.reverseRecOn with
  | nil =>
      have hid : attempt ws s = (attempt ws s).map fun s => s := by
        cases attempt ws s <;> rfl
      exact ⟨fun _ => h.done_zero _, hid, fun _ => hid⟩
  | append_singleton steps a ih =>
      rw [Transition.run_concat, effective, Transition.outputs_concat]
      cases a with
      | write =>
          rw [List.append_nil]
          exact h.inv_write ih
      | fail =>
          rw [List.append_nil]
          exact h.inv_fail ih
      | other a => exact h.inv_other ih a

/-- What an action has changed can be changed by it again at the end: no write and no
action takes away what an action needs. So the effect of an effective action is never
lost. -/
theorem enabled_of_mem_effective [∀ a s, Decidable (Enabled a s)] {c : State σ}
    {steps : List (Step ι)} {a : ι} (ha : a ∈ effective ws act Enabled c steps) :
    Enabled a (Transition.run (step ws act) c steps).store := by
  induction steps using List.reverseRecOn with
  | nil => cases ha
  | append_singleton steps b ih =>
      rw [effective, Transition.outputs_concat] at ha
      rw [Transition.run_concat]
      set c' := Transition.run (step ws act) c steps
      cases b with
      | write =>
          rw [List.append_nil] at ha
          have hbefore := ih ha
          unfold step
          cases hw : ws[c'.next]? with
          | none => exact hbefore
          | some w =>
              dsimp only
              cases hs : w c'.store with
              | error e => exact hbefore
              | ok s' =>
                  exact h.enabled_write a w _ s' (List.mem_of_getElem? hw) hbefore hs
      | fail =>
          rw [List.append_nil] at ha
          have hbefore := ih ha
          unfold step
          dsimp only
          split_ifs <;> exact hbefore
      | other b =>
          refine h.enabled_act a b _ ?_
          rcases List.mem_append.1 ha with ha | ha
          · exact ih ha
          · dsimp only at ha
            split_ifs at ha with hb
            · rw [List.mem_singleton.1 ha]
              exact hb
            · cases ha

/-- **Exactly once.**  When all writes have committed, after any failures, the
store is what one attempt leaves, with the others' actions on top. -/
theorem exactly_once [∀ a s, Decidable (Enabled a s)] {s : σ} {steps : List (Step ι)}
    (hdone : (Transition.run (step ws act) ⟨0, s⟩ steps).next = ws.length) :
    ∃ once, attempt ws s = .ok once ∧ (Transition.run (step ws act) ⟨0, s⟩ steps).store =
      (effective ws act Enabled ⟨0, s⟩ steps).foldl (fun s a => act a s) once := by
  have hrest := (h.inv_run s steps).rest
  rw [hdone, List.drop_length, attempt_nil] at hrest
  cases honce : attempt ws s with
  | error e =>
      rw [honce] at hrest
      cases hrest
  | ok once =>
      rw [honce] at hrest
      exact ⟨once, rfl, Except.ok.inj hrest⟩

end Retryable

end Retry
