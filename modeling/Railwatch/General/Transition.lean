/-
# Runs of a transition system

A system with states `σ` takes the actions of a list one after the other; an
action that is not possible in a state leaves it as it is.  `Along P` says that
every action of a run finds a state with `P`, and `Along.induction` is the rule
for invariants of such runs.  `outputs` collects what the actions put out,
`outputsSince` and `outputsUntil` what they put out after the last action of a
kind and before the first one.

An invariant is proved for one step and carried over runs by these rules; a proof is by
induction on the runs themselves where its statement is about the actions that led to a
state.
-/

import Mathlib

namespace Transition

variable {σ α β : Type*} (step : σ → α → σ)

/-- The state after a run. -/
def run (s : σ) (as : List α) : σ := as.foldl step s

/-- No steps. -/
@[simp] theorem run_nil (s : σ) : run step s [] = s := rfl

@[simp] theorem run_cons (s : σ) (a : α) (as : List α) :
    run step s (a :: as) = run step (step s a) as := rfl

/-- Two runs, one after the other. -/
theorem run_append (s : σ) (as as' : List α) :
    run step s (as ++ as') = run step (run step s as) as' := List.foldl_append

/-- A run and its last step. -/
theorem run_concat (s : σ) (as : List α) (a : α) :
    run step s (as ++ [a]) = step (run step s as) a := by
  rw [run_append, run_cons, run_nil]

/-- Every action of a run finds a state with `P`. -/
def Along (P : σ → α → Prop) : σ → List α → Prop
  | _, [] => True
  | s, a :: as => P s a ∧ Along P (step s a) as

instance decidableAlong (P : σ → α → Prop) [∀ s a, Decidable (P s a)] :
    ∀ s as, Decidable (Along step P s as)
  | _, [] => inferInstanceAs (Decidable True)
  | s, a :: as =>
      have := decidableAlong P (step s a) as
      inferInstanceAs (Decidable (P s a ∧ Along step P (step s a) as))

/-- What holds along a run holds along its beginning, and before its last step. -/
theorem along_concat {P : σ → α → Prop} {s : σ} {as : List α} {a : α} :
    Along step P s (as ++ [a]) ↔ Along step P s as ∧ P (run step s as) a := by
  induction as generalizing s with
  | nil => simp [Along]
  | cons b as ih => simp [Along, ih, and_assoc]

/-- It holds along every beginning of the run. -/
theorem Along.of_prefix {P : σ → α → Prop} {s : σ} {as as' : List α} (h : Along step P s as)
    (hpre : as' <+: as) : Along step P s as' := by
  induction as generalizing s as' with
  | nil =>
      rw [List.prefix_nil.1 hpre]
      trivial
  | cons a as ih =>
      rcases List.prefix_cons_iff.1 hpre with rfl | ⟨as'', rfl, hpre'⟩
      · trivial
      · exact ⟨h.1, ih h.2 hpre'⟩

/-- Two conditions along one run. -/
theorem along_and {P Q : σ → α → Prop} {s : σ} {as : List α} :
    Along step (fun s a => P s a ∧ Q s a) s as ↔ Along step P s as ∧ Along step Q s as := by
  induction as generalizing s with
  | nil => simp [Along]
  | cons a as ih => simp only [Along, ih, and_assoc, and_left_comm]

/-- **Invariants.**  What holds at the start and survives every action that
finds `P` holds after any run along `P`. -/
theorem Along.induction {P : σ → α → Prop} {I : σ → Prop} {s : σ} {as : List α}
    (h : Along step P s as) (hI : I s) (hstep : ∀ s a, I s → P s a → I (step s a)) :
    I (run step s as) := by
  induction as generalizing s with
  | nil => exact hI
  | cons a as ih => exact ih h.2 (hstep s a hI h.1)

/-- Invariants of all runs. -/
theorem run_induction {I : σ → Prop} {s : σ} (hI : I s) (hstep : ∀ s a, I s → I (step s a))
    (as : List α) : I (run step s as) := by
  induction as generalizing s with
  | nil => exact hI
  | cons a as ih => exact ih (hstep s a hI)

/-- **A property of all states of a run.**  If one step keeps `S` exactly when it
finds `P`, then all states of a run have `S` exactly when the run is along `P`. -/
theorem along_iff_forall_prefix {P : σ → α → Prop} {I S : σ → Prop}
    (hI : ∀ s a, I s → S s → I (step s a)) (hS : ∀ s a, I s → S s → (S (step s a) ↔ P s a))
    {s : σ} (hs : I s) (hs' : S s) (as : List α) :
    (∀ as', as' <+: as → S (run step s as')) ↔ Along step P s as := by
  induction as generalizing s with
  | nil =>
      refine ⟨fun _ => trivial, fun _ as' has' => ?_⟩
      rwa [List.prefix_nil.1 has']
  | cons a as ih =>
      constructor
      · intro h
        have hP : S (step s a) := h [a] ⟨as, rfl⟩
        refine ⟨(hS s a hs hs').1 hP, (ih (hI s a hs hs') hP).1 fun as' has' => ?_⟩
        exact h (a :: as') (List.cons_prefix_cons.2 ⟨rfl, has'⟩)
      · rintro ⟨hP, halong⟩ as' has'
        have hnext := (hS s a hs hs').2 hP
        rcases List.prefix_cons_iff.1 has' with rfl | ⟨as'', rfl, has''⟩
        · exact hs'
        · exact (ih (hI s a hs hs') hnext).2 halong as'' has''

/-- What the actions of a run put out. -/
def outputs (out : σ → α → List β) : σ → List α → List β
  | _, [] => []
  | s, a :: as => out s a ++ outputs out (step s a) as

/-- The outputs of two runs, the second from where the first one ends. -/
theorem outputs_append (out : σ → α → List β) (s : σ) (as as' : List α) :
    outputs step out s (as ++ as') =
      outputs step out s as ++ outputs step out (run step s as) as' := by
  induction as generalizing s with
  | nil => rfl
  | cons a as ih => rw [List.cons_append, outputs, outputs, ih, List.append_assoc, run_cons]

/-- The outputs of a run and of its last step. -/
theorem outputs_concat (out : σ → α → List β) (s : σ) (as : List α) (a : α) :
    outputs step out s (as ++ [a]) = outputs step out s as ++ out (run step s as) a := by
  rw [outputs_append, outputs, outputs, List.append_nil]

/-- What the actions of a run put out after the last one that resets, with `kept`
before the run. -/
def outputsSince (reset : σ → α → Bool) (out : σ → α → List β) : List β → σ → List α → List β
  | kept, _, [] => kept
  | kept, s, a :: as =>
      outputsSince reset out (if reset s a then [] else kept ++ out s a) (step s a) as

/-- A step that resets leaves nothing of what came before. -/
theorem outputsSince_concat (reset : σ → α → Bool) (out : σ → α → List β) (kept : List β) (s : σ)
    (as : List α) (a : α) :
    outputsSince step reset out kept s (as ++ [a]) =
      if reset (run step s as) a then []
      else outputsSince step reset out kept s as ++ out (run step s as) a := by
  induction as generalizing s kept with
  | nil => rfl
  | cons b as ih => exact ih _ _

/-- What came since then is a part of the outputs. -/
theorem outputsSince_subset (reset : σ → α → Bool) (out : σ → α → List β) (s : σ)
    (as : List α) : outputsSince step reset out [] s as ⊆ outputs step out s as := by
  induction as using List.reverseRecOn with
  | nil => exact List.nil_subset _
  | append_singleton as a ih =>
      rw [outputsSince_concat, outputs_concat]
      split_ifs
      · exact List.nil_subset _
      · exact List.append_subset.2
          ⟨fun _ hx => List.mem_append_left _ (ih hx), List.subset_append_right ..⟩

/-- What the actions of a run put out before the first one that stops. -/
def outputsUntil (stop : σ → α → Bool) (out : σ → α → List β) : σ → List α → List β
  | _, [] => []
  | s, a :: as => if stop s a then [] else out s a ++ outputsUntil stop out (step s a) as

/-- And so is what came until then. -/
theorem outputsUntil_subset (stop : σ → α → Bool) (out : σ → α → List β) (s : σ) (as : List α) :
    outputsUntil step stop out s as ⊆ outputs step out s as := by
  induction as generalizing s with
  | nil => exact List.Subset.refl _
  | cons a as ih =>
      unfold outputsUntil outputs
      split_ifs
      · exact List.nil_subset _
      · exact List.append_subset.2
          ⟨List.subset_append_left .., fun _ hx => List.mem_append_right _ (ih _ hx)⟩

end Transition
