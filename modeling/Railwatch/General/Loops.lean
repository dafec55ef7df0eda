/-
# Loops that may fail

`List.foldlM` in `Except`: the loop goes through a list and ends at the first
error.  Equal steps give equal loops (`foldlM_congr`), a loop that succeeds has
taken every step (`exists_of_foldlM_ok`), and loops over different states whose
steps agree end alike (`foldlM_agree`).

Agreement is stated for a relation between the states, so that a loop on the machine's
numbers can be compared with one on integers, and one over a table with one over a list.
-/

import Mathlib

namespace Loops

variable {α σ τ ε : Type*}

/-- Two loops whose bodies agree on the elements of the list. -/
theorem foldlM_congr {f g : σ → α → Except ε σ} {l : List α} (h : ∀ a ∈ l, ∀ s, f s a = g s a)
    (s : σ) : l.foldlM f s = l.foldlM g s := by
  induction l generalizing s with
  | nil => rfl
  | cons a l ih =>
      rw [List.foldlM_cons, List.foldlM_cons, h a (List.mem_cons_self ..)]
      exact congrArg _ (funext fun s' => ih (fun a' ha' => h a' (List.mem_cons_of_mem _ ha')) s')

/-- Every step of a loop that succeeds has succeeded, from whatever state the loop had
reached. What a step has checked of its element therefore holds of all elements. -/
theorem exists_of_foldlM_ok {f : σ → α → Except ε σ} {l : List α} {s s' : σ}
    (h : l.foldlM f s = .ok s') {a : α} (ha : a ∈ l) : ∃ s₁ s₂, f s₁ a = .ok s₂ := by
  induction l generalizing s with
  | nil => cases ha
  | cons b l ih =>
      rw [List.foldlM_cons] at h
      cases hb : f s b with
      | error e =>
          rw [hb] at h
          cases h
      | ok s₁ =>
          rw [hb] at h
          rcases List.mem_cons.1 ha with rfl | ha
          · exact ⟨s, s₁, hb⟩
          · exact ih h ha

/-- Two results agree: related values, or the same error. -/
def Agree (R : σ → τ → Prop) : Except ε σ → Except ε τ → Prop
  | .ok s, .ok t => R s t
  | .error e, .error e' => e = e'
  | _, _ => False

/-- **Loops whose steps agree end alike.** Either both fail with the same error, at the
same element, or the states at the end are related. -/
theorem foldlM_agree {R : σ → τ → Prop} {f : σ → α → Except ε σ} {g : τ → α → Except ε τ}
    (hstep : ∀ a s t, R s t → Agree R (f s a) (g t a)) (l : List α) {s : σ} {t : τ} (h : R s t) :
    Agree R (l.foldlM f s) (l.foldlM g t) := by
  induction l generalizing s t with
  | nil => exact h
  | cons a l ih =>
      have ha := hstep a s t h
      rw [List.foldlM_cons, List.foldlM_cons]
      cases hf : f s a <;> cases hg : g t a <;> rw [hf, hg] at ha
      · exact ha
      · exact ha.elim
      · exact ha.elim
      · exact ih ha

/-- Results that agree have the same image where related values have. -/
theorem Agree.map_eq {R : σ → τ → Prop} {x : Except ε σ} {y : Except ε τ} (h : Agree R x y)
    {β : Type*} {f : σ → β} {g : τ → β} (hR : ∀ s t, R s t → f s = g t) : x.map f = y.map g := by
  cases x <;> cases y
  · exact congrArg Except.error h
  · exact h.elim
  · exact h.elim
  · exact congrArg Except.ok (hR _ _ h)

end Loops
