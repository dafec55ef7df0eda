/-
# Programs with errors over a state

`EStateM` programs that do not roll back: an error leaves the state as it is at
that point.  `Ensures` says what holds of the outcome of a run, and there is a
rule for each way to build a program.  `Reads` programs leave the state alone
whatever they return.

The rules are used backwards, from the outcome that is wanted to the state at the start,
and a program has one lemma of the form `Ensures` in which its outcomes, errors
included, are listed.
-/

import Mathlib

namespace Effects

variable {ε σ α β : Type}

/-- What holds when a program returns, and when it fails. -/
def Ensures (x : EStateM ε σ α) (s : σ) (Q : α → σ → Prop) (E : ε → σ → Prop) : Prop :=
  match x s with
  | .ok a s' => Q a s'
  | .error e s' => E e s'

section Rules

variable {s : σ} {Q : α → σ → Prop} {E : ε → σ → Prop}

/-- A program that returns at once. -/
theorem ensures_pure {a : α} (h : Q a s) : Ensures (pure a) s Q E := h

/-- One that fails at once. -/
theorem ensures_throw {e : ε} (h : E e s) : Ensures (throw e) s Q E := h

/-- Reading the state returns it. -/
theorem ensures_get {Q : σ → σ → Prop} (h : Q s s) : Ensures get s Q E := h

/-- Writing the state replaces it. -/
theorem ensures_set {Q : PUnit → σ → Prop} {s' : σ} (h : Q () s') : Ensures (set s') s Q E := h

/-- Changing the state replaces it by its image. -/
theorem ensures_modify {Q : Unit → σ → Prop} {f : σ → σ} (h : Q () (f s)) :
    Ensures (modify f) s Q E := h

/-- A pure result is returned or thrown, and the state stays. -/
theorem ensures_ofExcept {r : Except ε α} (hok : ∀ a, r = .ok a → Q a s)
    (herror : ∀ e, r = .error e → E e s) : Ensures (ofExcept r) s Q E := by
  cases r with
  | ok a => exact hok a rfl
  | error e => exact herror e rfl

/-- **Sequencing**: what the first program returns is what the second one starts
from; if it fails, so do both. -/
theorem ensures_bind {x : EStateM ε σ β} {f : β → EStateM ε σ α}
    (h : Ensures x s (fun b s' => Ensures (f b) s' Q E) E) : Ensures (x >>= f) s Q E := by
  unfold Ensures at h ⊢
  change match EStateM.bind x f s with
    | .ok a s' => Q a s'
    | .error e s' => E e s'
  unfold EStateM.bind
  cases hx : x s with
  | ok b s' =>
      rw [hx] at h
      exact h
  | error e s' =>
      rw [hx] at h
      exact h

/-- The rule of consequence. -/
theorem Ensures.mono {x : EStateM ε σ α} {Q' : α → σ → Prop} {E' : ε → σ → Prop}
    (h : Ensures x s Q E) (hQ : ∀ a s', Q a s' → Q' a s') (hE : ∀ e s', E e s' → E' e s') :
    Ensures x s Q' E' := by
  unfold Ensures at h ⊢
  cases hx : x s with
  | ok a s' =>
      rw [hx] at h
      exact hQ a s' h
  | error e s' =>
      rw [hx] at h
      exact hE e s' h

/-- What holds of an outcome if and only if something else is true, which does not depend
on the run. -/
theorem ensures_iff {x : EStateM ε σ α} {p : Prop}
    (h : Ensures x s (fun a s' => Q a s' ↔ p) (fun e s' => E e s' ↔ p)) :
    Ensures x s Q E ↔ p := by
  unfold Ensures at h ⊢
  cases hx : x s with
  | ok a s' =>
      rw [hx] at h
      exact h
  | error e s' =>
      rw [hx] at h
      exact h

/-- A run that is known to return. -/
theorem ensures_of_ok {x : EStateM ε σ α} {a : α} {s' : σ} {Q : α → σ → Prop}
    (h : x s = .ok a s') (hQ : Q a s') : Ensures x s Q E := by
  unfold Ensures
  rw [h]
  exact hQ

/-- A run that is known to fail. -/
theorem ensures_of_error {x : EStateM ε σ α} {e : ε} {s' : σ} {Q : α → σ → Prop}
    (h : x s = .error e s') (hE : E e s') : Ensures x s Q E := by
  unfold Ensures
  rw [h]
  exact hE

end Rules

/-- A run goes on from what its first program returns. -/
theorem bind_of_ok {x : EStateM ε σ β} {f : β → EStateM ε σ α} {b : β} {s s' : σ}
    (h : x s = .ok b s') : (x >>= f) s = f b s' := by
  change EStateM.bind x f s = f b s'
  unfold EStateM.bind
  rw [h]

/-- A run ends where its first program fails. -/
theorem bind_of_error {x : EStateM ε σ β} {f : β → EStateM ε σ α} {e : ε} {s s' : σ}
    (h : x s = .error e s') : (x >>= f) s = .error e s' := by
  change EStateM.bind x f s = _
  unfold EStateM.bind
  rw [h]

/-- A program that leaves the state alone. -/
def Reads (x : EStateM ε σ α) : Prop :=
  ∀ s, Ensures x s (fun _ s' => s' = s) (fun _ s' => s' = s)

/-- Returning changes nothing. -/
theorem reads_pure (a : α) : Reads (pure a : EStateM ε σ α) := fun _ => rfl

/-- Failing changes nothing. -/
theorem reads_throw (e : ε) : Reads (throw e : EStateM ε σ α) := fun _ => rfl

/-- Reading the state changes nothing. -/
theorem reads_get : Reads (get : EStateM ε σ σ) := fun _ => rfl

/-- Nor does the result of a pure function. -/
theorem reads_ofExcept (r : Except ε α) : Reads (ofExcept r : EStateM ε σ α) :=
  fun _ => ensures_ofExcept (fun _ _ => rfl) fun _ _ => rfl

/-- A program reads only if both of its parts do. -/
theorem Reads.bind {x : EStateM ε σ β} {f : β → EStateM ε σ α} (hx : Reads x)
    (hf : ∀ b, Reads (f b)) : Reads (x >>= f) := by
  intro s
  refine ensures_bind ((hx s).mono ?_ fun _ _ h => h)
  rintro b s' rfl
  exact hf b s'

/-- And a branch if both of its sides do. -/
theorem Reads.ite {c : Prop} [Decidable c] {x y : EStateM ε σ α} (hx : Reads x) (hy : Reads y) :
    Reads (if c then x else y) := by
  split_ifs
  · exact hx
  · exact hy

end Effects
