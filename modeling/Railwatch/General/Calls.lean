/-
# Programs that make calls

A `Program` makes calls one after the other, looks at each answer, and ends with a
result or an error.  What a call does to the world is not a part of it: that is a
`Turn`, and `run` lets a program act on a world through one.

`Within P n` bounds a program for all worlds: it makes at most `n` calls, each of
them with `P`.  `Within.run` is the rule for what a world counts, and `run_simulates`
carries a run over to a world with less in it.

A bound of this kind is proved along the text of the program, by `Within.bind`, and
holds then for any world, also for one whose calls fail.
-/

import Mathlib

namespace Calls

/-- A program.  An error is an answer to a call, and may be how a program ends. What it
does next is a function of the answers so far. -/
inductive Program (Call Answer ε α : Type) where
  | done (result : Except ε α)
  | call (c : Call) (next : Except ε Answer → Program Call Answer ε α)

variable {Call Answer ε α β σ τ : Type}

namespace Program

/-- Sequencing: an error ends both programs. -/
def bind : Program Call Answer ε α → (α → Program Call Answer ε β) → Program Call Answer ε β
  | .done (.ok a), f => f a
  | .done (.error e), _ => .done (.error e)
  | .call c next, f => .call c fun r => (next r).bind f

instance instMonad : Monad (Program Call Answer ε) where
  pure a := .done (.ok a)
  bind := bind

/-- One call, whose error is passed on. -/
def perform (c : Call) : Program Call Answer ε Answer := .call c .done

/-- A program whose error is not passed on. -/
def attempt : Program Call Answer ε α → Program Call Answer ε (Except ε α)
  | .done r => .done (.ok r)
  | .call c next => .call c fun r => (next r).attempt

end Program

open Program

/-- What a call does to a world, and what it answers. -/
abbrev Turn (Call Answer ε σ : Type) := Call → σ → Except ε Answer × σ

/-- The outcome of a program, and the world after it. -/
def run (turn : Turn Call Answer ε σ) : Program Call Answer ε α → σ → Except ε α × σ
  | .done r, s => (r, s)
  | .call c next, s => run turn (next (turn c s).1) (turn c s).2

/-! ### Sequencing -/

section Sequencing

variable (turn : Turn Call Answer ε σ) {x : Program Call Answer ε α}
  {f : α → Program Call Answer ε β} {s : σ}

/-- A program that makes no call leaves the world as it is. -/
@[simp] theorem run_pure (a : α) (s : σ) :
    run turn (pure a : Program Call Answer ε α) s = (.ok a, s) := rfl

/-- A program goes on from what its first part returns. -/
theorem run_bind_of_ok {a : α} {s' : σ} (h : run turn x s = (.ok a, s')) :
    run turn (x >>= f) s = run turn (f a) s' := by
  change run turn (x.bind f) s = _
  induction x generalizing s with
  | done r =>
      obtain ⟨rfl, rfl⟩ := Prod.mk.inj h
      rfl
  | call c next ih => exact ih _ h

/-- A program ends where its first part fails. -/
theorem run_bind_of_error {e : ε} {s' : σ} (h : run turn x s = (.error e, s')) :
    run turn (x >>= f) s = (.error e, s') := by
  change run turn (x.bind f) s = _
  induction x generalizing s with
  | done r =>
      obtain ⟨rfl, rfl⟩ := Prod.mk.inj h
      rfl
  | call c next ih => exact ih _ h

/-- A program that returns has gone through its first part. -/
theorem of_run_bind_eq_ok {b : β} {s' : σ} (h : run turn (x >>= f) s = (.ok b, s')) :
    ∃ a s'', run turn x s = (.ok a, s'') ∧ run turn (f a) s'' = (.ok b, s') := by
  cases hx : run turn x s with
  | mk r s'' =>
      cases r with
      | ok a => exact ⟨a, s'', rfl, (run_bind_of_ok turn hx).symm.trans h⟩
      | error e =>
          rw [run_bind_of_error turn hx] at h
          cases (Prod.mk.inj h).1

end Sequencing

/-! ### Which calls a program makes -/

/-- A program makes at most `n` calls, all of them with `P`, whatever the answers. The
bound is for a program as a whole, and not for one of its runs. -/
inductive Within (P : Call → Prop) : ℕ → Program Call Answer ε α → Prop where
  | done {n : ℕ} (r : Except ε α) : Within P n (.done r)
  | call {n : ℕ} {c : Call} {next : Except ε Answer → Program Call Answer ε α} (hc : P c)
      (hnext : ∀ r, Within P n (next r)) : Within P (n + 1) (.call c next)

section Within

variable {P : Call → Prop} {n m : ℕ} {x : Program Call Answer ε α}

/-- A bound may be raised. -/
theorem Within.mono (h : Within P n x) (hnm : n ≤ m) : Within P m x := by
  induction h generalizing m with
  | done r => exact .done r
  | call hc _ ih =>
      obtain ⟨k, rfl⟩ : ∃ k, m = k + 1 := Nat.exists_eq_succ_of_ne_zero (by omega)
      exact .call hc fun r => ih r (by omega)

/-- A program that is one call. -/
theorem within_perform {c : Call} (hc : P c) :
    Within P 1 (perform c : Program Call Answer ε Answer) := .call hc .done

/-- A program that makes none. -/
theorem within_pure (a : α) : Within P n (pure a : Program Call Answer ε α) := .done _

/-- **Sequencing** adds the bounds. So the calls of a program are counted along its
text, with no run in hand. -/
theorem Within.bind {f : α → Program Call Answer ε β} (h : Within P n x)
    (hf : ∀ a, Within P m (f a)) : Within P (n + m) (x >>= f) := by
  change Within P (n + m) (x.bind f)
  induction h with
  | @done n r =>
      cases r with
      | ok a => exact (hf a).mono (Nat.le_add_left m n)
      | error e => exact .done _
  | @call n c next hc _ ih =>
      rw [Nat.add_right_comm]
      exact .call hc ih

/-- Keeping an error costs no call. -/
theorem Within.attempt (h : Within P n x) : Within P n x.attempt := by
  induction h with
  | done r => exact .done _
  | call hc _ ih => exact .call hc ih

/-- **What a world counts.**  If every call with `P` counts at most once, a run counts
at most as many as its program makes. -/
theorem Within.run {turn : Turn Call Answer ε σ} {I : ℕ → σ → Prop}
    (hmono : ∀ k s, I k s → I (k + 1) s) (hstep : ∀ k s c, P c → I k s → I (k + 1) (turn c s).2)
    (h : Within P n x) {k : ℕ} {s : σ} (hI : I k s) : I (k + n) (run turn x s).2 := by
  induction h generalizing k s with
  | @done n r =>
      induction n with
      | zero => exact hI
      | succ n ih => exact hmono _ _ ih
  | @call n c next hc _ ih =>
      rw [Nat.add_comm n, ← Nat.add_assoc]
      exact ih _ (hstep k s c hc hI)

end Within

/-- **A world with more in it**: if each call answers alike and does the same to what the
two worlds share, so does a program. -/
theorem run_simulates {turn : Turn Call Answer ε σ} {turn' : Turn Call Answer ε τ} {f : τ → σ}
    (hturn : ∀ c t, (turn' c t).1 = (turn c (f t)).1 ∧ f (turn' c t).2 = (turn c (f t)).2)
    (x : Program Call Answer ε α) (t : τ) :
    (run turn' x t).1 = (run turn x (f t)).1 ∧ f (run turn' x t).2 = (run turn x (f t)).2 := by
  induction x generalizing t with
  | done r => exact ⟨rfl, rfl⟩
  | call c next ih =>
      obtain ⟨hanswer, hworld⟩ := hturn c t
      have hrest := ih (turn' c t).1 (turn' c t).2
      rw [hworld, hanswer] at hrest
      rwa [run, run, hanswer]

end Calls
