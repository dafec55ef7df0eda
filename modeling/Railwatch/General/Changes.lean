/-
# The changes in a list, and its last entry of a kind

`destutter` keeps the entries that are not like the one before.  One more entry is kept if
it is not like the last one that was (`destutter_concat`).

`nothing_or_last` splits a list at the last entry that has a value.

Both are used for streams: a consumer that compares each message with the last one keeps
the changes, and the last message of a kind is what it shows.
-/

import Mathlib

namespace Changes

variable {α β : Type*}

section

variable (R : α → α → Prop) [DecidableRel R]

/-- One more element stays if it differs from the last that stayed. -/
theorem destutter'_concat (l : List α) (a x : α) :
    (l ++ [x]).destutter' R a = l.destutter' R a ++
      if R ((l.destutter' R a).getLast (List.destutter'_ne_nil l R)) x then [x] else [] := by
  induction l generalizing a with
  | nil =>
      by_cases h : R a x <;> simp [h]
  | cons b l ih =>
      by_cases h : R a b
      · simp only [List.cons_append, List.destutter'_cons_pos _ h, ih,
          List.getLast_cons (List.destutter'_ne_nil l R)]
      · simp only [List.cons_append, List.destutter'_cons_neg _ h, ih]

/-- **One more entry** is kept if it is not like the last one that was. This is the rule
by which a loop builds the list from its beginning. -/
theorem destutter_concat (l : List α) (x : α) :
    (l ++ [x]).destutter R = l.destutter R ++
      if ∀ y ∈ (l.destutter R).getLast?, R y x then [x] else [] := by
  cases l with
  | nil => simp
  | cons a l =>
      rw [List.cons_append, List.destutter_cons', List.destutter_cons', destutter'_concat,
        List.getLast?_eq_getLast_of_ne_nil (List.destutter'_ne_nil l R)]
      simp only [Option.mem_some_iff, forall_eq']

end

/-- No entry has a value, or there is a last one that has. -/
theorem nothing_or_last (f : α → Option β) (l : List α) : (∀ x ∈ l, f x = none) ∨
    ∃ before x b after, l = before ++ x :: after ∧ f x = some b ∧ ∀ y ∈ after, f y = none := by
  induction l with
  | nil => exact .inl nofun
  | cons a l ih =>
      obtain hnone | ⟨before, x, b, after, rfl, hx, hafter⟩ := ih
      · cases ha : f a with
        | none => exact .inl (List.forall_mem_cons.2 ⟨ha, hnone⟩)
        | some b => exact .inr ⟨[], a, b, l, rfl, ha, hnone⟩
      · exact .inr ⟨a :: before, x, b, after, rfl, hx, hafter⟩

end Changes
