/-
# Comparing lists part by part

The lexicographic order of lists that are put together from parts: the first part
decides if its length is fixed (`append_lt_append_iff`), or if it is followed by a
separator below all its entries but the first (`separated_lt_iff`).

Both are about texts that are put together from fields, such as dates: the order of such
texts is that of their fields, as long as a field can not run into the next one.
-/

import Mathlib

namespace Lexicographic

variable {α : Type*} [LinearOrder α]

/-- **A first part of fixed length decides.** What comes behind is only looked at where
the first parts are equal. -/
theorem append_lt_append_iff {a b c d : List α} (h : a.length = c.length) :
    a ++ b < c ++ d ↔ a < c ∨ a = c ∧ b < d := by
  induction a generalizing c with
  | nil =>
      obtain rfl := List.eq_nil_of_length_eq_zero h.symm
      simp
  | cons x a ih =>
      cases c with
      | nil => cases h
      | cons y c =>
          rw [List.cons_append, List.cons_append, List.cons_lt_cons_iff, List.cons_lt_cons_iff,
            ih (Nat.succ.inj h), List.cons.injEq]
          tauto

/-- A part whose entries are above the separator decides. A part that ends first is
followed by the separator, which is below whatever the longer part goes on with, as the
end of a list is. -/
theorem above_lt_iff {sep : α} {a b c d : List α} (ha : ∀ x ∈ a, sep < x)
    (hc : ∀ x ∈ c, sep < x) : a ++ sep :: b < c ++ sep :: d ↔ a < c ∨ a = c ∧ b < d := by
  induction a generalizing c with
  | nil =>
      cases c with
      | nil => simp
      | cons y c =>
          have hy := hc y List.mem_cons_self
          simp [List.cons_lt_cons_iff, hy]
  | cons x a ih =>
      have hx := ha x List.mem_cons_self
      cases c with
      | nil => simp [List.cons_lt_cons_iff, hx.not_gt, hx.ne']
      | cons y c =>
          rw [List.cons_append, List.cons_append, List.cons_lt_cons_iff, List.cons_lt_cons_iff,
            ih (fun z hz => ha z (List.mem_cons_of_mem x hz))
              fun z hz => hc z (List.mem_cons_of_mem y hz), List.cons.injEq]
          tauto

/-- **A separator below all entries but the first decides, too.** A first part that is
the beginning of the other one is followed by the separator where the other goes on, and
so it is the smaller one. -/
theorem separated_lt_iff {sep : α} {a b c d : List α} (ha : a ≠ []) (hc : c ≠ [])
    (hatail : ∀ x ∈ a.tail, sep < x) (hctail : ∀ x ∈ c.tail, sep < x) :
    a ++ sep :: b < c ++ sep :: d ↔ a < c ∨ a = c ∧ b < d := by
  obtain ⟨x, a, rfl⟩ := List.exists_cons_of_ne_nil ha
  obtain ⟨y, c, rfl⟩ := List.exists_cons_of_ne_nil hc
  have hrest : a ++ sep :: b < c ++ sep :: d ↔ a < c ∨ a = c ∧ b < d := above_lt_iff hatail hctail
  rw [List.cons_append, List.cons_append, List.cons_lt_cons_iff, List.cons_lt_cons_iff, hrest,
    List.cons.injEq]
  tauto

end Lexicographic
