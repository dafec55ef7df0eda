/-
# The run at the end of a list

A list is a run when each of its elements is good and each consecutive pair is
linked.  `lastRun` reads a list from the left and keeps the run that ends at
the element read last: a linked good element extends it, an unlinked good
element starts it afresh, any other element ends it.

`isLongestRun_lastRun` says that what it keeps is the longest run that is a
suffix of the list.

A consumer that sees the elements one by one, and remembers a single list, can so decide
a property of all suffixes.  Timers do this: they hold the time of the first element of
the run.
-/

import Mathlib

namespace Runs

variable {α : Type*} (link : α → α → Prop) (good : α → Prop)

/-- Consecutive elements are linked and every element is good. The empty list is a run. -/
structure IsRun (l : List α) : Prop where
  /-- Each element is linked to the next. -/
  chain : l.IsChain link
  /-- Each element is good. -/
  all : ∀ x ∈ l, good x

variable {link good} in
/-- One more element goes on with a run if it is good and linked to the last one. So a
run can be followed element by element, with its last one alone remembered. -/
theorem isRun_concat {l : List α} {x : α} :
    IsRun link good (l ++ [x]) ↔
      IsRun link good l ∧ good x ∧ ∀ y ∈ l.getLast?, link y x := by
  constructor
  · intro h
    have hc := List.isChain_append.1 h.chain
    refine ⟨⟨hc.1, fun y hy => h.all y (List.mem_append_left _ hy)⟩, h.all x (by simp), ?_⟩
    intro y hy
    exact hc.2.2 y hy x (by simp)
  · rintro ⟨h, hx, hl⟩
    refine ⟨List.isChain_append.2 ⟨h.chain, List.isChain_singleton x, ?_⟩, ?_⟩
    · intro y hy z hz
      simp only [List.head?_cons, Option.mem_def, Option.some.injEq] at hz
      exact hz ▸ hl y hy
    · intro y hy
      rcases List.mem_append.1 hy with hy | hy
      · exact h.all y hy
      · rwa [List.mem_singleton.1 hy]

variable [DecidableRel link] [DecidablePred good]

/-- What one more element makes of the run kept so far. -/
def extend (r : List α) (x : α) : List α :=
  if good x then if ∀ y ∈ r.getLast?, link y x then r ++ [x] else [x] else []

/-- The run at the end of a list. -/
def lastRun (l : List α) : List α := l.foldl (extend link good) []

/-- The last run is extended by the next element, or starts again with it. -/
theorem lastRun_concat (l : List α) (x : α) :
    lastRun link good (l ++ [x]) = extend link good (lastRun link good l) x := by
  simp [lastRun, List.foldl_append]

/-- It is the end of the list. -/
theorem lastRun_suffix (l : List α) : lastRun link good l <:+ l := by
  induction l using List.reverseRecOn with
  | nil => exact List.suffix_rfl
  | append_singleton l x ih =>
      rw [lastRun_concat]
      unfold extend
      split_ifs
      · obtain ⟨a, ha⟩ := ih
        exact ⟨a, by rw [← List.append_assoc, ha]⟩
      · exact List.suffix_append l [x]
      · exact List.nil_suffix

/-- And it is a run. -/
theorem lastRun_isRun (l : List α) : IsRun link good (lastRun link good l) := by
  induction l using List.reverseRecOn with
  | nil => exact ⟨List.isChain_nil, fun _ h => absurd h List.not_mem_nil⟩
  | append_singleton l x ih =>
      rw [lastRun_concat]
      unfold extend
      split_ifs with hx hl
      · exact isRun_concat.2 ⟨ih, hx, hl⟩
      · exact ⟨List.isChain_singleton x, fun y hy => by rwa [List.mem_singleton.1 hy]⟩
      · exact ⟨List.isChain_nil, fun _ h => absurd h List.not_mem_nil⟩

/-- **No longer run ends there.**  Every run that is a suffix of the list is a
suffix of `lastRun`. -/
theorem suffix_lastRun {l r : List α} (hr : r <:+ l) (h : IsRun link good r) :
    r <:+ lastRun link good l := by
  induction l using List.reverseRecOn generalizing r with
  | nil => rw [List.suffix_nil.1 hr]; exact List.suffix_rfl
  | append_singleton l x ih =>
      rcases List.suffix_concat_iff.1 hr with rfl | ⟨r', rfl, hr'⟩
      · exact List.nil_suffix
      · obtain ⟨h', hx, hlink⟩ := isRun_concat.1 h
        obtain ⟨a, ha⟩ := ih hr' h'
        rw [lastRun_concat]
        unfold extend
        rw [if_pos hx]
        split_ifs with hl
        · exact ⟨a, by rw [← List.append_assoc, ha]⟩
        · -- an unlinked element leaves no room for a longer run before it
          have hnil : r' = [] := by
            by_contra hne
            refine hl fun y hy => hlink y ?_
            rw [← ha, List.getLast?_append_of_ne_nil _ hne] at hy
            exact hy
          rw [hnil]
          exact List.suffix_rfl

/-- A run that ends a list and that no other run ending it exceeds. There is only one. -/
structure IsLongestRun (link : α → α → Prop) (good : α → Prop) (l r : List α) : Prop where
  /-- It is an end of the list. -/
  suffix : r <:+ l
  /-- It is a run. -/
  isRun : IsRun link good r
  /-- Every other run that ends the list is a part of it. -/
  longest : ∀ r', r' <:+ l → IsRun link good r' → r' <:+ r

/-- **`lastRun` is the longest run at the end of a list.** It is a run, and one entry
more, if there is one, would not be linked or not be good. -/
theorem isLongestRun_lastRun (l : List α) : IsLongestRun link good l (lastRun link good l) :=
  ⟨lastRun_suffix link good l, lastRun_isRun link good l, fun _ => suffix_lastRun link good⟩

end Runs
