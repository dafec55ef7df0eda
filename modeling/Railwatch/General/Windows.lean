/-
# Sliding windows on lists

Two lists that forget their oldest entries.  One is cut at the front by age:
what is cut off is not missed by anyone who asks for younger entries
(`filter_dropWhile`).  The other has room for a number of entries and drops the
first to take one more: it keeps the last entries of all it was given
(`push_rtake`) and drops the others one by one (`length_rdrop_concat`).

The two meet in a ring of samples, which is cut by age, and in a list of windows, which
is cut by number.  What was dropped is counted by the difference of two lengths.
-/

import Mathlib

namespace Windows

variable {α : Type*}

/-- Entries of a prefix that no question is about are not missed. -/
theorem filter_dropWhile {p q : α → Bool} (h : ∀ x, p x → ¬ q x) (l : List α) :
    (l.dropWhile p).filter q = l.filter q := by
  have hprefix : (l.takeWhile p).filter q = [] :=
    List.filter_eq_nil_iff.2 fun x hx => h x (List.mem_takeWhile_imp hx)
  conv_rhs => rw [← List.takeWhile_append_dropWhile (p := p) (l := l)]
  rw [List.filter_append, hprefix, List.nil_append]

/-- One more entry in a list with room for `limit`. -/
def push (limit : ℕ) (l : List α) (x : α) : List α :=
  (if l.length = limit then l.drop 1 else l) ++ [x]

variable {limit : ℕ}

/-- A window has as many elements as it may, or as there are. -/
theorem length_rtake (l : List α) : (l.rtake limit).length = min limit l.length := by
  rw [List.rtake, List.length_drop]
  omega

/-- As long as they are few it has them all. -/
theorem rtake_of_length_le {l : List α} (h : l.length ≤ limit) : l.rtake limit = l := by
  rw [List.rtake, Nat.sub_eq_zero_of_le h, List.drop_zero]

/-- A window is what is left when the older elements are dropped. -/
theorem rdrop_append_rtake (limit : ℕ) (l : List α) : l.rdrop limit ++ l.rtake limit = l :=
  List.take_append_drop _ l

/-- **A list with limited room keeps the last entries.** So what a sequence of pushes
leaves is the end of all that was pushed. -/
theorem push_rtake (hlimit : 0 < limit) (l : List α) (x : α) :
    push limit (l.rtake limit) x = (l ++ [x]).rtake limit := by
  unfold push
  rw [length_rtake]
  split_ifs with hfull
  · have hle : limit ≤ l.length := by omega
    rw [List.rtake, List.rtake, List.drop_drop, List.length_append, List.length_singleton,
      List.drop_append_of_le_length (by omega), Nat.sub_add_comm hle]
  · have hlt : l.length < limit := by omega
    rw [rtake_of_length_le hlt.le, rtake_of_length_le (by simpa using hlt)]

/-- The same list, if the entry is added first. -/
theorem concat_rtake (hlimit : 0 < limit) (l : List α) (x : α) :
    (if limit < (l.rtake limit ++ [x]).length then (l.rtake limit ++ [x]).drop 1
      else l.rtake limit ++ [x]) = (l ++ [x]).rtake limit := by
  have hlength : (l.rtake limit).length = min limit l.length := length_rtake l
  rw [← push_rtake hlimit, push, List.length_append, List.length_singleton]
  by_cases hfull : (l.rtake limit).length = limit
  · rw [if_pos (by omega), if_pos hfull, List.drop_append_of_le_length (by omega)]
  · rw [if_neg (by omega), if_neg hfull]

/-- An entry that finds the room full costs one entry. -/
theorem length_rdrop_concat (l : List α) (x : α) :
    ((l ++ [x]).rdrop limit).length =
      (l.rdrop limit).length + if (l.rtake limit).length = limit then 1 else 0 := by
  rw [length_rtake, List.rdrop, List.rdrop, List.length_take, List.length_take,
    List.length_append, List.length_singleton]
  split_ifs <;> omega

/-- Of the one entry with `p`, what is left when the others have come. -/
theorem filter_rtake {p : α → Bool} {l : List α} {x : α} (h : l.filter p = [x]) :
    (l.rtake limit).filter p = if (l.rdrop limit).any p then [] else [x] := by
  rw [← rdrop_append_rtake limit l, List.filter_append] at h
  split_ifs with hany
  · obtain ⟨y, hy, hpy⟩ := List.any_eq_true.1 hany
    have hpos := List.length_pos_of_mem (List.mem_filter.2 ⟨hy, hpy⟩)
    have hlength := congrArg List.length h
    rw [List.length_append, List.length_singleton] at hlength
    exact List.length_eq_zero_iff.1 (by omega)
  · have hnil : (l.rdrop limit).filter p = [] :=
      List.filter_eq_nil_iff.2 fun y hy hpy => hany (List.any_eq_true.2 ⟨y, hy, hpy⟩)
    rwa [hnil, List.nil_append] at h

/-- Entries without `p` in front do not matter to those with `p` that go. -/
theorem any_rdrop_append {p : α → Bool} {l : List α} (h : ∀ x ∈ l, ¬ p x) (l' : List α) :
    ((l ++ l').rdrop limit).any p = (l'.rdrop limit).any p := by
  have hl {k : ℕ} : (l.take k).any p = false :=
    List.any_eq_false.2 fun x hx => h x (List.mem_of_mem_take hx)
  rw [List.rdrop, List.rdrop, List.take_append, List.any_append, hl, Bool.false_or,
    List.length_append]
  congr 2
  omega

/-- A key is that of one entry. -/
theorem filter_key_eq {β : Type*} [DecidableEq β] {f : α → β} {l : List α} (h : (l.map f).Nodup)
    {x : α} (hx : x ∈ l) : l.filter (fun y => f y = f x) = [x] := by
  induction l with
  | nil => cases hx
  | cons y l ih =>
      rw [List.map_cons, List.nodup_cons] at h
      rcases List.mem_cons.1 hx with rfl | hx
      · have hnone : l.filter (fun y => f y = f x) = [] := List.filter_eq_nil_iff.2
          fun y hy hyx => h.1 (of_decide_eq_true hyx ▸ List.mem_map_of_mem hy)
        rw [List.filter_cons_of_pos (by simp), hnone]
      · have hne : f y ≠ f x := fun hyx => h.1 (hyx ▸ List.mem_map_of_mem hx)
        rw [List.filter_cons_of_neg (by simpa using hne), ih h.2 hx]

/-- The entries that are kept are those whose key does not go. -/
theorem mem_rtake_iff {β : Type*} [DecidableEq β] {f : α → β} {l : List α} (h : (l.map f).Nodup)
    {x : α} (hx : x ∈ l) : x ∈ l.rtake limit ↔ (l.rdrop limit).any (f · = f x) = false := by
  rw [List.any_eq_false]
  rw [← rdrop_append_rtake limit l, List.map_append] at h
  constructor
  · intro hkept y hy hyx
    refine List.disjoint_of_nodup_append h (List.mem_map_of_mem hy) ?_
    exact of_decide_eq_true hyx ▸ List.mem_map_of_mem hkept
  · intro hgone
    rw [← rdrop_append_rtake limit l] at hx
    refine (List.mem_append.1 hx).resolve_left fun hmem => hgone x hmem ?_
    exact decide_eq_true rfl

end Windows
