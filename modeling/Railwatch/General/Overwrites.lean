/-
# Logs of overwrites

A store has a value at every key, and a log lists overwrites that are still to
be made.  `after S log` is what the store will be.  Whoever works through the
log may stop anywhere and begin again: an overwrite that is made ahead of its
turn does not show in the end (`after_update`), and the part of the log that has
been made is `Done`.

So an attempt at a log that is broken off, and then made again from the start, ends as
one that was never broken off.
-/

import Mathlib

namespace Overwrites

variable {κ α : Type*} [DecidableEq κ]

/-- The store at the end of a log. -/
def after (S : κ → α) (log : List (κ × α)) : κ → α :=
  log.foldl (fun S u => Function.update S u.1 u.2) S

/-- Nothing is overwritten. -/
@[simp] theorem after_nil (S : κ → α) : after S [] = S := rfl

@[simp] theorem after_cons (S : κ → α) (u : κ × α) (log : List (κ × α)) :
    after S (u :: log) = after (Function.update S u.1 u.2) log := rfl

/-- Two logs, one after the other. -/
theorem after_append (S : κ → α) (log log' : List (κ × α)) :
    after S (log ++ log') = after (after S log) log' := List.foldl_append

/-- The last entry of a log overwrites what was under its key. -/
theorem after_concat (S : κ → α) (log : List (κ × α)) (u : κ × α) :
    after S (log ++ [u]) = Function.update (after S log) u.1 u.2 := by
  rw [after_append, after_cons, after_nil]

/-- A key that the log does not name keeps its value. -/
theorem after_of_notMem {S : κ → α} {log : List (κ × α)} {k : κ} (h : k ∉ log.map Prod.fst) :
    after S log k = S k := by
  induction log generalizing S with
  | nil => rfl
  | cons u log ih =>
      rw [List.map_cons, List.mem_cons, not_or] at h
      rw [after_cons, ih h.2, Function.update_of_ne h.1]

/-- A key that the log names forgets its value. -/
theorem after_congr {S S' : κ → α} {log : List (κ × α)} {k : κ} (h : k ∈ log.map Prod.fst) :
    after S log k = after S' log k := by
  induction log using List.reverseRecOn with
  | nil => cases h
  | append_singleton log u ih =>
      rw [after_concat, after_concat]
      by_cases hk : k = u.1
      · rw [hk, Function.update_self, Function.update_self]
      · rw [List.map_append, List.mem_append] at h
        rw [Function.update_of_ne hk, Function.update_of_ne hk]
        exact ih (h.resolve_right fun h => hk (List.mem_singleton.1 h))

/-- A log that names its keys once. -/
theorem after_of_mem {S : κ → α} {log : List (κ × α)} (hlog : (log.map Prod.fst).Nodup) {k : κ}
    {v : α} (h : (k, v) ∈ log) : after S log k = v := by
  induction log generalizing S with
  | nil => cases h
  | cons u log ih =>
      rw [List.map_cons, List.nodup_cons] at hlog
      rw [after_cons]
      rcases List.mem_cons.1 h with rfl | h
      · rw [after_of_notMem hlog.1, Function.update_self]
      · exact ih hlog.2 h

/-- **An overwrite made ahead of its turn does not show in the end.** The log has it as
well, and what the log has last under its name is what is left. -/
theorem after_update {S : κ → α} {log : List (κ × α)} {u : κ × α} (h : u ∈ log) :
    after (Function.update S u.1 u.2) log = after S log := by
  funext k
  by_cases hk : k ∈ log.map Prod.fst
  · exact after_congr hk
  · rw [after_of_notMem hk, after_of_notMem hk, Function.update_of_ne]
    rintro rfl
    exact hk (List.mem_map_of_mem h)

/-- The store is as the log leaves it. -/
def Done (S : κ → α) (log : List (κ × α)) : Prop := after S log = S

/-- There is nothing to do. -/
@[simp] theorem Done.nil (S : κ → α) : Done S [] := rfl

/-- The next overwrite of the log is made. -/
theorem Done.concat {S : κ → α} {log : List (κ × α)} (h : Done S log) (u : κ × α) :
    Done (Function.update S u.1 u.2) (log ++ [u]) := by
  have hsplit : after (Function.update S u.1 u.2) (log ++ [u]) = after S (log ++ [u]) :=
    after_update (List.mem_append_right _ (List.mem_singleton_self u))
  rw [Done, hsplit, after_concat, h]

/-- A log that is done can be forgotten. -/
theorem Done.after_append {S : κ → α} {log : List (κ × α)} (h : Done S log)
    (log' : List (κ × α)) : after S (log ++ log') = after S log' := by
  rw [Overwrites.after_append, h]

end Overwrites
