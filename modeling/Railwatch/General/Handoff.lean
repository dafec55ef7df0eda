/-
# Handing entries over

A producer appends entries to a buffer, passes the buffer on to a queue, and
may cut entries off the front of the buffer when it grows too long; a consumer
takes them from the queue.  `Accounted` says where every entry emitted so far
has gone, in order and without repetition, and `Accounted.flow` keeps it through
any step that neither invents nor loses entries.

Losses are recorded as they happen, from the front, so what is lost and what is kept are
interleaved to what was emitted.  A consumer that is never ahead of the producer then
sees a sublist of it, in order.
-/

import Mathlib

namespace Handoff

variable {α : Type*}

/-- The third list is made of the first two, each of them in its own order. So it has
the entries of both, and no others. -/
inductive Interleaves : List α → List α → List α → Prop where
  | nil : Interleaves [] [] []
  | left {a : α} {kept cut all : List α} (h : Interleaves kept cut all) :
      Interleaves (a :: kept) cut (a :: all)
  | right {a : α} {kept cut all : List α} (h : Interleaves kept cut all) :
      Interleaves kept (a :: cut) (a :: all)

namespace Interleaves

/-- Two hand-offs, one after the other. -/
theorem append {kept cut all kept' cut' all' : List α} (h : Interleaves kept cut all)
    (h' : Interleaves kept' cut' all') :
    Interleaves (kept ++ kept') (cut ++ cut') (all ++ all') := by
  induction h with
  | nil => exact h'
  | left _ ih => exact ih.left
  | right _ ih => exact ih.right

/-- All of it is kept. -/
theorem keep (l : List α) : Interleaves l [] l := by
  induction l with
  | nil => exact .nil
  | cons a l ih => exact ih.left

/-- All of it is cut. -/
theorem drop (l : List α) : Interleaves [] l l := by
  induction l with
  | nil => exact .nil
  | cons a l ih => exact ih.right

/-- No entry is lost or repeated. -/
theorem perm {kept cut all : List α} (h : Interleaves kept cut all) : all.Perm (kept ++ cut) := by
  induction h with
  | nil => exact .nil
  | left _ ih => exact ih.cons _
  | right _ ih => exact (ih.cons _).trans List.perm_middle.symm

/-- The entries that were kept are in order. -/
theorem sublist {kept cut all : List α} (h : Interleaves kept cut all) : kept.Sublist all := by
  induction h with
  | nil => exact .slnil
  | left _ ih => exact ih.cons_cons _
  | right _ ih => exact ih.cons _

end Interleaves

/-- The entries emitted so far are those taken from the queue, those in the
queue and those in the buffer, in this order, with the entries that were cut off
in between. -/
def Accounted (emitted taken queued pending cut : List α) : Prop :=
  ∃ settled, emitted = settled ++ pending ∧ Interleaves (taken ++ queued) cut settled

namespace Accounted

/-- Before the first one nothing is missing. -/
theorem start : Accounted ([] : List α) [] [] [] [] := ⟨[], rfl, .nil⟩

/-- **A step that neither invents nor loses entries.**  What it takes comes out
of the queue, what it sends comes out of the buffer, and what it cuts off comes
out of the buffer before that. -/
theorem flow {emitted taken queued pending cut : List α}
    (h : Accounted emitted taken queued pending cut)
    {emits takes sent cuts queued' pending' : List α}
    (hqueue : takes ++ queued' = queued ++ sent)
    (hbuffer : cuts ++ (sent ++ pending') = pending ++ emits) :
    Accounted (emitted ++ emits) (taken ++ takes) queued' pending' (cut ++ cuts) := by
  obtain ⟨settled, hsettled, hinter⟩ := h
  refine ⟨settled ++ (cuts ++ sent), ?_, ?_⟩
  · rw [hsettled, List.append_assoc, ← hbuffer, List.append_assoc, List.append_assoc]
  · rw [List.append_assoc taken, hqueue, ← List.append_assoc]
    have hstep : Interleaves sent cuts (cuts ++ sent) := by
      simpa using (Interleaves.drop cuts).append (Interleaves.keep sent)
    exact hinter.append hstep

/-- No entry is lost or repeated. -/
theorem perm {emitted taken queued pending cut : List α}
    (h : Accounted emitted taken queued pending cut) :
    emitted.Perm (taken ++ queued ++ pending ++ cut) := by
  obtain ⟨settled, rfl, hinter⟩ := h
  calc (settled ++ pending).Perm (taken ++ queued ++ cut ++ pending) := hinter.perm.append_right _
    _ = taken ++ queued ++ (cut ++ pending) := List.append_assoc ..
    _ |>.Perm (taken ++ queued ++ (pending ++ cut)) := List.perm_append_comm.append_left _
    _ = taken ++ queued ++ pending ++ cut := (List.append_assoc ..).symm

/-- The entries that were not cut off are in order. -/
theorem sublist {emitted taken queued pending cut : List α}
    (h : Accounted emitted taken queued pending cut) :
    (taken ++ queued ++ pending).Sublist emitted := by
  obtain ⟨settled, rfl, hinter⟩ := h
  exact hinter.sublist.append_right pending

end Accounted

end Handoff
