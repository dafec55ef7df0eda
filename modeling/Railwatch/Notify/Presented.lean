/-
# What the notifier has shown

A record that says `delivered` silences a warning for good, so it should say so
only of an incident whose message was shown.  The text of a call has the
messages of the first four pending incidents, and a call that succeeds is noted
for all of them: `fifth_warning_is_not_shown`.  As long as no call for more than
four incidents succeeds, the records tell the truth
(`delivered_incidents_were_shown`).

The invariant `Truthful` is about the records and about all calls so far.  It is kept by
a call for at most four incidents, by one that fails, and by the loss of records; a
process that starts again reads the records that were saved, and these were truthful
when they were.
-/

import Railwatch.Notify.Notifier

namespace Railwatch

open Std (TreeMap)

/-- The call succeeded, and its text has the message of an incident. -/
def DeliverCall.Presents (call : DeliverCall) (id : String) : Prop :=
  call.succeeded = true ∧
    ∃ q ∈ call.pending, q.id = id ∧ q.message.toList <:+: call.message.toList

instance (call : DeliverCall) (id : String) : Decidable (call.Presents id) := by
  unfold DeliverCall.Presents
  infer_instance

/-- What is recorded as delivered was presented by one of the calls. -/
def Shown (calls : List DeliverCall) (m : TreeMap String Delivery) : Prop :=
  ∀ (id : String) d, m[id]? = some d → d.delivered = true → ∃ call ∈ calls, call.Presents id

/-- At most four incidents are due in a cycle whose call succeeds. -/
def Notifier.FourAtMost (n : Notifier) : NotifyOp → Prop
  | .start _ => True
  | .cycle c => ∀ p ∈ n.process, (p.call c).succeeded = true → (p.due c).length ≤ 4

instance (n : Notifier) : (op : NotifyOp) → Decidable (n.FourAtMost op)
  | .start _ | .cycle _ => by
      unfold Notifier.FourAtMost
      infer_instance

/-- Each text is a part of the joined one. -/
theorem infix_intercalate {sep s : String} {l : List String} (h : s ∈ l) :
    s.toList <:+: (sep.intercalate l).toList := by
  induction l with
  | nil => cases h
  | cons t l ih =>
      by_cases hl : l = []
      · subst hl
        rw [List.mem_singleton.1 h, String.intercalate_singleton]
      · rw [String.intercalate_cons_of_ne_nil hl, String.toList_append, String.toList_append]
        rcases List.mem_cons.1 h with rfl | h
        · exact ⟨[], sep.toList ++ (sep.intercalate l).toList, by simp⟩
        · exact (ih h).trans (List.suffix_append _ _).isInfix

/-- A call for at most four incidents presents each of them, if it succeeds. -/
theorem presents_of_due {p : NotifyProcess} {c : Cycle} (hfour : (p.due c).length ≤ 4)
    (hok : (p.call c).succeeded = true) {q : Pending} (hq : q ∈ p.due c) :
    (p.call c).Presents q.id := by
  have hfirst : q ∈ (p.due c).take 4 := by rwa [List.take_of_length_le hfour]
  exact ⟨hok, q, hq, rfl, infix_intercalate (List.mem_map_of_mem hfirst)⟩

/-- The records of the file and of the process tell the truth. -/
def Notifier.Truthful (n : Notifier) : Prop :=
  Shown n.calls n.file.deliveries ∧ ∀ p ∈ n.process, Shown n.calls p.state.deliveries

/-- What was shown stays shown. -/
theorem Shown.append {calls : List DeliverCall} {m : TreeMap String Delivery} (h : Shown calls m)
    (call : DeliverCall) : Shown (calls ++ [call]) m := by
  intro id d hd hdelivered
  obtain ⟨call', hcall, hpresents⟩ := h id d hd hdelivered
  exact ⟨call', List.mem_append_left _ hcall, hpresents⟩

/-- A record that is marked delivered exists. -/
theorem Shown.getD {calls : List DeliverCall} {m : TreeMap String Delivery} (h : Shown calls m)
    {id : String} (hdelivered : (m[id]?.getD {}).delivered = true) :
    ∃ call ∈ calls, call.Presents id := by
  cases hd : m[id]? with
  | none =>
      rw [hd] at hdelivered
      cases hdelivered
  | some d =>
      rw [hd] at hdelivered
      exact h id d hd hdelivered

/-- A cycle that has four messages at most tells the truth about them: all the pending
incidents are presented, so what is noted of them is so. A record that says an incident
was delivered has it from such a cycle, or from before. -/
theorem Notifier.Truthful.step {n : Notifier} (h : n.Truthful) {op : NotifyOp}
    (hdistinct : op.Distinct) (hfour : n.FourAtMost op) : (n.step op).Truthful := by
  have hdoes := n.step_does hdistinct
  generalize n.step op = n' at hdoes
  cases hdoes with
  | start silent => exact ⟨h.1, fun p hp => by rw [← Option.some.inj hp]; exact h.1⟩
  | idle hprocess => exact h
  | quiet hprocess hdue hfollows =>
      refine ⟨h.1, fun p'' hp'' id d hd hdelivered => ?_⟩
      rw [← Option.some.inj hp''] at hd
      obtain rfl := hfollows.record id d hd
      exact (h.2 _ hprocess).getD hdelivered
  | @delivers c p p' hprocess hdue hsave hfollows =>
      have hshown : Shown (n.calls ++ [p.call c]) p'.state.deliveries := by
        intro id d hd hdelivered
        obtain rfl := hfollows.record id d hd
        unfold NotifyProcess.note at hdelivered
        split_ifs at hdelivered with hid
        · obtain ⟨q, hq, rfl⟩ := List.mem_map.1 hid
          exact ⟨p.call c, List.mem_append_right _ (List.mem_singleton_self _),
            presents_of_due (hfour p hprocess hdelivered) hdelivered hq⟩
        · exact ((h.2 p hprocess).append _).getD hdelivered
      exact ⟨hshown, fun p hp => by rw [← Option.some.inj hp]; exact hshown⟩
  | exits hprocess hdue hsave => exact ⟨h.1.append _, fun p hp => by cases hp⟩

/-- **Every incident marked delivered was shown**, in a run whose successful
calls are for at most four incidents each: whenever the state of the process or of the
file records an incident as delivered, a call that succeeded had a text with the
incident's message. -/
theorem delivered_incidents_were_shown (ops : List NotifyOp) (hdistinct : ∀ op ∈ ops, op.Distinct)
    (hfour : Transition.Along Notifier.step Notifier.FourAtMost {} ops) :
    let n := Notifier.run {} ops
    Shown n.calls n.file.deliveries ∧ ∀ p ∈ n.process, Shown n.calls p.state.deliveries := by
  have h : (Notifier.run {} ops).Truthful := by
    induction ops using List.reverseRecOn with
    | nil =>
        refine ⟨fun id d hd => ?_, fun p hp => ?_⟩
        · cases hd
        · cases hp
    | append_singleton ops op ih =>
        obtain ⟨hbefore, hlast⟩ := (Transition.along_concat _).1 hfour
        rw [Notifier.run, Transition.run_concat]
        exact (ih (fun op hop => hdistinct op (List.mem_append_left _ hop)) hbefore).step
          (hdistinct op (by simp)) hlast
  exact h

/-- Four warnings at once. -/
theorem delivered_incidents_were_shown_of_four :
    let n := Notifier.run {} [.start true, warningCycle 60000 ["fan", "rail", "fuse", "load"]]
    Shown n.calls n.file.deliveries :=
  (delivered_incidents_were_shown [.start true, warningCycle 60000 ["fan", "rail", "fuse", "load"]]
    (by decide +kernel) (by decide +kernel)).1

/-- **A fifth warning is not shown** but noted as delivered. So it is not shown later
either, since a warning that has been delivered is held back. -/
theorem fifth_warning_is_not_shown :
    ¬∀ ops : List NotifyOp, (∀ op ∈ ops, op.Distinct) →
      Shown (Notifier.run {} ops).calls (Notifier.run {} ops).file.deliveries := by
  intro h
  have hfifth := h
    [.start true, warningCycle 60000 ["fan", "rail", "fuse", "load", "heat"]] (by decide +kernel)
  let n := Notifier.run {} [.start true, warningCycle 60000 ["fan", "rail", "fuse", "load", "heat"]]
  obtain ⟨call, hcall, hpresents⟩ := hfifth "heat" ⟨true, 1, 60000, none⟩ (by decide +kernel) rfl
  have hnone : ∀ call ∈ n.calls, ¬call.Presents "heat" := by decide +kernel
  exact hnone call hcall hpresents

end Railwatch
