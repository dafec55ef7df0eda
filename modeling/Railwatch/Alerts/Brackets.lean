/-
# Incidents are opened and closed in turn

The events of a kind, over any calls of the engine, open and close in turn, and
what is open at the end is the engine's incident of that kind
(`EngineOp.alternates` for one call, `events_alternate` for a run).  A closing
event is the incident that was opened, with its recovery noted.

With fresh ids it can be said of all kinds at once: the engine has the incidents
that were opened and whose id no event has closed
(`incidents_open_and_close_in_turn`).

A run may start from restored incidents: what is open at the start is a parameter.  An
outage is opened by `monitoring_lost` and closed by the next sample, and alternates in
the same way.
-/

import Railwatch.Alerts.Events
import Railwatch.Alerts.Latch
import Railwatch.General.Brackets
import Railwatch.General.Transition

namespace Railwatch

open Brackets

/-- The event opens an incident. -/
def Incident.Opens (event : Incident) : Prop := event.recoveredAtMs = none

/-- The event closes the incident: it is the incident, with a recovery. -/
def Incident.Closes (i event : Incident) : Prop :=
  ∃ at_, event = { i with recoveredAtMs := some at_ }

/-- The events of a run. -/
def AlertEngine.events (e : AlertEngine) (ops : List EngineOp) : List Incident :=
  Transition.outputs (fun e op => (EngineOp.apply e op).2) (fun e op => (EngineOp.apply e op).1)
    e ops

/-- The last call adds its own transitions to those of a run. -/
theorem AlertEngine.events_concat (e : AlertEngine) (ops : List EngineOp) (op : EngineOp) :
    e.events (ops ++ [op]) = e.events ops ++ (op.apply (e.run ops)).1 :=
  Transition.outputs_concat ..

/-! ### One call -/

/-- The events of a call account for what it does. -/
theorem EngineOp.transitions {e : AlertEngine} (hkeyed : e.Keyed) (op : EngineOp) :
    ∃ device, Transitions device e (op.apply e).2 (op.apply e).1 := by
  cases op with
  | observe uuid t p maxGapMs => exact ⟨_, observe_transitions hkeyed uuid t p maxGapMs⟩
  | monitoringLost uuid last message at_ =>
      exact ⟨_, monitoringLost_transitions uuid e last message at_⟩

/-- A kind has at most one event in a call, which opens or closes. The kinds of a call's
events are distinct, so the events of one kind are none or one: one that opens finds no
incident of its kind in the engine and leaves its own there, and one that closes finds
its incident there and leaves none. Without an event the engine's entry stays. -/
theorem Transitions.alternates {device : String} {e e' : AlertEngine} {events : List Incident}
    (h : Transitions device e e' events) (k : String) :
    Alternates Incident.Opens Incident.Closes e.active[k]? (events.filter (·.kind = k))
      e'.active[k]? := by
  by_cases hk : ∃ event ∈ events, event.kind = k
  · obtain ⟨event, hevent, rfl⟩ := hk
    have honly : events.filter (·.kind = event.kind) = [event] := by
      obtain ⟨before, after, rfl⟩ := List.append_of_mem hevent
      have hkinds := h.kinds
      rw [List.map_append, List.map_cons, List.nodup_append, List.nodup_cons] at hkinds
      obtain ⟨-, ⟨hafter, -⟩, hbefore⟩ := hkinds
      have hnone : before.filter (·.kind = event.kind) = [] := by
        refine List.filter_eq_nil_iff.2 fun i hi hkind => ?_
        exact hbefore _ (List.mem_map_of_mem hi) _ (List.mem_cons_self ..) (of_decide_eq_true hkind)
      have hnone' : after.filter (·.kind = event.kind) = [] := by
        refine List.filter_eq_nil_iff.2 fun i hi hkind => hafter ?_
        exact List.mem_map.2 ⟨i, hi, of_decide_eq_true hkind⟩
      rw [List.filter_append, List.filter_cons_of_pos (by simp), hnone, hnone']
      rfl
    rw [honly]
    rcases h.event event hevent with ⟨hnone, hopen, hrecovered, -⟩ | ⟨i, at_, hi, hclose, hnone⟩
    · rw [hnone, hopen]
      exact .opens hrecovered (.nil _)
    · rw [hi, hnone]
      exact .closes ⟨at_, hclose⟩ (.nil _)
  · have hquiet : ∀ event ∈ events, event.kind ≠ k := fun event hevent hkind =>
      hk ⟨event, hevent, hkind⟩
    rw [h.quiet k hquiet, List.filter_eq_nil_iff.2 fun event hevent =>
      by simpa using hquiet event hevent]
    exact .nil _

/-- A sample ends the outage. -/
theorem AlertEngine.observe_monitoringUnavailable (e : AlertEngine) (uuid : String → String)
    (t : Telemetry) (p : Policy) (maxGapMs : ℕ) :
    (e.observe uuid t p maxGapMs).2.active[monitoringUnavailable]? = none := by
  have hslot := congrArg Slot.active (e.slot_observe uuid t p maxGapMs monitoringUnavailable)
  rw [AlertEngine.slot_active, conditions_monitoringUnavailable] at hslot
  rw [hslot]
  exact (e.enter_active t maxGapMs _).trans (if_pos rfl)

/-! ### Runs -/

/-- Over a run the table has each incident under its own kind. -/
theorem AlertEngine.Keyed.run {e : AlertEngine} (h : e.Keyed) (ops : List EngineOp) :
    (e.run ops).Keyed := by
  induction ops using List.reverseRecOn with
  | nil => exact h
  | append_singleton ops op ih =>
      rw [AlertEngine.run_concat]
      obtain ⟨device, ht⟩ := op.transitions ih
      exact ht.keyed ih

/-- The events of a kind open and close in turn. -/
theorem events_alternate {e : AlertEngine} (hkeyed : e.Keyed) (ops : List EngineOp) (k : String) :
    Alternates Incident.Opens Incident.Closes e.active[k]? ((e.events ops).filter (·.kind = k))
      (e.run ops).active[k]? := by
  induction ops using List.reverseRecOn with
  | nil => exact .nil _
  | append_singleton ops op ih =>
      rw [AlertEngine.events_concat, AlertEngine.run_concat, List.filter_append]
      obtain ⟨device, ht⟩ := op.transitions (hkeyed.run ops)
      exact ih.append (ht.alternates k)

/-- The incidents known before a run, and those it opens. -/
def AlertEngine.known (e : AlertEngine) (ops : List EngineOp) : List Incident :=
  e.incidents ++ opened (e.events ops)

/-- No event closes the incident. -/
def StaysOpen (events : List Incident) (i : Incident) : Prop :=
  ∀ event ∈ events, event.recoveredAtMs.isSome → event.id ≠ i.id

/-- What has been opened once grows by what the last call opens. -/
theorem AlertEngine.known_concat (e : AlertEngine) (ops : List EngineOp) (op : EngineOp) :
    e.known (ops ++ [op]) = e.known ops ++ opened (op.apply (e.run ops)).1 := by
  rw [AlertEngine.known, AlertEngine.events_concat, opened, List.filter_append, ← List.append_assoc]
  rfl

/-- What is known of a run whose ids are fresh: the engine has what was opened
and not closed, and only what was opened is closed. -/
theorem mem_incidents_run {e : AlertEngine} (hkeyed : e.Keyed) (ops : List EngineOp)
    (hfresh : ((e.known ops).map (·.id)).Nodup) :
    (∀ i, i ∈ (e.run ops).incidents ↔ i ∈ e.known ops ∧ StaysOpen (e.events ops) i) ∧
      ∀ event ∈ e.events ops, event.recoveredAtMs.isSome →
        event.id ∈ (e.known ops).map (·.id) := by
  induction ops using List.reverseRecOn with
  | nil =>
      exact ⟨fun i => by
        simp [AlertEngine.known, AlertEngine.events, Transition.outputs, opened, StaysOpen],
        by simp [AlertEngine.events, Transition.outputs]⟩
  | append_singleton ops op ih =>
      rw [AlertEngine.known_concat, List.map_append, List.nodup_append] at hfresh
      obtain ⟨hold, -, hnew⟩ := hfresh
      obtain ⟨hmem, hclosed⟩ := ih hold
      obtain ⟨device, ht⟩ := op.transitions (hkeyed.run ops)
      have hrun := hkeyed.run ops
      rw [AlertEngine.known_concat, AlertEngine.events_concat, AlertEngine.run_concat]
      generalize op.apply (e.run ops) = r at ht hnew ⊢
      -- a closing event of this call is about an incident that is known
      have hcloses : ∀ event ∈ r.1, event.recoveredAtMs.isSome → ∃ i,
          (e.run ops).active[event.kind]? = some i ∧ event.id = i.id ∧ i ∈ e.known ops := by
        intro event hevent hsome
        rcases ht.event event hevent with ⟨-, -, hopen, -⟩ | ⟨i, at_, hi, rfl, -⟩
        · rw [hopen] at hsome
          cases hsome
        · exact ⟨i, hi, rfl, ((hmem i).1 (AlertEngine.mem_incidents.2 ⟨_, hi⟩)).1⟩
      refine ⟨fun i => ?_, fun event hevent hsome => ?_⟩
      · rw [AlertEngine.mem_incidents]
        constructor
        · rintro ⟨k, hk⟩
          rcases ht.getElem?_eq_some.1 hk with ⟨hevent, -, hopen⟩ | ⟨hk, hquiet⟩
          · -- just opened: no event has its id
            have hopened : i ∈ opened r.1 := List.mem_filter.2 ⟨hevent, by rw [hopen]; rfl⟩
            have hfresh : i.id ∉ (e.known ops).map (·.id) := fun hold =>
              hnew _ hold _ (List.mem_map_of_mem hopened) rfl
            refine ⟨List.mem_append_right _ hopened, fun event hevent hsome hid => hfresh ?_⟩
            rcases List.mem_append.1 hevent with hevent | hevent
            · exact hid ▸ hclosed event hevent hsome
            · obtain ⟨j, -, hj, hknown⟩ := hcloses event hevent hsome
              rw [← hid, hj]
              exact List.mem_map_of_mem hknown
          · obtain ⟨hknown, hstays⟩ := (hmem i).1 (AlertEngine.mem_incidents.2 ⟨k, hk⟩)
            refine ⟨List.mem_append_left _ hknown, fun event hevent hsome hid => ?_⟩
            rcases List.mem_append.1 hevent with hevent | hevent
            · exact hstays event hevent hsome hid
            · obtain ⟨j, hj, hjid, hjknown⟩ := hcloses event hevent hsome
              obtain rfl : j = i := List.inj_on_of_nodup_map hold hjknown hknown (hjid ▸ hid)
              refine hquiet event hevent ?_
              rw [← (hrun _ j hj).1, (hrun _ j hk).1]
        · rintro ⟨hknown, hstays⟩
          rcases List.mem_append.1 hknown with hknown | hopened
          · have hi := (hmem i).2 ⟨hknown, fun event hevent =>
              hstays event (List.mem_append_left _ hevent)⟩
            obtain ⟨k, hk⟩ := AlertEngine.mem_incidents.1 hi
            refine ⟨k, ht.getElem?_eq_some.2 (Or.inr ⟨hk, fun event hevent hkind => ?_⟩)⟩
            rcases ht.event event hevent with ⟨hnone, -⟩ | ⟨j, at_, hj, rfl, -⟩
            · rw [hkind, hk] at hnone
              cases hnone
            · rw [hkind, hk] at hj
              obtain rfl := Option.some.inj hj
              exact hstays _ (List.mem_append_right _ hevent) rfl rfl
          · obtain ⟨hevent, hopen⟩ := List.mem_filter.1 hopened
            exact ⟨i.kind, ht.getElem?_eq_some.2
              (Or.inl ⟨hevent, rfl, Option.isNone_iff_eq_none.1 hopen⟩)⟩
      · rw [List.map_append, List.mem_append]
        rcases List.mem_append.1 hevent with hevent | hevent
        · exact Or.inl (hclosed event hevent hsome)
        · obtain ⟨j, -, hj, hknown⟩ := hcloses event hevent hsome
          rw [hj]
          exact Or.inl (List.mem_map_of_mem hknown)

/-- **Incidents are opened and closed in turn.**  Over any calls of an engine
that starts with incidents filed under their kinds, none of them recovered: the
events of every kind alternate, an event that closes is the incident the last
one opened (or the one there was at the start) with its recovery, and what is
open then is the engine's incident of the kind.  The incidents stay under their
own kinds, and after a sample no outage is active.  If all ids are fresh, the
engine has the incidents that were opened and that no event has closed. -/
theorem incidents_open_and_close_in_turn (e : AlertEngine) (hkeyed : e.Keyed)
    (ops : List EngineOp) :
    (∀ k, Alternates Incident.Opens Incident.Closes e.active[k]?
      ((e.events ops).filter (·.kind = k)) (e.run ops).active[k]?) ∧
    (e.run ops).Keyed ∧
    (∀ uuid t p maxGapMs, ((e.run ops).observe uuid t p maxGapMs).2.active[monitoringUnavailable]? =
      none) ∧
    (((e.known ops).map (·.id)).Nodup → ∀ i, i ∈ (e.run ops).incidents ↔
      i ∈ e.known ops ∧ StaysOpen (e.events ops) i) :=
  ⟨events_alternate hkeyed ops, hkeyed.run ops, AlertEngine.observe_monitoringUnavailable _,
    fun hfresh => (mem_incidents_run hkeyed ops hfresh).1⟩

/-- A restored outage ends, a fault comes and goes, and another outage begins: four
events of three incidents, from an engine that already holds the first one. Its own
identifier is among those that have to be distinct. -/
theorem incidents_open_and_close_in_turn_from_restored :
    let outage : Incident := ⟨"r", "A", monitoringUnavailable, "monitor", "warning",
      "Monitoring interrupted: unplugged", 0, none, none, none, Telemetry.blank⟩
    let e : AlertEngine := { active := (∅ : Std.TreeMap String Incident).insert outage.kind outage }
    let ops : List EngineOp := [
      .observe ("a" ++ ·) { Telemetry.blank with safeguards := [⟨2, 0, 0, #v[0, 0, 0, 0, 0, 0]⟩] }
        default 3500,
      .observe ("b" ++ ·) { Telemetry.blank with safeguards := [⟨0, 0, 0, #v[0, 0, 0, 0, 0, 0]⟩] }
        default 3500,
      .monitoringLost ("c" ++ ·) Telemetry.blank "timeout" 1000]
    (e.events ops).length = 4 ∧ ((e.known ops).map (·.id)).Nodup ∧
      ∀ i, i ∈ (e.run ops).incidents ↔ i ∈ e.known ops ∧ StaysOpen (e.events ops) i := by
  intro outage e ops
  have hkeyed : e.Keyed := by
    intro k i hi
    rw [Std.TreeMap.getElem?_insert] at hi
    split_ifs at hi with hk
    · obtain rfl := Option.some.inj hi
      exact ⟨Std.LawfulEqCmp.eq_of_compare hk, rfl⟩
    · rw [Std.TreeMap.getElem?_emptyc] at hi
      cases hi
  have hfresh : ((e.known ops).map (·.id)).Nodup := by decide +kernel
  exact ⟨by decide +kernel, hfresh, (incidents_open_and_close_in_turn e hkeyed ops).2.2.2 hfresh⟩

end Railwatch
