/-
# Events

What the events of a call say about the incidents of the engine: each of them
opens an incident of a kind that had none, or closes the one that was active, no
kind has two, and a kind without an event keeps its incident (`Transitions`).
So the events of a call account for everything it does to the active incidents.

`observe` is taken apart by kinds: a call is one turn of each kind's own slot
(`settleSlot`), and a turn that puts out nothing leaves the incident as it is.  What is
proved of `Transitions` is therefore proved about one slot, and `monitoring_lost` is the
same for the one kind that has no slot.
-/

import Railwatch.Alerts.Slots

namespace Railwatch

open TreeMaps

/-- The active incidents are filed under their own kinds, and none of them has
recovered. -/
def AlertEngine.Keyed (e : AlertEngine) : Prop :=
  ∀ (k : String) (i : Incident), e.active[k]? = some i → i.kind = k ∧ i.recoveredAtMs = none

/-- `engine.active.values()`, which is what the snapshot lists after a poll. -/
def AlertEngine.incidents (e : AlertEngine) : List Incident := e.active.toList.map Prod.snd

/-- The incidents of an engine are what is in its slots. -/
theorem AlertEngine.mem_incidents {e : AlertEngine} {i : Incident} :
    i ∈ e.incidents ↔ ∃ k : String, e.active[k]? = some i := by
  simp [AlertEngine.incidents, Std.TreeMap.mem_toList_iff_getElem?_eq_some]

/-- The incidents that the events open. -/
def opened (events : List Incident) : List Incident := events.filter (·.recoveredAtMs.isNone)

/-- The events account for all that happened to the active incidents.  Incidents
are opened on `device`. -/
structure Transitions (device : String) (e e' : AlertEngine) (events : List Incident) : Prop where
  /-- There is one event for each kind at most. -/
  kinds : (events.map Incident.kind).Nodup
  /-- An event opens what was not open, or ends what was, with all else as it was. -/
  event : ∀ event ∈ events,
    (e.active[event.kind]? = none ∧ e'.active[event.kind]? = some event ∧
        event.recoveredAtMs = none ∧ event.deviceId = device) ∨
      ∃ i at_, e.active[event.kind]? = some i ∧
        event = { i with recoveredAtMs := some at_ } ∧ e'.active[event.kind]? = none
  /-- A kind without an event is as it was. -/
  quiet : ∀ k, (∀ event ∈ events, event.kind ≠ k) → e'.active[k]? = e.active[k]?

/-- **The engine after a call** has the incidents that were opened and those that
no event is about. -/
theorem Transitions.getElem?_eq_some {device : String} {e e' : AlertEngine}
    {events : List Incident} (h : Transitions device e e' events) {k : String} {i : Incident} :
    e'.active[k]? = some i ↔
      (i ∈ events ∧ i.kind = k ∧ i.recoveredAtMs = none) ∨
        (e.active[k]? = some i ∧ ∀ event ∈ events, event.kind ≠ k) := by
  constructor
  · intro hi
    by_cases hk : ∃ event ∈ events, event.kind = k
    · obtain ⟨event, hevent, rfl⟩ := hk
      rcases h.event event hevent with ⟨-, hopen, hrecovered, -⟩ | ⟨-, -, -, -, hclosed⟩
      · obtain rfl := Option.some.inj (hopen.symm.trans hi)
        exact Or.inl ⟨hevent, rfl, hrecovered⟩
      · rw [hclosed] at hi
        cases hi
    · have hquiet : ∀ event ∈ events, event.kind ≠ k := fun event hevent hkind =>
        hk ⟨event, hevent, hkind⟩
      rw [h.quiet k hquiet] at hi
      exact Or.inr ⟨hi, hquiet⟩
  · rintro (⟨hevent, rfl, hrecovered⟩ | ⟨hi, hquiet⟩)
    · rcases h.event i hevent with ⟨-, hopen, -⟩ | ⟨j, at_, -, rfl, -⟩
      · exact hopen
      · cases hrecovered
    · rw [h.quiet k hquiet, hi]

/-- A call keeps each incident under its own kind: what it opens it stores there. -/
theorem Transitions.keyed {device : String} {e e' : AlertEngine} {events : List Incident}
    (h : Transitions device e e' events) (hkeyed : e.Keyed) : e'.Keyed := by
  intro k i hi
  rcases h.getElem?_eq_some.1 hi with ⟨-, hkind, hrecovered⟩ | ⟨hi, -⟩
  · exact ⟨hkind, hrecovered⟩
  · exact hkeyed k i hi

/-! ### Slots -/

/-- An event of a slot names its kind; it opens an incident where none was
active, or it is the active incident with its recovery noted. -/
theorem settleSlot_event {uuid : String → String} {t : Telemetry} {p : Policy} {k : String}
    {c : Condition} {s : Slot} {event : Incident}
    (h : (settleSlot uuid t p k c s).1 = some event) :
    (s.active = none ∧ event = openIncident uuid t p k c ∧
        (settleSlot uuid t p k c s).2.active = some event) ∨
      (∃ i, s.active = some i ∧ event = { i with recoveredAtMs := some t.capturedAtMs } ∧
        (settleSlot uuid t p k c s).2.active = none) := by
  unfold settleSlot at h ⊢
  dsimp only at h ⊢
  split_ifs at h ⊢ with h₁ h₂ h₃ h₄
  · simp only [Bool.and_eq_true, Option.isNone_iff_eq_none] at h₂
    exact Or.inl ⟨h₂.2, (Option.some.inj h).symm, h⟩
  · obtain ⟨i, hi, rfl⟩ := Option.map_eq_some_iff.1 h
    exact Or.inr ⟨i, hi, rfl, rfl⟩

/-- A slot that emits nothing keeps its incident. -/
theorem settleSlot_quiet {uuid : String → String} {t : Telemetry} {p : Policy} {k : String}
    {c : Condition} {s : Slot} (h : (settleSlot uuid t p k c s).1 = none) :
    (settleSlot uuid t p k c s).2.active = s.active := by
  unfold settleSlot at h ⊢
  dsimp only at h ⊢
  split_ifs at h ⊢
  · rfl
  · rw [Option.map_eq_none_iff] at h
    exact h.symm
  · rfl
  · rfl

/-- Entering a sample closes the outage and leaves every other incident open. -/
theorem AlertEngine.enter_active (e : AlertEngine) (t : Telemetry) (maxGapMs : ℕ) (k : String) :
    ((e.enter t maxGapMs).slot k).active =
      if k = monitoringUnavailable then none else e.active[k]? := by
  split_ifs with h
  · subst h
    exact Std.TreeMap.getElem?_erase_self
  · exact getElem?_erase_of_ne h

/-- No condition is about the monitoring itself. The three loops insert kinds that begin
with `hardware`, `safeguard` or `software`, none of which begins as `monitoring` does. -/
theorem conditions_monitoringUnavailable (t : Telemetry) (p : Policy) :
    (conditions t p)[monitoringUnavailable]? = none := by
  refine conditions_getElem?_eq_none fun kc hkc heq => ?_
  have hhead : kc.1.toList.head? ≠ some 'm' := by
    rcases List.mem_append.1 hkc with hkc | hkc
    · rcases List.mem_append.1 hkc with hkc | hkc
      · unfold alarmConditions at hkc
        split_ifs at hkc
        · obtain ⟨a, -, rfl⟩ := List.mem_map.1 hkc
          rw [hardwareKind_head?]
          decide
        · cases hkc
      · obtain ⟨c, -, rfl⟩ := List.mem_mapIdx.1 hkc
        rw [safeguardKind_head?]
        decide
    · obtain ⟨c, -, rfl⟩ := List.mem_mapIdx.1 hkc
      rw [imbalanceKind_head?]
      decide
  exact hhead (heq ▸ monitoringUnavailable_head?)

/-! ### `observe` -/

section Observe

variable {e : AlertEngine} (hkeyed : e.Keyed) (uuid : String → String) (t : Telemetry) (p : Policy)
  (maxGapMs : ℕ)
include hkeyed

/-- An event of a slot carries the name of that slot. -/
theorem settleSlot_kind {k : String} {c : Condition} {event : Incident}
    (h : (settleSlot uuid t p k c ((e.enter t maxGapMs).slot k)).1 = some event) :
    event.kind = k := by
  rcases settleSlot_event h with ⟨-, rfl, -⟩ | ⟨i, hi, rfl, -⟩
  · rfl
  · rw [AlertEngine.enter_active] at hi
    split_ifs at hi
    exact (hkeyed k i hi).1

/-- The events of `observe` that concern a settled kind are those of its slot. The other
events do not have this kind: the one that ends an outage is of the monitoring, and each
slot puts out an event of its own kind, under which the map of conditions has one entry. -/
theorem mem_observe_fst {k : String} {c : Condition} (hk : k ≠ monitoringUnavailable)
    (hc : (conditions t p)[k]? = some c) (event : Incident) :
    (event ∈ (e.observe uuid t p maxGapMs).1 ∧ event.kind = k) ↔
      (settleSlot uuid t p k c ((e.enter t maxGapMs).slot k)).1 = some event := by
  rw [AlertEngine.observe_fst, List.mem_append, List.mem_filterMap]
  constructor
  · rintro ⟨hev | ⟨⟨k', c'⟩, hmem, hev⟩, rfl⟩
    · simp only [AlertEngine.restored, Option.mem_toList, Option.map_eq_some_iff] at hev
      obtain ⟨i, hi, rfl⟩ := hev
      exact absurd (hkeyed _ i hi).1 hk
    · have hk' := settleSlot_kind hkeyed uuid t p maxGapMs hev
      subst hk'
      rw [mem_conditions_toList.1 hmem] at hc
      obtain rfl := Option.some.inj hc
      exact hev
  · intro hev
    exact ⟨Or.inr ⟨(k, c), mem_conditions_toList.2 hc, hev⟩,
      settleSlot_kind hkeyed uuid t p maxGapMs hev⟩

/-- The end of an outage comes from the incident of the monitoring. -/
theorem mem_restored {event : Incident} (h : event ∈ (e.restored t).toList) :
    event.kind = monitoringUnavailable ∧ ∃ i, e.active[monitoringUnavailable]? = some i ∧
      event = { i with recoveredAtMs := some t.capturedAtMs } := by
  obtain ⟨i, hi, rfl⟩ := Option.map_eq_some_iff.1 (Option.mem_toList.1 h)
  exact ⟨(hkeyed _ i hi).1, i, hi, rfl⟩

/-- A kind has one event at most. The slots have distinct kinds, as they are the keys of
a map, and the event that ends an outage is of a kind that no condition has. -/
theorem observe_kinds : ((e.observe uuid t p maxGapMs).1.map Incident.kind).Nodup := by
  rw [AlertEngine.observe_fst, List.map_append, List.nodup_append]
  refine ⟨?_, ?_, ?_⟩
  · cases e.restored t <;> simp
  · rw [List.Nodup, List.pairwise_map]
    refine (conditions_toList_pairwise t p).filterMap _ ?_
    intro a b hne event hevent event' hevent'
    rw [settleSlot_kind hkeyed uuid t p maxGapMs hevent,
      settleSlot_kind hkeyed uuid t p maxGapMs hevent']
    exact hne
  · rintro k hk k' hk' rfl
    obtain ⟨event, hevent, rfl⟩ := List.mem_map.1 hk
    obtain ⟨event', hevent', heq⟩ := List.mem_map.1 hk'
    obtain ⟨⟨k, c⟩, hkc, hslot⟩ := List.mem_filterMap.1 hevent'
    have hc := mem_conditions_toList.1 hkc
    have hkind : event'.kind = k := settleSlot_kind hkeyed uuid t p maxGapMs hslot
    rw [← hkind, heq, (mem_restored hkeyed t hevent).1, conditions_monitoringUnavailable] at hc
    cases hc

/-- **The events of `observe` account for what it does.** Whatever incident is open
after the call and was not before is opened by one of the events, and whatever has gone
is closed by one. -/
theorem observe_transitions :
    Transitions t.deviceId e (e.observe uuid t p maxGapMs).2 (e.observe uuid t p maxGapMs).1 := by
  have hslot (k : String) := congrArg Slot.active (e.slot_observe uuid t p maxGapMs k)
  simp only [AlertEngine.slot_active] at hslot
  refine ⟨observe_kinds hkeyed uuid t p maxGapMs, fun event hevent => ?_, fun k hk => ?_⟩
  · rw [AlertEngine.observe_fst] at hevent
    rcases List.mem_append.1 hevent with hevent | hevent
    · obtain ⟨hkind, i, hi, rfl⟩ := mem_restored hkeyed t hevent
      refine Or.inr ⟨i, t.capturedAtMs, by rw [hkind]; exact hi, rfl, ?_⟩
      rw [hkind, hslot, conditions_monitoringUnavailable]
      exact (e.enter_active t maxGapMs _).trans (if_pos rfl)
    · obtain ⟨⟨k, c⟩, hkc, hsettle⟩ := List.mem_filterMap.1 hevent
      have hc := mem_conditions_toList.1 hkc
      have hkind := settleSlot_kind hkeyed uuid t p maxGapMs hsettle
      have hne : k ≠ monitoringUnavailable := by
        rintro rfl
        rw [conditions_monitoringUnavailable] at hc
        cases hc
      have hbefore : ((e.enter t maxGapMs).slot k).active = e.active[k]? :=
        (e.enter_active t maxGapMs k).trans (if_neg hne)
      have hafter := hslot k
      rw [hc] at hafter
      rw [hkind, hafter]
      rcases settleSlot_event hsettle with ⟨hnone, rfl, hactive⟩ | ⟨i, hi, rfl, hactive⟩
      · exact Or.inl ⟨hbefore.symm.trans hnone, hactive, rfl, rfl⟩
      · exact Or.inr ⟨i, t.capturedAtMs, hbefore.symm.trans hi, rfl, hactive⟩
  -- a kind without an event: the outage was not there, and a slot that puts out nothing keeps it
  · by_cases hne : k = monitoringUnavailable
    · subst hne
      rw [hslot, conditions_monitoringUnavailable]
      refine ((e.enter_active t maxGapMs _).trans (if_pos rfl)).trans ?_
      cases hi : e.active[monitoringUnavailable]? with
      | none => rfl
      | some i =>
          have hevent : { i with recoveredAtMs := some t.capturedAtMs } ∈
              (e.observe uuid t p maxGapMs).1 := by
            rw [AlertEngine.observe_fst, AlertEngine.restored, hi]
            exact List.mem_append_left _ (List.mem_singleton_self _)
          exact absurd (hkeyed _ i hi).1 (hk { i with recoveredAtMs := some t.capturedAtMs } hevent)
    · have hbefore : ((e.enter t maxGapMs).slot k).active = e.active[k]? :=
        (e.enter_active t maxGapMs k).trans (if_neg hne)
      rw [hslot]
      cases hc : (conditions t p)[k]? with
      | none => exact hbefore
      | some c =>
          have hquiet : (settleSlot uuid t p k c ((e.enter t maxGapMs).slot k)).1 = none := by
            by_contra hev
            obtain ⟨event, hev⟩ := Option.ne_none_iff_exists'.1 hev
            have hmem := (mem_observe_fst hkeyed uuid t p maxGapMs hne hc event).2 hev
            exact hk event hmem.1 hmem.2
          exact (settleSlot_quiet hquiet).trans hbefore

end Observe

/-- **The event of `monitoring_lost` accounts for what it does.** It is there exactly if
the outage is new. -/
theorem monitoringLost_transitions (uuid : String → String) (e : AlertEngine) (last : Telemetry)
    (message : String) (at_ : ℤ) :
    Transitions last.deviceId e (e.monitoringLost uuid last message at_).2
      (e.monitoringLost uuid last message at_).1.toList := by
  unfold AlertEngine.monitoringLost
  dsimp only
  split_ifs with hcontains
  · exact ⟨by simp, by simp, fun _ _ => rfl⟩
  · refine ⟨List.nodup_singleton _, fun event hevent => Or.inl ?_, fun k hk => ?_⟩
    · obtain rfl := List.mem_singleton.1 hevent
      refine ⟨?_, Std.TreeMap.getElem?_insert_self, rfl, rfl⟩
      rwa [contains_eq_isSome, Option.not_isSome_iff_eq_none] at hcontains
    · exact getElem?_insert_of_ne (hk _ (List.mem_singleton_self _)).symm _

end Railwatch
