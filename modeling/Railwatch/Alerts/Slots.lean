/-
# One kind at a time

`observe` keeps hardware, safeguard and software kinds in the same three maps
and settles them in one loop.  The loop never mixes two kinds: what it does to
the entries of a kind depends on the sample's condition for that kind and on
these entries alone.

`Slot` collects the three entries of a kind.  `settleSlot` is one turn of the
loop on them.  `slot_observe` says that `observe` is `settleSlot` on every slot
whose kind has a condition and the identity (up to the reset of the timers) on
the others; `observe_fst` lists the events it returns the same way.
`conditions_getElem?_of_mem` and `conditions_getElem?_eq_none` say which kinds
have one.
-/

import Railwatch.Alerts.Engine
import Railwatch.General.TreeMaps

namespace Railwatch

open Std (TreeMap)
open TreeMaps

/-- The entries of one kind in `active`, `pending` and `recovering`. What a call does to
one kind depends on these three and on the kind's condition alone. -/
@[ext]
structure Slot where
  /-- The open incident. -/
  active : Option Incident
  /-- Since when it is asserted. -/
  pending : Option ℕ
  /-- Since when it is clear. -/
  recovering : Option ℕ

/-- The slot of a kind. -/
def AlertEngine.slot (e : AlertEngine) (kind : String) : Slot :=
  ⟨e.active[kind]?, e.pending[kind]?, e.recovering[kind]?⟩

@[simp] theorem AlertEngine.slot_active (e : AlertEngine) (k : String) :
    (e.slot k).active = e.active[k]? := rfl

/-- One turn of the last loop of `observe`, seen from the kind's own slot. A condition
that is asserted starts its timer, or keeps it, and ends a recovery; one that is clear
does the reverse; in the band between the two both timers are dropped. The hardware's
own reports do not wait for a timer. -/
def settleSlot (uuid : String → String) (t : Telemetry) (p : Policy) (kind : String)
    (c : Condition) (s : Slot) : Option Incident × Slot :=
  let hardware := !startsWith kind "software."
  if c.asserted then
    let start := s.pending.getD t.monotonicMs
    if (hardware || decide (p.triggerMs ≤ t.monotonicMs - start)) && s.active.isNone then
      (some (openIncident uuid t p kind c), ⟨some (openIncident uuid t p kind c), some start, none⟩)
    else (none, ⟨s.active, some start, none⟩)
  else if c.clear then
    let at_ := s.recovering.getD t.monotonicMs
    if hardware || decide (p.recoveryMs ≤ t.monotonicMs - at_) then
      (s.active.map fun event => { event with recoveredAtMs := some t.capturedAtMs },
        ⟨none, none, none⟩)
    else (none, ⟨s.active, none, some at_⟩)
  else (none, ⟨s.active, none, none⟩)

/-- A turn of the loop acts on its own slot as `settleSlot`. -/
theorem AlertEngine.settle_eq (uuid : String → String) (t : Telemetry) (p : Policy)
    (e : AlertEngine) (k : String) (c : Condition) :
    (e.settle uuid t p k c).1 = (settleSlot uuid t p k c (e.slot k)).1 ∧
      (e.settle uuid t p k c).2.slot k = (settleSlot uuid t p k c (e.slot k)).2 := by
  unfold AlertEngine.settle settleSlot AlertEngine.slot
  simp only [contains_eq_isSome, Option.not_isSome]
  split_ifs <;>
    simp only [getElem?_insertIfNew_self, Std.TreeMap.getElem?_insert_self,
      Std.TreeMap.getElem?_erase_self, and_self]

/-- A turn of the loop leaves the slots of other kinds alone. -/
theorem AlertEngine.slot_settle_of_ne (uuid : String → String) (t : Telemetry) (p : Policy)
    (e : AlertEngine) {k k' : String} (h : k' ≠ k) (c : Condition) :
    (e.settle uuid t p k c).2.slot k' = e.slot k' := by
  unfold AlertEngine.settle AlertEngine.slot
  dsimp only
  split_ifs <;>
    simp only [getElem?_insertIfNew_of_ne h, getElem?_insert_of_ne h, getElem?_erase_of_ne h]

/-- Settling a condition does not touch the last sample. -/
theorem AlertEngine.settle_last (uuid : String → String) (t : Telemetry) (p : Policy)
    (e : AlertEngine) (k : String) (c : Condition) : (e.settle uuid t p k c).2.last = e.last := by
  unfold AlertEngine.settle
  dsimp only
  split_ifs <;> rfl

/-- Nor does settling all of them. -/
theorem AlertEngine.settleAll_last (uuid : String → String) (t : Telemetry) (p : Policy)
    (cs : List (String × Condition)) (e : AlertEngine) :
    (e.settleAll uuid t p cs).2.last = e.last := by
  induction cs generalizing e with
  | nil => rfl
  | cons kc rest ih =>
      simp only [AlertEngine.settleAll]
      rw [ih, AlertEngine.settle_last]

/-- A kind without a condition keeps its slot through the loop. -/
theorem AlertEngine.slot_settleAll_of_notMem (uuid : String → String) (t : Telemetry) (p : Policy)
    (cs : List (String × Condition)) (e : AlertEngine) (k : String)
    (hk : ∀ kc ∈ cs, kc.1 ≠ k) : (e.settleAll uuid t p cs).2.slot k = e.slot k := by
  induction cs generalizing e with
  | nil => rfl
  | cons kc rest ih =>
      simp only [AlertEngine.settleAll]
      rw [ih _ fun kc' h => hk kc' (List.mem_cons_of_mem _ h)]
      exact AlertEngine.slot_settle_of_ne uuid t p e (hk kc (List.mem_cons_self ..)).symm kc.2

/-- Over conditions of distinct kinds the loop settles each slot once. -/
theorem AlertEngine.slot_settleAll_of_mem (uuid : String → String) (t : Telemetry) (p : Policy)
    (cs : List (String × Condition)) (hd : cs.Pairwise fun a b => a.1 ≠ b.1) (e : AlertEngine)
    (k : String) (c : Condition) (hk : (k, c) ∈ cs) :
    (e.settleAll uuid t p cs).2.slot k = (settleSlot uuid t p k c (e.slot k)).2 := by
  induction cs generalizing e with
  | nil => simp at hk
  | cons kc rest ih =>
      obtain ⟨hne, hd'⟩ := List.pairwise_cons.1 hd
      simp only [AlertEngine.settleAll]
      rcases List.mem_cons.1 hk with rfl | hk'
      · rw [AlertEngine.slot_settleAll_of_notMem _ _ _ _ _ _ fun kc' h => (hne kc' h).symm]
        exact (AlertEngine.settle_eq uuid t p e k c).2
      · rw [ih hd' _ hk', AlertEngine.slot_settle_of_ne uuid t p e (hne _ hk').symm]

/-- The events of the loop: each kind's own, computed from the slot it had
before the loop. -/
theorem AlertEngine.settleAll_fst (uuid : String → String) (t : Telemetry) (p : Policy)
    (cs : List (String × Condition)) (hd : cs.Pairwise fun a b => a.1 ≠ b.1) (e : AlertEngine) :
    (e.settleAll uuid t p cs).1 =
      cs.filterMap fun kc => (settleSlot uuid t p kc.1 kc.2 (e.slot kc.1)).1 := by
  induction cs generalizing e with
  | nil => rfl
  | cons kc rest ih =>
      obtain ⟨hne, hd'⟩ := List.pairwise_cons.1 hd
      have hrest : (rest.filterMap fun kc' =>
          (settleSlot uuid t p kc'.1 kc'.2 ((e.settle uuid t p kc.1 kc.2).2.slot kc'.1)).1) =
          rest.filterMap fun kc' => (settleSlot uuid t p kc'.1 kc'.2 (e.slot kc'.1)).1 := by
        refine List.filterMap_congr fun kc' h => ?_
        rw [AlertEngine.slot_settle_of_ne uuid t p e (hne kc' h).symm]
      simp only [AlertEngine.settleAll]
      rw [ih hd', hrest, (AlertEngine.settle_eq uuid t p e kc.1 kc.2).1]
      cases h : (settleSlot uuid t p kc.1 kc.2 (e.slot kc.1)).1 <;> simp [h]

/-! ### Which kinds have a condition -/

/-- The kinds of two connectors are different; here for the safeguard of each of them. -/
theorem safeguardKind_inj {c c' : ℕ} (h : safeguardKind c = safeguardKind c') : c = c' := by
  have h' : (c + 1).repr = (c' + 1).repr := (String.append_right_inj _).1 h
  exact Nat.succ_injective (Nat.repr_inj.1 h')

/-- And here for its imbalance. -/
theorem imbalanceKind_inj {c c' : ℕ} (h : imbalanceKind c = imbalanceKind c') : c = c' := by
  have h' : "software.connector" ++ (c + 1).repr = "software.connector" ++ (c' + 1).repr :=
    (String.append_left_inj _).1 h
  exact Nat.succ_injective (Nat.repr_inj.1 ((String.append_right_inj _).1 h'))

/-- Two alerts of the hardware have different kinds. -/
theorem hardwareKind_inj {a b : String} (h : hardwareKind a = hardwareKind b) : a = b :=
  (String.append_right_inj _).1 h

/-- The kinds of the three families are told apart by their first characters. -/
theorem hardwareKind_head? (a : String) : (hardwareKind a).toList.head? = some 'h' :=
  head?_toList_append (by decide +kernel) a

theorem safeguardKind_head? (c : ℕ) : (safeguardKind c).toList.head? = some 's' :=
  head?_toList_append (by decide +kernel) _

theorem imbalanceKind_head? (c : ℕ) : (imbalanceKind c).toList.head? = some 's' :=
  head?_toList_append (head?_toList_append (by decide +kernel) _) _

theorem monitoringUnavailable_head? : monitoringUnavailable.toList.head? = some 'm' := by
  decide +kernel

/-- An alert of the hardware is no safeguard of a connector. -/
theorem hardwareKind_ne_safeguardKind (a : String) (c : ℕ) : hardwareKind a ≠ safeguardKind c :=
  ne_of_head?_ne (hardwareKind_head? a) (safeguardKind_head? c) (by decide)

/-- Nor an imbalance. -/
theorem hardwareKind_ne_imbalanceKind (a : String) (c : ℕ) : hardwareKind a ≠ imbalanceKind c :=
  ne_of_head?_ne (hardwareKind_head? a) (imbalanceKind_head? c) (by decide)

/-- A safeguard is reported by the device, so it opens at once. -/
theorem safeguardKind_not_software (c : ℕ) : startsWith (safeguardKind c) "software." = false := by
  -- stated for any text in place of the number, which must stay folded
  have h : ∀ n : String, startsWith ("safeguard.connector" ++ n) "software." = false := by
    intro n
    have hs : "safeguard.connector".toList = 's' :: 'a' :: "feguard.connector".toList := by
      decide +kernel
    have hw : "software.".toList = 's' :: 'o' :: "ftware.".toList := by decide +kernel
    simp only [startsWith, String.toList_append, hs, hw, List.cons_append, List.isPrefixOf]
    rfl
  exact h _

/-- An imbalance is computed from the currents, so it has to last. -/
theorem imbalanceKind_software (c : ℕ) : startsWith (imbalanceKind c) "software." = true := by
  have h : ∀ n : String, startsWith ("software.connector" ++ n ++ ".imbalance") "software." =
      true := by
    intro n
    have hs : "software.connector".toList = "software.".toList ++ "connector".toList := by
      decide +kernel
    simp only [startsWith, String.toList_append, hs, List.append_assoc]
    exact List.isPrefixOf_iff_prefix.2 (List.prefix_append _ _)
  exact h _

/-- A connector has two kinds, one for each of them. -/
theorem safeguardKind_ne_imbalanceKind (c c' : ℕ) : safeguardKind c ≠ imbalanceKind c' := by
  intro h
  have h' := safeguardKind_not_software c
  rw [h, imbalanceKind_software] at h'
  cases h'

/-- Alerts are only read from a report that has all of its bytes. -/
theorem Telemetry.alarmsValid_length {t : Telemetry} (h : t.alarmsValid = true) :
    t.alertsRaw.length = 18 := by
  unfold Telemetry.alarmsValid at h
  simp only [Bool.and_eq_true, beq_iff_eq] at h
  exact h.1

/-- The table names no alert twice, so each bit has a slot of its own. -/
theorem tsAlerts_nodup : tsAlerts.toList.Nodup := by decide +kernel

/-- The kinds the three loops insert are distinct: within a loop because the name of an
alarm or the number of a connector can be read off the kind, and between two loops
because the kinds begin differently. So no insertion into the map overwrites another. -/
theorem conditionList_pairwise (t : Telemetry) (p : Policy) :
    (conditionList t p).Pairwise fun a b => a.1 ≠ b.1 := by
  have halarm : (alarmConditions t).Pairwise fun a b => a.1 ≠ b.1 := by
    unfold alarmConditions
    split_ifs with h
    · rw [List.pairwise_map]
      have hzip : ((tsAlerts.toList.zip t.alertsRaw).map Prod.fst).Nodup := by
        rw [List.map_fst_zip (by rw [Vector.length_toList, Telemetry.alarmsValid_length h])]
        exact tsAlerts_nodup
      exact (List.pairwise_map.1 hzip).imp fun hab heq => hab (hardwareKind_inj heq)
    · exact List.Pairwise.nil
  have hmap {α : Type} (kind : ℕ → String) (hinj : ∀ {c c'}, kind c = kind c' → c = c')
      (f : ℕ → α → Condition) (l : List α) :
      (l.mapIdx fun c s => (kind c, f c s)).Pairwise fun a b => a.1 ≠ b.1 := by
    rw [List.pairwise_iff_getElem]
    intro i j hi hj hij
    simp only [List.getElem_mapIdx]
    exact fun heq => hij.ne (hinj heq)
  unfold conditionList
  refine List.pairwise_append.2 ⟨List.pairwise_append.2 ⟨halarm, ?_, ?_⟩, ?_, ?_⟩
  · exact hmap safeguardKind safeguardKind_inj _ _
  · intro a ha b hb
    unfold alarmConditions at ha
    split_ifs at ha with h
    · obtain ⟨x, -, rfl⟩ := List.mem_map.1 ha
      obtain ⟨c, hc, rfl⟩ := List.mem_mapIdx.1 hb
      exact hardwareKind_ne_safeguardKind _ _
    · simp at ha
  · exact hmap imbalanceKind imbalanceKind_inj _ _
  · intro a ha b hb
    obtain ⟨c, hc, rfl⟩ := List.mem_mapIdx.1 hb
    rcases List.mem_append.1 ha with ha | ha
    · unfold alarmConditions at ha
      split_ifs at ha with h
      · obtain ⟨x, -, rfl⟩ := List.mem_map.1 ha
        exact hardwareKind_ne_imbalanceKind _ _
      · simp at ha
    · obtain ⟨c', hc', rfl⟩ := List.mem_mapIdx.1 ha
      exact safeguardKind_ne_imbalanceKind _ _

/-- The conditions of a sample are under different kinds: the map of the code loses none
of them. -/
theorem conditionList_distinct (t : Telemetry) (p : Policy) :
    (conditionList t p).Pairwise fun a b => ¬compare a.1 b.1 = .eq :=
  (conditionList_pairwise t p).imp fun h heq => h (Std.LawfulEqCmp.eq_of_compare heq)

/-- **A kind has the condition its loop inserted.** The kinds of the three loops are
different texts, so that no insertion replaces another one. -/
theorem conditions_getElem?_of_mem {t : Telemetry} {p : Policy} {k : String} {c : Condition}
    (h : (k, c) ∈ conditionList t p) : (conditions t p)[k]? = some c :=
  Std.TreeMap.getElem?_insertMany_list_of_mem Std.ReflCmp.compare_self
    (conditionList_distinct t p) h

/-- A kind that no loop inserted has no condition. -/
theorem conditions_getElem?_eq_none {t : Telemetry} {p : Policy} {k : String}
    (h : ∀ kc ∈ conditionList t p, kc.1 ≠ k) : (conditions t p)[k]? = none := by
  unfold conditions
  rw [Std.TreeMap.getElem?_insertMany_list_of_contains_eq_false]
  · exact Std.TreeMap.getElem?_emptyc
  · rw [List.contains_eq_mem, decide_eq_false_iff_not, List.mem_map]
    rintro ⟨kc, hkc, rfl⟩
    exact h kc hkc rfl

/-- And the map has each kind once. -/
theorem conditions_toList_pairwise (t : Telemetry) (p : Policy) :
    (conditions t p).toList.Pairwise fun a b => a.1 ≠ b.1 :=
  Std.TreeMap.distinct_keys_toList.imp fun h heq => h (by rw [heq]; exact Std.ReflCmp.compare_self)

/-- The conditions that `observe` goes through are the entries of the map. -/
theorem mem_conditions_toList {t : Telemetry} {p : Policy} {k : String} {c : Condition} :
    (k, c) ∈ (conditions t p).toList ↔ (conditions t p)[k]? = some c :=
  Std.TreeMap.mem_toList_iff_getElem?_eq_some

/-! ### `observe` on a slot -/

/-- **`observe` settles every slot whose kind has a condition and keeps the
others.** -/
theorem AlertEngine.slot_observe (uuid : String → String) (e : AlertEngine) (t : Telemetry)
    (p : Policy) (maxGapMs : ℕ) (k : String) :
    (e.observe uuid t p maxGapMs).2.slot k =
      match (conditions t p)[k]? with
      | some c => (settleSlot uuid t p k c ((e.enter t maxGapMs).slot k)).2
      | none => (e.enter t maxGapMs).slot k := by
  unfold AlertEngine.observe
  cases hc : (conditions t p)[k]? with
  | some c =>
      exact AlertEngine.slot_settleAll_of_mem uuid t p _ (conditions_toList_pairwise t p) _ k c
        (mem_conditions_toList.2 hc)
  | none =>
      refine AlertEngine.slot_settleAll_of_notMem uuid t p _ _ k fun kc hkc heq => ?_
      rw [← heq, mem_conditions_toList.1 (show (kc.1, kc.2) ∈ _ from hkc)] at hc
      cases hc

/-- **The events of `observe`:** the end of an outage first, then what each
kind's slot emits, in the order of the kinds. -/
theorem AlertEngine.observe_fst (uuid : String → String) (e : AlertEngine) (t : Telemetry)
    (p : Policy) (maxGapMs : ℕ) :
    (e.observe uuid t p maxGapMs).1 = (e.restored t).toList ++
      (conditions t p).toList.filterMap fun kc =>
        (settleSlot uuid t p kc.1 kc.2 ((e.enter t maxGapMs).slot kc.1)).1 := by
  rw [← AlertEngine.settleAll_fst uuid t p _ (conditions_toList_pairwise t p)]
  rfl

/-- After a sample the engine remembers its session and its time. -/
theorem AlertEngine.observe_last (uuid : String → String) (e : AlertEngine) (t : Telemetry)
    (p : Policy) (maxGapMs : ℕ) :
    (e.observe uuid t p maxGapMs).2.last = some (t.sessionId, t.monotonicMs) :=
  AlertEngine.settleAll_last uuid t p _ _

/-- A sample that interrupts starts the timers of every slot again, and one that
continues leaves the slots as they are. -/
theorem AlertEngine.slot_enter (e : AlertEngine) (t : Telemetry) (maxGapMs : ℕ) {k : String}
    (h : k ≠ monitoringUnavailable) :
    (e.enter t maxGapMs).slot k = if e.interrupted t maxGapMs then ⟨e.active[k]?, none, none⟩
      else e.slot k := by
  unfold AlertEngine.slot AlertEngine.enter
  dsimp only
  rw [getElem?_erase_of_ne h]
  split_ifs <;> simp

/-- **A loss of monitoring stops the timers of every kind and touches the
incidents of none but `monitoring.unavailable`.** -/
theorem AlertEngine.slot_monitoringLost (uuid : String → String) (e : AlertEngine)
    (last : Telemetry) (message : String) (at_ : ℤ) {k : String}
    (h : k ≠ monitoringUnavailable) :
    (e.monitoringLost uuid last message at_).2.slot k = ⟨e.active[k]?, none, none⟩ := by
  unfold AlertEngine.monitoringLost AlertEngine.slot
  dsimp only
  split_ifs <;> simp [getElem?_insert_of_ne h]

end Railwatch
