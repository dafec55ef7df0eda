/-
# Dated tariffs

A tariff table that `set_tariff` built has at most 4096 rows, each filed under
its own effective time.  `summary` sorts it and looks a minute up with a binary
search; `rateAt_eq_currentTariff` says that this finds the tariff in force, the
one with the greatest effective time that is not after the minute.

A minute has a tariff in force or none, and not two, because the effective times are the
keys of the table (`eq_of_isCurrent`).  The partition point of the sorted list is the
number of rates that are effective by the minute, so the one before it is the latest of
them.
-/

import Railwatch.History.Summary

namespace Railwatch

open Sql

/-- The database after some `set_tariff` requests; one that fails changes
nothing. -/
def Database.setTariffs (db : Database) (requests : List (Tariff × Bool)) : Database :=
  Transition.run (fun db request => (db.setTariff request.1 request.2).toOption.getD db) db requests

/-- The tariff is in force at a minute. -/
def IsCurrent (tariffs : List Tariff) (minute : ℤ) (tariff : Tariff) : Prop :=
  tariff ∈ tariffs ∧ tariff.effectiveAtMs ≤ minute ∧
    ∀ t ∈ tariffs, t.effectiveAtMs ≤ minute → t.effectiveAtMs ≤ tariff.effectiveAtMs

instance (tariffs : List Tariff) (minute : ℤ) (tariff : Tariff) :
    Decidable (IsCurrent tariffs minute tariff) := by
  unfold IsCurrent
  infer_instance

/-- The tariff in force at a minute. -/
def currentTariff (tariffs : Table ℤ Tariff) (minute : ℤ) : Option Tariff :=
  (tariffs.rows.map Prod.snd).find? fun t => IsCurrent (tariffs.rows.map Prod.snd) minute t

/-! ### Tables that `set_tariff` builds -/

/-- Tariffs are filed under their effective times, 4096 of them at most. This is what
`set_tariff` keeps of the table, whatever the calls are. -/
structure TariffTable (tariffs : Table ℤ Tariff) : Prop where
  /-- The key is the time. -/
  effective : ∀ k t, tariffs.find? k = some t → t.effectiveAtMs = k
  /-- `MAX_TARIFFS`. -/
  limit : tariffs.rows.length ≤ maxTariffs

/-- There are as many keys as rows. -/
theorem length_keys {κ ρ : Type} (t : Table κ ρ) : t.keys.length = t.rows.length :=
  List.length_map _

/-- The three checks `set_tariff` makes of a tariff by itself: its time is a whole
minute, its rate is in the range, and its currency is three capital letters. -/
structure Tariff.Valid (t : Tariff) : Prop where
  /-- It begins with a minute. -/
  aligned : t.effectiveAtMs % 60000 = 0
  /-- Its rate is not negative, and at most a million a kilowatt hour. -/
  rate : 0 ≤ t.microcurrencyPerKwh ∧ t.microcurrencyPerKwh ≤ 1000000000000
  /-- Its currency is three capital letters. -/
  code : currencyCode t.currency = true

/-- **What a `set_tariff` that succeeds has checked and what it writes.**  Both
statements leave the tariff at its effective time; without `replace` the time
was free. -/
theorem Database.setTariff_ok {db db' : Database} {tariff : Tariff} {replace : Bool}
    (h : db.setTariff tariff replace = .ok db') :
    tariff.Valid ∧
      (tariff.effectiveAtMs ∉ db.tariffs.keys → db.tariffs.rows.length < maxTariffs) ∧
      (∀ t, db.tariffsByTime.head? = some t → t.currency = tariff.currency) ∧
      (replace = false → tariff.effectiveAtMs ∉ db.tariffs.keys) ∧
      db' = { db with tariffs :=
        db.tariffs.upsert tariff.effectiveAtMs tariff fun _ => tariff } := by
  unfold Database.setTariff at h
  dsimp only at h
  split_ifs at h with h₁ h₂ h₃ h₄ h₅ h₆ h₇
  · obtain rfl := Except.ok.inj h
    refine ⟨⟨not_not.1 h₁, h₂, h₃⟩, fun hk => ?_, fun t ht => ?_, ?_, rfl⟩
    · exact h₄.resolve_right (by simp [hk])
    · rw [ht] at h₅
      simpa using h₅
    · rw [h₆]
      exact fun hno => absurd hno Bool.noConfusion
  · obtain rfl := Except.ok.inj h
    have hk : tariff.effectiveAtMs ∉ db.tariffs.keys := by simpa using h₇
    refine ⟨⟨not_not.1 h₁, h₂, h₃⟩, fun _ => ?_, fun t ht => ?_, fun _ => hk, ?_⟩
    · exact h₄.resolve_right (by simp [hk])
    · rw [ht] at h₅
      simpa using h₅
    · rw [Table.upsert, if_neg hk]

section SetTariff

variable {db db' : Database} {tariff : Tariff} {replace : Bool}
  (hset : db.setTariff tariff replace = .ok db')
include hset

/-- A tariff that was set is the row of its effective time. -/
theorem Database.find?_setTariff (k : ℤ) :
    db'.tariffs.find? k =
      if k = tariff.effectiveAtMs then some tariff else db.tariffs.find? k := by
  obtain ⟨-, -, -, -, rfl⟩ := Database.setTariff_ok hset
  dsimp only
  rw [Table.find?_upsert]
  split_ifs
  · cases db.tariffs.find? k <;> rfl
  · rfl

/-- **`set_tariff` keeps the table in order.** The energies are not touched, so that a
new rate only prices what is stored anew. -/
theorem TariffTable.setTariff (h : TariffTable db.tariffs) :
    TariffTable db'.tariffs ∧ db'.energy = db.energy := by
  have hfind := Database.find?_setTariff hset
  obtain ⟨-, hroom, -, -, rfl⟩ := Database.setTariff_ok hset
  refine ⟨⟨fun k t ht => ?_, ?_⟩, rfl⟩
  · rw [hfind k] at ht
    split_ifs at ht with hk
    · rw [← Option.some.inj ht, hk]
    · exact h.effective k t ht
  · rw [← length_keys, Table.keys_upsert]
    split_ifs with hk
    · rw [length_keys]
      exact h.limit
    · rw [List.length_append, length_keys, List.length_singleton]
      exact hroom hk

end SetTariff

/-- Setting tariffs keeps the table, and touches no energy. -/
theorem TariffTable.setTariffs {db : Database} (h : TariffTable db.tariffs)
    (requests : List (Tariff × Bool)) :
    TariffTable (db.setTariffs requests).tariffs ∧
      (db.setTariffs requests).energy = db.energy := by
  refine Transition.run_induction _ (I := fun db' : Database => TariffTable db'.tariffs ∧
    db'.energy = db.energy) ⟨h, rfl⟩ (fun db' request hdb' => ?_) requests
  cases hset : db'.setTariff request.1 request.2 with
  | error e => exact hdb'
  | ok db'' =>
      obtain ⟨h₁, h₂⟩ := TariffTable.setTariff hset hdb'.1
      exact ⟨h₁, h₂.trans hdb'.2⟩

/-- Without tariffs there is nothing to check. -/
theorem tariffTable_empty : TariffTable ∅ where
  effective k t h := by cases h
  limit := Nat.zero_le _

/-! ### Looking a minute up -/

/-- In a sorted list the binary search finds a tariff in force, or there is
none. -/
theorem rateAt_spec {tariffs : List Tariff}
    (hsorted : tariffs.Pairwise fun a b => a.effectiveAtMs ≤ b.effectiveAtMs) (minute : ℤ) :
    match rateAt tariffs minute with
    | some t => IsCurrent tariffs minute t
    | none => ∀ t ∈ tariffs, minute < t.effectiveAtMs := by
  induction tariffs with
  | nil => simp [rateAt, partitionPoint]
  | cons a tariffs ih =>
      obtain ⟨ha, hrest⟩ := List.pairwise_cons.1 hsorted
      have ih := ih hrest
      by_cases hle : a.effectiveAtMs ≤ minute
      · -- the search goes on behind `a`
        have hcons : rateAt (a :: tariffs) minute = some ((rateAt tariffs minute).getD a) := by
          unfold rateAt partitionPoint
          rw [List.takeWhile_cons_of_pos (by simpa using hle)]
          cases hlen : (tariffs.takeWhile fun r => decide (r.effectiveAtMs ≤ minute)).length with
          | zero => simp [hlen]
          | succ n =>
              have hlt : n < tariffs.length := by
                have := (List.takeWhile_prefix (l := tariffs)
                  fun r => decide (r.effectiveAtMs ≤ minute)).length_le
                omega
              simp [hlen, hlt]
        rw [hcons]
        cases hr : rateAt tariffs minute with
        | none =>
            rw [hr] at ih
            refine ⟨List.mem_cons_self .., hle, fun t ht hmin => ?_⟩
            rcases List.mem_cons.1 ht with rfl | ht
            · exact le_rfl
            · exact absurd hmin (not_le.2 (ih t ht))
        | some t =>
            rw [hr] at ih
            refine ⟨List.mem_cons_of_mem _ ih.1, ih.2.1, fun t' ht' hmin => ?_⟩
            rcases List.mem_cons.1 ht' with rfl | ht'
            · exact ha t ih.1
            · exact ih.2.2 t' ht' hmin
      · have hcons : rateAt (a :: tariffs) minute = none := by
          unfold rateAt partitionPoint
          rw [List.takeWhile_cons_of_neg (by simpa using hle)]
          simp
        rw [hcons]
        intro t ht
        rcases List.mem_cons.1 ht with rfl | ht
        · exact not_le.1 hle
        · exact lt_of_lt_of_le (not_le.1 hle) (ha t ht)

section Sorted

variable {db : Database} (h : TariffTable db.tariffs)

/-- The tariffs are in the order of their times. -/
theorem tariffsByTime_pairwise (db : Database) :
    db.tariffsByTime.Pairwise fun a b => a.effectiveAtMs ≤ b.effectiveAtMs := by
  have : Std.Total fun a b : Tariff => a.effectiveAtMs ≤ b.effectiveAtMs :=
    ⟨fun a b => le_total a.effectiveAtMs b.effectiveAtMs⟩
  have : IsTrans Tariff fun a b => a.effectiveAtMs ≤ b.effectiveAtMs :=
    ⟨fun _ _ _ => le_trans⟩
  exact List.pairwise_insertionSort _ _

/-- They are those of the table. -/
theorem mem_tariffsByTime {t : Tariff} :
    t ∈ db.tariffsByTime ↔ t ∈ db.tariffs.rows.map Prod.snd :=
  (List.perm_insertionSort _ _).mem_iff

include h

/-- Reading them does not fail: there are not more than may be read. -/
theorem tariffList_eq : db.tariffList = .ok db.tariffsByTime := by
  have hlen : db.tariffsByTime.length ≤ maxTariffs := by
    rw [Database.tariffsByTime, (List.perm_insertionSort _ _).length_eq, List.length_map]
    exact h.limit
  have htake : db.tariffsByTime.take 4097 = db.tariffsByTime :=
    List.take_of_length_le (by unfold maxTariffs at hlen; omega)
  rw [Database.tariffList, htake]
  exact if_pos hlen

/-- There is one current tariff at most. -/
theorem TariffTable.eq_of_isCurrent {minute : ℤ} {t t' : Tariff}
    (ht : IsCurrent (db.tariffs.rows.map Prod.snd) minute t)
    (ht' : IsCurrent (db.tariffs.rows.map Prod.snd) minute t') : t = t' := by
  have heq : t.effectiveAtMs = t'.effectiveAtMs :=
    le_antisymm (ht'.2.2 t ht.1 ht.2.1) (ht.2.2 t' ht'.1 ht'.2.1)
  obtain ⟨⟨k, r⟩, hr, rfl⟩ := List.mem_map.1 ht.1
  obtain ⟨⟨k', r'⟩, hr', rfl⟩ := List.mem_map.1 ht'.1
  have hk := h.effective k r (Table.find?_eq_some_iff.2 hr)
  have hk' := h.effective k' r' (Table.find?_eq_some_iff.2 hr')
  dsimp only at heq
  rw [hk, hk'] at heq
  subst heq
  exact Table.eq_of_mem_rows hr hr'

/-- **The binary search finds the tariff in force.** The list is sorted by time, so the
rates that are effective by a minute are the first ones of it, and the last of these is
the latest. -/
theorem rateAt_eq_currentTariff (minute : ℤ) :
    rateAt db.tariffsByTime minute = currentTariff db.tariffs minute := by
  have hspec := rateAt_spec (tariffsByTime_pairwise db) minute
  cases hr : rateAt db.tariffsByTime minute with
  | none =>
      rw [hr] at hspec
      symm
      refine List.find?_eq_none.2 fun t ht hcurrent => ?_
      exact absurd (of_decide_eq_true hcurrent).2.1 (not_le.2 (hspec t (mem_tariffsByTime.2 ht)))
  | some t =>
      rw [hr] at hspec
      have hcurrent : IsCurrent (db.tariffs.rows.map Prod.snd) minute t :=
        ⟨mem_tariffsByTime.1 hspec.1, hspec.2.1, fun t' ht' =>
          hspec.2.2 t' (mem_tariffsByTime.2 ht')⟩
      cases hc : currentTariff db.tariffs minute with
      | none => exact absurd (decide_eq_true hcurrent) (List.find?_eq_none.1 hc t hcurrent.1)
      | some t' =>
          have hfound := List.find?_some (show List.find? _ _ = some t' from hc)
          rw [h.eq_of_isCurrent hcurrent (of_decide_eq_true hfound)]

end Sorted

end Railwatch
