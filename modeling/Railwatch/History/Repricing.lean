/-
# A new price and the summaries

What a `set_tariff` that succeeds does to the summaries of the store.  Two
tables that differ at one effective time only have the same tariff in force
before that time and from the next later tariff on (`currentTariff_congr`), so
a range of such minutes is summed up alike.  Over any range, tariffs touch
nothing but prices: with these erased (`EnergySummary.unpriced`), a summary is
the one of a store that has no tariffs at all (`summaryLoop_unpriced`).

The theorem is about `set_tariff` as a step of the store: a call that is refused leaves
the table as it is, and one that succeeds changes one effective time, new or not.
-/

import Railwatch.History.Reference

namespace Railwatch

open Std (TreeMap)
open Sql

/-- A row with its prices erased: what is left is the period, the energies and
the observed times. -/
def EnergySummary.unpriced (s : EnergySummary) : EnergySummary :=
  { s with cost := none, currency := none, pricedObservedMs := 0, incompletePricing := false }

/-! ### The tariff in force -/

section Current

variable {tariffs tariffs' : Table ℤ Tariff} (h : TariffTable tariffs) (h' : TariffTable tariffs')
include h

/-- A tariff is in the table exactly if it is found at its time. -/
theorem TariffTable.mem_iff {t : Tariff} :
    t ∈ tariffs.rows.map Prod.snd ↔ tariffs.find? t.effectiveAtMs = some t := by
  rw [Table.find?_eq_some_iff, List.mem_map]
  constructor
  · rintro ⟨⟨k, t⟩, hmem, rfl⟩
    rwa [h.effective k t (Table.find?_eq_some_iff.2 hmem)]
  · intro hmem
    exact ⟨_, hmem, rfl⟩

/-- The tariff that the search finds is the current one: of those in force the latest,
of which there is one, because effective times are distinct. -/
theorem currentTariff_eq_some_iff {minute : ℤ} {t : Tariff} :
    currentTariff tariffs minute = some t ↔ IsCurrent (tariffs.rows.map Prod.snd) minute t := by
  unfold currentTariff
  constructor
  · intro hfound
    have hsome := List.find?_some hfound
    exact of_decide_eq_true hsome
  · intro hcurrent
    cases hfind : (tariffs.rows.map Prod.snd).find? fun t =>
        IsCurrent (tariffs.rows.map Prod.snd) minute t with
    | none =>
        exact absurd (decide_eq_true hcurrent) (List.find?_eq_none.1 hfind t hcurrent.1)
    | some t' =>
        have hsome := List.find?_some hfind
        have hcurrent' := of_decide_eq_true hsome
        have htable : TariffTable { tariffs := tariffs : Database }.tariffs := h
        rw [htable.eq_of_isCurrent hcurrent' hcurrent]

include h'

variable {time : ℤ} (hsame : ∀ k, k ≠ time → tariffs.find? k = tariffs'.find? k)
include hsame

/-- A tariff of another time is in force in both tables, before the time in
which they differ and once a later tariff has taken over. -/
theorem IsCurrent.congr {minute : ℤ} {t : Tariff}
    (hfar : minute < time ∨ ∃ t₀ ∈ tariffs.rows.map Prod.snd,
      time < t₀.effectiveAtMs ∧ t₀.effectiveAtMs ≤ minute)
    (hcurrent : IsCurrent (tariffs.rows.map Prod.snd) minute t) :
    IsCurrent (tariffs'.rows.map Prod.snd) minute t := by
  obtain ⟨hmem, hle, hmax⟩ := hcurrent
  have hmem_iff {t' : Tariff} (ht' : t'.effectiveAtMs ≠ time) :
      t' ∈ tariffs'.rows.map Prod.snd ↔ t' ∈ tariffs.rows.map Prod.snd := by
    rw [h'.mem_iff, h.mem_iff, hsame _ ht']
  rcases hfar with hbefore | ⟨t₀, ht₀, hlt₀, hle₀⟩
  · have hne {t' : Tariff} (ht' : t'.effectiveAtMs ≤ minute) : t'.effectiveAtMs ≠ time := by
      omega
    exact ⟨(hmem_iff (hne hle)).2 hmem, hle, fun t' ht' hle' =>
      hmax t' ((hmem_iff (hne hle')).1 ht') hle'⟩
  · have hlater : time < t.effectiveAtMs := lt_of_lt_of_le hlt₀ (hmax t₀ ht₀ hle₀)
    refine ⟨(hmem_iff hlater.ne').2 hmem, hle, fun t' ht' hle' => ?_⟩
    by_cases heq : t'.effectiveAtMs = time
    · exact heq ▸ hlater.le
    · exact hmax t' ((hmem_iff heq).1 ht') hle'

/-- **A change at one time leaves the tariff in force** at every minute before
it, and at every minute from a later tariff on. -/
theorem currentTariff_congr {minute : ℤ}
    (hfar : minute < time ∨ ∃ t₀ ∈ tariffs.rows.map Prod.snd,
      time < t₀.effectiveAtMs ∧ t₀.effectiveAtMs ≤ minute) :
    currentTariff tariffs minute = currentTariff tariffs' minute := by
  have hfar' : minute < time ∨ ∃ t₀ ∈ tariffs'.rows.map Prod.snd,
      time < t₀.effectiveAtMs ∧ t₀.effectiveAtMs ≤ minute := by
    rcases hfar with hbefore | ⟨t₀, ht₀, hlt₀, hle₀⟩
    · exact Or.inl hbefore
    · refine Or.inr ⟨t₀, h'.mem_iff.2 ?_, hlt₀, hle₀⟩
      rw [← hsame _ hlt₀.ne']
      exact h.mem_iff.1 ht₀
  refine Option.ext fun t => ?_
  rw [currentTariff_eq_some_iff h, currentTariff_eq_some_iff h']
  exact ⟨IsCurrent.congr h h' hsame hfar,
    IsCurrent.congr h' h (fun k hk => (hsame k hk).symm) hfar'⟩

end Current

/-! ### Queries that agree -/

/-- Queries over equal ranges agree if their loops do, as far as some function of the
rows can tell. What comes before the loop depends on the request alone, once the tariffs
can be listed. -/
theorem Database.summary_map_congr {β : Type} {db db' : Database} {tariffs tariffs' : List Tariff}
    (htariffs : db.tariffList = .ok tariffs) (htariffs' : db'.tariffList = .ok tariffs')
    {device : String} {fromMs toMs : ℤ} (F : List EnergySummary → β)
    (hloop : ∀ period zone,
      ((db.minuteRows device fromMs toMs).foldlM (summaryStep tariffs period zone) ∅).map
        (fun buckets => F (buckets.toList.map fun b => finishSummary b.2)) =
      ((db'.minuteRows device fromMs toMs).foldlM (summaryStep tariffs' period zone) ∅).map
        fun buckets => F (buckets.toList.map fun b => finishSummary b.2))
    (zones : String → Except String Zone) (name timezone : String) :
    (db.summary zones device fromMs toMs name timezone).map F =
      (db'.summary zones device fromMs toMs name timezone).map F := by
  by_cases hrange : fromMs < toMs ∧ fromMs % 60000 = 0 ∧ toMs % 60000 = 0
  · cases hperiod : Period.parse name with
    | none =>
        rw [Database.summary, Database.summary, if_neg (not_not.2 hrange),
          if_neg (not_not.2 hrange), hperiod]
    | some period =>
        cases hzone : zones timezone with
        | error e =>
            rw [Database.summary, Database.summary, if_neg (not_not.2 hrange),
              if_neg (not_not.2 hrange), hperiod]
            dsimp only
            rw [hzone]
            rfl
        | ok zone =>
            have hmap {γ δ : Type} (x : Except String γ) (f : γ → δ) (g : δ → β) :
                (x.map f).map g = x.map fun a => g (f a) := by
              cases x <;> rfl
            rw [Database.summary_eq_loop hrange hperiod hzone htariffs,
              Database.summary_eq_loop hrange hperiod hzone htariffs', hmap, hmap]
            exact hloop period zone
  · rw [Database.summary, Database.summary, if_pos hrange, if_pos hrange]

/-- A loop over minutes whose tariffs are the same. -/
theorem summaryLoop_congr {tariffs tariffs' : List Tariff} {minutes : List (ℤ × EnergyRow)}
    (h : ∀ m ∈ minutes, rateAt tariffs m.1 = rateAt tariffs' m.1) (period : Period) (zone : Zone) :
    minutes.foldlM (summaryStep tariffs period zone) ∅ =
      minutes.foldlM (summaryStep tariffs' period zone) ∅ := by
  refine Loops.foldlM_congr (fun m hm buckets => ?_) ∅
  have hadd (b : EnergySummary × ℤ) : addMinute tariffs b m = addMinute tariffs' b m := by
    rw [addMinute, addMinute, h m hm]
  simp only [summaryStep, Buckets.put, hadd]

/-- **Tariffs only price.**  With the prices erased, the rows of the loop are
those of a loop without tariffs. -/
theorem summaryLoop_unpriced (tariffs : List Tariff) (minutes : List (ℤ × EnergyRow))
    (period : Period) (zone : Zone) :
    (minutes.foldlM (summaryStep tariffs period zone) ∅).map
        (fun buckets => (buckets.toList.map fun b => finishSummary b.2).map
          EnergySummary.unpriced) =
      (minutes.foldlM (summaryStep [] period zone) ∅).map
        fun buckets => (buckets.toList.map fun b => finishSummary b.2).map
          EnergySummary.unpriced := by
  let φ : EnergySummary × ℤ → EnergySummary × ℤ := fun b => (b.1.unpriced, 0)
  have hadd (b : EnergySummary × ℤ) (m : ℤ × EnergyRow) :
      addMinute [] (φ b) m = φ (addMinute tariffs b m) := by
    unfold addMinute
    cases rateAt tariffs m.1 <;> rfl
  have hagree : Loops.Agree (Buckets.Maps φ)
      (minutes.foldlM (summaryStep tariffs period zone) ∅)
      (minutes.foldlM (summaryStep [] period zone) ∅) := by
    refine Loops.foldlM_agree (fun m buckets buckets' hmaps => ?_) minutes Buckets.maps_empty
    unfold summaryStep
    split_ifs
    · exact hmaps.put _ _ _ _ _ (fun _ => rfl) hadd m
    · exact rfl
    · exact rfl
  refine hagree.map_eq fun buckets buckets' hmaps => ?_
  rw [hmaps.toList_eq, List.map_map, List.map_map, List.map_map]
  exact List.map_congr_left fun kb _ => rfl

/-- **A new price only affects its own segment.**  For any energy table, any
tariffs set before, and a call of `set_tariff` with effective time `T`: if it
fails, every summary is what it was.  If it succeeds, so is every summary over a
range that ends at or before `T`, and over one that starts at or after the next
later effective time; and over every range the rows, or the error, are the same
but for cost, currency, priced time and the incomplete flag. -/
theorem price_affects_its_own_segment (zones : String → Except String Zone) (db : Database)
    (requests : List (Tariff × Bool)) (tariff : Tariff) (replace : Bool) :
    let before := Database.setTariffs { db with tariffs := ∅ } requests
    let after := before.setTariffs [(tariff, replace)]
    match before.setTariff tariff replace with
    | .error _ => ∀ device fromMs toMs name timezone,
        after.summary zones device fromMs toMs name timezone =
          before.summary zones device fromMs toMs name timezone
    | .ok _ => ∀ device fromMs toMs name timezone,
        (toMs ≤ tariff.effectiveAtMs ∨ (∃ next ∈ before.tariffs.rows.map Prod.snd,
            tariff.effectiveAtMs < next.effectiveAtMs ∧ next.effectiveAtMs ≤ fromMs) →
          after.summary zones device fromMs toMs name timezone =
            before.summary zones device fromMs toMs name timezone) ∧
        (after.summary zones device fromMs toMs name timezone).map
            (List.map EnergySummary.unpriced) =
          (before.summary zones device fromMs toMs name timezone).map
            (List.map EnergySummary.unpriced) := by
  intro before after
  have hbefore : TariffTable before.tariffs := (tariffTable_empty.setTariffs requests).1
  have hrun : after = (before.setTariff tariff replace).toOption.getD before := rfl
  cases hset : before.setTariff tariff replace with
  | error e =>
      intro device fromMs toMs name timezone
      rw [hrun, hset]
      rfl
  | ok db' =>
      intro device fromMs toMs name timezone
      obtain rfl : after = db' := by
        rw [hrun, hset]
        rfl
      obtain ⟨hafter, henergy⟩ := TariffTable.setTariff hset hbefore
      have hsame : ∀ k, k ≠ tariff.effectiveAtMs →
          before.tariffs.find? k = after.tariffs.find? k := fun k hk => by
        rw [Database.find?_setTariff hset, if_neg hk]
      have hminutes :
          after.minuteRows device fromMs toMs = before.minuteRows device fromMs toMs := by
        rw [Database.minuteRows, henergy]
        rfl
      constructor
      -- no minute of the period has the new tariff as its current one
      · intro hfar
        have hid (x : Except String (List EnergySummary)) : x.map id = x := by
          cases x <;> rfl
        rw [← hid (after.summary ..), ← hid (before.summary ..)]
        refine Database.summary_map_congr (tariffList_eq hafter) (tariffList_eq hbefore) id
          (fun period zone => ?_) zones name timezone
        rw [hminutes]
        refine congrArg _ (summaryLoop_congr (fun m hm => ?_) period zone)
        obtain ⟨-, hle, hlt⟩ := (mem_minuteRows before device fromMs toMs).1 hm
        rw [rateAt_eq_currentTariff hafter, rateAt_eq_currentTariff hbefore]
        refine (currentTariff_congr hbefore hafter hsame ?_).symm
        rcases hfar with hto | ⟨next, hmem, hlater, hfrom⟩
        · exact Or.inl (lt_of_lt_of_le hlt hto)
        · exact Or.inr ⟨next, hmem, hlater, hfrom.trans hle⟩
      · refine Database.summary_map_congr (tariffList_eq hafter) (tariffList_eq hbefore) _
          (fun period zone => ?_) zones name timezone
        rw [hminutes, summaryLoop_unpriced, ← summaryLoop_unpriced before.tariffsByTime]

end Railwatch
