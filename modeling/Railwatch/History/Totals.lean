/-
# The summary against its reference, on the machine

The loop of `summary` with the numbers of the machine, beside the arithmetic of a
sample (`Checked`): observed times are `i64`, costs are `i128`, and the kilowatt
hours are rounded.

A sum that leaves its integers panics or wraps, so it has no result here.  Where the
sums of every bucket fit (`SumsFit`), and the kilowatt hours are read as exact, the loop
is that of `Database.summary` (`foldlM_summaryStep_exact`), whose rows are the reference
rows.

The reference rows are those of `History/Reference`.  The kilowatt hours of a row are
sums of quotients, each of which is rounded in the source; where the theorem compares
two numbers they are read as exact.
-/

import Railwatch.History.Arithmetic
import Railwatch.History.Prices
import Railwatch.History.Reference

namespace Railwatch
namespace Checked

open Std (TreeMap)
open Machine Sql

/-! ### The programs -/

/-- `s.output_kwh += output as f64 / 3_600_000_000_000.0`. -/
def addKwh (r : Rounding) (total : ℚ) (uj : ℤ) : Option ℚ := do
  r.op (total + (← r.op ((← r.op uj) / 3600000000000)))

/-- What a minute adds to its bucket, if no sum overflows. The energies are converted to
kWh and added in binary64; the times are added as an `i64`, and the cost, which is the
sum of products of energy and rate, as an `i128`. -/
def addMinute (r : Rounding) (tariffs : List Tariff) (b : EnergySummary × ℤ)
    (row : ℤ × EnergyRow) : Option (EnergySummary × ℤ) := do
  let outputKwh ← addKwh r b.1.outputKwh row.2.outputUj
  let estimatedInputKwh ← addKwh r b.1.estimatedInputKwh row.2.inputUj
  let outputObservedMs ← i64 (b.1.outputObservedMs + row.2.observedMs)
  let inputObservedMs ← i64 (b.1.inputObservedMs + row.2.inputObservedMs)
  let s := { b.1 with outputKwh, estimatedInputKwh, outputObservedMs, inputObservedMs }
  match rateAt tariffs row.1 with
  | some rate =>
      let product ← i128 (row.2.inputUj * rate.microcurrencyPerKwh)
      let cost ← i128 (b.2 + product)
      let pricedObservedMs ← i64 (s.pricedObservedMs + row.2.inputObservedMs)
      return ({ s with currency := some rate.currency, pricedObservedMs }, cost)
  | none => return (s, b.2)

/-- The row of a bucket. -/
def finishSummary (b : EnergySummary × ℤ) : Option EnergySummary := do
  let s := { b.1 with incompletePricing := b.1.pricedObservedMs < b.1.outputObservedMs }
  if 0 < b.1.pricedObservedMs then
    let numerator ← i128 (b.2 + 1800000000000)
    let micro ← i128 (numerator.tdiv 3600000000000)
    return { s with cost := some (microText micro) }
  else return s

/-- One turn of the loop over the stored minutes.  A local time that `chrono` cannot
represent is a panic. -/
def summaryStep (r : Rounding) (tariffs : List Tariff) (period : Period) (zone : Zone)
    (buckets : TreeMap String (EnergySummary × ℤ)) (row : ℤ × EnergyRow) :
    ExceptT String Option (TreeMap String (EnergySummary × ℤ)) :=
  if ¬timestampInRange row.1 then throw "invalid stored timestamp"
  else if ¬timestampInRange (localMs zone row.1) then ExceptT.lift none
  else
    let key := periodKey period zone row.1
    if buckets.size < maxSummaryBuckets ∨ buckets.contains key then do
      let b ← addMinute r tariffs (buckets[key]?.getD ({ period := key }, 0)) row
      return buckets.insert key b
    else throw tooManyPeriods

/-- `History::summary`, with a result if no operation overflows. The range and the
period are checked first, then the zone and the tariffs are read; an error of any of
these is the answer, whatever the minutes are. -/
def summary (r : Rounding) (zones : String → Except String Zone) (db : Database) (device : String)
    (fromMs toMs : ℤ) (period timezone : String) : ExceptT String Option (List EnergySummary) :=
  if ¬(fromMs < toMs ∧ fromMs % 60000 = 0 ∧ toMs % 60000 = 0) then
    throw "range must be increasing and aligned to minutes"
  else
    match Period.parse period with
    | none => throw "invalid period"
    | some period => do
        let zone ← zones timezone
        let tariffs ← db.tariffList
        let buckets ← (db.minuteRows device fromMs toMs).foldlM
          (summaryStep r tariffs period zone) ∅
        buckets.toList.mapM fun b => ExceptT.lift (finishSummary b.2)

/-- The rates that `set_tariff` accepts. -/
theorem rates_of_priceHistory {db : Database} (h : PriceHistory db.tariffs) :
    ∀ t ∈ db.tariffsByTime, 0 ≤ t.microcurrencyPerKwh ∧ t.microcurrencyPerKwh ≤ 1000000000000 := by
  intro t ht
  obtain ⟨k, hk⟩ := exists_find?_of_mem (mem_tariffsByTime.1 ht)
  exact (h.valid k t hk).rate

/-! ### The sums of a bucket -/

/-- The sums that the loop forms over some minutes of a bucket fit. It is asked for at
every minute of a query, since the loop adds them up one by one. -/
structure SumsFit (rate : ℤ → Option Tariff) (minutes : List (ℤ × EnergyRow)) : Prop where
  /-- `output_observed_ms` is an `i64`. -/
  outputObserved : Fits 64 (minutes.map fun m => m.2.observedMs).sum
  /-- `input_observed_ms` is one. -/
  inputObserved : Fits 64 (minutes.map fun m => m.2.inputObservedMs).sum
  /-- And `priced_observed_ms`. -/
  pricedObserved : Fits 64
    ((minutes.filter fun m => (rate m.1).isSome).map fun m => m.2.inputObservedMs).sum
  /-- The priced sum is an `i128`. -/
  cost : Fits 128 (pricedCost rate minutes)
  /-- The sum that is divided, with the half that makes the division round. -/
  numerator : Fits 128 (pricedCost rate minutes + 1800000000000)

/-- A sum of small terms. -/
theorem abs_sum_le_length_mul {l : List ℤ} {bound : ℤ} (h : ∀ x ∈ l, |x| ≤ bound) :
    |l.sum| ≤ l.length * bound := by
  induction l with
  | nil => simp
  | cons x l ih =>
      have hx := h x List.mem_cons_self
      have hl := ih fun y hy => h y (List.mem_cons_of_mem x hy)
      have hadd := abs_add_le x l.sum
      rw [List.sum_cons, List.length_cons, Nat.cast_succ, add_one_mul]
      omega

/-- Different whole numbers of an interval. -/
theorem length_le_of_nodup {l : List ℤ} (hl : l.Nodup) {a b : ℤ} (h : ∀ x ∈ l, a ≤ x ∧ x ≤ b) :
    l.length ≤ (b + 1 - a).toNat := by
  have hsubset : l.toFinset ⊆ Finset.Icc a b := fun x hx =>
    Finset.mem_Icc.2 (h x (List.mem_toFinset.1 hx))
  have hcard := Finset.card_le_card hsubset
  rwa [List.toFinset_card_of_nodup hl, Int.card_Icc] at hcard

/-- An operation of exact arithmetic on a number that is not too large. -/
theorem exact_op {x : ℚ} (h : |x| ≤ 2 ^ 200) : Rounding.exact.op x = some x :=
  (Rounding.exact.op_of_abs_le (by norm_num) h).1

/-- The kilowatt hours of one more minute, in exact arithmetic. -/
theorem addKwh_exact {total uj : ℤ} (huj : |uj| ≤ 2 ^ 63) (hsum : |total + uj| ≤ 2 ^ 120) :
    addKwh .exact (total / 3600000000000) uj = some (((total + uj : ℤ) : ℚ) / 3600000000000) := by
  have huj' : |(uj : ℚ)| ≤ 2 ^ 63 := by exact_mod_cast huj
  have hsum' : |((total + uj : ℤ) : ℚ)| ≤ 2 ^ 120 := by exact_mod_cast hsum
  have hquotient {x : ℚ} (hx : |x| ≤ 2 ^ 120) : |x / 3600000000000| ≤ 2 ^ 200 := by
    rw [abs_div, abs_of_pos (by norm_num : (0 : ℚ) < 3600000000000), div_le_iff₀ (by norm_num)]
    exact hx.trans (by norm_num)
  have htotal : (total : ℚ) / 3600000000000 + uj / 3600000000000 =
      ((total + uj : ℤ) : ℚ) / 3600000000000 := by
    push_cast
    ring
  unfold addKwh
  rw [exact_op (huj'.trans (by norm_num)), some_bind,
    exact_op (hquotient (huj'.trans (by norm_num))), some_bind, htotal, exact_op (hquotient hsum')]

/-- A sum over one more minute. -/
theorem sum_map_concat {α : Type} (l : List α) (a : α) (f : α → ℤ) :
    ((l ++ [a]).map f).sum = (l.map f).sum + f a := by
  rw [List.map_append, List.sum_append, List.map_singleton, List.sum_singleton]

/-- An integer of a column is not large. -/
theorem RowFits.abs_get_le {r : EnergyRow} (h : RowFits r) (column : EnergyColumn) :
    |column.get r| ≤ 2 ^ 63 := by
  obtain ⟨hlow, hhigh⟩ := h column
  norm_num at hlow hhigh
  exact abs_le.2 ⟨by omega, by omega⟩

/-- The kilowatt hours of a bucket with one more minute, in exact arithmetic. The energies
of all minutes together are far from the limits of binary64. -/
theorem addKwh_bucket {minutes : List (ℤ × EnergyRow)} {row : ℤ × EnergyRow}
    (hvalues : ∀ m ∈ minutes ++ [row], RowFits m.2) (hlength : minutes.length < 2 ^ 54)
    (column : EnergyColumn) {kwh : ℚ}
    (hkwh : kwh = 0 + ((minutes.map fun m => column.get m.2).sum : ℤ) / 3600000000000) :
    addKwh .exact kwh (column.get row.2) = some (kwh + column.get row.2 / 3600000000000) := by
  have hsum : |((minutes ++ [row]).map fun m => column.get m.2).sum| ≤ 2 ^ 120 := by
    have hterms : ∀ x ∈ (minutes ++ [row]).map fun m => column.get m.2, |x| ≤ 2 ^ 63 := by
      intro x hx
      obtain ⟨m, hm, rfl⟩ := List.mem_map.1 hx
      exact (hvalues m hm).abs_get_le column
    have hle := abs_sum_le_length_mul hterms
    rw [List.length_map, List.length_append, List.length_singleton] at hle
    have hcount : ((minutes.length + 1 : ℕ) : ℤ) ≤ 2 ^ 54 := by omega
    exact hle.trans ((mul_le_mul_of_nonneg_right hcount (by norm_num)).trans (by norm_num))
  have hrow := (hvalues row (List.mem_append_right _ List.mem_cons_self)).abs_get_le column
  rw [sum_map_concat] at hsum
  rw [hkwh, zero_add]
  refine (addKwh_exact hrow hsum).trans ?_
  rw [Int.cast_add, add_div]

/-- An observed time of a bucket with one more minute. -/
theorem i64_bucket {α : Type} {minutes : List α} {row : α} {f : α → ℤ}
    (hfits : Fits 64 ((minutes ++ [row]).map f).sum) {total : ℤ}
    (htotal : total = 0 + (minutes.map f).sum) : i64 (total + f row) = some (total + f row) := by
  rw [sum_map_concat] at hfits
  rw [htotal, zero_add]
  exact if_pos hfits

section Bucket

variable {tariffs : List Tariff}
  (hrates : ∀ t ∈ tariffs, 0 ≤ t.microcurrencyPerKwh ∧ t.microcurrencyPerKwh ≤ 1000000000000)
include hrates

/-- **One more minute in a bucket**, if the sums with it fit. It is the same as in
unbounded arithmetic, for sums in kWh that are exact. -/
theorem addMinute_exact {minutes : List (ℤ × EnergyRow)} {row : ℤ × EnergyRow} (key : String)
    (hvalues : ∀ m ∈ minutes ++ [row], RowFits m.2) (hlength : minutes.length < 2 ^ 54)
    (hsums : SumsFit (rateAt tariffs) (minutes ++ [row])) :
    addMinute .exact tariffs
        (minutes.foldl (Railwatch.addMinute tariffs) ({ period := key }, 0)) row =
      some (Railwatch.addMinute tariffs
        (minutes.foldl (Railwatch.addMinute tariffs) ({ period := key }, 0)) row) := by
  have hrow := (hvalues row (List.mem_append_right _ List.mem_cons_self)).abs_get_le .inputUj
  obtain ⟨-, -, houtput, hinput, houtputObserved, hinputObserved, hpriced, hcost⟩ :=
    foldl_addMinute tariffs minutes ({ period := key }, 0)
  generalize minutes.foldl (Railwatch.addMinute tariffs) ({ period := key }, 0) = b at *
  have houtputKwh : addKwh .exact b.1.outputKwh row.2.outputUj =
      some (b.1.outputKwh + row.2.outputUj / 3600000000000) :=
    addKwh_bucket hvalues hlength .outputUj houtput
  have hinputKwh : addKwh .exact b.1.estimatedInputKwh row.2.inputUj =
      some (b.1.estimatedInputKwh + row.2.inputUj / 3600000000000) :=
    addKwh_bucket hvalues hlength .inputUj hinput
  have houtputMs := i64_bucket hsums.outputObserved houtputObserved
  have hinputMs := i64_bucket hsums.inputObserved hinputObserved
  unfold addMinute Railwatch.addMinute
  rw [houtputKwh, some_bind, hinputKwh, some_bind, houtputMs, some_bind, hinputMs, some_bind]
  dsimp only
  cases hrate : rateAt tariffs row.1 with
  | none => rfl
  | some rate =>
      obtain ⟨hlow, hhigh⟩ := hrates rate (mem_of_rateAt hrate)
      -- the product of a row and a price is far inside 128 bits, the sum by assumption
      have hproduct : |row.2.inputUj * rate.microcurrencyPerKwh| < 2 ^ 127 := by
        rw [abs_mul, abs_of_nonneg hlow]
        exact (mul_le_mul hrow hhigh hlow (by norm_num)).trans_lt (by norm_num)
      have hcostFits : i128 (b.2 + row.2.inputUj * rate.microcurrencyPerKwh) =
          some (b.2 + row.2.inputUj * rate.microcurrencyPerKwh) := by
        have hfits := hsums.cost
        rw [pricedCost, sum_map_concat, hrate] at hfits
        rw [hcost, zero_add]
        exact if_pos hfits
      have hpricedMs : i64 (b.1.pricedObservedMs + row.2.inputObservedMs) =
          some (b.1.pricedObservedMs + row.2.inputObservedMs) := by
        have hfits := hsums.pricedObserved
        rw [List.filter_append, List.filter_singleton, hrate, Option.isSome_some, cond_true]
          at hfits
        exact i64_bucket hfits hpriced
      dsimp only
      rw [i128, checked_of_abs_lt hproduct, some_bind, hcostFits, some_bind, hpricedMs]
      rfl

omit hrates in
/-- **The row of a bucket**, if the sum that is divided fits. The division makes it
smaller, so that nothing after it can overflow. -/
theorem finishSummary_eq {b : EnergySummary × ℤ} (h : Fits 128 (b.2 + 1800000000000)) :
    finishSummary b = some (Railwatch.finishSummary b) := by
  have hmicro : Fits 128 ((b.2 + 1800000000000).tdiv 3600000000000) := by
    have hquotient : (b.2 + 1800000000000).tdiv 3600000000000 = 0 ∨
        ((b.2 + 1800000000000).tdiv 3600000000000).natAbs < (b.2 + 1800000000000).natAbs := by
      rcases eq_or_ne (b.2 + 1800000000000) 0 with hzero | hne
      · exact .inl (by rw [hzero, Int.zero_tdiv])
      · refine .inr ?_
        rw [Int.natAbs_tdiv]
        exact Nat.div_lt_self (Int.natAbs_pos.2 hne) (by decide)
    obtain ⟨hlow, hhigh⟩ := h
    norm_num at hlow hhigh
    constructor <;> norm_num <;> omega
  unfold finishSummary Railwatch.finishSummary
  dsimp only
  split_ifs with hpriced
  · rw [i128, checked, if_pos h, some_bind, i128, checked, if_pos hmicro]
    rfl
  · rfl

/-! ### The loop -/

/-- **The loop**, if the sums of every bucket fit at every minute. The minutes of other
buckets do not matter for a bucket, but for the number of buckets. -/
theorem foldlM_summaryStep_exact {period : Period} {zone : Zone} {minutes : List (ℤ × EnergyRow)}
    (hstored : ∀ m ∈ minutes, timestampInRange m.1 ∧ timestampInRange (localMs zone m.1))
    (hvalues : ∀ m ∈ minutes, RowFits m.2) (hlength : minutes.length ≤ 2 ^ 54)
    (hsums : ∀ seen, seen <+: minutes → ∀ key, SumsFit (rateAt tariffs)
      (seen.filter fun m => periodKey period zone m.1 = key)) :
    (minutes.foldlM (summaryStep .exact tariffs period zone) ∅).run =
      some (minutes.foldlM (Railwatch.summaryStep tariffs period zone) ∅) := by
  induction minutes using List.reverseRecOn with
  | nil => rfl
  | append_singleton minutes row ih =>
      rw [List.length_append, List.length_singleton] at hlength
      have hread := ih (fun m hm => hstored m (List.mem_append_left _ hm))
        (fun m hm => hvalues m (List.mem_append_left _ hm)) (by omega)
        fun seen hseen => hsums seen (hseen.trans (List.prefix_append _ _))
      rw [List.foldlM_append, List.foldlM_append]
      cases hloop : minutes.foldlM (Railwatch.summaryStep tariffs period zone) ∅ with
      | error e =>
          rw [hloop] at hread
          rw [run_bind_error hread]
          rfl
      | ok buckets =>
          rw [hloop] at hread
          have hholds := Buckets.foldlM_put maxSummaryBuckets tooManyPeriods
            (fun m : ℤ × EnergyRow => periodKey period zone m.1)
            (fun key => (({ period := key } : EnergySummary), (0 : ℤ)))
            (Railwatch.addMinute tariffs) minutes
          rw [← Railwatch.foldlM_summaryStep fun m hm => hstored m (List.mem_append_left _ hm),
            hloop] at hholds
          split_ifs at hholds
          obtain ⟨buckets', hbuckets, hholds⟩ := hholds
          obtain rfl := Except.ok.inj hbuckets
          obtain ⟨hrange, hlocal⟩ := hstored row (List.mem_append_right _ List.mem_cons_self)
          have hstep : (summaryStep .exact tariffs period zone buckets row).run =
              some (Railwatch.summaryStep tariffs period zone buckets row) := by
            unfold summaryStep Railwatch.summaryStep Buckets.put
            rw [if_neg (not_not.2 hrange), if_neg (not_not.2 hlocal), if_neg (not_not.2 hrange),
              if_neg (not_not.2 hlocal)]
            dsimp only
            split_ifs with hroom
            · have hbucket := hholds.getD _ _ _ (periodKey period zone row.1)
              have hlast := hsums (minutes ++ [row]) List.prefix_rfl (periodKey period zone row.1)
              rw [List.filter_append, List.filter_singleton, decide_eq_true rfl, cond_true] at hlast
              have hrows : ∀ m ∈ (minutes.filter fun m => periodKey period zone m.1 =
                  periodKey period zone row.1) ++ [row], RowFits m.2 := fun m hm => by
                rw [List.mem_append] at hm
                exact hvalues m (List.mem_append.2 (hm.imp_left List.mem_of_mem_filter))
              have hadd := addMinute_exact hrates (periodKey period zone row.1) hrows
                ((List.length_filter_le _ _).trans_lt (by omega)) hlast
              rw [hbucket, hadd]
              rfl
            · rfl
          rw [run_bind_ok hread]
          change (summaryStep .exact tariffs period zone buckets row >>= pure).run =
            some (Railwatch.summaryStep tariffs period zone buckets row >>= pure)
          rw [bind_pure, bind_pure, hstep]

end Bucket

/-! ### The query -/

/-- The minutes of a query are not more than there are times. -/
theorem length_minuteRows_le_pow {db : Database} {device : String} {fromMs toMs : ℤ}
    (hstored : ∀ m ∈ db.minuteRows device fromMs toMs, timestampInRange m.1) :
    (db.minuteRows device fromMs toMs).length ≤ 2 ^ 54 := by
  have hbounds : ∀ x ∈ (db.minuteRows device fromMs toMs).map Prod.fst,
      -8334601228800000 ≤ x ∧ x ≤ 8210266876799999 := by
    intro x hx
    obtain ⟨m, hm, rfl⟩ := List.mem_map.1 hx
    simpa [timestampInRange] using hstored m hm
  have hlength := length_le_of_nodup (minuteRows_nodup db device fromMs toMs) hbounds
  rw [List.length_map] at hlength
  exact hlength.trans (by decide)

/-- **The query**, if the sums of every bucket fit at every minute. Its errors are those
of the query in unbounded arithmetic. -/
theorem summary_exact {db : Database} {zones : String → Except String Zone} {device : String}
    {fromMs toMs : ℤ} {name timezone : String} {period : Period} {zone : Zone}
    (hhistory : PriceHistory db.tariffs)
    (hrange : fromMs < toMs ∧ fromMs % 60000 = 0 ∧ toMs % 60000 = 0)
    (hperiod : Period.parse name = some period) (hzone : zones timezone = .ok zone)
    (hstored : ∀ m ∈ db.minuteRows device fromMs toMs,
      timestampInRange m.1 ∧ timestampInRange (localMs zone m.1))
    (hvalues : ∀ m ∈ db.minuteRows device fromMs toMs, RowFits m.2)
    (hsums : ∀ seen, seen <+: db.minuteRows device fromMs toMs → ∀ key,
      SumsFit (currentTariff db.tariffs) (seen.filter fun m => periodKey period zone m.1 = key)) :
    (summary .exact zones db device fromMs toMs name timezone).run =
      some (db.summary zones device fromMs toMs name timezone) := by
  have htariffs := tariffList_eq hhistory.toTariffTable
  rw [← funext (rateAt_eq_currentTariff hhistory.toTariffTable)] at hsums
  have hread := foldlM_summaryStep_exact (rates_of_priceHistory hhistory) hstored hvalues
    (length_minuteRows_le_pow fun m hm => (hstored m hm).1) hsums
  have hbuckets := Buckets.foldlM_put maxSummaryBuckets tooManyPeriods
    (fun m : ℤ × EnergyRow => periodKey period zone m.1)
    (fun key => (({ period := key } : EnergySummary), (0 : ℤ)))
    (Railwatch.addMinute db.tariffsByTime) (db.minuteRows device fromMs toMs)
  rw [← Railwatch.foldlM_summaryStep hstored] at hbuckets
  rw [Database.summary_eq_loop hrange hperiod hzone htariffs]
  unfold summary
  rw [if_neg (not_not.2 hrange), hperiod]
  dsimp only
  rw [hzone, htariffs]
  cases hloop : (db.minuteRows device fromMs toMs).foldlM
      (Railwatch.summaryStep db.tariffsByTime period zone) ∅ with
  | error e =>
      rw [hloop] at hread
      exact run_bind_error hread _
  | ok buckets =>
      rw [hloop] at hread hbuckets
      split_ifs at hbuckets
      obtain ⟨buckets', heq, hholds⟩ := hbuckets
      obtain rfl := Except.ok.inj heq
      refine (run_bind_ok hread _).trans (mapM_lift fun kb hkb => finishSummary_eq ?_)
      obtain ⟨-, -, hfilled⟩ := row_of_bucket hholds hkb
      obtain ⟨-, -, -, -, -, -, -, hcost⟩ := foldl_addMinute db.tariffsByTime
        ((db.minuteRows device fromMs toMs).filter fun m => periodKey period zone m.1 = kb.1)
        ({ period := kb.1 }, 0)
      rw [hfilled, hcost, zero_add]
      exact (hsums _ List.prefix_rfl kb.1).numerator

/-- **The summary equals its reference accounting.**  For any energy table, any
tariff table that `set_tariff` built and any time zone, over a range of whole
minutes whose stored minutes `chrono` can represent, as long as the sums of every
period fit in the integers that the loop adds them up in: if the minutes fall in at
most 10,000 different periods, there is one row for each period that holds a
stored minute, and it is the reference row of exactly these minutes; otherwise
the query is refused.  Two minutes share a row iff they fall in the same local
period.  The tariff of a minute is the one with the greatest effective time not
after it. -/
theorem summary_equals_reference (zones : String → Except String Zone) (energy : EnergyTable)
    (requests : List (Tariff × Bool)) (device : String) (fromMs toMs : ℤ) (name timezone : String)
    (period : Period) (zone : Zone)
    (hrange : fromMs < toMs ∧ fromMs % 60000 = 0 ∧ toMs % 60000 = 0)
    (hperiod : Period.parse name = some period) (hzone : zones timezone = .ok zone)
    (hstored : ∀ minute r, energy.find? (device, minute) = some r → fromMs ≤ minute →
      minute < toMs → timestampInRange minute ∧ timestampInRange (localMs zone minute))
    (hvalues : ∀ key r, energy.find? key = some r → RowFits r)
    (hsums : ∀ seen,
      seen <+: (Database.setTariffs { energy := energy } requests).minuteRows device fromMs toMs →
      ∀ key, SumsFit (currentTariff (Database.setTariffs { energy := energy } requests).tariffs)
        (seen.filter fun m => periodKey period zone m.1 = key)) :
    let db := Database.setTariffs { energy := energy } requests
    let tariffs := db.tariffs.rows.map Prod.snd
    let rate := currentTariff db.tariffs
    let minutes := db.minuteRows device fromMs toMs
    let key := fun m : ℤ × EnergyRow => periodKey period zone m.1
    (∀ minute r, (minute, r) ∈ minutes ↔
      energy.find? (device, minute) = some r ∧ fromMs ≤ minute ∧ minute < toMs) ∧
    (minutes.map Prod.fst).Nodup ∧
    (∀ m m', key m = key m' ↔ samePeriod period zone m.1 m'.1) ∧
    (∀ minute, match rate minute with
      | some t => IsCurrent tariffs minute t
      | none => ∀ t ∈ tariffs, minute < t.effectiveAtMs) ∧
    if Buckets.keyCount key minutes ≤ 10000 then
      ∃ rows, (summary .exact zones db device fromMs toMs name timezone).run = some (.ok rows) ∧
        (rows.map EnergySummary.period).Nodup ∧
        (∀ m ∈ minutes, ∃ row ∈ rows, row.period = key m) ∧
        (∀ row ∈ rows, ∃ m ∈ minutes, row.period = key m) ∧
        ∀ row ∈ rows, ReferenceRow rate (minutes.filter fun m => key m = row.period) row
    else (summary .exact zones db device fromMs toMs name timezone).run =
      some (.error tooManyPeriods) := by
  intro db tariffs rate minutes key
  have hhistory : PriceHistory db.tariffs := priceHistory_empty.setTariffs requests
  have htable := hhistory.toTariffTable
  have henergy : db.energy = energy := (tariffTable_empty.setTariffs requests).2
  have hmem : ∀ minute r, (minute, r) ∈ minutes ↔
      energy.find? (device, minute) = some r ∧ fromMs ≤ minute ∧ minute < toMs := fun minute r => by
    rw [← henergy]
    exact mem_minuteRows db device fromMs toMs
  have hstored' : ∀ m ∈ minutes, timestampInRange m.1 ∧ timestampInRange (localMs zone m.1) :=
    fun m hm => by
      obtain ⟨hfind, hle, hlt⟩ := (hmem m.1 m.2).1 hm
      exact hstored m.1 m.2 hfind hle hlt
  have hvalues' : ∀ m ∈ minutes, RowFits m.2 := fun m hm =>
    hvalues _ m.2 ((hmem m.1 m.2).1 hm).1
  rw [summary_exact hhistory hrange hperiod hzone hstored' hvalues' hsums]
  refine ⟨hmem, minuteRows_nodup db device fromMs toMs, fun m m' => periodKey_eq_iff .., ?_, ?_⟩
  · intro minute
    have hspec := rateAt_spec (tariffsByTime_pairwise db) minute
    rw [show rate minute = _ from (rateAt_eq_currentTariff htable minute).symm]
    cases hr : rateAt db.tariffsByTime minute with
    | none =>
        rw [hr] at hspec
        exact fun t ht => hspec t (mem_tariffsByTime.2 ht)
    | some t =>
        rw [hr] at hspec
        exact ⟨mem_tariffsByTime.1 hspec.1, hspec.2.1, fun t' ht' =>
          hspec.2.2 t' (mem_tariffsByTime.2 ht')⟩
  · have hquery := db.summary_eq htable hrange hperiod hzone hstored'
    dsimp only at hquery
    split_ifs at hquery ⊢ with hcount
    · obtain ⟨rows, hrows, hrest⟩ := hquery
      exact ⟨rows, congrArg some hrows, hrest⟩
    · exact congrArg some hquery

/-- A minute that stores a kilowatt hour, at a quarter of a unit for each. -/
def pricedMinute : EnergyTable :=
  (∅ : EnergyTable).upsert ("psu", 0) ⟨3600000000000, 3600000000000, 60000, 60000⟩ id

/-- The summary of a single priced minute, whose energies and times fit: one row,
without an overflow and without a bucket too many. -/
theorem summary_of_one_minute :
    ∃ rows, (summary .exact (fun _ => .ok fun _ => 0)
        (Database.setTariffs { energy := pricedMinute } [(⟨0, 250000, "BRL"⟩, false)])
        "psu" 0 60000 "hour" "UTC").run = some (.ok rows) ∧
      (rows.map EnergySummary.period).Nodup := by
  have hminutes : (Database.setTariffs { energy := pricedMinute }
      [(⟨0, 250000, "BRL"⟩, false)]).minuteRows "psu" 0 60000 =
        [(0, ⟨3600000000000, 3600000000000, 60000, 60000⟩)] := by decide +kernel
  have hrow : RowFits ⟨3600000000000, 3600000000000, 60000, 60000⟩ := fun column => by
    cases column <;> decide
  have h := (summary_equals_reference (fun _ => .ok fun _ => 0) pricedMinute
    [(⟨0, 250000, "BRL"⟩, false)] "psu" 0 60000 "hour" "UTC" .hour (fun _ => 0) (by decide) rfl rfl
    (fun minute r _ hle hlt => by
      unfold localMs timestampInRange
      simp only [Bool.and_eq_true, decide_eq_true_eq]
      omega)
    (fun key r hfind => by
      unfold pricedMinute at hfind
      rw [Table.find?_upsert] at hfind
      split_ifs at hfind
      · obtain rfl := Option.some.inj hfind
        exact hrow
      · cases hfind)
    (fun seen hseen key => by
      rw [hminutes] at hseen
      rcases List.prefix_cons_iff.1 hseen with rfl | ⟨rest, rfl, hrest⟩
      · rw [List.filter_nil]
        constructor <;> decide +kernel
      · obtain rfl := List.prefix_nil.1 hrest
        rw [List.filter_singleton]
        cases decide (periodKey Period.hour (fun _ => 0) (0 : ℤ) = key) <;>
          constructor <;> decide +kernel)).2.2.2.2
  rw [if_pos (by decide +kernel)] at h
  obtain ⟨rows, hrows, hnodup, -⟩ := h
  exact ⟨rows, hrows, hnodup⟩

/-- Two minutes whose observed times are the largest `i64` and one. -/
def longMinutes : EnergyTable :=
  ((∅ : EnergyTable).upsert ("psu", 0) ⟨0, 0, 2 ^ 63 - 1, 0⟩ id).upsert ("psu", 60000)
    ⟨0, 0, 1, 0⟩ id

/-- **A negative cost is not rendered, and a sum may overflow.**  One priced minute whose
stored input costs exactly minus one millionth is written as zero; and the observed
times of two minutes of a day may have no sum. -/
theorem summary_misses_reference :
    (¬∀ (energy : EnergyTable) (requests : List (Tariff × Bool)) (rows : List EnergySummary),
      (summary .exact (fun _ => .ok fun _ => 0) (Database.setTariffs { energy := energy } requests)
        "psu" 0 60000 "hour" "UTC").run = some (.ok rows) →
      ∀ row ∈ rows, 0 < row.pricedObservedMs → ∀ micro : ℤ,
        pricedCost (currentTariff (Database.setTariffs { energy := energy } requests).tariffs)
          ((Database.setTariffs { energy := energy } requests).minuteRows "psu" 0 60000) =
            micro * 3600000000000 →
        row.cost = some ((if micro < 0 then "-" else "") ++ sixDecimals micro.natAbs)) ∧
    (summary .exact (fun _ => .ok fun _ => 0) { energy := longMinutes } "psu" 0 120000 "day"
      "UTC").run = none := by
  refine ⟨fun h => ?_, by decide +kernel⟩
  have hcost := h ((∅ : EnergyTable).upsert ("psu", 0) ⟨0, -3600000000000, 60000, 60000⟩ id)
    [(⟨0, 1, "BRL"⟩, false)]
    [{ period := "1970-01-01T00:00+00:00"
       estimatedInputKwh := -1
       outputObservedMs := 60000
       inputObservedMs := 60000
       pricedObservedMs := 60000
       cost := some "0.000000"
       currency := some "BRL" }] (by decide +kernel) _ (List.mem_singleton_self _) (by decide) (-1)
    (by decide +kernel)
  revert hcost
  decide +kernel

end Checked
end Railwatch
