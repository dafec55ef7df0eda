/-
# The summary against its reference

What a summary should say, without a loop: the minutes of a period, their sums,
and the rounded cost of the priced ones (`ReferenceRow`).

`foldl_addMinute` turns the loop's accumulation into sums, `Buckets.foldlM_put`
its grouping into filters, and `microText_eq` its last division into rounding.
The division rounds towards zero, so this last step needs a cost that is not
negative.  The sums are sums of integers here; `Checked.summary` forms them on the
machine.

A `ReferenceRow` is a relation and does not compute: it is what a reader would check a
row of the report against, with the table in hand.
-/

import Railwatch.History.Periods
import Railwatch.History.Tariffs

namespace Railwatch

open Std (TreeMap)
open Sql Calendar

/-- A number of millionths with six decimals. -/
def sixDecimals (micro : ℕ) : String :=
  toString (micro / 1000000) ++ "." ++ zeroPad 6 (micro % 1000000)

/-- The cost of the priced minutes, in microjoules times microcurrency. -/
def pricedCost (rate : ℤ → Option Tariff) (minutes : List (ℤ × EnergyRow)) : ℤ :=
  (minutes.map fun m => (rate m.1).elim 0 fun t => m.2.inputUj * t.microcurrencyPerKwh).sum

/-- The row is what the reference accounting makes of these minutes. Every field is said
to be a sum, or a fact about sums, with no order among the minutes. -/
structure ReferenceRow (rate : ℤ → Option Tariff) (minutes : List (ℤ × EnergyRow))
    (row : EnergySummary) : Prop where
  /-- The sum of the energies, in kilowatt hours. -/
  outputKwh : row.outputKwh = ((minutes.map fun m => m.2.outputUj).sum : ℤ) / 3600000000000
  /-- That of the estimates. -/
  estimatedInputKwh :
    row.estimatedInputKwh = ((minutes.map fun m => m.2.inputUj).sum : ℤ) / 3600000000000
  /-- The observed times add up. -/
  outputObservedMs : row.outputObservedMs = (minutes.map fun m => m.2.observedMs).sum
  /-- So do those with an estimate. -/
  inputObservedMs : row.inputObservedMs = (minutes.map fun m => m.2.inputObservedMs).sum
  /-- And those with a tariff. -/
  pricedObservedMs : row.pricedObservedMs =
    ((minutes.filter fun m => (rate m.1).isSome).map fun m => m.2.inputObservedMs).sum
  /-- The mark says that some of the time has no price. -/
  incompletePricing :
    row.incompletePricing = true ↔ row.pricedObservedMs < row.outputObservedMs
  /-- There is no cost if no time has one. -/
  cost_none : row.cost = none ↔ row.pricedObservedMs ≤ 0
  /-- The cost is rounded once, at its end. -/
  cost : 0 < row.pricedObservedMs → 0 ≤ pricedCost rate minutes →
    row.cost = some (sixDecimals ⌊(pricedCost rate minutes : ℚ) / 3600000000000 + 1 / 2⌋₊)

/-! ### One bucket -/

/-- The accumulation over a list of minutes, in sums: each column of the bucket is what
it was in the beginning, with the sum of the minutes' columns added. The time with a
price and the cost take the minutes that have one. -/
theorem foldl_addMinute (tariffs : List Tariff) (minutes : List (ℤ × EnergyRow))
    (b : EnergySummary × ℤ) :
    let r := minutes.foldl (addMinute tariffs) b
    r.1.period = b.1.period ∧ r.1.cost = b.1.cost ∧
      r.1.outputKwh =
        b.1.outputKwh + ((minutes.map fun m => m.2.outputUj).sum : ℤ) / 3600000000000 ∧
      r.1.estimatedInputKwh =
        b.1.estimatedInputKwh + ((minutes.map fun m => m.2.inputUj).sum : ℤ) / 3600000000000 ∧
      r.1.outputObservedMs = b.1.outputObservedMs + (minutes.map fun m => m.2.observedMs).sum ∧
      r.1.inputObservedMs =
        b.1.inputObservedMs + (minutes.map fun m => m.2.inputObservedMs).sum ∧
      r.1.pricedObservedMs = b.1.pricedObservedMs +
        ((minutes.filter fun m => (rateAt tariffs m.1).isSome).map
          fun m => m.2.inputObservedMs).sum ∧
      r.2 = b.2 + pricedCost (rateAt tariffs) minutes := by
  induction minutes generalizing b with
  | nil => simp [pricedCost]
  | cons m minutes ih =>
      obtain ⟨h₁, h₂, h₃, h₄, h₅, h₆, h₇, h₈⟩ := ih (addMinute tariffs b m)
      dsimp only
      rw [List.foldl_cons, h₁, h₂, h₃, h₄, h₅, h₆, h₇, h₈]
      unfold addMinute pricedCost
      cases hr : rateAt tariffs m.1 <;>
        simp only [List.map_cons, List.sum_cons, List.filter_cons, hr, Option.isSome_none,
          Option.isSome_some, if_true, if_neg Bool.false_ne_true, Option.elim_none,
          Option.elim_some, true_and, Int.cast_add] <;>
        and_intros <;> ring

/-- A number has the same text whether it is a natural one or an integer. -/
theorem toString_natCast (n : ℕ) : toString (n : ℤ) = toString n := by
  rw [Int.toString_eq_repr, Int.repr_eq_if, if_pos (Int.natCast_nonneg n), Int.toNat_natCast]
  rfl

/-- Money that is not negative, as it is written. -/
theorem microText_natCast (micro : ℕ) : microText micro = sixDecimals micro := by
  have hdiv : (micro : ℤ).tdiv 1000000 = ((micro / 1000000 : ℕ) : ℤ) := by
    rw [Int.tdiv_eq_ediv_of_nonneg (Int.natCast_nonneg _)]
    norm_cast
  have hmod : (micro : ℤ).tmod 1000000 = ((micro % 1000000 : ℕ) : ℤ) := by
    rw [Int.tmod_eq_emod_of_nonneg (Int.natCast_nonneg _)]
    norm_cast
  rw [microText, hdiv, hmod, toString_natCast, zeroPadSigned,
    if_neg (not_lt.2 (Int.natCast_nonneg _)), Int.natAbs_natCast, sixDecimals]

/-- **The last division rounds a cost that is not negative.** Half of the divisor is
added before, and cutting off is rounding down there. -/
theorem microText_eq {n : ℤ} (h : 0 ≤ n) : microText ((n + 1800000000000).tdiv 3600000000000) =
    sixDecimals ⌊(n : ℚ) / 3600000000000 + 1 / 2⌋₊ := by
  have hfloor : ⌊(n : ℚ) / 3600000000000 + 1 / 2⌋ = (n + 1800000000000) / 3600000000000 := by
    have heq : (n : ℚ) / 3600000000000 + 1 / 2 =
        ((n + 1800000000000 : ℤ) : ℚ) / ((3600000000000 : ℕ) : ℚ) := by
      push_cast
      ring
    rw [heq, Rat.floor_intCast_div_natCast]
    norm_cast
  have hnat : ((⌊(n : ℚ) / 3600000000000 + 1 / 2⌋₊ : ℕ) : ℤ) =
      (n + 1800000000000).tdiv 3600000000000 := by
    rw [Int.tdiv_eq_ediv_of_nonneg (by omega), ← hfloor]
    exact Int.natCast_floor_eq_floor (by positivity)
  rw [← hnat, microText_natCast]

/-- What is left of a bucket at the end is the reference row of its minutes. The cost is
rounded half up there, once, and is missing if no time has a price. -/
theorem referenceRow_of_bucket (tariffs : List Tariff) (minutes : List (ℤ × EnergyRow))
    (key : String) : ReferenceRow (rateAt tariffs) minutes
      (finishSummary (minutes.foldl (addMinute tariffs) ({ period := key }, 0))) ∧
    (finishSummary (minutes.foldl (addMinute tariffs) ({ period := key }, 0))).period = key := by
  obtain ⟨h₁, h₂, h₃, h₄, h₅, h₆, h₇, h₈⟩ :=
    foldl_addMinute tariffs minutes ({ period := key }, 0)
  refine ⟨⟨?_, ?_, ?_, ?_, ?_, ?_, ?_, fun hpriced hcost => ?_⟩, h₁⟩
  · exact h₃.trans (zero_add _)
  · exact h₄.trans (zero_add _)
  · exact h₅.trans (zero_add _)
  · exact h₆.trans (zero_add _)
  · exact h₇.trans (zero_add _)
  · simp [finishSummary]
  · simp only [finishSummary, h₂]
    split_ifs with h <;> simp <;> omega
  · have hcost' : (finishSummary (minutes.foldl (addMinute tariffs) ({ period := key }, 0))).cost =
        some (microText (((minutes.foldl (addMinute tariffs) ({ period := key }, 0)).2 +
          1800000000000).tdiv 3600000000000)) := if_pos hpriced
    rw [hcost', h₈, zero_add, microText_eq hcost]

/-! ### The stored minutes -/

section Minutes

variable (db : Database) (device : String) (fromMs toMs : ℤ)

/-- The rows that a query goes through are those of the device and the range. -/
theorem mem_minuteRows {minute : ℤ} {r : EnergyRow} :
    (minute, r) ∈ db.minuteRows device fromMs toMs ↔
      db.energy.find? (device, minute) = some r ∧ fromMs ≤ minute ∧ minute < toMs := by
  rw [Database.minuteRows, (List.perm_insertionSort _ _).mem_iff, Table.find?_eq_some_iff]
  simp only [List.mem_map, List.mem_filter, decide_eq_true_eq, Prod.mk.injEq]
  constructor
  · rintro ⟨⟨⟨d, m⟩, r'⟩, ⟨hmem, rfl, hle, hlt⟩, rfl, rfl⟩
    exact ⟨hmem, hle, hlt⟩
  · rintro ⟨hmem, hle, hlt⟩
    exact ⟨((device, minute), r), ⟨hmem, rfl, hle, hlt⟩, rfl, rfl⟩

/-- It goes through each minute once. -/
theorem minuteRows_nodup : ((db.minuteRows device fromMs toMs).map Prod.fst).Nodup := by
  rw [Database.minuteRows, ((List.perm_insertionSort _ _).map _).nodup_iff, List.map_map]
  have hkeys : ((db.energy.rows.filter fun kr =>
      kr.1.1 = device ∧ fromMs ≤ kr.1.2 ∧ kr.1.2 < toMs).map Prod.fst).Nodup :=
    db.energy.primary.sublist (List.filter_sublist.map _)
  rw [List.Nodup, List.pairwise_map] at hkeys ⊢
  refine hkeys.imp_of_mem fun {a b} ha hb hne heq => hne (Prod.ext ?_ heq)
  have ha := (of_decide_eq_true (List.mem_filter.1 ha).2).1
  have hb := (of_decide_eq_true (List.mem_filter.1 hb).2).1
  exact ha.trans hb.symm

end Minutes

/-! ### The rows -/

/-- The rows of a summary: one for each key of the minutes, filled from the
minutes with that key, in order. -/
structure SummaryRows (tariffs : List Tariff) (minutes : List (ℤ × EnergyRow))
    (key : ℤ × EnergyRow → String) (rows : List EnergySummary) : Prop where
  /-- No period has two rows. -/
  distinct : (rows.map EnergySummary.period).Nodup
  /-- Each minute has a row. -/
  complete : ∀ m ∈ minutes, ∃ row ∈ rows, row.period = key m
  /-- Each row has a minute. -/
  inhabited : ∀ row ∈ rows, ∃ m ∈ minutes, row.period = key m
  /-- And it has what the loop makes of its minutes. -/
  filled : ∀ row ∈ rows, row = finishSummary ((minutes.filter fun m => key m = row.period).foldl
    (addMinute tariffs) ({ period := row.period }, 0))

section Rows

variable {tariffs : List Tariff} {minutes : List (ℤ × EnergyRow)} {key : ℤ × EnergyRow → String}
  {buckets : TreeMap String (EnergySummary × ℤ)}
  (h : Buckets.Holds key (fun key => (({ period := key } : EnergySummary), (0 : ℤ)))
    (addMinute tariffs) minutes buckets)

include h

/-- A row is a bucket that is there, under its key. -/
theorem row_of_bucket {kb : String × EnergySummary × ℤ} (hkb : kb ∈ buckets.toList) :
    (finishSummary kb.2).period = kb.1 ∧ kb.1 ∈ minutes.map key ∧
      kb.2 = (minutes.filter fun m => key m = kb.1).foldl (addMinute tariffs)
        ({ period := kb.1 }, 0) := by
  obtain ⟨k, b⟩ := kb
  have hget := Std.TreeMap.mem_toList_iff_getElem?_eq_some.1 hkb
  rw [h.get, Buckets.bucket] at hget
  split_ifs at hget with hk
  obtain rfl := Option.some.inj hget
  exact ⟨(referenceRow_of_bucket tariffs _ k).2, hk, rfl⟩

/-- The rows are listed by their keys. -/
theorem periods_of_buckets :
    (buckets.toList.map fun b => finishSummary b.2).map EnergySummary.period =
      buckets.toList.map Prod.fst := by
  rw [List.map_map]
  exact List.map_congr_left fun kb hkb => (row_of_bucket h hkb).1

/-- The buckets of the minutes are the rows: one for each key that a minute has, with
all the minutes of that key. -/
theorem summaryRows_of_holds :
    SummaryRows tariffs minutes key (buckets.toList.map fun b => finishSummary b.2) := by
  constructor
  · rw [periods_of_buckets h]
    exact List.pairwise_map.2 (Std.TreeMap.distinct_keys_toList.imp fun h heq =>
      h (by rw [heq]; exact Std.ReflCmp.compare_self))
  · intro m hm
    have hsome : buckets[key m]?.isSome := by
      rw [h.get, Buckets.bucket_isSome, decide_eq_true_iff]
      exact List.mem_map_of_mem hm
    obtain ⟨b, hb⟩ := Option.isSome_iff_exists.1 hsome
    have hkb := Std.TreeMap.mem_toList_iff_getElem?_eq_some.2 hb
    exact ⟨_, List.mem_map_of_mem hkb, (row_of_bucket h hkb).1⟩
  · intro row hmem
    obtain ⟨kb, hkb, rfl⟩ := List.mem_map.1 hmem
    obtain ⟨hperiod, hmem, -⟩ := row_of_bucket h hkb
    obtain ⟨m, hm, heq⟩ := List.mem_map.1 hmem
    exact ⟨m, hm, hperiod.trans heq.symm⟩
  · intro row hmem
    obtain ⟨kb, hkb, rfl⟩ := List.mem_map.1 hmem
    obtain ⟨hperiod, -, hfilled⟩ := row_of_bucket h hkb
    rw [hperiod, ← hfilled]

end Rows

section Query

variable {db : Database} {zones : String → Except String Zone} {device : String} {fromMs toMs : ℤ}
  {name timezone : String}

/-- The query behind the checks: the loop over the stored minutes. -/
theorem Database.summary_eq_loop {period : Period} {zone : Zone} {tariffs : List Tariff}
    (hrange : fromMs < toMs ∧ fromMs % 60000 = 0 ∧ toMs % 60000 = 0)
    (hperiod : Period.parse name = some period) (hzone : zones timezone = .ok zone)
    (htariffs : db.tariffList = .ok tariffs) :
    db.summary zones device fromMs toMs name timezone =
      ((db.minuteRows device fromMs toMs).foldlM (summaryStep tariffs period zone) ∅).map
        fun buckets => buckets.toList.map fun b => finishSummary b.2 := by
  rw [Database.summary, if_neg (not_not.2 hrange), hperiod]
  dsimp only
  rw [hzone, htariffs]
  rfl

/-- Where every minute passes the range checks, the loop only fills buckets. -/
theorem foldlM_summaryStep {tariffs : List Tariff} {period : Period} {zone : Zone}
    {minutes : List (ℤ × EnergyRow)}
    (hstored : ∀ m ∈ minutes, timestampInRange m.1 ∧ timestampInRange (localMs zone m.1)) :
    minutes.foldlM (summaryStep tariffs period zone) ∅ =
      minutes.foldlM (Buckets.put maxSummaryBuckets tooManyPeriods
        (fun m => periodKey period zone m.1) (fun key => ({ period := key }, 0))
        (addMinute tariffs)) ∅ := by
  refine Loops.foldlM_congr (fun m hm s => ?_) ∅
  obtain ⟨h₁, h₂⟩ := hstored m hm
  rw [summaryStep, if_neg (not_not.2 h₁), if_neg (not_not.2 h₂)]

/-- A summary that returns rows has passed its checks and filled its buckets. From the
checks come the period, the zone and the tariffs, and that all the minutes can be dated;
the rows are the finished buckets. -/
theorem Database.summary_buckets {rows : List EnergySummary}
    (h : db.summary zones device fromMs toMs name timezone = .ok rows) :
    ∃ period zone tariffs buckets, Period.parse name = some period ∧ zones timezone = .ok zone ∧
      db.tariffList = .ok tariffs ∧ (fromMs < toMs ∧ fromMs % 60000 = 0 ∧ toMs % 60000 = 0) ∧
      (∀ m ∈ db.minuteRows device fromMs toMs,
        timestampInRange m.1 ∧ timestampInRange (localMs zone m.1)) ∧
      Buckets.Holds (fun m : ℤ × EnergyRow => periodKey period zone m.1)
        (fun key => (({ period := key } : EnergySummary), (0 : ℤ))) (addMinute tariffs)
        (db.minuteRows device fromMs toMs) buckets ∧
      rows = buckets.toList.map fun b => finishSummary b.2 := by
  have hrange : fromMs < toMs ∧ fromMs % 60000 = 0 ∧ toMs % 60000 = 0 := by
    by_contra hno
    rw [Database.summary, if_pos hno] at h
    cases h
  obtain ⟨period, hperiod⟩ : ∃ period, Period.parse name = some period := by
    rw [← Option.ne_none_iff_exists']
    intro hno
    rw [Database.summary, if_neg (not_not.2 hrange), hno] at h
    cases h
  obtain ⟨zone, hzone⟩ : ∃ zone, zones timezone = .ok zone := by
    cases hzone : zones timezone with
    | ok zone => exact ⟨zone, rfl⟩
    | error e =>
        rw [Database.summary, if_neg (not_not.2 hrange), hperiod] at h
        dsimp only at h
        rw [hzone] at h
        cases h
  obtain ⟨tariffs, htariffs⟩ : ∃ tariffs, db.tariffList = .ok tariffs := by
    cases htariffs : db.tariffList with
    | ok tariffs => exact ⟨tariffs, rfl⟩
    | error e =>
        rw [Database.summary, if_neg (not_not.2 hrange), hperiod] at h
        dsimp only at h
        rw [hzone, htariffs] at h
        cases h
  rw [Database.summary_eq_loop hrange hperiod hzone htariffs] at h
  cases hloop : (db.minuteRows device fromMs toMs).foldlM (summaryStep tariffs period zone) ∅ with
  | error e =>
      rw [hloop] at h
      cases h
  | ok buckets =>
      rw [hloop] at h
      obtain rfl := Except.ok.inj h
      -- the loop came to its end, so no minute was out of range
      have hstored : ∀ m ∈ db.minuteRows device fromMs toMs,
          timestampInRange m.1 ∧ timestampInRange (localMs zone m.1) := by
        intro m hm
        obtain ⟨s₁, s₂, hstep⟩ := Loops.exists_of_foldlM_ok hloop hm
        unfold summaryStep at hstep
        split_ifs at hstep with h₁ h₂
        exact ⟨h₁, h₂⟩
      have hread := Buckets.foldlM_put maxSummaryBuckets tooManyPeriods
        (fun m : ℤ × EnergyRow => periodKey period zone m.1)
        (fun key => (({ period := key } : EnergySummary), (0 : ℤ))) (addMinute tariffs)
        (db.minuteRows device fromMs toMs)
      rw [← foldlM_summaryStep hstored, hloop] at hread
      split_ifs at hread
      obtain ⟨buckets', hbuckets, hholds⟩ := hread
      obtain rfl := Except.ok.inj hbuckets
      exact ⟨period, zone, tariffs, buckets, hperiod, hzone, htariffs, hrange, hstored, hholds, rfl⟩

/-- **A summary that returns rows** has passed its checks, and its rows are
those of the stored minutes. -/
theorem Database.summary_rows {rows : List EnergySummary}
    (h : db.summary zones device fromMs toMs name timezone = .ok rows) :
    ∃ period zone tariffs, Period.parse name = some period ∧ zones timezone = .ok zone ∧
      db.tariffList = .ok tariffs ∧ (fromMs < toMs ∧ fromMs % 60000 = 0 ∧ toMs % 60000 = 0) ∧
      (∀ m ∈ db.minuteRows device fromMs toMs,
        timestampInRange m.1 ∧ timestampInRange (localMs zone m.1)) ∧
      SummaryRows tariffs (db.minuteRows device fromMs toMs)
        (fun m => periodKey period zone m.1) rows := by
  obtain ⟨period, zone, tariffs, buckets, hperiod, hzone, htariffs, hrange, hstored, hholds, rfl⟩ :=
    Database.summary_buckets h
  exact ⟨period, zone, tariffs, hperiod, hzone, htariffs, hrange, hstored,
    summaryRows_of_holds hholds⟩

/-- The rows of a summary, over the buckets of its minutes, if they have no more than
10000 keys; else it is refused. Apart from the number of keys nothing can go wrong when
the minutes can be dated. -/
theorem Database.summary_eq (htable : TariffTable db.tariffs) {period : Period} {zone : Zone}
    (hrange : fromMs < toMs ∧ fromMs % 60000 = 0 ∧ toMs % 60000 = 0)
    (hperiod : Period.parse name = some period) (hzone : zones timezone = .ok zone)
    (hstored : ∀ m ∈ db.minuteRows device fromMs toMs,
      timestampInRange m.1 ∧ timestampInRange (localMs zone m.1)) :
    let minutes := db.minuteRows device fromMs toMs
    let key := fun m : ℤ × EnergyRow => periodKey period zone m.1
    if Buckets.keyCount key minutes ≤ 10000 then
      ∃ rows, db.summary zones device fromMs toMs name timezone = .ok rows ∧
        (rows.map EnergySummary.period).Nodup ∧
        (∀ m ∈ minutes, ∃ row ∈ rows, row.period = key m) ∧
        (∀ row ∈ rows, ∃ m ∈ minutes, row.period = key m) ∧
        ∀ row ∈ rows, ReferenceRow (currentTariff db.tariffs)
          (minutes.filter fun m => key m = row.period) row
    else db.summary zones device fromMs toMs name timezone = .error tooManyPeriods := by
  intro minutes key
  have hrate : rateAt db.tariffsByTime = currentTariff db.tariffs :=
    funext (rateAt_eq_currentTariff htable)
  have hsummary : db.summary zones device fromMs toMs name timezone = _ :=
    Database.summary_eq_loop hrange hperiod hzone (tariffList_eq htable)
  rw [foldlM_summaryStep hstored] at hsummary
  have hread := Buckets.foldlM_put maxSummaryBuckets tooManyPeriods key
    (fun key => (({ period := key } : EnergySummary), (0 : ℤ))) (addMinute db.tariffsByTime) minutes
  split_ifs with hcount
  · rw [if_pos (show Buckets.keyCount key minutes ≤ maxSummaryBuckets from hcount)] at hread
    obtain ⟨buckets, hbuckets, hholds⟩ := hread
    rw [hbuckets] at hsummary
    have hrows := summaryRows_of_holds hholds
    refine ⟨_, hsummary, hrows.distinct, hrows.complete, hrows.inhabited, fun row hrow => ?_⟩
    have href := (referenceRow_of_bucket db.tariffsByTime
      (minutes.filter fun m => key m = row.period) row.period).1
    rw [← hrows.filled row hrow, hrate] at href
    exact href
  · rw [if_neg (show ¬Buckets.keyCount key minutes ≤ maxSummaryBuckets from hcount)] at hread
    rw [hsummary, hread]
    rfl

end Query

end Railwatch
