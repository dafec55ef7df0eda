/-
# The arithmetic of a query

A sample that the decoder accepted, and a query over what such samples credited, stay
within the integers of the machine.

A bucket that `n` minutes have been added to holds at most `n` times what a minute
of credited rows can bring (`Fine`), so what a thousand million of them add up to
fits.

Storing is in `History/Arithmetic`; here the two are put together.  The samples with the
highest readings that the decoder accepts show that the hypotheses can be met at their
limits.
-/

import Railwatch.History.Totals
import Railwatch.Runtime.Storage

namespace Railwatch
namespace Checked

open Std (TreeMap)
open Machine Sql

/-! ### Buckets -/

/-- What a minute can cost. -/
def maxCost : ℤ := 2 ^ 40 * 60000 * 1000000000000

/-- A bucket that at most `n` minutes have been added to. All of its numbers are bounded
by `n` times what a minute can bring. -/
structure Fine (n : ℕ) (b : EnergySummary × ℤ) : Prop where
  /-- `2 ^ 15` kilowatt hours for each minute, which is far more than there is. -/
  output : |b.1.outputKwh| ≤ (n : ℕ) * 2 ^ 15
  /-- The same of the input. -/
  input : |b.1.estimatedInputKwh| ≤ (n : ℕ) * 2 ^ 15
  /-- A minute for each minute. -/
  outputObserved : |b.1.outputObservedMs| ≤ n * 60000
  /-- The same of the input. -/
  inputObserved : |b.1.inputObservedMs| ≤ n * 60000
  /-- And of the time with a tariff. -/
  priced : |b.1.pricedObservedMs| ≤ n * 60000
  /-- The highest rate for each of them. -/
  cost : |b.2| ≤ n * maxCost

/-- An empty bucket. -/
theorem fine_start (key : String) : Fine 0 ({ period := key }, 0) := by
  constructor <;> simp

/-- A bound on the number of minutes may be raised. -/
theorem Fine.mono {n n' : ℕ} {b : EnergySummary × ℤ} (h : Fine n b) (hle : n ≤ n') :
    Fine n' b := by
  have hkwh : (n : ℚ) * 2 ^ 15 ≤ n' * 2 ^ 15 := by
    have : (n : ℚ) ≤ n' := by exact_mod_cast hle
    linarith
  have hcost : (n : ℤ) * maxCost ≤ n' * maxCost :=
    mul_le_mul_of_nonneg_right (by exact_mod_cast hle) (by decide)
  obtain ⟨h₁, h₂, h₃, h₄, h₅, h₆⟩ := h
  exact ⟨h₁.trans hkwh, h₂.trans hkwh, by omega, by omega, by omega, h₆.trans hcost⟩

/-- The kilowatt hours of one more minute: the total grows by less than `2 ^ 15` with
each, whatever the rounding, so a thousand million minutes do not bring it near the
limits. -/
theorem addKwh_spec (r : Rounding) {n : ℕ} (hn : n < 1000000000) {total : ℚ} {uj : ℤ}
    (htotal : |total| ≤ (n : ℕ) * 2 ^ 15) (huj : |uj| ≤ 2 ^ 40 * 60000) :
    ∃ kwh, addKwh r total uj = some kwh ∧ |kwh| ≤ ((n + 1 : ℕ) : ℚ) * 2 ^ 15 ∧
      (r = .exact → kwh = total + uj / 3600000000000) := by
  have huj' : |(uj : ℚ)| ≤ 2 ^ 56 := by
    have : |uj| ≤ 2 ^ 56 := huj.trans (by norm_num)
    exact_mod_cast this
  obtain ⟨hop₁, hbound₁⟩ := r.op_of_abs_le (by norm_num) huj'
  have hquotient : |r.apply (uj : ℚ) / 3600000000000| ≤ 2 ^ 15 := by
    rw [abs_div, abs_of_pos (by norm_num : (0 : ℚ) < 3600000000000), div_le_iff₀ (by norm_num)]
    exact hbound₁.trans (by norm_num)
  obtain ⟨hop₂, hbound₂⟩ := r.op_of_abs_le (by norm_num) hquotient
  have hsum : |total + r.apply (r.apply (uj : ℚ) / 3600000000000)| ≤
      ((n + 1 : ℕ) : ℚ) * 2 ^ 15 := by
    have hadd := abs_add_le total (r.apply (r.apply (uj : ℚ) / 3600000000000))
    push_cast
    linarith
  obtain ⟨hop₃, hbound₃⟩ := r.op_spec (hn.trans_le (by norm_num)) (by norm_num) hsum
  refine ⟨_, ?_, hbound₃, fun hexact => ?_⟩
  · unfold addKwh
    rw [hop₁, some_bind, hop₂, some_bind, hop₃]
  · subst hexact
    rfl

/-- The observed times of one more minute. -/
theorem abs_add_le_succ {n : ℕ} {total x bound : ℤ} (htotal : |total| ≤ n * bound)
    (hx : |x| ≤ bound) : |total + x| ≤ ((n + 1 : ℕ) : ℤ) * bound := by
  have hadd := abs_add_le total x
  push_cast
  rw [add_one_mul]
  omega

/-- **One more minute in a bucket.** What a row can hold is bounded, so a bucket of a
thousand million minutes is far from the limits of its types. -/
theorem addMinute_spec (r : Rounding) {tariffs : List Tariff}
    (hrates : ∀ t ∈ tariffs, 0 ≤ t.microcurrencyPerKwh ∧ t.microcurrencyPerKwh ≤ 1000000000000)
    {n : ℕ} (hn : n < 1000000000) {b : EnergySummary × ℤ} (hb : Fine n b) {row : ℤ × EnergyRow}
    (hrow : Bounded row.2) (hobserved : row.2.observedMs ≤ 60000) :
    ∃ b', addMinute r tariffs b row = some b' ∧ Fine (n + 1) b' ∧
      (r = .exact → b' = Railwatch.addMinute tariffs b row) := by
  obtain ⟨houtput, hinput, hobserved', hinputObserved⟩ := hrow.small hobserved
  obtain ⟨outputKwh, houtputKwh, houtputFine, houtputExact⟩ := addKwh_spec r hn hb.output houtput
  obtain ⟨inputKwh, hinputKwh, hinputFine, hinputExact⟩ := addKwh_spec r hn hb.input hinput
  have h₁ := abs_add_le_succ hb.outputObserved hobserved'
  have h₂ := abs_add_le_succ hb.inputObserved hinputObserved
  unfold addMinute
  rw [houtputKwh, some_bind, hinputKwh, some_bind, i64, checked_of_abs_lt (by omega), some_bind,
    i64, checked_of_abs_lt (by omega), some_bind]
  dsimp only
  cases hrate : rateAt tariffs row.1 with
  | none =>
      refine ⟨_, rfl, ?_, fun hexact => ?_⟩
      · exact ⟨houtputFine, hinputFine, h₁, h₂, (hb.mono n.le_succ).priced,
          (hb.mono n.le_succ).cost⟩
      · rw [Railwatch.addMinute, hrate, houtputExact hexact, hinputExact hexact]
  | some rate =>
      obtain ⟨hlow, hhigh⟩ := hrates rate (mem_of_rateAt hrate)
      have hproduct : |row.2.inputUj * rate.microcurrencyPerKwh| ≤ maxCost := by
        rw [abs_mul, abs_of_nonneg hlow, maxCost]
        exact mul_le_mul hinput hhigh hlow (by norm_num)
      have hcost := abs_add_le_succ hb.cost hproduct
      have hpriced := abs_add_le_succ hb.priced hinputObserved
      have hlimit : ((n + 1 : ℕ) : ℤ) * maxCost ≤ 1000000000 * maxCost :=
        mul_le_mul_of_nonneg_right (by omega) (by decide)
      have hfits : 1000000000 * maxCost < 2 ^ 127 := by decide
      have hsingle : maxCost < 2 ^ 127 := by decide
      dsimp only
      rw [i128, checked_of_abs_lt (hproduct.trans_lt hsingle), some_bind, i128,
        checked_of_abs_lt ((hcost.trans hlimit).trans_lt hfits), some_bind, i64,
        checked_of_abs_lt (by omega)]
      refine ⟨_, rfl, ⟨houtputFine, hinputFine, h₁, h₂, hpriced, hcost⟩, fun hexact => ?_⟩
      rw [Railwatch.addMinute, hrate, houtputExact hexact, hinputExact hexact]

/-- **The row of a bucket.** The addend of the rounding is small beside what is left of
the `i128`. -/
theorem finishSummary_spec {b : EnergySummary × ℤ} (hb : Fine 1000000000 b) :
    finishSummary b = some (Railwatch.finishSummary b) := by
  have hlimit : ((1000000000 : ℕ) : ℤ) * maxCost + 1800000000000 < 2 ^ (128 - 1) := by decide
  obtain ⟨hlow, hhigh⟩ := abs_le.1 hb.cost
  exact finishSummary_eq ⟨by omega, by omega⟩

/-! ### The loop -/

/-- Buckets that at most `n` minutes have been added to. -/
def FineBuckets (n : ℕ) (buckets : TreeMap String (EnergySummary × ℤ)) : Prop :=
  ∀ (key : String) b, buckets[key]? = some b → Fine n b

/-- A credited minute is a time that `chrono` can represent, also in local time. -/
theorem Credited.inRange {r : Rounding} {minute : ℤ} {row : EnergyRow}
    (h : Credited r minute row) {zone : Zone} (hzone : ∀ at_, |zone at_| < 1440) :
    timestampInRange minute ∧ timestampInRange (localMs zone minute) := by
  obtain ⟨-, hlow, hhigh⟩ := h.spec
  obtain ⟨hzone₀, hzone₁⟩ := abs_lt.1 (hzone minute)
  unfold timestampInRange localMs
  constructor <;> simp only [Bool.and_eq_true, decide_eq_true_eq] <;> constructor <;> omega

section Loop

variable (r : Rounding) {tariffs : List Tariff}
  (hrates : ∀ t ∈ tariffs, 0 ≤ t.microcurrencyPerKwh ∧ t.microcurrencyPerKwh ≤ 1000000000000)
  {zone : Zone} (hzone : ∀ at_, |zone at_| < 1440)
include hrates hzone

/-- **One turn.** The minute goes to one bucket and the others stay as they are. It is
in the range of dates because its pieces are of dated samples, so the only error is a
bucket too many. -/
theorem summaryStep_spec (period : Period) {n : ℕ} (hn : n < 1000000000)
    {buckets : TreeMap String (EnergySummary × ℤ)} (hbuckets : FineBuckets n buckets)
    {row : ℤ × EnergyRow} (hcredited : Credited r row.1 row.2)
    (hobserved : row.2.observedMs ≤ 60000) :
    ∃ x, (summaryStep r tariffs period zone buckets row).run = some x ∧
      (∀ buckets', x = .ok buckets' → FineBuckets (n + 1) buckets') ∧
      (r = .exact → x = Railwatch.summaryStep tariffs period zone buckets row) := by
  obtain ⟨hrange, hlocal⟩ := hcredited.inRange hzone
  unfold summaryStep Railwatch.summaryStep Buckets.put
  rw [if_neg (not_not.2 hrange), if_neg (not_not.2 hlocal), if_neg (not_not.2 hrange),
    if_neg (not_not.2 hlocal)]
  dsimp only
  split_ifs with hroom
  · have hold : Fine n (buckets[periodKey period zone row.1]?.getD
        ({ period := periodKey period zone row.1 }, 0)) := by
      cases hget : buckets[periodKey period zone row.1]? with
      | none => exact (fine_start _).mono n.zero_le
      | some b => exact hbuckets _ b hget
    obtain ⟨b, hb, hfine, hexact⟩ := addMinute_spec r hrates hn hold hcredited.spec.1 hobserved
    refine ⟨.ok (buckets.insert (periodKey period zone row.1) b), ?_, fun buckets' hok => ?_,
      fun he => ?_⟩
    · rw [hb]
      rfl
    · obtain rfl := Except.ok.inj hok
      intro key b' hget
      rw [Std.TreeMap.getElem?_insert] at hget
      split_ifs at hget
      · obtain rfl := Option.some.inj hget
        exact hfine
      · exact (hbuckets key b' hget).mono n.le_succ
    · rw [hexact he]
  · exact ⟨.error tooManyPeriods, rfl, fun _ hok => (by cases hok), fun _ => rfl⟩

/-- **The loop.** By induction on the minutes, with a budget that grows by one with each
of them. -/
theorem foldlM_summaryStep (period : Period) {minutes : List (ℤ × EnergyRow)}
    (hminutes : ∀ m ∈ minutes, Credited r m.1 m.2 ∧ m.2.observedMs ≤ 60000)
    (hlength : minutes.length ≤ 1000000000) :
    ∃ x, (minutes.foldlM (summaryStep r tariffs period zone) ∅).run = some x ∧
      (∀ buckets, x = .ok buckets → FineBuckets 1000000000 buckets) ∧
      (r = .exact → x = minutes.foldlM (Railwatch.summaryStep tariffs period zone) ∅) := by
  have hempty : FineBuckets 0 ∅ := fun key b hget => by
    rw [Std.TreeMap.getElem?_emptyc] at hget
    cases hget
  obtain ⟨x, hx, hfine, hexact⟩ := foldlM_spec (I := FineBuckets) (E := r = .exact)
    (fun n buckets hn hbuckets m hm => summaryStep_spec r hrates hzone period hn hbuckets
      (hminutes m hm).1 (hminutes m hm).2) hempty (by omega)
  refine ⟨x, hx, fun buckets hok key b hget => (hfine buckets hok key b hget).mono ?_, hexact⟩
  omega

end Loop

/-! ### The query -/

/-- The minutes of a query are rows of the table. -/
theorem length_minuteRows_le (db : Database) (device : String) (fromMs toMs : ℤ) :
    (db.minuteRows device fromMs toMs).length ≤ db.energy.rows.length := by
  rw [Database.minuteRows, List.length_insertionSort, List.length_map]
  exact List.length_filter_le _ _

/-- **The query.** Its result is the one of unbounded arithmetic, its errors included,
where the roundings are exact. -/
theorem summary_spec (r : Rounding) {zones : String → Except String Zone}
    (hzones : ∀ name zone, zones name = .ok zone → ∀ at_, |zone at_| < 1440) {db : Database}
    (htariffs : PriceHistory db.tariffs) (htable : CreditedTable r db.energy 60000)
    (hsize : db.energy.rows.length ≤ 1000000000) (device : String) (fromMs toMs : ℤ)
    (name timezone : String) :
    ∃ x, (summary r zones db device fromMs toMs name timezone).run = some x ∧
      (r = .exact → x = db.summary zones device fromMs toMs name timezone) := by
  unfold summary Database.summary
  split_ifs with hrange
  · cases hperiod : Period.parse name with
    | none => exact ⟨.error "invalid period", rfl, fun _ => rfl⟩
    | some period =>
        dsimp only
        cases hzone : zones timezone with
        | error e => exact ⟨.error e, run_bind_error rfl _, fun _ => rfl⟩
        | ok zone =>
            obtain ⟨x, hx, hfine, hexact⟩ := foldlM_summaryStep r (rates_of_priceHistory htariffs)
              (hzones timezone zone hzone) period (fun m hm => htable _ _
                ((mem_minuteRows db device fromMs toMs).1 hm).1)
              ((length_minuteRows_le db device fromMs toMs).trans hsize)
            have htariffs := tariffList_eq htariffs.toTariffTable
            have hloop : db.summary zones device fromMs toMs name timezone = _ :=
              Database.summary_eq_loop hrange hperiod hzone htariffs
            unfold Database.summary at hloop
            rw [if_neg (not_not.2 hrange), hperiod, hzone] at hloop
            dsimp only at hloop
            rw [hloop, htariffs]
            cases x with
            | error e =>
                refine ⟨.error e, run_bind_error hx _, fun he => ?_⟩
                rw [← hexact he]
                rfl
            | ok buckets =>
                refine ⟨.ok (buckets.toList.map fun b => Railwatch.finishSummary b.2),
                  (run_bind_ok hx _).trans ?_, fun he => ?_⟩
                · refine mapM_lift fun kb hkb => finishSummary_spec (hfine buckets rfl kb.1 kb.2 ?_)
                  exact Std.TreeMap.mem_toList_iff_getElem?_eq_some.1 hkb
                · rw [← hexact he]
                  rfl
  · exact ⟨_, rfl, fun _ => rfl⟩

/-- **Accounting does not overflow.**  For two samples whose readings the decoder
accepted, with clocks in the years from 1970 to 9999, and with any rounding, binary64
among them: the estimate, the connector sums, the imbalances and the guard are what
they should be.  If the guard lets the interval be integrated, the minute loop adds it
to any table of credited minutes in at most two turns.  A query over up to a thousand
million such minutes, priced with tariffs that `set_tariff` accepted, has a result
too.  Where nothing is rounded these results are those of `creditMinutes` and
`Database.summary`. -/
theorem accounting_does_not_overflow (r : Rounding) {p sample : Telemetry} (hp : Decoded p)
    (hsample : Decoded sample) (hdated : Dated p ∧ Dated sample) {energy : EnergyTable}
    (htable : CreditedTable r energy 60000) (hsize : energy.rows.length ≤ 1000000000)
    {zones : String → Except String Zone}
    (hzones : ∀ name zone, zones name = .ok zone → ∀ at_, |zone at_| < 1440)
    (requests : List (Tariff × Bool)) (device : String) (fromMs toMs : ℤ)
    (period timezone : String) :
    let db := Database.setTariffs { energy := energy } requests
    (∀ t ∈ [p, sample], estimatedInputUw t = some t.estimatedInputUw ∧
      ∀ currents ∈ t.connectorCurrentsMa, sum 64 currents.toList = some currents.toList.sum ∧
        imbalance currents = some (Railwatch.imbalance currents)) ∧
    integrates p sample maxGapMs = some (decide (Railwatch.integrates p sample maxGapMs)) ∧
    (Railwatch.integrates p sample maxGapMs →
      ∃ energy' made, creditMinutes r p sample (sample.capturedAtMs - p.capturedAtMs) 3 energy
          p.capturedAtMs = some (energy', made) ∧ made ≤ 2 ∧
        (r = .exact → energy' = Railwatch.creditMinutes p sample energy p.capturedAtMs)) ∧
    ∃ x, (summary r zones db device fromMs toMs period timezone).run = some x ∧
      (r = .exact → x = db.summary zones device fromMs toMs period timezone) := by
  intro db
  have hreadings : ∀ t ∈ [p, sample], Decoded t := by simp [hp, hsample]
  have henergy : db.energy = energy := (tariffTable_empty.setTariffs requests).2
  refine ⟨fun t ht => ?_, integrates_eq (hdated.1.fits hdated.2) (by decide), fun hintegrates => ?_,
    summary_spec r hzones (priceHistory_empty.setTariffs requests) (by rwa [henergy])
      (by rwa [henergy]) device fromMs toMs period timezone⟩
  · obtain ⟨hpower, hconnectors⟩ := (hreadings t ht).range
    exact ⟨estimatedInputUw_eq hpower, fun currents hcurrents =>
      ⟨sum_eq (hconnectors currents hcurrents), imbalance_eq (hconnectors currents hcurrents)⟩⟩
  · obtain ⟨hforward, hshort⟩ : 0 < sample.capturedAtMs - p.capturedAtMs ∧
        sample.capturedAtMs - p.capturedAtMs ≤ 60000 := by
      obtain ⟨-, -, -, hpos, hgap, hwall, habs⟩ := hintegrates
      unfold maxGapMs at hgap
      rw [asI64_of_lt (by omega)] at habs
      have habs := (abs_le.1 habs).2
      omega
    have hinterval : Interval p sample := ⟨hp, hsample, hdated, by omega, hshort⟩
    have hturns : sample.capturedAtMs ≤ p.capturedAtMs / 60000 * 60000 + (2 : ℕ) * 60000 := by
      omega
    obtain ⟨energy', made, hloop, hmade, -, hexact⟩ :=
      creditMinutes_spec r hinterval le_rfl (fun _ => hturns) htable (by omega) (by norm_num)
    exact ⟨energy', made, hloop, hmade, hexact⟩

/-- A connector with a conductor that is idle. -/
def extremeConnector : Vector ℤ 6 := #v[50000, 50000, 50000, 50000, 50000, 0]

/-- A report of 2500 W at the smallest efficiency. -/
def extremeReport : Wire.Bytes :=
  let connector := [50, 0, 50, 0, 50, 0, 50, 0, 50, 0, 0, 0]
  [0x51, 0xe0] ++ (List.replicate 6 0 ++ connector ++ connector ++ [0x71, 0x12, 0x01, 0xb8] ++
    List.replicate 28 0)

/-- A sample that reads it. Its power is the largest that the decoder accepts, and its
efficiency the smallest that has an estimate. -/
def extremeSample (sequence at_ : ℕ) : Telemetry :=
  { Telemetry.blank with
    deviceId := "psu"
    sequence := sequence
    capturedAtMs := at_
    monotonicMs := at_
    powerUw := 2500000000
    efficiencyMillipercent := 1
    connectorCurrentsMa := [extremeConnector, extremeConnector] }

/-- Such a sample is one that the decoder makes. -/
theorem decoded_extremeSample (sequence at_ : ℕ) : Decoded (extremeSample sequence at_) := by
  refine ⟨extremeReport, ⟨2500000000, 1, 0, 0, #v[⟨0, 0⟩, ⟨0, 0⟩, ⟨0, 0⟩],
    #v[extremeConnector, extremeConnector]⟩, ?_, rfl, rfl, rfl⟩
  decide +kernel

/-- Some minute holds such samples, and the next interval is added to it: with the
largest power, the largest currents and the dearest tariff that pass the checks. -/
theorem accounting_does_not_overflow_of_extreme_samples :
    ∃ energy : EnergyTable, energy.keys = [("psu", 0)] ∧
      estimatedInputUw (extremeSample 1 3500) = some (some 250000000000000) ∧
      imbalance extremeConnector = some (50000, 100) ∧
      (∃ energy' made, creditMinutes binary64 (extremeSample 0 0) (extremeSample 1 3500) 3500 3
        energy 0 = some (energy', made) ∧ made ≤ 2) ∧
      ∃ x, (summary binary64 (fun _ => .ok fun _ => 0) (Database.setTariffs { energy := energy }
        [(⟨0, 1000000000000, "BRL"⟩, false)]) "psu" 0 60000 "day" "UTC").run = some x := by
  have hdated (sequence at_ : ℕ) (h : at_ < 253402300800000) :
      Dated (extremeSample sequence at_) := by
    show 0 ≤ (at_ : ℤ) ∧ (at_ : ℤ) < 253402300800000
    omega
  have hdated := And.intro (hdated 0 0 (by decide)) (hdated 1 3500 (by decide))
  have hinterval : Interval (extremeSample 0 0) (extremeSample 1 3500) :=
    ⟨decoded_extremeSample 0 0, decoded_extremeSample 1 3500, hdated, by decide, by decide⟩
  obtain ⟨row, hturn, -, hobserved, -⟩ := turn_spec binary64 hinterval le_rfl (by decide)
  have hobserved : row.observedMs = 3500 := hobserved.trans (by decide)
  have hcredited : Credited binary64 ("psu", (0 : ℤ)).2 row :=
    .piece hinterval le_rfl (by decide) hturn
  have hempty : CreditedTable binary64 ∅ 0 := fun key row h => by cases h
  obtain ⟨-, htable⟩ := credit_spec hempty hcredited ⟨by omega, by omega⟩ le_rfl (by norm_num)
  have hkeys : (Table.upsert (∅ : EnergyTable) ("psu", 0) row row.add).keys = [("psu", 0)] :=
    Table.keys_upsert ..
  have hzones : ∀ name zone, (fun _ : String => (.ok fun _ => 0 : Except String Zone)) name =
      .ok zone → ∀ at_, |zone at_| < 1440 := by
    intro name zone hzone at_
    obtain rfl := Except.ok.inj hzone
    exact abs_zero.trans_lt (by decide)
  obtain ⟨hreadings, -, hloop, x, hx, -⟩ := accounting_does_not_overflow binary64
    hinterval.earlier hinterval.later hdated htable (by rw [← length_keys, hkeys]; decide)
    hzones [(⟨0, 1000000000000, "BRL"⟩, false)] "psu" 0 60000 "day" "UTC"
  obtain ⟨hestimate, himbalance⟩ := hreadings (extremeSample 1 3500) (by simp)
  obtain ⟨energy', made, hrun, hmade, -⟩ := hloop (by decide)
  refine ⟨_, hkeys, hestimate, (himbalance _ List.mem_cons_self).2, ⟨energy', made, hrun, hmade⟩,
    x, hx⟩

end Checked
end Railwatch
