/-
# The energy summary

`History::summary`: the stored minutes of a device, grouped by local hour, day,
week, month or year, and priced with the dated tariffs.

The time zone comes from `chrono-tz`: it is taken as a function from UTC
instants to offsets in minutes, and the database of zones as a parameter.
`chrono`'s dates and weeks are those of `Calendar`; its timestamps end with the
year 262142 on either side, and a local time beyond that is a panic there and an
error here.  The kilowatt hours, `f64` in the source, are exact.

The definitions follow the source statement by statement.  The text of a period is made
of the same fields, in the same order, as `format!` makes it, since the rows are ordered
by that text.
-/

import Railwatch.Core.Text
import Railwatch.General.Buckets
import Railwatch.General.Calendar
import Railwatch.History.Accounts

namespace Railwatch

open Std (TreeMap)
open Sql Calendar

/-- `MAX_SUMMARY_BUCKETS`. -/
def maxSummaryBuckets : ℕ := 10000

/-- The offset from UTC, in minutes, at each UTC instant. -/
abbrev Zone := ℤ → ℤ

/-- The periods of a summary. Weeks are those of the ISO calendar. -/
inductive Period where
  | hour
  | day
  | week
  | month
  | year
  deriving DecidableEq, Repr

/-- The periods `summary` accepts. -/
def Period.parse : String → Option Period
  | "hour" => some .hour
  | "day" => some .day
  | "week" => some .week
  | "month" => some .month
  | "year" => some .year
  | _ => none

/-- `EnergySummary`: a row of the report. The cost is a text, as it is shown, and absent
where nothing is priced. -/
structure EnergySummary where
  /-- The text of the hour, day, week, month or year. -/
  period : String
  /-- Kilowatt hours that came out. -/
  outputKwh : ℚ := 0
  /-- And that went in. -/
  estimatedInputKwh : ℚ := 0
  /-- For how long. -/
  outputObservedMs : ℤ := 0
  /-- For how long with an estimate. -/
  inputObservedMs : ℤ := 0
  /-- And for how long with a price. -/
  pricedObservedMs : ℤ := 0
  /-- In the currency, with six decimals. -/
  cost : Option String := none
  /-- That of the tariffs. -/
  currency : Option String := none
  /-- Some of the time has no price. -/
  incompletePricing : Bool := false
  deriving DecidableEq, Repr

/-! ### Local time -/

/-- `DateTime::from_timestamp_millis` and `naive_local` succeed. -/
def timestampInRange (ms : ℤ) : Bool := -8334601228800000 ≤ ms && ms ≤ 8210266876799999

example : daysBeforeYear (-262143) * 86400000 = -8334601228800000 ∧
    daysBeforeYear 262143 * 86400000 = 8210266876799999 + 1 := by decide

/-- The local time of an instant, in milliseconds. -/
def localMs (zone : Zone) (at_ : ℤ) : ℤ := at_ + zone at_ * 60000

/-- The local day of an instant. -/
def localDay (zone : Zone) (at_ : ℤ) : ℤ := localMs zone at_ / 86400000

/-- The sign that `{:+}` writes. -/
def signText (z : ℤ) : String := if z < 0 then "-" else "+"

/-- The year in the `Display` of a `NaiveDate`: four digits, or a sign. -/
def yearText (y : ℤ) : String :=
  if 0 ≤ y ∧ y ≤ 9999 then zeroPad 4 y.natAbs else signText y ++ zeroPad 4 y.natAbs

/-- `NaiveDate::to_string`. -/
def dateText (d : Date) : String :=
  yearText d.year ++ ("-" ++ zeroPad 2 d.month) ++ ("-" ++ zeroPad 2 d.day)

/-- `{:%:z}`. -/
def offsetText (minutes : ℤ) : String :=
  signText minutes ++ (zeroPad 2 (minutes.natAbs / 60) ++ (":" ++ zeroPad 2 (minutes.natAbs % 60)))

/-- The hour of a local time. -/
def hourOfDay (ms : ℤ) : ℕ := (ms % 86400000 / 3600000).toNat

/-- `key` of `summary`. The text of the local period that a minute falls in. The parts
of a date are padded, but the year of a week, of a month and of a year is not; the hour
comes with the offset of the zone. -/
def periodKey (period : Period) (zone : Zone) (at_ : ℤ) : String :=
  let date := dateOf (localDay zone at_)
  let week := isoWeek (localDay zone at_)
  match period with
  | .hour => dateText date ++ ("T" ++ (zeroPad 2 (hourOfDay (localMs zone at_)) ++
      (":00" ++ offsetText (zone at_))))
  | .day => dateText date
  | .week => toString week.1 ++ ("-W" ++ zeroPad 2 week.2)
  | .month => toString date.year ++ ("-" ++ zeroPad 2 date.month)
  | .year => toString date.year

/-! ### The buckets -/

/-- `[T]::partition_point` of a slice that is partitioned. -/
def partitionPoint {α : Type} (p : α → Bool) (l : List α) : ℕ := (l.takeWhile p).length

/-- The tariff `summary` applies to a minute. -/
def rateAt (tariffs : List Tariff) (at_ : ℤ) : Option Tariff :=
  let rateIndex := partitionPoint (fun r => r.effectiveAtMs ≤ at_) tariffs
  if rateIndex = 0 then none else tariffs[rateIndex - 1]?

/-- What a minute adds to its bucket, and to the cost in microjoules times
microcurrency.  The sums are integers without a limit; `Checked.addMinute` forms them
in `i64` and `i128`. -/
def addMinute (tariffs : List Tariff) (b : EnergySummary × ℤ) (row : ℤ × EnergyRow) :
    EnergySummary × ℤ :=
  let s := { b.1 with
    outputKwh := b.1.outputKwh + row.2.outputUj / 3600000000000
    estimatedInputKwh := b.1.estimatedInputKwh + row.2.inputUj / 3600000000000
    outputObservedMs := b.1.outputObservedMs + row.2.observedMs
    inputObservedMs := b.1.inputObservedMs + row.2.inputObservedMs }
  match rateAt tariffs row.1 with
  | some rate =>
      ({ s with
          currency := some rate.currency
          pricedObservedMs := s.pricedObservedMs + row.2.inputObservedMs },
        b.2 + row.2.inputUj * rate.microcurrencyPerKwh)
  | none => (s, b.2)

/-- `format!("{}.{:06}", micro / 1_000_000, micro % 1_000_000)`. -/
def microText (micro : ℤ) : String :=
  toString (micro.tdiv 1000000) ++ "." ++ zeroPadSigned 6 (micro.tmod 1000000)

/-- The row of a bucket. -/
def finishSummary (b : EnergySummary × ℤ) : EnergySummary :=
  { b.1 with
    incompletePricing := b.1.pricedObservedMs < b.1.outputObservedMs
    cost := if 0 < b.1.pricedObservedMs then
        some (microText ((b.2 + 1800000000000).tdiv 3600000000000))
      else b.1.cost }

/-- The message of the bucket limit. -/
def tooManyPeriods : String :=
  "energy query exceeds 10000 periods; choose a shorter range or a larger period"

/-- One turn of the loop over the stored minutes. -/
def summaryStep (tariffs : List Tariff) (period : Period) (zone : Zone)
    (buckets : TreeMap String (EnergySummary × ℤ)) (row : ℤ × EnergyRow) :
    Except String (TreeMap String (EnergySummary × ℤ)) :=
  if ¬timestampInRange row.1 then .error "invalid stored timestamp"
  else if ¬timestampInRange (localMs zone row.1) then .error "Local time out of range"
  else Buckets.put maxSummaryBuckets tooManyPeriods (fun row => periodKey period zone row.1)
    (fun key => ({ period := key }, 0)) (addMinute tariffs) buckets row

/-- `SELECT minute_ms,… FROM energy WHERE device=?1 AND minute_ms>=?2 AND
minute_ms<?3 ORDER BY minute_ms`. -/
def Database.minuteRows (db : Database) (device : String) (fromMs toMs : ℤ) :
    List (ℤ × EnergyRow) :=
  ((db.energy.rows.filter fun kr => kr.1.1 = device ∧ fromMs ≤ kr.1.2 ∧ kr.1.2 < toMs).map
    fun kr => (kr.1.2, kr.2)).insertionSort fun a b => a.1 ≤ b.1

/-- `History::summary`, in exact arithmetic. The minutes in the range are read in order
and each is added to the bucket of its period; the rows are the buckets in the order of
their keys, with the cost as a text. -/
def Database.summary (zones : String → Except String Zone) (db : Database) (device : String)
    (fromMs toMs : ℤ) (period timezone : String) : Except String (List EnergySummary) :=
  if ¬(fromMs < toMs ∧ fromMs % 60000 = 0 ∧ toMs % 60000 = 0) then
    .error "range must be increasing and aligned to minutes"
  else
    match Period.parse period with
    | none => .error "invalid period"
    | some period => do
        let zone ← zones timezone
        let tariffs ← db.tariffList
        let buckets ← (db.minuteRows device fromMs toMs).foldlM (summaryStep tariffs period zone) ∅
        return buckets.toList.map fun b => finishSummary b.2

end Railwatch
