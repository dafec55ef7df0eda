/-
# The energy report

`src/bin/cli.rs`: `write_csv` writes the rows of an energy answer to a file, every field
between quotes.  The answer is the one of the `Energy` method.

Creating the file may fail, and so may each line, after some of its bytes; which of them
do is an input (`Output`).  `energy_report_reads_back` says that a reader of the file gets
the rows of the answer, whatever characters stand in them, if the function returns.  If it
fails on an energy answer, then for a system call that failed.

The text of a cell is what `serde_json` displays, or the text itself; a double quote in
it is written twice.  `General/Csv` reads the file as it is, so nothing about the cells
has to be assumed.
-/

import Railwatch.General.Csv
import Railwatch.General.Effects
import Railwatch.Clients.Stream
import Railwatch.Core.Text
import Railwatch.Ipc.Dispatch

namespace Railwatch

open Effects

/-! ### The answer -/

/-- An optional text. -/
def jsonOption (s : Option String) : Json := (s.map Json.str).getD .null

/-- The fields of a row, as they are sent.  How a number is written is an input. -/
def EnergySummary.json (shown : ℚ → String) (s : EnergySummary) : Json :=
  .obj [("period", .str s.period), ("output_kwh", .float (shown s.outputKwh)),
    ("estimated_input_kwh", .float (shown s.estimatedInputKwh)),
    ("output_observed_ms", .int s.outputObservedMs),
    ("input_observed_ms", .int s.inputObservedMs),
    ("priced_observed_ms", .int s.pricedObservedMs), ("cost", jsonOption s.cost),
    ("currency", jsonOption s.currency), ("incomplete_pricing", .bool s.incompletePricing)]

/-- The answer of the `Energy` method. -/
def energyAnswer (shown : ℚ → String) (q : Range) (buckets : List EnergySummary) : Json :=
  .obj [("from_ms", .int q.fromMs), ("to_ms", .int q.toMs), ("timezone", .str q.timezone),
    ("basis", .str "estimated AC input from DC output / reported efficiency"),
    ("buckets", .arr (buckets.map (EnergySummary.json shown)))]

/-! ### The file -/

/-- The columns. -/
def csvKeys : List String :=
  ["period", "output_kwh", "estimated_input_kwh", "output_observed_ms", "input_observed_ms",
    "priced_observed_ms", "cost", "currency", "incomplete_pricing"]

/-- `Value::to_string`, where texts, arrays and objects are written by `nested`. -/
def Json.display (nested : Json → String) (v : Json) : String :=
  match v with
  | .null => "null"
  | .bool b => toString b
  | .int n => toString n
  | .float text => text
  | _ => nested v

/-- What a field shows: nothing for `null`, a text as it is. -/
def cellText (nested : Json → String) (v : Json) : String :=
  match v with
  | .null => ""
  | .str s => s
  | _ => v.display nested

/-- `str::replace` of a double quote by two. -/
def escapeQuotes (s : String) : String :=
  String.ofList (s.toList.flatMap fun c => if c = '"' then ['"', '"'] else [c])

/-- A field of the file. -/
def csvField (nested : Json → String) (row : Json) (key : String) : String :=
  "\"" ++ escapeQuotes (cellText nested (row.at key)) ++ "\""

/-- A line of the file. -/
def csvLine (fields : List String) : String := ",".intercalate fields ++ "\n"

/-- What the system answers: the error of `File::create`, if it fails; and for each
`writeln!` that fails, the number of bytes of its line that get into the file, and the
error. -/
structure Output where
  /-- The error of `File::create`. -/
  create : Option String
  /-- How the `writeln!` of a line ends. -/
  line : ℕ → Option (ℕ × String)

/-- What is at the path, if there is a file, and the number of lines that have been
written to it. -/
structure ReportFile where
  /-- What is in the file, if there is one. -/
  bytes : Option (List UInt8)
  /-- The lines that `writeln!` has been called for. -/
  lines : ℕ := 0

/-- A program that writes a report. -/
abbrev Writing (α : Type) := EStateM String ReportFile α

/-- `File::create`, which empties a file that is there. -/
def Output.createFile (o : Output) : Writing Unit :=
  match o.create with
  | some e => throw e
  | none => set { bytes := some [] : ReportFile }

/-- `writeln!`. -/
def Output.writeLine (o : Output) (line : String) : Writing Unit := do
  let file ← get
  match o.line file.lines with
  | none => set { bytes := file.bytes.map (· ++ utf8 line), lines := file.lines + 1 : ReportFile }
  | some (n, e) => do
      set { file with bytes := file.bytes.map (· ++ (utf8 line).take n) }
      throw e

/-- `write_csv`. -/
def writeCsv (nested : Json → String) (o : Output) (value : Json) : Writing Unit := do
  o.createFile
  o.writeLine (csvLine csvKeys)
  match value.at "buckets" with
  | .arr rows => rows.forM fun row => o.writeLine (csvLine (csvKeys.map (csvField nested row)))
  | _ => throw "invalid energy response"

/-! ### Reading it -/

/-- What the automaton has to read a field as. -/
theorem writes_csvField (nested : Json → String) (row : Json) (key : String) :
    Csv.Writes (csvField nested row key) (cellText nested (row.at key)) := by
  have hquote : csvField nested row key = Csv.quote (cellText nested (row.at key)) := by
    rw [csvField, Csv.quote, Csv.double, escapeQuotes]
    congr 4
    funext c
    split_ifs with hc
    · rw [hc]
    · rfl
  rw [hquote]
  exact .quoted _

/-- The names of the columns need no quotes. -/
theorem plain_csvKeys : ∀ key ∈ csvKeys, ∀ c ∈ key.toList, c ≠ '"' ∧ c ≠ ',' ∧ c ≠ '\n' := by
  simp [csvKeys]

/-- The rows of an answer, if it has any. -/
def bucketRows (value : Json) : List Json :=
  match value.at "buckets" with
  | .arr rows => rows
  | _ => []

/-- The lines of a file, each field with what it is read as. -/
def csvLines (nested : Json → String) (rows : List Json) : List (List (String × String)) :=
  csvKeys.map (fun key => (key, key)) ::
    rows.map fun row => csvKeys.map fun key =>
      (csvField nested row key, cellText nested (row.at key))

/-- The text of a report: a line for the columns, and one for each row. -/
def reportText (nested : Json → String) (value : Json) : String :=
  csvLine csvKeys ++ String.join ((bucketRows value).map fun row =>
    csvLine (csvKeys.map (csvField nested row)))

/-- The text of a report is the lines of a general writer of CSV, one after the other. -/
theorem reportText_eq (nested : Json → String) (value : Json) :
    reportText nested value =
      String.join ((csvLines nested (bucketRows value)).map fun fields =>
        Csv.line (fields.map Prod.fst)) := by
  have hline : ∀ fields, Csv.line fields = csvLine fields := fun _ => rfl
  have hkeys : (csvKeys.map fun key => (key, key)).map Prod.fst = csvKeys := rfl
  rw [csvLines, List.map_cons, hkeys, String.join_cons, List.map_map, hline]
  simp [reportText, Function.comp_def, hline]

/-- Every field of a file is read as its value. -/
theorem writes_csvLines (nested : Json → String) (rows : List Json) :
    ∀ fields ∈ csvLines nested rows, fields ≠ [] ∧ ∀ f ∈ fields, Csv.Writes f.1 f.2 := by
  intro fields hfields
  obtain rfl | hfields := List.mem_cons.1 hfields
  · refine ⟨List.cons_ne_nil _ _, fun f hf => ?_⟩
    obtain ⟨key, hkey, rfl⟩ := List.mem_map.1 hf
    exact .plain (plain_csvKeys key hkey)
  · obtain ⟨row, -, rfl⟩ := List.mem_map.1 hfields
    refine ⟨List.cons_ne_nil _ _, fun f hf => ?_⟩
    obtain ⟨key, -, rfl⟩ := List.mem_map.1 hf
    exact writes_csvField nested row key

/-- A report is read as its rows. -/
theorem parse_reportText (nested : Json → String) (value : Json) :
    Csv.parse (reportText nested value) =
      some (csvKeys :: (bucketRows value).map fun row =>
        csvKeys.map fun key => cellText nested (row.at key)) := by
  have hwrites := writes_csvLines nested (bucketRows value)
  rw [reportText_eq, Csv.parse_lines (fun fields h => (hwrites fields h).1)
    (fun fields h => (hwrites fields h).2)]
  simp [csvLines, Function.comp_def]

/-- The fields of a row, as a reader of the file sees them. -/
def EnergySummary.cells (shown : ℚ → String) (s : EnergySummary) : List String :=
  [s.period, shown s.outputKwh, shown s.estimatedInputKwh, toString s.outputObservedMs,
    toString s.inputObservedMs, toString s.pricedObservedMs, s.cost.getD "", s.currency.getD "",
    toString s.incompletePricing]

/-- Reading the fields of an answer's period by their keys gives the cells of the
period. -/
theorem cells_json (nested : Json → String) (shown : ℚ → String) (s : EnergySummary) :
    (csvKeys.map fun key => cellText nested ((s.json shown).at key)) = s.cells shown := by
  cases hcost : s.cost <;> cases hcurrency : s.currency <;>
    simp [csvKeys, EnergySummary.json, EnergySummary.cells, Json.at, Json.get, cellText,
      Json.display, jsonOption, hcost, hcurrency, List.lookup_cons]

/-! ### Writing it -/

/-- An error of a line. -/
def Output.LineFails (o : Output) (e : String) : Prop := ∃ k n, o.line k = some (n, e)

/-- A file that has been begun holds the beginning of a text. -/
def ReportFile.Begins (f : ReportFile) (text : String) : Prop :=
  ∃ written, f.bytes = some written ∧ written <+: utf8 text

/-- A line goes behind what is in the file, all of it or a part. -/
theorem Output.writeLine_spec (o : Output) {text : String} (line : String) {f : ReportFile}
    (hf : f.bytes = some (utf8 text)) :
    Ensures (o.writeLine line) f (fun _ f' => f'.bytes = some (utf8 (text ++ line)))
      (fun e f' => o.LineFails e ∧ f'.Begins (text ++ line)) := by
  unfold Output.writeLine
  refine ensures_bind (ensures_get ?_)
  rw [hf, utf8_append]
  cases hline : o.line f.lines with
  | none => exact ensures_set rfl
  | some failure =>
      refine ensures_bind (ensures_set (ensures_throw ⟨⟨f.lines, failure.1, hline⟩, _, rfl, ?_⟩))
      rw [utf8_append]
      exact (List.prefix_append_right_inj _).2 (List.take_prefix _ _)

/-- What has been begun is also the beginning of more. -/
theorem ReportFile.Begins.append {f : ReportFile} {text : String} (h : f.Begins text)
    (more : String) : f.Begins (text ++ more) := by
  obtain ⟨written, hf, hprefix⟩ := h
  refine ⟨written, hf, hprefix.trans ?_⟩
  rw [utf8_append]
  exact List.prefix_append _ _

/-- The rows go behind what is in the file. -/
theorem Output.writeLines_spec (o : Output) (line : Json → String) (rows : List Json)
    {text : String} {f : ReportFile} (hf : f.bytes = some (utf8 text)) :
    Ensures (rows.forM fun row => o.writeLine (line row)) f
      (fun _ f' => f'.bytes = some (utf8 (text ++ String.join (rows.map line))))
      (fun e f' => o.LineFails e ∧ f'.Begins (text ++ String.join (rows.map line))) := by
  induction rows generalizing text f with
  | nil =>
      refine ensures_pure ?_
      rwa [List.map_nil, String.join_nil, String.append_empty]
  | cons row rows ih =>
      rw [List.map_cons, String.join_cons, ← String.append_assoc]
      refine ensures_bind ((o.writeLine_spec (line row) hf).mono (fun _ f' hf' => ih hf') ?_)
      rintro e f' ⟨hfails, hbegins⟩
      exact ⟨hfails, hbegins.append _⟩

/-- An answer has no rows. -/
def Json.Rowless (value : Json) : Prop := ∀ rows, value.at "buckets" ≠ .arr rows

/-- **What `write_csv` leaves**: the whole report if it returns; if it fails, what was there,
or the beginning of a report. -/
theorem writeCsv_spec (nested : Json → String) (o : Output) (value : Json)
    (before : Option (List UInt8)) :
    Ensures (writeCsv nested o value) { bytes := before }
      (fun _ f => f.bytes = some (utf8 (reportText nested value)))
      (fun e f => o.create = some e ∧ f.bytes = before ∨
        (o.LineFails e ∨ e = "invalid energy response" ∧ value.Rowless) ∧
          f.Begins (reportText nested value)) := by
  unfold writeCsv Output.createFile
  cases hcreate : o.create with
  | some e => exact ensures_bind (ensures_throw (.inl ⟨rfl, rfl⟩))
  | none =>
      have hempty : (some [] : Option (List UInt8)) = some (utf8 "") := rfl
      refine ensures_bind (ensures_set (ensures_bind ((o.writeLine_spec (csvLine csvKeys)
        hempty).mono ?_ ?_)))
      · intro _ f hf
        rw [String.empty_append] at hf
        cases hrows : value.at "buckets" with
        | arr rows =>
            have htext : reportText nested value = csvLine csvKeys ++ String.join (rows.map
                fun row => csvLine (csvKeys.map (csvField nested row))) := by
              rw [reportText, bucketRows, hrows]
            rw [htext]
            exact (o.writeLines_spec _ rows hf).mono (fun _ _ h => h)
              fun e f h => .inr ⟨.inl h.1, h.2⟩
        | _ =>
            refine ensures_throw (.inr ⟨.inr ⟨rfl, fun rows heq => ?_⟩, _, hf, ?_⟩)
            · rw [hrows] at heq
              cases heq
            · rw [reportText, utf8_append]
              exact List.prefix_append _ _
      · rintro e f ⟨hfails, hbegins⟩
        rw [String.empty_append] at hbegins
        exact .inr ⟨.inl hfails, hbegins.append _⟩

/-- A file that a reader of comma-separated values reads as some rows. -/
def ReportFile.ReadsAs (f : ReportFile) (rows : List (List String)) : Prop :=
  ∃ text, f.bytes = some (utf8 text) ∧ Csv.parse text = some rows

/-- **The file of a report is read as the rows of the answer.**  Whatever is in the answer,
if `write_csv` returns, the file is read as its columns and, for each row, what the fields of
the row show; for an energy answer these are the fields of its periods, and it only fails if a
system call does.  After a failure the file is as it was, or holds the beginning of the
report. -/
theorem energy_report_reads_back (nested : Json → String) (o : Output)
    (before : Option (List UInt8)) :
    (∀ value, Ensures (writeCsv nested o value) { bytes := before }
      (fun _ f => f.ReadsAs (csvKeys :: (bucketRows value).map fun row =>
        csvKeys.map fun key => cellText nested (row.at key)))
      (fun _ f => f.bytes = before ∨ f.Begins (reportText nested value))) ∧
    ∀ shown q buckets, Ensures (writeCsv nested o (energyAnswer shown q buckets))
      { bytes := before }
      (fun _ f => f.ReadsAs (csvKeys :: buckets.map (EnergySummary.cells shown)))
      (fun e _ => o.create = some e ∨ o.LineFails e) := by
  refine ⟨fun value => ?_, fun shown q buckets => ?_⟩
  · refine (writeCsv_spec nested o value before).mono ?_ ?_
    · exact fun _ f hf => ⟨_, hf, parse_reportText nested value⟩
    · exact fun _ f h => h.imp And.right And.right
  · refine (writeCsv_spec nested o (energyAnswer shown q buckets) before).mono ?_ ?_
    · intro _ f hf
      refine ⟨_, hf, ?_⟩
      have hrows : bucketRows (energyAnswer shown q buckets) =
          buckets.map (EnergySummary.json shown) := rfl
      rw [parse_reportText, hrows, List.map_map]
      congr 3
      funext s
      exact cells_json nested shown s
    · rintro e f (⟨hcreate, -⟩ | ⟨hfails | ⟨-, hrowless⟩, -⟩)
      · exact .inl hcreate
      · exact .inr hfails
      · exact absurd rfl (hrowless _)

end Railwatch
