/-
# Comma-separated values

Lines of fields.  A field in double quotes may hold any characters, a double quote being
written twice; one without quotes holds no comma, double quote or line feed.  `parse` reads
a text with an automaton, one character after the other.

`parse_lines` says that lines whose fields are written in one of these two ways are read as
they were written.

A quote in a quoted field is decided by the character behind it, so that the automaton
has a state for what may be the end of a field.
-/

import Mathlib

namespace Csv

/-- Where the automaton stands in a field: at its start, in plain characters, between
quotes, or behind a quote that may be the last one. -/
inductive Mode where
  | start
  | plain
  | quoted
  | closing
  deriving DecidableEq, Repr

/-- The automaton: its field, and the fields and lines before. The mode says how the
next character is read. -/
structure Reader where
  mode : Mode := .start
  field : List Char := []
  row : List String := []
  rows : List (List String) := []
  deriving DecidableEq, Repr

/-- The end of a field. -/
def Reader.endField (r : Reader) : Reader :=
  { r with mode := .start, field := [], row := r.row ++ [String.ofList r.field] }

/-- The end of a line. -/
def Reader.endRow (r : Reader) : Reader :=
  { mode := .start, field := [], row := [], rows := r.rows ++ [r.endField.row] }

/-- One character. A quote that follows the closing one continues the field, as an
escaped quote; any other character but a comma or a line break is refused there, and so
is a quote inside a plain field. -/
def Reader.read (r : Reader) (c : Char) : Option Reader :=
  match r.mode with
  | .quoted =>
      if c = '"' then some { r with mode := .closing }
      else some { r with field := r.field ++ [c] }
  | .closing =>
      if c = '"' then some { r with mode := .quoted, field := r.field ++ [c] }
      else if c = ',' then some r.endField
      else if c = '\n' then some r.endRow
      else none
  | .start =>
      if c = '"' then some { r with mode := .quoted }
      else if c = ',' then some r.endField
      else if c = '\n' then some r.endRow
      else some { r with mode := .plain, field := r.field ++ [c] }
  | .plain =>
      if c = '"' then none
      else if c = ',' then some r.endField
      else if c = '\n' then some r.endRow
      else some { r with field := r.field ++ [c] }

/-- The lines of a text, if it ends with one. -/
def parse (text : String) : Option (List (List String)) := do
  let r ← text.toList.foldlM Reader.read {}
  if r.mode = .start ∧ r.row = [] then some r.rows else none

/-! ### Fields -/

/-- A double quote is written twice. -/
def double (s : List Char) : List Char := s.flatMap fun c => if c = '"' then [c, c] else [c]

/-- A field between quotes. -/
def quote (s : String) : String := "\"" ++ String.ofList (double s.toList) ++ "\""

/-- A text that writes a value: between quotes, or as it is. Both ways can write the
same value. -/
inductive Writes : String → String → Prop where
  | quoted (s : String) : Writes (quote s) s
  | plain {s : String} (h : ∀ c ∈ s.toList, c ≠ '"' ∧ c ≠ ',' ∧ c ≠ '\n') : Writes s s

/-- The automaton has read a value, from the start of a field on. It is in a mode in
which the field may end. -/
structure Reader.Has (r r' : Reader) (s : String) : Prop where
  /-- The field is not inside of quotes any more. -/
  mode : r'.mode ≠ .quoted
  /-- It is the value. -/
  field : r'.field = s.toList
  /-- The fields before it are as they were. -/
  row : r'.row = r.row
  /-- And so are the rows. -/
  rows : r'.rows = r.rows

/-- Inside quotes a text comes out of its doubled form: a pair of quotes is read as one
quote, and any other character as itself, line ends and commas included. -/
theorem read_double (s : List Char) (r : Reader) (h : r.mode = .quoted) :
    (double s).foldlM Reader.read r = some { r with field := r.field ++ s } := by
  induction s generalizing r with
  | nil =>
      rw [List.append_nil]
      rfl
  | cons c s ih =>
      rw [double, List.flatMap_cons, List.foldlM_append]
      by_cases hc : c = '"'
      · subst hc
        have hread : ['"', '"'].foldlM Reader.read r =
            some { r with field := r.field ++ ['"'] } := by
          simp [Reader.read, h]
        rw [if_pos rfl, hread]
        refine (ih { r with field := r.field ++ ['"'] } h).trans ?_
        simp
      · have hread : [c].foldlM Reader.read r = some { r with field := r.field ++ [c] } := by
          simp [Reader.read, h, hc]
        rw [if_neg hc, hread]
        refine (ih { r with field := r.field ++ [c] } h).trans ?_
        simp

/-- A field between quotes is read as what stands in them. The reader is left behind the
closing quote, where a comma or the end of the line may follow. -/
theorem read_quote (s : String) {r : Reader} (hmode : r.mode = .start) (hfield : r.field = []) :
    ∃ r', (quote s).toList.foldlM Reader.read r = some r' ∧ r.Has r' s := by
  refine ⟨{ r with mode := .closing, field := s.toList }, ?_, ⟨nofun, rfl, rfl, rfl⟩⟩
  have hopen : ['"'].foldlM Reader.read r = some { r with mode := .quoted } := by
    simp [Reader.read, hmode]
  have hdouble : (double s.toList).foldlM Reader.read { r with mode := .quoted } =
      some { r with mode := .quoted, field := s.toList } := by
    refine (read_double s.toList { r with mode := .quoted } rfl).trans ?_
    rw [hfield]
    rfl
  have hclose : ['"'].foldlM Reader.read { r with mode := .quoted, field := s.toList } =
      some { r with mode := .closing, field := s.toList } := by
    simp [Reader.read]
  have hchars : (quote s).toList = ['"'] ++ (double s.toList ++ ['"']) := by
    simp [quote]
  rw [hchars, List.foldlM_append, hopen]
  refine (List.foldlM_append ..).trans ?_
  rw [hdouble]
  exact hclose

/-- Outside of quotes a text without special characters is read as it is. The mode in
which it is left is not that of quotes, so a comma or a line end closes the field. -/
theorem read_plain (s : List Char) (h : ∀ c ∈ s, c ≠ '"' ∧ c ≠ ',' ∧ c ≠ '\n') {r : Reader}
    (hmode : r.mode = .start ∨ r.mode = .plain) :
    ∃ mode, mode ≠ .quoted ∧
      s.foldlM Reader.read r = some { r with mode := mode, field := r.field ++ s } := by
  induction s generalizing r with
  | nil =>
      refine ⟨r.mode, ?_, by rw [List.append_nil]; rfl⟩
      obtain hmode | hmode := hmode <;> rw [hmode] <;> nofun
  | cons c s ih =>
      obtain ⟨hquote, hcomma, hline⟩ := h c List.mem_cons_self
      have hread : r.read c = some { r with mode := .plain, field := r.field ++ [c] } := by
        obtain hmode | hmode := hmode
        · simp [Reader.read, hmode, hquote, hcomma, hline]
        · simp only [Reader.read, hmode, if_neg hquote, if_neg hcomma, if_neg hline]
      obtain ⟨mode, hne, hrest⟩ := ih (fun d hd => h d (List.mem_cons_of_mem c hd))
        (r := { r with mode := .plain, field := r.field ++ [c] }) (.inr rfl)
      refine ⟨mode, hne, ?_⟩
      rw [List.foldlM_cons, hread]
      refine hrest.trans ?_
      simp

/-- What writes a value is read as it. -/
theorem Writes.read {text value : String} (h : Writes text value) {r : Reader}
    (hmode : r.mode = .start) (hfield : r.field = []) :
    ∃ r', text.toList.foldlM Reader.read r = some r' ∧ r.Has r' value := by
  cases h with
  | quoted s => exact read_quote value hmode hfield
  | plain h =>
      obtain ⟨mode, hne, hread⟩ := read_plain text.toList h (.inl hmode)
      exact ⟨_, hread, ⟨hne, by rw [hfield]; rfl, rfl, rfl⟩⟩

/-! ### Lines -/

/-- A comma ends a field. -/
theorem Reader.Has.comma {r r' : Reader} {s : String} (h : r.Has r' s) :
    r'.read ',' = some { r with mode := .start, field := [], row := r.row ++ [s] } := by
  have hend : r'.read ',' = some r'.endField := by
    cases hmode : r'.mode with
    | quoted => exact absurd hmode h.mode
    | _ => simp [Reader.read, hmode]
  rw [hend, Reader.endField, h.field, h.row, h.rows, String.ofList_toList]

/-- A line feed ends a field, and the row with it. -/
theorem Reader.Has.lineFeed {r r' : Reader} {s : String} (h : r.Has r' s) :
    r'.read '\n' = some { rows := r.rows ++ [r.row ++ [s]] } := by
  have hend : r'.read '\n' = some r'.endRow := by
    cases hmode : r'.mode with
    | quoted => exact absurd hmode h.mode
    | _ => simp [Reader.read, hmode]
  rw [hend, Reader.endRow, Reader.endField, h.field, h.row, h.rows, String.ofList_toList]

/-- A line. -/
def line (fields : List String) : String := ",".intercalate fields ++ "\n"

/-- A line of fields is read as their values. By induction on the fields: a comma closes
each but the last one, and the line feed closes that and the row. -/
theorem read_line {fields : List (String × String)} (hne : fields ≠ [])
    (hfields : ∀ f ∈ fields, Writes f.1 f.2) {r : Reader} (hmode : r.mode = .start)
    (hfield : r.field = []) :
    (line (fields.map Prod.fst)).toList.foldlM Reader.read r =
      some { rows := r.rows ++ [r.row ++ fields.map Prod.snd] } := by
  induction fields generalizing r with
  | nil => exact absurd rfl hne
  | cons f fields ih =>
      obtain ⟨r', hread, hhas⟩ := (hfields f List.mem_cons_self).read hmode hfield
      by_cases hlast : fields = []
      · subst hlast
        have hchars : (line [f.1]).toList = f.1.toList ++ ['\n'] := by simp [line]
        rw [List.map_singleton, List.map_singleton, hchars, List.foldlM_append, hread]
        show ['\n'].foldlM Reader.read r' = _
        rw [List.foldlM_cons, hhas.lineFeed]
        rfl
      · have hchars : (line ((f :: fields).map Prod.fst)).toList =
            f.1.toList ++ ',' :: (line (fields.map Prod.fst)).toList := by
          rw [List.map_cons, line, String.intercalate_cons_of_ne_nil (by simpa using hlast), line]
          simp
        rw [hchars, List.foldlM_append, hread]
        show (',' :: (line (fields.map Prod.fst)).toList).foldlM Reader.read r' = _
        rw [List.foldlM_cons, hhas.comma]
        refine (ih hlast (fun g hg => hfields g (List.mem_cons_of_mem f hg)) rfl rfl).trans ?_
        simp

/-- **Lines are read as they were written.** By induction on the lines: the reader is at
the start of a row again behind each of them. -/
theorem parse_lines {lines : List (List (String × String))} (hne : ∀ fields ∈ lines, fields ≠ [])
    (hlines : ∀ fields ∈ lines, ∀ f ∈ fields, Writes f.1 f.2) :
    parse (String.join (lines.map fun fields => line (fields.map Prod.fst))) =
      some (lines.map fun fields => fields.map Prod.snd) := by
  have hrows : ∀ rows : List (List String),
      (lines.flatMap fun fields => (line (fields.map Prod.fst)).toList).foldlM Reader.read
          { rows := rows } =
        some { rows := rows ++ lines.map fun fields => fields.map Prod.snd } := by
    induction lines with
    | nil => simp
    | cons fields lines ih =>
        intro rows
        rw [List.flatMap_cons, List.foldlM_append,
          read_line (hne fields List.mem_cons_self) (hlines fields List.mem_cons_self) rfl rfl]
        refine (ih (fun f hf => hne f (List.mem_cons_of_mem _ hf))
          (fun f hf => hlines f (List.mem_cons_of_mem _ hf)) _).trans ?_
        simp
  have hchars : (String.join (lines.map fun fields => line (fields.map Prod.fst))).toList =
      lines.flatMap fun fields => (line (fields.map Prod.fst)).toList := by
    rw [String.toList_join, List.flatMap_map]
  rw [parse, hchars, hrows []]
  simp

end Csv
