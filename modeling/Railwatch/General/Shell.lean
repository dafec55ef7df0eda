/-
# Words of a shell command

How a POSIX shell splits a command into words and removes its quotes, as far as a command is
nothing but its words: `words` is `none` for one with an operator, an expansion, a pattern, an
assignment, a comment, a character that ends it, or an open quote.

`words_spelled` says that texts which spell words are read as these words, and
`spells_quote` that any text can be spelled.

Texts that need an expansion are left out on purpose: what such a command does depends
on the environment, and a command that is made of data must not.
-/

import Mathlib

namespace Shell

/-- Where the reader stands: outside quotes, in one of the two kinds of quotes, or behind a
backslash. -/
inductive Mode where
  | plain
  | single
  | double
  | escape
  | doubleEscape
  deriving DecidableEq, Repr

/-- The reader: its word, if it has begun, and the words before. A word that has begun
may still be empty, between two quotes. -/
structure Reader where
  mode : Mode := .plain
  word : Option (List Char) := none
  words : List String := []
  deriving DecidableEq, Repr

/-- One more character of the word. -/
def Reader.add (r : Reader) (c : Char) : Reader := { r with word := some (r.word.getD [] ++ [c]) }

/-- A quote begins; the word has begun, even if nothing comes. -/
def Reader.enter (r : Reader) (mode : Mode) : Reader :=
  { r with mode, word := some (r.word.getD []) }

/-- The end of a word. -/
def Reader.endWord (r : Reader) : Reader :=
  match r.word with
  | none => r
  | some word => { r with word := none, words := r.words ++ [String.ofList word] }

/-- The characters that are no part of a literal word without quotes. -/
def special : List Char :=
  ['\n', ';', '&', '|', '<', '>', '(', ')', '$', '`', '*', '?', '[', ']', '#', '~', '=', '!', '^',
    '\x7b', '\x7d']

/-- One character. Blanks end a word, and quotes and the backslash have their meaning
from where they stand: between single quotes nothing is special, and between double
quotes a backslash escapes `$`, a backquote, `"` and itself. What would need an
expansion is refused. -/
def Reader.read (r : Reader) (c : Char) : Option Reader :=
  if c = '\x00' then none
  else
    match r.mode with
    | .plain =>
        if c = ' ' ∨ c = '\t' then some r.endWord
        else if c = '\'' then some (r.enter .single)
        else if c = '"' then some (r.enter .double)
        else if c = '\\' then some { r with mode := .escape }
        else if c ∈ special then none
        else some (r.add c)
    | .single => if c = '\'' then some { r with mode := .plain } else some (r.add c)
    | .double =>
        if c = '"' then some { r with mode := .plain }
        else if c = '\\' then some { r with mode := .doubleEscape }
        else if c = '$' ∨ c = '`' then none
        else some (r.add c)
    | .escape =>
        if c = '\n' then some { r with mode := .plain }
        else some { r.add c with mode := .plain }
    | .doubleEscape =>
        if c = '\n' then some { r with mode := .double }
        else if c = '$' ∨ c = '`' ∨ c = '"' ∨ c = '\\' then some { r.add c with mode := .double }
        else some { (r.add '\\').add c with mode := .double }

/-- The words of a command. -/
def words (command : String) : Option (List String) := do
  let r ← command.toList.foldlM Reader.read {}
  if r.mode = .plain then some r.endWord.words else none

/-! ### Spelling -/

/-- A character that stands for itself. -/
def Ordinary (c : Char) : Prop := c ∉ '\x00' :: ' ' :: '\t' :: '\'' :: '"' :: '\\' :: special

/-- Letters, digits and hyphens do. -/
theorem ordinary_of_isAlphanum {c : Char} (h : (c.isAlphanum || c == '-') = true) :
    Ordinary c := by
  have hnone : ('\x00' :: ' ' :: '\t' :: '\'' :: '"' :: '\\' :: special).all
      (fun d => !(d.isAlphanum || d == '-')) = true := rfl
  intro hmem
  have hc := List.all_eq_true.1 hnone c hmem
  rw [h] at hc
  exact Bool.false_ne_true hc

/-- A text that spells another one: characters that stand for themselves, characters behind a
backslash, and anything in single quotes. -/
inductive Spells : List Char → List Char → Prop where
  | nil : Spells [] []
  | plain {c : Char} {text word : List Char} (hc : Ordinary c) (h : Spells text word) :
      Spells (c :: text) (c :: word)
  | escaped {c : Char} {text word : List Char} (hnul : c ≠ '\x00') (hline : c ≠ '\n')
      (h : Spells text word) : Spells ('\\' :: c :: text) (c :: word)
  | single {quoted text word : List Char} (hquoted : ∀ c ∈ quoted, c ≠ '\x00' ∧ c ≠ '\'')
      (h : Spells text word) : Spells ('\'' :: (quoted ++ '\'' :: text)) (quoted ++ word)

/-- In single quotes each character stands for itself, but for the closing quote and
NUL. Not even a backslash is special there. -/
theorem read_single (s : List Char) (h : ∀ c ∈ s, c ≠ '\x00' ∧ c ≠ '\'') {r : Reader}
    {word : List Char} (hmode : r.mode = .single) (hword : r.word = some word) :
    s.foldlM Reader.read r = some { r with word := some (word ++ s) } := by
  induction s generalizing r word with
  | nil =>
      rw [List.append_nil, ← hword]
      rfl
  | cons c s ih =>
      obtain ⟨hnul, hquote⟩ := h c List.mem_cons_self
      have hread : r.read c = some { r with word := some (word ++ [c]) } := by
        simp [Reader.read, Reader.add, hmode, hword, hnul, hquote]
      rw [List.foldlM_cons, hread]
      refine (ih (fun d hd => h d (List.mem_cons_of_mem c hd))
        (r := { r with word := some (word ++ [c]) }) hmode rfl).trans ?_
      simp

/-- The word so far, and what a text spells. -/
theorem Spells.append {text word : List Char} (h : Spells text word) (begun : List Char) :
    (if text = [] then some begun else some (begun ++ word)) = some (begun ++ word) := by
  split_ifs with hnil
  · subst hnil
    cases h
    rw [List.append_nil]
  · rfl

/-- What is spelled is read, at the end of the word that has been begun or as the
beginning of one. By induction over the spelling: plain characters, escaped ones, and
quoted parts, each of which leaves the reader outside of quotes. -/
theorem Spells.read {text word : List Char} (h : Spells text word) {r : Reader}
    (hmode : r.mode = .plain) : text.foldlM Reader.read r =
      some { r with word := if text = [] then r.word else some (r.word.getD [] ++ word) } := by
  induction h generalizing r with
  | nil => rfl
  | @plain c text word hc h ih =>
      obtain ⟨hnul, hblank, htab, hquote, hdouble, hescape, hspecial⟩ : c ≠ '\x00' ∧ c ≠ ' ' ∧
          c ≠ '\t' ∧ c ≠ '\'' ∧ c ≠ '"' ∧ c ≠ '\\' ∧ c ∉ special := by
        simpa [Ordinary] using hc
      have hread : r.read c = some (r.add c) := by
        simp [Reader.read, hmode, hnul, hblank, htab, hquote, hdouble, hescape, hspecial]
      have hrest := ih (r := r.add c) hmode
      simp only [Reader.add, Option.getD_some, h.append] at hrest
      rw [List.foldlM_cons, hread, if_neg (List.cons_ne_nil c text)]
      refine hrest.trans ?_
      simp
  | @escaped c text word hnul hline h ih =>
      have hread : ['\\', c].foldlM Reader.read r = some (r.add c) := by
        have hbackslash : r.read '\\' = some { r with mode := .escape } := by
          simp [Reader.read, hmode]
        rw [List.foldlM_cons, hbackslash]
        simp [Reader.read, Reader.add, hnul, hline, hmode]
      have hrest := ih (r := r.add c) hmode
      simp only [Reader.add, Option.getD_some, h.append] at hrest
      have hsplit : '\\' :: c :: text = ['\\', c] ++ text := rfl
      rw [hsplit, List.foldlM_append, hread, if_neg (by simp)]
      refine hrest.trans ?_
      simp
  | @single quoted text word hquoted h ih =>
      have hopen : r.read '\'' = some (r.enter .single) := by
        simp [Reader.read, hmode]
      have hinside := read_single quoted hquoted (r := r.enter .single) rfl rfl
      have hclose : ({ r.enter .single with
          word := some (r.word.getD [] ++ quoted) } : Reader).read '\'' =
            some { r with word := some (r.word.getD [] ++ quoted) } := by
        simp [Reader.read, Reader.enter, hmode]
      have hrest := ih (r := { r with word := some (r.word.getD [] ++ quoted) }) hmode
      simp only [Option.getD_some, h.append] at hrest
      rw [List.foldlM_cons, hopen, if_neg (List.cons_ne_nil _ _)]
      refine (List.foldlM_append ..).trans ?_
      rw [hinside]
      show ('\'' :: text).foldlM Reader.read { r.enter .single with
        word := some (r.word.getD [] ++ quoted) } = _
      rw [List.foldlM_cons, hclose]
      refine hrest.trans ?_
      simp

/-- Letters, digits and hyphens spell themselves. -/
theorem spells_self {s : List Char} (h : s.all (fun c => c.isAlphanum || c == '-') = true) :
    Spells s s := by
  induction s with
  | nil => exact .nil
  | cons c s ih =>
      rw [List.all_cons, Bool.and_eq_true] at h
      exact .plain (ordinary_of_isAlphanum h.1) (ih h.2)

/-- Any text without a NUL is spelled by quoting it. -/
def quote (s : List Char) : List Char :=
  '\'' :: (s.flatMap (fun c => if c = '\'' then ['\'', '\\', '\'', '\''] else [c]) ++ ['\''])

/-- A quoted text is spelled as the text, whatever is in it but a NUL. Each quote in it
closes the quoted part, is escaped, and opens another part; the induction goes over the
text with the part that is open. -/
theorem spells_quote {s : List Char} (h : '\x00' ∉ s) : Spells (quote s) s := by
  suffices hinside : ∀ quoted : List Char, (∀ c ∈ quoted, c ≠ '\x00' ∧ c ≠ '\'') →
      Spells ('\'' :: (quoted ++ (s.flatMap (fun c => if c = '\'' then ['\'', '\\', '\'', '\'']
        else [c]) ++ ['\'']))) (quoted ++ s) from hinside [] nofun
  induction s with
  | nil => exact fun quoted hquoted => .single hquoted .nil
  | cons c s ih =>
      intro quoted hquoted
      have hrest := ih fun hs => h (List.mem_cons_of_mem c hs)
      by_cases hc : c = '\''
      · subst hc
        have hescaped := Spells.single hquoted
          (.escaped (c := '\'') (by decide) (by decide) (hrest [] nofun))
        simpa using hescaped
      · have hnul : c ≠ '\x00' := fun heq => h (heq ▸ List.mem_cons_self)
        have hlonger := hrest (quoted ++ [c]) fun d hd => by
          obtain hd | hd := List.mem_append.1 hd
          · exact hquoted d hd
          · obtain rfl := List.mem_singleton.1 hd
            exact ⟨hnul, hc⟩
        simpa [hc] using hlonger

/-- Words with blanks between them are read as these words, in their order and none of
them split or joined. -/
theorem read_spelled {spelled : List (List Char × List Char)} (hne : spelled ≠ [])
    (h : ∀ w ∈ spelled, Spells w.1 w.2 ∧ w.1 ≠ []) {r : Reader} (hmode : r.mode = .plain)
    (hword : r.word = none) :
    ∃ r', (List.intercalate [' '] (spelled.map Prod.fst)).foldlM Reader.read r = some r' ∧
      r'.mode = .plain ∧
      r'.endWord.words = r.words ++ spelled.map fun w => String.ofList w.2 := by
  induction spelled generalizing r with
  | nil => exact absurd rfl hne
  | cons w spelled ih =>
      obtain ⟨hspells, htext⟩ := h w List.mem_cons_self
      have hread := hspells.read hmode
      rw [if_neg htext, hword] at hread
      by_cases hlast : spelled = []
      · subst hlast
        refine ⟨{ r with word := some (([] : List Char) ++ w.2) }, ?_, hmode, rfl⟩
        rw [List.map_singleton, List.intercalate_singleton]
        exact hread
      · have hblank : ({ r with word := some (([] : List Char) ++ w.2) } : Reader).read ' ' =
            some { r with word := none, words := r.words ++ [String.ofList w.2] } := by
          simp [Reader.read, Reader.endWord, hmode]
        obtain ⟨r', hrest, hplain, hwords⟩ :=
          ih hlast (fun v hv => h v (List.mem_cons_of_mem w hv))
            (r := { r with word := none, words := r.words ++ [String.ofList w.2] }) hmode rfl
        refine ⟨r', ?_, hplain, ?_⟩
        · rw [List.map_cons, List.intercalate_cons_of_ne_nil (by simpa using hlast),
            List.foldlM_append, List.foldlM_append, hread]
          show ([' '].foldlM Reader.read
            { r with word := some (([] : List Char) ++ w.2) }).bind _ = _
          rw [List.foldlM_cons, hblank]
          exact hrest
        · rw [hwords, List.map_cons, List.append_assoc]
          rfl

/-- **Words that are spelled are read.** The reader is between words behind each blank,
and within a spelled word it neither ends it nor refuses a character. -/
theorem words_spelled {spelled : List (List Char × List Char)}
    (h : ∀ w ∈ spelled, Spells w.1 w.2 ∧ w.1 ≠ []) :
    words (String.ofList (List.intercalate [' '] (spelled.map Prod.fst))) =
      some (spelled.map fun w => String.ofList w.2) := by
  by_cases hne : spelled = []
  · subst hne
    rfl
  · obtain ⟨r', hread, hplain, hwords⟩ := read_spelled hne h (r := {}) rfl rfl
    rw [words, String.toList_ofList, hread]
    show (if r'.mode = .plain then some r'.endWord.words else none) = _
    rw [if_pos hplain, hwords, List.nil_append]

end Shell
