/-
# The command of the panel

`openGui` of `clients/noctalia/railwatch/panel.luau` makes a command for a shell, with the id
of an incident in it that comes from the daemon.  `openGui_opens_one_program` says that the
shell makes of it one program with one argument for the id, whatever that is.

A shell command ends at a NUL, and an id that has one cannot be an argument.

The quoting is the usual one: single quotes around the text, and a single quote in it
written as an escaped one between two quoted parts.  `General/Shell` reads the command
as a POSIX shell does, character by character.
-/

import Railwatch.General.Shell

namespace Railwatch.Panel

open Shell

/-- `tostring(incident):gsub("'", "'\\''")`. -/
def escapeQuotes (s : String) : String :=
  String.ofList (s.toList.flatMap fun c => if c = '\'' then ['\'', '\\', '\'', '\''] else [c])

/-- The command of `openGui`. -/
def openGui (incident : Option String) : String :=
  "railwatch-gui" ++
    match incident with
    | none => ""
    | some id => " --page 2 --incident '" ++ escapeQuotes id ++ "'"

/-- The words of the command: how they are written, and what they are. -/
def guiWords (incident : Option String) : List (List Char × List Char) :=
  (("railwatch-gui" :: if incident.isSome then ["--page", "2", "--incident"] else []).map fun s =>
    (s.toList, s.toList)) ++ incident.toList.map fun id => (quote id.toList, id.toList)

/-- The command is its words with blanks between them. -/
theorem openGui_eq (incident : Option String) :
    openGui incident =
      String.ofList (List.intercalate [' '] ((guiWords incident).map Prod.fst)) := by
  rw [← String.toList_inj]
  cases incident with
  | none => simp [openGui, guiWords]
  | some id => simp [openGui, guiWords, quote, escapeQuotes, List.intercalate_cons_cons]

/-- Each word is spelled as the shell reads it: the constant ones as they are, the id in
quotes. -/
theorem guiWords_spelled {incident : Option String}
    (hnul : ∀ id ∈ incident, '\x00' ∉ id.toList) :
    ∀ w ∈ guiWords incident, Spells w.1 w.2 ∧ w.1 ≠ [] := by
  have hplain : ∀ s ∈ ["railwatch-gui", "--page", "2", "--incident"],
      s.toList.all (fun c => c.isAlphanum || c == '-') = true ∧ s.toList ≠ [] := by decide
  intro w hw
  obtain hw | hw := List.mem_append.1 hw
  · obtain ⟨s, hs, rfl⟩ := List.mem_map.1 hw
    have hs' : s ∈ ["railwatch-gui", "--page", "2", "--incident"] := by
      cases incident with
      | none => exact List.mem_singleton.1 hs ▸ List.mem_cons_self
      | some id => exact hs
    exact ⟨spells_self (hplain s hs').1, (hplain s hs').2⟩
  · obtain ⟨id, hid, rfl⟩ := List.mem_map.1 hw
    exact ⟨spells_quote (hnul id (Option.mem_toList.1 hid)), List.cons_ne_nil _ _⟩

/-- **The panel opens one program.**  The shell reads the command as the program and its
arguments, and the id as the last one, whatever characters but NUL it has. -/
theorem openGui_opens_one_program (incident : Option String)
    (hnul : ∀ id ∈ incident, '\x00' ∉ id.toList) :
    words (openGui incident) =
      some ("railwatch-gui" ::
        incident.toList.flatMap fun id => ["--page", "2", "--incident", id]) := by
  rw [openGui_eq, words_spelled (guiWords_spelled hnul)]
  cases incident <;> simp [guiWords]

/-- An id that would like to be a command. -/
theorem openGui_of_an_injection :
    openGui (some "';reboot;'") = "railwatch-gui --page 2 --incident ''\\'';reboot;'\\'''" ∧
      words (openGui (some "';reboot;'")) =
        some ["railwatch-gui", "--page", "2", "--incident", "';reboot;'"] :=
  ⟨by decide, openGui_opens_one_program (some "';reboot;'") (by decide)⟩

end Railwatch.Panel
