/-
# How long the sound is muted

`notify silence` writes the time until which the notifier makes no sound, and the notifier
reads it in each turn of its loop.  The file is written in place: it is truncated, what is
written may come in portions, and the command may fail or be killed between any two system
calls.  So the notifier can find nothing, or the first digits of the number only.

These are a smaller number, so that nobody is silenced for longer than asked for
(`sound_is_muted_as_asked`).  The commands come one after the other here; two at the same
time could mix their digits.  The clock is after 1970, where it is not negative.
-/

import Railwatch.General.Decimals
import Railwatch.Notify.Persistence

namespace Railwatch

open Decimals

/-- A `notify silence` command: when it reads the clock, and its minutes.  The clock has
the milliseconds of a date. -/
structure Silencing where
  /-- When it reads the clock. -/
  atMs : ℤ
  /-- For how long. -/
  minutes : ℕ
  /-- The sum of both is an `i64`. -/
  clock : -2 ^ 62 ≤ atMs ∧ atMs < 2 ^ 62
  deriving DecidableEq

/-- `until`. -/
def Silencing.untilMs (s : Silencing) : ℤ := s.atMs + s.minutes * 60000

/-- The notifier and the file `silence`, with what the command that runs has left to write.
`asked` has the commands that opened the file, and `confirmed` the last of them if it
returned. -/
structure SilencedNotifier where
  /-- The notifier. -/
  notifier : Notifier := {}
  /-- The file, if there is one. -/
  file : Option (List Char) := none
  /-- What a command that runs has still to write. -/
  writing : Option (List Char) := none
  /-- The commands that opened the file. -/
  asked : List Silencing := []
  /-- The last of them, if it returned. -/
  confirmed : Option Silencing := none

/-- What may happen: a command opens and truncates the file, writes some characters, returns
when all are written, or ends otherwise; or the notifier makes a step. -/
inductive SilenceOp where
  | silence (s : Silencing)
  | write (n : ℕ)
  | confirm
  | endCommand
  | notify (op : NotifyOp)

/-- What the loop reads: the number in the file, if there is one. -/
def readSilence (file : Option (List Char)) : Option ℤ := file.bind (parse (-2 ^ 63) (2 ^ 63))

/-- A step of the notifier with what it reads. -/
def NotifyOp.reading (silence : Option ℤ) : NotifyOp → NotifyOp
  | .start silent => .start silent
  | .cycle c => .cycle { c with silence }

/-- One step, of the command or of the notifier. The command empties the file, writes
the time in portions and then confirms it; it may end in between. The notifier reads the
file as it is at that moment. -/
def SilencedNotifier.step (m : SilencedNotifier) : SilenceOp → SilencedNotifier
  | .silence s =>
      if s.minutes ≤ 1440 ∧ m.writing = none then
        { m with
          file := some []
          writing := some (text s.untilMs)
          asked := m.asked ++ [s]
          confirmed := none }
      else m
  | .write n =>
      match m.writing with
      | some left =>
          { m with
            file := m.file.map fun content => content ++ left.take n
            writing := some (left.drop n) }
      | none => m
  | .confirm =>
      if m.writing = some [] then
        { m with writing := none, confirmed := m.asked.getLast? }
      else m
  | .endCommand => { m with writing := none }
  | .notify op => { m with notifier := m.notifier.step (op.reading (readSilence m.file)) }

/-- The session after a sequence of steps. -/
def SilencedNotifier.run (ops : List SilenceOp) : SilencedNotifier :=
  Transition.run SilencedNotifier.step {} ops

/-! ### The file -/

/-- What is in the file is the beginning of the last number; a command that runs writes the
rest, and one that returned has written all of it. -/
structure SilencedNotifier.Written (m : SilencedNotifier) : Prop where
  /-- Before the first command there is no file. -/
  nothing : m.asked = [] → m.file = none
  /-- The file is a beginning of the last number. -/
  digits : ∀ s, m.asked.getLast? = some s →
    ∃ content, m.file = some content ∧ content <+: text s.untilMs
  /-- A command that runs still has the rest of it. -/
  writing : ∀ left, m.writing = some left → m.confirmed = none ∧ ∃ s content,
    m.asked.getLast? = some s ∧ m.file = some content ∧ content ++ left = text s.untilMs
  /-- One that has returned has written it all. -/
  confirmed : ∀ s, m.confirmed = some s →
    m.asked.getLast? = some s ∧ m.file = some (text s.untilMs)
  /-- A command is for 24 hours at most. -/
  minutes : ∀ s ∈ m.asked, s.minutes ≤ 1440

namespace SilencedNotifier.Written

variable {m : SilencedNotifier}

/-- A command empties the file, and has its number still to write. From here on nothing
is confirmed, and whatever the command before it had written is gone. -/
theorem silence (h : m.Written) {s : Silencing} (hminutes : s.minutes ≤ 1440) :
    SilencedNotifier.Written { m with
      file := some []
      writing := some (text s.untilMs)
      asked := m.asked ++ [s]
      confirmed := none } where
  nothing hnone := absurd hnone (List.append_ne_nil_of_right_ne_nil _ (List.cons_ne_nil _ _))
  digits s' hs' := by
    rw [List.getLast?_concat] at hs'
    exact ⟨[], rfl, List.nil_prefix⟩
  writing left hleft := by
    obtain rfl := Option.some.inj hleft
    exact ⟨rfl, s, [], List.getLast?_concat, rfl, rfl⟩
  confirmed s' hs' := absurd hs'.symm (Option.some_ne_none s')
  minutes s' hs' := by
    obtain hs' | hs' := List.mem_append.1 hs'
    · exact h.minutes s' hs'
    · rw [List.mem_singleton.1 hs']
      exact hminutes

/-- It writes the next bytes of it. What the file holds is a beginning of the number,
and what is left is the rest of it, so a number that is read too early has fewer digits. -/
theorem write (h : m.Written) {left : List Char} (hwriting : m.writing = some left) (n : ℕ) :
    SilencedNotifier.Written { m with
      file := m.file.map fun content => content ++ left.take n
      writing := some (left.drop n) } := by
  obtain ⟨hconfirmed, s, content, hs, hfile, htext⟩ := h.writing left hwriting
  have hnext : m.file.map (fun content => content ++ left.take n) =
      some (content ++ left.take n) := by
    rw [hfile]
    rfl
  have hrest : (content ++ left.take n) ++ left.drop n = text s.untilMs := by
    rw [List.append_assoc, List.take_append_drop, htext]
  refine ⟨fun hnone => ?_, fun s' hs' => ?_, fun left' hleft => ?_, fun s' hs' => ?_, h.minutes⟩
  · rw [hnone] at hs
    cases hs
  · obtain rfl := Option.some.inj (hs.symm.trans hs')
    exact ⟨_, hnext, left.drop n, hrest⟩
  · obtain rfl := Option.some.inj hleft
    exact ⟨hconfirmed, s, _, hs, hnext, hrest⟩
  · exact absurd (hconfirmed.symm.trans hs').symm (Option.some_ne_none s')

/-- When it has written them all it returns. -/
theorem confirm (h : m.Written) (hwriting : m.writing = some []) :
    SilencedNotifier.Written { m with writing := none, confirmed := m.asked.getLast? } := by
  obtain ⟨-, s, content, hs, hfile, htext⟩ := h.writing [] hwriting
  refine ⟨h.nothing, h.digits, fun left hleft => absurd hleft.symm (Option.some_ne_none left),
    fun s' hs' => ⟨hs', ?_⟩, h.minutes⟩
  obtain rfl := Option.some.inj (hs.symm.trans hs')
  rw [hfile, ← htext, List.append_nil]

/-- **Every step keeps the file a beginning of the last number.** The command empties
the file first and then writes the digits from the left, so what it leaves when it ends
is a part of them. -/
theorem step (h : m.Written) (op : SilenceOp) : (m.step op).Written := by
  cases op with
  | silence s =>
      show SilencedNotifier.Written (if s.minutes ≤ 1440 ∧ m.writing = none then _ else m)
      split_ifs with hmay
      · exact h.silence hmay.1
      · exact h
  | write n =>
      unfold SilencedNotifier.step
      cases hwriting : m.writing with
      | none => exact h
      | some left => exact h.write hwriting n
  | confirm =>
      show SilencedNotifier.Written (if m.writing = some [] then _ else m)
      split_ifs with hwriting
      · exact h.confirm hwriting
      · exact h
  | endCommand =>
      exact ⟨h.nothing, h.digits, fun left hleft => absurd hleft.symm (Option.some_ne_none left),
        h.confirmed, h.minutes⟩
  | notify op => exact ⟨h.nothing, h.digits, h.writing, h.confirmed, h.minutes⟩

/-- What is read while the clock says `now` is in the future only if the last command was
asked to silence until then. -/
theorem lt_untilMs (h : m.Written) {now : ℤ} (hnow : 0 ≤ now)
    (hmuted : now < (readSilence m.file).getD 0) :
    ∃ s, m.asked.getLast? = some s ∧ now < s.untilMs := by
  cases hread : readSilence m.file with
  | none =>
      rw [hread] at hmuted
      exact absurd hmuted (not_lt.2 hnow)
  | some v =>
      rw [hread, Option.getD_some] at hmuted
      cases hasked : m.asked.getLast? with
      | none =>
          rw [readSilence, h.nothing (List.getLast?_eq_none_iff.1 hasked)] at hread
          cases hread
      | some s =>
          obtain ⟨content, hfile, hdigits⟩ := h.digits s hasked
          rw [readSilence, hfile, Option.bind_some] at hread
          have hle := parse_le_of_prefix hdigits hread
          exact ⟨s, rfl, by omega⟩

/-- What a command has confirmed is read. -/
theorem readSilence_eq (h : m.Written) {s : Silencing} (hconfirmed : m.confirmed = some s) :
    readSilence m.file = some s.untilMs := by
  obtain ⟨hlast, hfile⟩ := h.confirmed s hconfirmed
  have hminutes := h.minutes s (List.mem_of_getLast? hlast)
  have hclock := s.clock
  rw [hfile, readSilence, Option.bind_some]
  refine parse_text ?_ ?_ <;> unfold Silencing.untilMs <;> omega

end SilencedNotifier.Written

/-- So the file is a beginning of the last number in every run. -/
theorem SilencedNotifier.written_run (ops : List SilenceOp) :
    (SilencedNotifier.run ops).Written := by
  refine Transition.run_induction (I := SilencedNotifier.Written) _ ?_ (fun _ op h => h.step op) ops
  exact ⟨fun _ => rfl, fun s hs => absurd hs.symm (Option.some_ne_none s),
    fun left hleft => absurd hleft.symm (Option.some_ne_none left),
    fun s hs => absurd hs.symm (Option.some_ne_none s), fun s hs => absurd hs List.not_mem_nil⟩

/-! ### The sound -/

/-- The call of a turn has a sound unless the process is silent or the time has not come. -/
theorem NotifyProcess.turn_sound {p : NotifyProcess} {c : Cycle} {call : DeliverCall}
    (h : (p.turn c).2 = some call) :
    call.sound = (!p.silent && decide (c.silence.getD 0 ≤ c.now)) := by
  unfold NotifyProcess.turn at h
  cases hsnapshot : c.snapshot with
  | error e =>
      simp only [hsnapshot] at h
      cases h
  | ok incidents =>
      simp only [hsnapshot] at h
      split_ifs at h
      rw [← Option.some.inj h]
      rfl

/-- The calls that a cycle adds. -/
theorem NotifyProcess.calls_cycle (p : NotifyProcess) (n : Notifier) (c : Cycle) :
    (p.cycle n c).calls = n.calls ++ (p.turn c).2.toList := by
  unfold NotifyProcess.cycle NotifyProcess.turn
  cases c.snapshot with
  | error e => exact (List.append_nil _).symm
  | ok incidents =>
      dsimp only
      split_ifs with hpending
      · exact (List.append_nil _).symm
      · cases c.save with
        | ok => rfl
        | error e => rfl

/-- **The sound is muted as asked for, and no longer.**  Whatever commands there were and
however they ended, take the calls of the next cycle.  One without a sound comes from a
silent process, or before the time that the last command was given for, at most 24 hours
after it.  If that command returned, a process that is not silent makes a sound if and only
if its time has come. -/
theorem sound_is_muted_as_asked (ops : List SilenceOp) (c : Cycle) {p : NotifyProcess}
    (hprocess : (SilencedNotifier.run ops).notifier.process = some p) (hnow : 0 ≤ c.now) :
    let m := SilencedNotifier.run ops
    ∃ made, (m.step (.notify (.cycle c))).notifier.calls = m.notifier.calls ++ made ∧
      ∀ call ∈ made,
        (call.sound = false → p.silent = true ∨ ∃ s, m.asked.getLast? = some s ∧
          c.now < s.untilMs ∧ s.untilMs ≤ s.atMs + 24 * 3600000) ∧
        (∀ s, m.confirmed = some s →
          call.sound = (!p.silent && decide (s.untilMs ≤ c.now))) := by
  intro m
  have hwritten : m.Written := SilencedNotifier.written_run ops
  refine ⟨(p.turn { c with silence := readSilence m.file }).2.toList, ?_, fun call hcall => ?_⟩
  · show (m.notifier.step (.cycle { c with silence := readSilence m.file })).calls = _
    rw [Notifier.step_cycle hprocess, p.calls_cycle]
  have hsound := NotifyProcess.turn_sound (Option.mem_toList.1 hcall)
  refine ⟨fun hmute => ?_, fun s hs => ?_⟩
  · rw [hsound, Bool.and_eq_false_iff, Bool.not_eq_false', decide_eq_false_iff_not, not_le] at hmute
    refine hmute.imp_right fun hmuted => ?_
    obtain ⟨s, hs, hlt⟩ := hwritten.lt_untilMs hnow hmuted
    have hminutes := hwritten.minutes s (List.mem_of_getLast? hs)
    refine ⟨s, hs, hlt, ?_⟩
    unfold Silencing.untilMs
    omega
  · rw [hsound, hwritten.readSilence_eq hs]
    rfl

/-- A quarter of an hour. -/
def quarterHour : Silencing := ⟨1000000000000, 15, by norm_num, by norm_num⟩

/-- A command of which only four digits were written, and one that returned. -/
def silencedTwice : List SilenceOp := [.notify (.start false), .silence quarterHour, .write 4,
  .endCommand, .silence quarterHour, .write 20, .confirm]

/-- The warning that comes then makes no sound, though the file has been written before:
the last confirmed command is the one that counts. -/
theorem sound_is_muted_after_confirmation :
    let m := SilencedNotifier.run silencedTwice
    ∃ call, (m.step (.notify (warningCycle 1000000001000 ["fan"]))).notifier.calls = [call] ∧
      call.sound = false := by
  intro m
  have hprocess : m.notifier.process = some ⟨false, {}⟩ := rfl
  have hconfirmed : m.confirmed = some quarterHour := by decide +kernel
  have hlength : (m.step (.notify (warningCycle 1000000001000 ["fan"]))).notifier.calls.length =
      1 := by decide +kernel
  obtain ⟨made, hcalls, hmade⟩ := sound_is_muted_as_asked silencedTwice
    { now := 1000000001000, snapshot := .ok [listedWarning "fan"] } hprocess (by norm_num)
  have hcalls : (m.step (.notify (warningCycle 1000000001000 ["fan"]))).notifier.calls = made :=
    hcalls
  rw [hcalls] at hlength ⊢
  obtain ⟨call, rfl⟩ := List.length_eq_one_iff.1 hlength
  refine ⟨call, rfl, ?_⟩
  rw [(hmade call (List.mem_singleton_self call)).2 quarterHour hconfirmed]
  decide +kernel

end Railwatch
