/-
# The state file of the notifier

`src/notify.rs`: `load` and `save`, system call by system call, below the loop of `notify
run`.  The process can be killed before any of them, any of them can fail, a write may take
only some of the bytes, and power can be lost at any moment; a process that is killed while
it delivers is one that is killed before it saves.

`saves_refine_the_notifier` says that the notifier whose file is its state is what this
comes to, as long as power is not lost.  `state_file_is_whole` says that the file is never
there in part, not even then, so that the notifier starts again.

The saved texts are those of `serde_json`, of which only the round trip is used, and
only for the states that were given to it.  Between two saves the records of the process
are ahead of those in the file: a process that is killed there delivers again.
-/

import Railwatch.General.Files
import Railwatch.Notify.Notifier

namespace Railwatch

open Files

/-- The name of the state file. -/
def statePath : String := "notifications.json"

/-- `path.with_extension("tmp")`. -/
def temporaryPath : String := "notifications.tmp"

/-- Where a process stands: in its loop, or before a system call of `save`.  `writing` has
the number of the open file and the bytes that are left. -/
inductive SaveStage where
  | looping
  | opening
  | writing (file : ℕ) (left : List UInt8)
  | renaming
  deriving DecidableEq, Repr

/-- A process, with the stage of its save. It goes on with its loop when the save is
done. -/
structure SavingProcess extends NotifyProcess where
  /-- How far its save is. -/
  stage : SaveStage := .looping

/-- The notifier of a user session, with its disk; `given` has the states that were handed
to `save`. -/
structure NotifySession where
  /-- The disk. -/
  disk : Disk String UInt8 := {}
  /-- The process, if one runs. -/
  process : Option SavingProcess := none
  /-- The calls of `deliver` so far. -/
  calls : List DeliverCall := []
  /-- The states that were handed to `save`. -/
  given : List NotifyState := []

/-- What may happen: a process starts, goes through its loop once up to the save, makes a
system call of the save, or ends; or power is lost. -/
inductive SavingOp where
  | start (silent : Bool)
  | cycle (c : Cycle)
  | openTemporary
  | write (n : ℕ)
  | sync
  | rename
  | endProcess
  | losePower (back : ℕ) (left : ℕ → List UInt8)

/-- One turn of the loop up to the save: the state, and the call of `deliver` if there is
one. -/
def NotifyProcess.turn (p : NotifyProcess) (c : Cycle) : NotifyState × Option DeliverCall :=
  let silencedUntilMs := c.silence.getD 0
  match c.snapshot with
  | .error _ => ({ p.state with silencedUntilMs }, none)
  | .ok incidents =>
      let (deliveries, pending) := collect c.now p.state.deliveries incidents
      if pending.isEmpty then (⟨silencedUntilMs, deliveries⟩, none)
      else
        let call := deliverCall p.silent silencedUntilMs c pending
        (⟨silencedUntilMs, keepRecords c.now (noteAttempts c.now call.result deliveries pending)⟩,
          some call)

section

variable (encode : NotifyState → List UInt8) (decode : List UInt8 → Option NotifyState)

/-- `load`: a file that is not there is the default state. -/
def load (disk : Disk String UInt8) : Option NotifyState :=
  match disk.read statePath with
  | none => some {}
  | some bytes => decode bytes

/-- The session after a turn of the loop: the state is saved if something was delivered.
Nothing else is written, so records that a turn only collects are lost with the process. -/
def NotifySession.afterTurn (m : NotifySession) (p : SavingProcess) (state : NotifyState) :
    Option DeliverCall → NotifySession
  | none => { m with process := some { p with state } }
  | some call =>
      { m with
        process := some { p with state, stage := .opening }
        calls := m.calls ++ [call]
        given := m.given ++ [state] }

/-- A step of a process. Saving is a sequence of system calls: the temporary file is
created, written in portions, synced and renamed. Any of them may fail, which ends the
process. -/
def NotifySession.advance (m : NotifySession) (p : SavingProcess) : SavingOp → NotifySession
  | .cycle c =>
      if p.stage = .looping then m.afterTurn p (p.turn c).1 (p.turn c).2 else m
  | .openTemporary =>
      if p.stage = .opening then
        let (disk, file) := m.disk.create temporaryPath
        { m with disk, process := some { p with stage := .writing file (encode p.state) } }
      else m
  | .write n =>
      match p.stage with
      | .writing file left =>
          { m with
            disk := m.disk.write file (left.take n)
            process := some { p with stage := .writing file (left.drop n) } }
      | _ => m
  | .sync =>
      match p.stage with
      | .writing file [] =>
          { m with disk := m.disk.sync file, process := some { p with stage := .renaming } }
      | _ => m
  | .rename =>
      if p.stage = .renaming then
        match m.disk.rename temporaryPath statePath with
        | some disk => { m with disk, process := some { p with stage := .looping } }
        | none => { m with process := none }
      else m
  | .endProcess => { m with process := none }
  | .start _ | .losePower _ _ => m

/-- One step.  A process that finds the lock taken, or cannot read the file, ends. -/
def NotifySession.step (m : NotifySession) (op : SavingOp) : NotifySession :=
  match m.process, op with
  | _, .losePower back left => { m with disk := m.disk.lose back left, process := none }
  | none, .start silent =>
      { m with process := (load decode m.disk).map fun state => { silent, state } }
  | none, _ => m
  | some p, op => m.advance encode p op

/-- The session after a sequence of steps. -/
def NotifySession.run (ops : List SavingOp) : NotifySession :=
  Transition.run (NotifySession.step encode decode) {} ops

/-! ### What a step does -/

/-- What a step makes of the session. A system call is made or fails, and a step that is
not possible changes nothing. -/
inductive NotifySession.Does (m : NotifySession) : SavingOp → NotifySession → Prop where
  | stays (op : SavingOp) : m.Does op m
  | starts {silent : Bool} {state : NotifyState} (hprocess : m.process = none)
      (hload : load decode m.disk = some state) :
      m.Does (.start silent) { m with process := some { silent, state } }
  | quiet {c : Cycle} {p : SavingProcess} (hprocess : m.process = some p)
      (hstage : p.stage = .looping) (hturn : (p.turn c).2 = none) :
      m.Does (.cycle c) { m with process := some { p with state := (p.turn c).1 } }
  | delivers {c : Cycle} {p : SavingProcess} {call : DeliverCall} (hprocess : m.process = some p)
      (hstage : p.stage = .looping) (hturn : (p.turn c).2 = some call) :
      m.Does (.cycle c)
        { m with
          process := some { p with state := (p.turn c).1, stage := .opening }
          calls := m.calls ++ [call]
          given := m.given ++ [(p.turn c).1] }
  | opens {p : SavingProcess} (hprocess : m.process = some p) (hstage : p.stage = .opening) :
      m.Does .openTemporary
        { m with
          disk := (m.disk.create temporaryPath).1
          process := some { p with
            stage := .writing (m.disk.create temporaryPath).2 (encode p.state) } }
  | writes {p : SavingProcess} {file : ℕ} {left : List UInt8} (hprocess : m.process = some p)
      (hstage : p.stage = .writing file left) (n : ℕ) :
      m.Does (.write n)
        { m with
          disk := m.disk.write file (left.take n)
          process := some { p with stage := .writing file (left.drop n) } }
  | syncs {p : SavingProcess} {file : ℕ} (hprocess : m.process = some p)
      (hstage : p.stage = .writing file []) :
      m.Does .sync
        { m with disk := m.disk.sync file, process := some { p with stage := .renaming } }
  | renames {p : SavingProcess} {disk : Disk String UInt8} (hprocess : m.process = some p)
      (hstage : p.stage = .renaming)
      (hrename : m.disk.rename temporaryPath statePath = some disk) :
      m.Does .rename { m with disk, process := some { p with stage := .looping } }
  | ends (op : SavingOp) : m.Does op { m with process := none }
  | loses (back : ℕ) (left : ℕ → List UInt8) :
      m.Does (.losePower back left) { m with disk := m.disk.lose back left, process := none }

/-- **What a step does.** The system calls of `save` are separate cases, and each of
them may be the last one of the process. -/
theorem NotifySession.step_does (m : NotifySession) (op : SavingOp) :
    m.Does encode decode op (m.step encode decode op) := by
  unfold NotifySession.step
  cases hprocess : m.process with
  | none =>
      cases op with
      | losePower back left => exact .loses back left
      | start silent =>
          show m.Does encode decode _ { m with process := _ }
          cases hload : load decode m.disk with
          | none => exact .ends _
          | some state => exact .starts hprocess hload
      | _ => exact .stays _
  | some p =>
      cases op with
      | losePower back left => exact .loses back left
      | start silent => exact .stays _
      | endProcess => exact .ends _
      | cycle c =>
          show m.Does encode decode _ (if p.stage = .looping then _ else _)
          split_ifs with hstage
          · cases hturn : (p.turn c).2 with
            | none => exact .quiet hprocess hstage hturn
            | some call => exact .delivers hprocess hstage hturn
          · exact .stays _
      | openTemporary =>
          show m.Does encode decode _ (if p.stage = .opening then _ else _)
          split_ifs with hstage
          · exact .opens hprocess hstage
          · exact .stays _
      | write n =>
          show m.Does encode decode _ (m.advance encode p (.write n))
          unfold NotifySession.advance
          cases hstage : p.stage with
          | writing file left => exact .writes hprocess hstage n
          | _ => exact .stays _
      | sync =>
          show m.Does encode decode _ (m.advance encode p .sync)
          unfold NotifySession.advance
          cases hstage : p.stage with
          | writing file left =>
              cases left with
              | nil => exact .syncs hprocess hstage
              | cons b left => exact .stays _
          | _ => exact .stays _
      | rename =>
          show m.Does encode decode _ (if p.stage = .renaming then _ else _)
          split_ifs with hstage
          · cases hrename : m.disk.rename temporaryPath statePath with
            | none => exact .ends _
            | some disk => exact .renames hprocess hstage hrename
          · exact .stays _

/-! ### The file -/

/-- What the disk has at a stage of the save of some bytes. -/
def SaveStage.Holds (disk : Disk String UInt8) (bytes : List UInt8) : SaveStage → Prop
  | .looping | .opening => True
  | .writing i left => disk.dir temporaryPath = some i ∧ (disk.file i).bytes ++ left = bytes
  | .renaming => ∃ i, disk.dir temporaryPath = some i ∧ disk.file i = ⟨bytes, true⟩

/-- The state file has a state that was handed to `save`, and a save is at its stage.
This is kept by kills and by losses of power, too. -/
structure NotifySession.Saves (m : NotifySession) : Prop where
  /-- Whatever is found under the name is the encoding of a state. -/
  disk : Replaces m.disk temporaryPath statePath fun bytes => ∃ s ∈ m.given, encode s = bytes
  /-- A save has done what its stage says. -/
  stage : ∀ p, m.process = some p → p.stage.Holds m.disk (encode p.state)
  /-- A process that saves has handed its state over. -/
  given : ∀ p, m.process = some p → p.stage ≠ .looping → p.state ∈ m.given

/-- The state is written to a file of another name. -/
theorem temporaryPath_ne_statePath : temporaryPath ≠ statePath := by decide

/-- **Every step keeps the file whole.** Only the rename touches the file itself, and it
is made after all bytes are written and synced. -/
theorem NotifySession.Saves.step {m : NotifySession} (h : m.Saves encode) (op : SavingOp) :
    (m.step encode decode op).Saves encode := by
  have hdoes := m.step_does encode decode op
  generalize m.step encode decode op = m' at hdoes
  cases hdoes with
  | stays => exact h
  | ends => exact ⟨h.disk, nofun, nofun⟩
  | loses back left => exact ⟨h.disk.lose back left, nofun, nofun⟩
  | starts hprocess hload =>
      refine ⟨h.disk, fun p hp => ?_, fun p hp hne => ?_⟩ <;> obtain rfl := Option.some.inj hp
      · trivial
      · exact absurd rfl hne
  | @quiet c p hprocess hstage hturn =>
      refine ⟨h.disk, fun p' hp => ?_, fun p' hp hne => ?_⟩ <;> obtain rfl := Option.some.inj hp
      · show p.stage.Holds _ _
        rw [hstage]
        trivial
      · exact absurd hstage hne
  | @delivers c p call hprocess hstage hturn =>
      refine ⟨h.disk.mono fun bytes hbytes => ?_, fun p' hp => ?_, fun p' hp hne => ?_⟩
      · obtain ⟨s, hs, heq⟩ := hbytes
        exact ⟨s, List.mem_append_left _ hs, heq⟩
      · obtain rfl := Option.some.inj hp
        trivial
      · obtain rfl := Option.some.inj hp
        exact List.mem_append_right _ (List.mem_singleton_self _)
  | @opens p hprocess hstage =>
      obtain ⟨hdisk, hdir, hfile, -⟩ := h.disk.create temporaryPath_ne_statePath
      refine ⟨hdisk, fun p' hp => ?_, fun p' hp hne => ?_⟩ <;> obtain rfl := Option.some.inj hp
      · refine ⟨hdir, ?_⟩
        rw [hfile]
        rfl
      · exact h.given p hprocess (by rw [hstage]; nofun)
  -- what is written and what is left are the text of the state
  | @writes p file left hprocess hstage n =>
      have hholds := h.stage p hprocess
      rw [hstage] at hholds
      obtain ⟨hdir, hbytes⟩ := hholds
      refine ⟨h.disk.setFile hdir _, fun p' hp => ?_, fun p' hp hne => ?_⟩ <;>
        obtain rfl := Option.some.inj hp
      · refine ⟨hdir, ?_⟩
        rw [Disk.write, file_setFile, List.append_assoc, List.take_append_drop]
        exact hbytes
      · exact h.given p hprocess (by rw [hstage]; nofun)
  | @syncs p file hprocess hstage =>
      have hholds := h.stage p hprocess
      rw [hstage] at hholds
      obtain ⟨hdir, hbytes⟩ := hholds
      refine ⟨h.disk.setFile hdir _, fun p' hp => ?_, fun p' hp hne => ?_⟩ <;>
        obtain rfl := Option.some.inj hp
      · refine ⟨file, hdir, ?_⟩
        rw [Disk.sync, file_setFile, ← hbytes, List.append_nil]
      · exact h.given p hprocess (by rw [hstage]; nofun)
  | @renames p disk hprocess hstage hrename =>
      have hholds := h.stage p hprocess
      rw [hstage] at hholds
      obtain ⟨i, hdir, hfile⟩ := hholds
      have hgiven := h.given p hprocess (by rw [hstage]; nofun)
      obtain ⟨disk', hrename', hdisk, -⟩ := h.disk.rename temporaryPath_ne_statePath hdir
        (by rw [hfile]) (by rw [hfile]; exact ⟨p.state, hgiven, rfl⟩)
      obtain rfl := Option.some.inj (hrename.symm.trans hrename')
      refine ⟨hdisk, fun p' hp => ?_, fun p' hp hne => ?_⟩ <;> obtain rfl := Option.some.inj hp
      · trivial
      · exact absurd rfl hne

/-- What is on the disk is known in every run. -/
theorem NotifySession.saves_run (ops : List SavingOp) :
    (NotifySession.run encode decode ops).Saves encode := by
  refine Transition.run_induction (I := NotifySession.Saves encode) _ ?_
    (fun m op h => h.step encode decode op) ops
  exact ⟨Replaces.empty, nofun, nofun⟩

/-! ### The notifier whose file is its state -/

section

variable {p : NotifyProcess} {c : Cycle} (n : Notifier)

/-- A cycle without a call keeps its state for itself. -/
theorem NotifyProcess.cycle_of_quiet (h : (p.turn c).2 = none) :
    p.cycle n c = { n with process := some ⟨p.silent, (p.turn c).1⟩ } := by
  unfold NotifyProcess.cycle NotifyProcess.turn at *
  cases hsnapshot : c.snapshot with
  | error e => rfl
  | ok incidents =>
      simp only [hsnapshot] at h ⊢
      split_ifs at h ⊢ with hpending
      rfl

/-- A cycle with a call delivers it and saves the state, and ends the process if the
saving fails. The model that saves in one step takes the outcome of the saving as an
input, so both are its steps. -/
theorem NotifyProcess.cycle_of_call {call : DeliverCall} (h : (p.turn c).2 = some call) :
    p.cycle n { c with save := .ok () } =
      { file := (p.turn c).1
        process := some ⟨p.silent, (p.turn c).1⟩
        calls := n.calls ++ [call] } ∧
    p.cycle n { c with save := .error "" } =
      { n with process := none, calls := n.calls ++ [call] } := by
  unfold NotifyProcess.cycle NotifyProcess.turn at *
  cases hsnapshot : c.snapshot with
  | error e =>
      simp only [hsnapshot] at h
      cases h
  | ok incidents =>
      simp only [hsnapshot] at h ⊢
      split_ifs at h ⊢ with hpending
      rw [← Option.some.inj h]
      exact ⟨rfl, rfl⟩

end

/-- The process of the notifier, and its calls, where a save is not yet decided. The
call has been made, but it is not yet remembered. -/
inductive NotifySession.Matches (m : NotifySession) (n : Notifier) : Prop
  | ended (hprocess : m.process = none) (hcalls : m.calls = n.calls)
  | looping {p : SavingProcess} (hprocess : m.process = some p) (hstage : p.stage = .looping)
      (hn : n.process = some p.toNotifyProcess) (hcalls : m.calls = n.calls)
  | saving {p : SavingProcess} {q : NotifyProcess} {c : Cycle} {call : DeliverCall}
      (hprocess : m.process = some p) (hstage : p.stage ≠ .looping) (hn : n.process = some q)
      (hsilent : p.silent = q.silent) (hstate : p.state = (q.turn c).1)
      (hturn : (q.turn c).2 = some call) (hcalls : m.calls = n.calls ++ [call])

/-- Between two cycles the process and its calls are those of the notifier. -/
theorem NotifySession.Matches.of_looping {m : NotifySession} {n : Notifier} (h : m.Matches n)
    {p : SavingProcess} (hprocess : m.process = some p) (hstage : p.stage = .looping) :
    n.process = some p.toNotifyProcess ∧ m.calls = n.calls := by
  cases h with
  | ended hp => exact absurd (hp.symm.trans hprocess).symm (Option.some_ne_none p)
  | looping hp _ hn hcalls =>
      obtain rfl := Option.some.inj (hp.symm.trans hprocess)
      exact ⟨hn, hcalls⟩
  | saving hp hne =>
      obtain rfl := Option.some.inj (hp.symm.trans hprocess)
      exact absurd hstage hne

/-- A save that goes on is still the same save. -/
theorem NotifySession.Matches.goes_on {m m' : NotifySession} {n : Notifier} (h : m.Matches n)
    {p : SavingProcess} (hprocess : m.process = some p) (hstage : p.stage ≠ .looping)
    {stage : SaveStage} (hprocess' : m'.process = some { p with stage })
    (hstage' : stage ≠ .looping) (hcalls' : m'.calls = m.calls) : m'.Matches n := by
  cases h with
  | ended hp => exact absurd (hp.symm.trans hprocess).symm (Option.some_ne_none p)
  | looping hp hloop =>
      obtain rfl := Option.some.inj (hp.symm.trans hprocess)
      exact absurd hloop hstage
  | saving hp _ hn hsilent hstate hturn hcalls =>
      obtain rfl := Option.some.inj (hp.symm.trans hprocess)
      exact .saving hprocess' hstage' hn hsilent hstate hturn (hcalls'.trans hcalls)

/-- A session refines the notifier whose file is its state. A save that is not done
counts as done only from its rename on. -/
structure NotifySession.Refines (m : NotifySession) (n : Notifier) : Prop where
  /-- The file of the notifier is the state in the file, or the default without one. -/
  file : m.disk.read statePath = none ∧ n.file = {} ∨
    n.file ∈ m.given ∧ m.disk.read statePath = some (encode n.file)
  /-- The calls and the process are those of the notifier, as far as the save has come. -/
  follows : m.Matches n

/-- The notifier after one more step. -/
theorem Notifier.run_concat (ops : List NotifyOp) (op : NotifyOp) :
    Notifier.run {} (ops ++ [op]) = (Notifier.run {} ops).step op := Transition.run_concat ..

/-- A cycle is one of the process that runs. -/
theorem Notifier.step_cycle {n : Notifier} {p : NotifyProcess} (h : n.process = some p)
    (c : Cycle) : n.step (.cycle c) = p.cycle n c := by
  show n.process.elim n _ = _
  rw [h]
  rfl

/-- No power is lost. -/
def SavingOp.KeepsPower : SavingOp → Prop
  | .losePower _ _ => False
  | _ => True

/-- **Every step is some steps of the notifier.** The rename is the point at which a
delivery is remembered; a process that ends before it has delivered without remembering. -/
theorem NotifySession.Refines.step {m : NotifySession} (hsaves : m.Saves encode)
    {ops : List NotifyOp} (h : m.Refines encode (Notifier.run {} ops)) {op : SavingOp}
    (hop : op.KeepsPower) (hcodec : ∀ s ∈ m.given, decode (encode s) = some s) :
    ∃ ops', (m.step encode decode op).Refines encode (Notifier.run {} ops') := by
  have hdoes := m.step_does encode decode op
  generalize m.step encode decode op = m' at hdoes
  cases hdoes with
  | stays => exact ⟨ops, h⟩
  | loses => exact absurd hop not_false
  | ends =>
      obtain ⟨hfile, hmatches⟩ := h
      cases hmatches with
      | ended hprocess hcalls => exact ⟨ops, hfile, .ended rfl hcalls⟩
      | looping hprocess hstage hn hcalls => exact ⟨ops, hfile, .ended rfl hcalls⟩
      | @saving p q c call hprocess hstage hn hsilent hstate hturn hcalls =>
          -- the save failed
          refine ⟨ops ++ [.cycle { c with save := .error "" }], ?_⟩
          rw [Notifier.run_concat, Notifier.step_cycle hn, (NotifyProcess.cycle_of_call _ hturn).2]
          exact ⟨hfile, .ended rfl hcalls⟩
  | @starts silent state hprocess hload =>
      have hcalls : m.calls = (Notifier.run {} ops).calls := by
        cases h.follows with
        | ended _ hcalls => exact hcalls
        | looping hp => exact absurd (hprocess.symm.trans hp).symm (Option.some_ne_none _)
        | saving hp => exact absurd (hprocess.symm.trans hp).symm (Option.some_ne_none _)
      have hstate : state = (Notifier.run {} ops).file := by
        unfold load at hload
        obtain ⟨hread, hfile⟩ | ⟨hgiven, hread⟩ := h.file
        · rw [hread] at hload
          rw [hfile]
          exact (Option.some.inj hload).symm
        · rw [hread] at hload
          exact (Option.some.inj ((hcodec _ hgiven).symm.trans hload)).symm
      refine ⟨ops ++ [.start silent], ?_⟩
      rw [Notifier.run_concat, hstate]
      exact ⟨h.file, .looping rfl rfl rfl hcalls⟩
  | @quiet c p hprocess hstage hturn =>
      obtain ⟨hn, hcalls⟩ := h.follows.of_looping hprocess hstage
      refine ⟨ops ++ [.cycle c], ?_⟩
      rw [Notifier.run_concat, Notifier.step_cycle hn, NotifyProcess.cycle_of_quiet _ hturn]
      exact ⟨h.file, .looping rfl hstage rfl hcalls⟩
  | @delivers c p call hprocess hstage hturn =>
      obtain ⟨hn, hcalls⟩ := h.follows.of_looping hprocess hstage
      refine ⟨ops, ?_, .saving rfl nofun hn rfl rfl hturn (congrArg (· ++ [call]) hcalls)⟩
      exact h.file.imp id fun hfile => ⟨List.mem_append_left _ hfile.1, hfile.2⟩
  | @opens p hprocess hstage =>
      obtain ⟨-, -, -, hread⟩ := hsaves.disk.create temporaryPath_ne_statePath
      refine ⟨ops, ?_, h.follows.goes_on hprocess (by rw [hstage]; nofun) rfl nofun rfl⟩
      show (m.disk.create temporaryPath).1.read statePath = none ∧ _ ∨
        _ ∧ (m.disk.create temporaryPath).1.read statePath = _
      rw [hread]
      exact h.file
  | @writes p file left hprocess hstage n =>
      have hholds := hsaves.stage p hprocess
      rw [hstage] at hholds
      have hread : (m.disk.write file (left.take n)).read statePath = m.disk.read statePath :=
        read_setFile m.disk _ (hsaves.disk.current _ List.mem_cons_self file hholds.1)
      refine ⟨ops, ?_, h.follows.goes_on hprocess (by rw [hstage]; nofun) rfl nofun rfl⟩
      show (m.disk.write file (left.take n)).read statePath = none ∧ _ ∨
        _ ∧ (m.disk.write file (left.take n)).read statePath = _
      rw [hread]
      exact h.file
  | @syncs p file hprocess hstage =>
      have hholds := hsaves.stage p hprocess
      rw [hstage] at hholds
      have hread : (m.disk.sync file).read statePath = m.disk.read statePath :=
        read_setFile m.disk _ (hsaves.disk.current _ List.mem_cons_self file hholds.1)
      refine ⟨ops, ?_, h.follows.goes_on hprocess (by rw [hstage]; nofun) rfl nofun rfl⟩
      show (m.disk.sync file).read statePath = none ∧ _ ∨
        _ ∧ (m.disk.sync file).read statePath = _
      rw [hread]
      exact h.file
  | @renames p disk hprocess hstage hrename =>
      have hholds := hsaves.stage p hprocess
      rw [hstage] at hholds
      obtain ⟨i, hdir, hfile⟩ := hholds
      have hgiven := hsaves.given p hprocess (by rw [hstage]; nofun)
      obtain ⟨disk', hrename', -, hread⟩ := hsaves.disk.rename temporaryPath_ne_statePath hdir
        (by rw [hfile]) (by rw [hfile]; exact ⟨p.state, hgiven, rfl⟩)
      obtain rfl := Option.some.inj (hrename.symm.trans hrename')
      obtain ⟨-, hmatches⟩ := h
      cases hmatches with
      | ended hp => exact absurd (hp.symm.trans hprocess).symm (Option.some_ne_none p)
      | looping hp hloop =>
          obtain rfl := Option.some.inj (hp.symm.trans hprocess)
          exact absurd (hloop.symm.trans hstage) nofun
      | @saving _ q c call hp hne hn hsilent hstate hturn hcalls =>
          obtain rfl := Option.some.inj (hp.symm.trans hprocess)
          -- the save is done
          refine ⟨ops ++ [.cycle { c with save := .ok () }], ?_⟩
          rw [Notifier.run_concat, Notifier.step_cycle hn,
            (NotifyProcess.cycle_of_call _ hturn).1, ← hstate, ← hsilent]
          refine ⟨.inr ⟨hgiven, ?_⟩, .looping rfl rfl rfl hcalls⟩
          rw [hread, hfile]

/-- States are only added. -/
theorem NotifySession.given_step (m : NotifySession) (op : SavingOp) :
    m.given ⊆ (m.step encode decode op).given := by
  have hdoes := m.step_does encode decode op
  generalize m.step encode decode op = m' at hdoes
  cases hdoes with
  | delivers => exact List.subset_append_left _ _
  | _ => exact List.Subset.refl _

/-- A run and one more step. -/
theorem NotifySession.run_concat (ops : List SavingOp) (op : SavingOp) :
    NotifySession.run encode decode (ops ++ [op]) =
      (NotifySession.run encode decode ops).step encode decode op := Transition.run_concat ..

/-- Every run without a loss of power is one of the notifier. -/
theorem NotifySession.refines_run (ops : List SavingOp) (hpower : ∀ op ∈ ops, op.KeepsPower)
    (hcodec : ∀ s ∈ (NotifySession.run encode decode ops).given, decode (encode s) = some s) :
    ∃ ops', (NotifySession.run encode decode ops).Refines encode (Notifier.run {} ops') := by
  induction ops using List.reverseRecOn with
  | nil => exact ⟨[], .inl ⟨rfl, rfl⟩, .ended rfl rfl⟩
  | append_singleton ops op ih =>
      rw [NotifySession.run_concat] at hcodec ⊢
      have hcodec' : ∀ s ∈ (NotifySession.run encode decode ops).given,
          decode (encode s) = some s :=
        fun s hs => hcodec s (NotifySession.given_step encode decode _ op hs)
      obtain ⟨ops', h⟩ := ih (fun op hop => hpower op (List.mem_append_left _ hop)) hcodec'
      exact h.step encode decode (NotifySession.saves_run encode decode ops)
        (hpower op (List.mem_append_right _ (List.mem_singleton_self op))) hcodec'

end

/-- What `serde_json` makes of a record whose texts need no escapes. -/
def prettyDelivery (d : String × Delivery) : String :=
  "    \"" ++ d.1 ++ "\": \x7b\n      \"delivered\": " ++ toString d.2.delivered ++
    ",\n      \"attempts\": " ++ toString d.2.attempts ++
    ",\n      \"last_at_ms\": " ++ toString d.2.lastAtMs ++
    ",\n      \"error\": " ++ (d.2.error.elim "null" fun e => "\"" ++ e ++ "\"") ++ "\n    \x7d"

/-- `serde_json::to_vec_pretty` of a state whose texts need no escapes. -/
def prettyState (s : NotifyState) : List UInt8 :=
  let deliveries := if s.deliveries.isEmpty then "\x7b\x7d"
    else "\x7b\n" ++ ",\n".intercalate (s.deliveries.toList.map prettyDelivery) ++ "\n  \x7d"
  ("\x7b\n  \"silenced_until_ms\": " ++ toString s.silencedUntilMs ++
    ",\n  \"deliveries\": " ++ deliveries ++ "\n\x7d").toUTF8.toList

/-- A cycle in which a warning is delivered. -/
def fanCycle : Cycle := { now := 60000, snapshot := .ok [listedWarning "fan"] }

/-- The state after it. -/
def fanState : NotifyState := ((⟨false, {}⟩ : NotifyProcess).turn fanCycle).1

/-- A run in which the first process is killed in the middle of its save. -/
def killedSave : List SavingOp :=
  [.start false, .cycle fanCycle, .openTemporary, .write 3, .endProcess,
    .start false, .cycle fanCycle, .openTemporary, .write 4, .write 500, .sync, .rename]

/-- What is read in such runs. -/
def readFanState (bytes : List UInt8) : Option NotifyState :=
  if bytes = prettyState fanState then some fanState else none

/-- It is read back. -/
theorem readFanState_prettyState : readFanState (prettyState fanState) = some fanState :=
  if_pos rfl

set_option maxRecDepth 20000 in
/-- The state is handed over twice: before the kill and after it. -/
theorem given_killedSave :
    (NotifySession.run prettyState readFanState killedSave).given = [fanState, fanState] := by
  with_unfolding_all rfl

section

variable (encode : NotifyState → List UInt8) (decode : List UInt8 → Option NotifyState)

/-- **The system calls of `save` refine the notifier whose file is its state**, as long as
power is not lost: in every run, with processes that are killed and calls that fail, the
calls of `deliver`, what a process would load and what a process in its loop remembers are
those of a run of that notifier. -/
theorem saves_refine_the_notifier (ops : List SavingOp) (hpower : ∀ op ∈ ops, op.KeepsPower)
    (hcodec : ∀ s ∈ (NotifySession.run encode decode ops).given, decode (encode s) = some s) :
    ∃ ops',
      (NotifySession.run encode decode ops).calls = (Notifier.run {} ops').calls ∧
      load decode (NotifySession.run encode decode ops).disk = some (Notifier.run {} ops').file ∧
      ∀ p, (NotifySession.run encode decode ops).process = some p → p.stage = .looping →
        (Notifier.run {} ops').process = some p.toNotifyProcess := by
  obtain ⟨ops', hfile, hmatches⟩ := NotifySession.refines_run encode decode ops hpower hcodec
  have hload : load decode (NotifySession.run encode decode ops).disk =
      some (Notifier.run {} ops').file := by
    unfold load
    obtain ⟨hread, hdefault⟩ | ⟨hgiven, hread⟩ := hfile
    · rw [hread, hdefault]
    · rw [hread]
      exact hcodec _ hgiven
  cases hmatches with
  | ended hprocess hcalls =>
      refine ⟨ops', hcalls, hload, fun p hp => ?_⟩
      exact absurd (hprocess.symm.trans hp).symm (Option.some_ne_none p)
  | looping hprocess hstage hn hcalls =>
      refine ⟨ops', hcalls, hload, fun p hp _ => ?_⟩
      rw [← Option.some.inj (hprocess.symm.trans hp)]
      exact hn
  | @saving p q c call hprocess hstage hn hsilent hstate hturn hcalls =>
      -- a save that goes on has not been done yet
      refine ⟨ops' ++ [.cycle { c with save := .error "" }], ?_⟩
      rw [Notifier.run_concat, Notifier.step_cycle hn, (NotifyProcess.cycle_of_call _ hturn).2]
      refine ⟨hcalls, hload, fun p' hp hloop => ?_⟩
      obtain rfl := Option.some.inj (hprocess.symm.trans hp)
      exact absurd hloop hstage

end

/-- The process that is killed in the middle of its save has delivered, and its successor
delivers again. -/
theorem saves_refine_the_notifier_of_killed :
    ∃ ops',
      (NotifySession.run prettyState readFanState killedSave).calls =
        (Notifier.run {} ops').calls ∧
      load readFanState (NotifySession.run prettyState readFanState killedSave).disk =
        some (Notifier.run {} ops').file ∧
      ∀ p, (NotifySession.run prettyState readFanState killedSave).process = some p →
        p.stage = .looping → (Notifier.run {} ops').process = some p.toNotifyProcess := by
  refine saves_refine_the_notifier prettyState readFanState killedSave (fun op hop => ?_)
    fun s hs => ?_
  · simp only [killedSave, List.mem_cons, List.not_mem_nil, or_false] at hop
    obtain rfl | rfl | rfl | rfl | rfl | rfl | rfl | rfl | rfl | rfl | rfl | rfl := hop <;> trivial
  · rw [given_killedSave] at hs
    obtain rfl : s = fanState := by simpa using hs
    exact readFanState_prettyState

section

variable (encode : NotifyState → List UInt8) (decode : List UInt8 → Option NotifyState)

/-- **The state file is never there in part**: in every run, even if power is lost at any
moment, it is missing or has a state that was handed to `save`, and whenever no process
runs, the next one starts from such a state. -/
theorem state_file_is_whole (ops : List SavingOp)
    (hcodec : ∀ s ∈ (NotifySession.run encode decode ops).given, decode (encode s) = some s) :
    (∀ bytes, (NotifySession.run encode decode ops).disk.read statePath = some bytes →
      ∃ s ∈ (NotifySession.run encode decode ops).given, encode s = bytes) ∧
    ((NotifySession.run encode decode ops).process = none → ∀ silent, ∃ state,
      (state = {} ∨ state ∈ (NotifySession.run encode decode ops).given) ∧
      (NotifySession.run encode decode (ops ++ [.start silent])).process =
        some { silent, state }) := by
  have hsaves := NotifySession.saves_run encode decode ops
  refine ⟨fun bytes hread => hsaves.disk.read hread, fun hprocess silent => ?_⟩
  obtain ⟨state, hstate, hload⟩ : ∃ state,
      (state = {} ∨ state ∈ (NotifySession.run encode decode ops).given) ∧
      load decode (NotifySession.run encode decode ops).disk = some state := by
    unfold load
    cases hread : (NotifySession.run encode decode ops).disk.read statePath with
    | none => exact ⟨{}, .inl rfl, rfl⟩
    | some bytes =>
        obtain ⟨s, hs, rfl⟩ := hsaves.disk.read hread
        exact ⟨s, .inr hs, hcodec s hs⟩
  refine ⟨state, hstate, ?_⟩
  rw [NotifySession.run_concat]
  unfold NotifySession.step
  rw [hprocess]
  show (load decode _).map _ = _
  rw [hload]
  rfl

end

/-- A cycle in which another warning is delivered. -/
def railCycle : Cycle := { now := 62000, snapshot := .ok [listedWarning "rail"] }

/-- The state after both. -/
def railState : NotifyState := ((⟨false, fanState⟩ : NotifyProcess).turn railCycle).1

/-- A run in which power is lost in the middle of the second save: the directory is one
change old, and the temporary file holds a single byte. -/
def powerLost : List SavingOp :=
  [.start false, .cycle fanCycle, .openTemporary, .write 500, .sync, .rename,
    .cycle railCycle, .openTemporary, .write 3, .losePower 1 fun _ => [0]]

/-- What is read in this run. -/
def readRailState (bytes : List UInt8) : Option NotifyState :=
  if bytes = prettyState railState then some railState else readFanState bytes

set_option maxRecDepth 20000 in
/-- Two states are handed over before the power is lost. -/
theorem given_powerLost :
    (NotifySession.run prettyState readRailState powerLost).given = [fanState, railState] := by
  with_unfolding_all rfl

/-- The file has the first state or the second, whatever the disk has kept of the last
save. -/
theorem state_file_is_whole_of_power_lost :
    (∀ bytes,
      (NotifySession.run prettyState readRailState powerLost).disk.read statePath = some bytes →
      ∃ s ∈ (NotifySession.run prettyState readRailState powerLost).given,
        prettyState s = bytes) ∧
    ((NotifySession.run prettyState readRailState powerLost).process = none →
      ∀ silent, ∃ state,
        (state = {} ∨ state ∈ (NotifySession.run prettyState readRailState powerLost).given) ∧
        (NotifySession.run prettyState readRailState (powerLost ++ [.start silent])).process =
          some { silent, state }) := by
  refine state_file_is_whole prettyState readRailState powerLost fun s hs => ?_
  rw [given_powerLost] at hs
  obtain rfl | rfl : s = fanState ∨ s = railState := by simpa using hs
  · have hne : prettyState fanState ≠ prettyState railState := by decide +kernel
    rw [readRailState, if_neg hne]
    exact readFanState_prettyState
  · exact if_pos rfl

end Railwatch
