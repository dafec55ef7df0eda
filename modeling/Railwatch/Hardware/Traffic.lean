/-
# What a session writes and keeps

`Bus.Sound` is what holds of a bus after a number of qualified transactions.  Each
transaction keeps it, so each program of them does, and so does a session.

`only_reads_are_written` says what a session writes, and to which device;
`captures_are_the_last_answers` says what is left of it for a probe.

The requests that a session may write are listed (`qualified`): reads, and the
handshake.  That a program makes no others is seen from its text (`within_poll` and its
like), and does not depend on what the device answers.
-/

import Railwatch.Hardware.Session

namespace Railwatch

open Wire Effects Calls Transport

/-! ### What a session writes -/

/-- A bus after at most `n` transactions, all of them qualified: what was written are
requests, what was returned are answers, and the last of these are the captures. -/
structure Bus.Sound (n : ℕ) (b : Bus) : Prop where
  /-- What was written is requests of qualified transactions. -/
  written : ∀ w ∈ b.written, ∃ t ∈ qualified, w = t.bytes
  /-- There is one for each transaction at most. -/
  length_written : b.written.length ≤ n
  /-- What was returned answers them. -/
  answered : ∀ a ∈ b.answered, ∃ t ∈ qualified, a.1 = t.command ∧ Answers t.opcode t.command a.2
  /-- And there is one answer for each at most. -/
  length_answered : b.answered.length ≤ n
  /-- The captures are the last 64 of these. -/
  captures : b.device.captures = latest b.answered

/-- The bound on the number of transactions may be raised. -/
theorem Bus.Sound.mono {n m : ℕ} {b : Bus} (h : b.Sound n) (hnm : n ≤ m) : b.Sound m :=
  ⟨h.written, h.length_written.trans hnm, h.answered, h.length_answered.trans hnm, h.captures⟩

/-- **A transaction** keeps a bus sound. It writes its request once at most and keeps
its answer, if it has one, among the last 64. -/
theorem Bus.Sound.turn {n : ℕ} {b : Bus} (h : b.Sound n) {t : Transaction} (ht : t ∈ qualified)
    (script : UInt8 → Script) : (Bus.turn script t b).2.Sound (n + 1) := by
  have hwritten := exchange_written t (script t.command) b
  have hcaptures := exchange_captures t.opcode t.command [] (script t.command) b.device
  have hanswers := exchange_ensures t.opcode t.command [] (script t.command) b.device
  have hforget := forget_exchange t (script t.command) b
  have hrequest : ∀ w ∈ b.written ++ [t.bytes], ∃ t ∈ qualified, w = t.bytes := fun w hw => by
    rcases List.mem_append.1 hw with hw | hw
    · exact h.written w hw
    · exact ⟨t, ht, List.mem_singleton.1 hw⟩
  have hlength : (b.written ++ [t.bytes]).length ≤ n + 1 := by
    rw [List.length_append, List.length_singleton]
    exact Nat.succ_le_succ h.length_written
  unfold Bus.turn
  cases hrun : Bus.exchange t (script t.command) b with
  | ok reply b' =>
      rw [hrun] at hforget
      rw [Ensures, hrun] at hwritten
      rw [Ensures, ← hforget] at hcaptures hanswers
      refine ⟨?_, ?_, fun a ha => ?_, ?_, ?_⟩
      · exact hwritten.1 ▸ hrequest
      · exact hwritten.1 ▸ hlength
      · rcases List.mem_append.1 ha with ha | ha
        · exact h.answered a (hwritten.2 ▸ ha)
        · obtain rfl := List.mem_singleton.1 ha
          exact ⟨t, ht, rfl, hanswers.1⟩
      · show (b'.answered ++ [(t.command, reply.bytes)]).length ≤ n + 1
        rw [hwritten.2, List.length_append, List.length_singleton]
        exact Nat.succ_le_succ h.length_answered
      · show b'.device.captures = latest (b'.answered ++ [(t.command, reply.bytes)])
        rw [hcaptures.2, h.captures, pushed_latest, hwritten.2]
  | error e b' =>
      rw [hrun] at hforget
      rw [Ensures, hrun] at hwritten
      rw [Ensures, ← hforget] at hcaptures
      obtain ⟨hlog, hanswered⟩ := hwritten
      refine ⟨?_, ?_, hanswered ▸ h.answered, ?_, ?_⟩
      · rcases hlog with hlog | hlog <;> show ∀ w ∈ b'.written, _ <;> rw [hlog]
        · exact h.written
        · exact hrequest
      · rcases hlog with hlog | hlog <;> show b'.written.length ≤ _ <;> rw [hlog]
        · exact h.length_written.trans (Nat.le_succ n)
        · exact hlength
      · exact hanswered ▸ h.length_answered.trans (Nat.le_succ n)
      · show b'.device.captures = latest b'.answered
        rw [hcaptures.2, h.captures, hanswered]

/-- **A program** of qualified transactions keeps a bus sound. By induction on the
program, with one transaction for each of its calls. -/
theorem Bus.Sound.run {α : Type} {n m : ℕ} {b : Bus} (h : b.Sound n) {x : Transport α}
    (hx : Within (· ∈ qualified) m x) (script : UInt8 → Script) :
    (Calls.run (Bus.turn script) x b).2.Sound (n + m) :=
  hx.run (I := fun k (b : Bus) => b.Sound k) (fun k _ h => h.mono (Nat.le_succ k))
    (fun _ _ _ ht h => h.turn ht script) h

/-! ### The programs -/

/-- A read is one transaction. -/
theorem within_read {command : UInt8} (h : ⟨readOp, command⟩ ∈ qualified) :
    Within (· ∈ qualified) 1 (Transport.read command) := within_perform h

/-- So is one whose error is kept as a text. -/
theorem within_tryRead {command : UInt8} (h : ⟨readOp, command⟩ ∈ qualified) :
    Within (· ∈ qualified) 1 (tryRead command) :=
  .call h fun r => by
    match r with
    | .ok r => exact .done _
    | .error (.error e) => exact .done _
    | .error .outOfRange => exact .done _

/-- A text that is put before an error costs no transaction. -/
theorem within_context {α : Type} {n : ℕ} {x : Transport α} (text : String)
    (h : Within (· ∈ qualified) n x) : Within (· ∈ qualified) n (context text x) :=
  h.attempt.bind (m := 0) fun r => by
    match r with
    | .ok a => exact .done _
    | .error (.error e) => exact .done _
    | .error .outOfRange => exact .done _

/-- A poll makes one transaction for the readings, and one for each of the six groups. -/
theorem within_poll (id : String) (capturedAtMs : ℤ) (monotonicMs : ℕ) :
    Within (· ∈ qualified) 7 (poll id capturedAtMs monotonicMs) :=
  ((within_read (by decide)).bind fun _ => (Within.done (n := 0) _).bind fun _ =>
    (within_tryRead (by decide)).bind fun _ => (within_tryRead (by decide)).bind fun _ =>
    (within_tryRead (by decide)).bind fun _ => (within_tryRead (by decide)).bind fun _ =>
    (within_tryRead (by decide)).bind fun _ => (within_tryRead (by decide)).bind fun _ =>
    within_pure (n := 0) _).mono (by decide)

/-- The diagnostics make three. -/
theorem within_diagnostics : Within (· ∈ qualified) 3 Railwatch.diagnostics :=
  (within_context _ (within_read (by decide))).bind fun _ =>
    (within_read (by decide)).bind fun _ => (within_read (by decide)).bind fun _ =>
    within_pure (n := 0) _

/-- And opening makes three: the handshake, the serial number and the revision. The
program is followed along its checks, each of which can only end it earlier. -/
theorem within_identify (utf8Error : Bytes → String) (d : Discovery) :
    Within (· ∈ qualified) 3 (identify utf8Error d) := by
  refine ((within_perform (by decide)).bind (m := 2) fun _ => ?_).mono (by decide)
  refine ((Within.done (n := 0) _).bind (m := 2) fun body => ?_).mono (by decide)
  split_ifs
  · refine ((within_read (by decide)).bind (m := 1) fun _ => ?_).mono (by decide)
    refine ((Within.done (n := 0) _).bind (m := 1) fun _ => ?_).mono (by decide)
    refine ((Within.done (n := 0) _).bind (m := 1) fun n => ?_).mono (by decide)
    split_ifs
    · refine ((Within.done (n := 0) _).bind (m := 1) fun bytes => ?_).mono (by decide)
      cases fromUtf8 bytes with
      | none => exact .done _
      | some text =>
          exact (within_read (by decide)).bind fun _ =>
            (Within.done (n := 0) _).bind fun _ => within_pure (n := 0) _
    · exact .done _
  · exact .done _

/-! ### Sessions -/

/-- The transactions of a session, at most. -/
def sessionCost (ops : List SessionOp) : ℕ := 3 + (ops.map SessionOp.cost).sum

/-- An operation of a session keeps a bus sound. -/
theorem Bus.Sound.step {n : ℕ} {b : Bus} (h : b.Sound n) (op : SessionOp) :
    (b.step op).Sound (n + op.cost) := by
  cases op with
  | telemetry capturedAtMs monotonicMs script => exact h.run (within_poll _ _ _) script
  | diagnostics script => exact h.run within_diagnostics script

/-- And so does any number of them. -/
theorem Bus.Sound.steps {n : ℕ} {b : Bus} (h : b.Sound n) (ops : List SessionOp) :
    (Transition.run Bus.step b ops).Sound (n + (ops.map SessionOp.cost).sum) := by
  induction ops generalizing n b with
  | nil => exact h
  | cons op ops ih =>
      rw [List.map_cons, List.sum_cons, ← Nat.add_assoc]
      exact ih (h.step op)

/-- A device that is opened is the only one to choose from, and qualified. If a path was
asked for, it is the path of the device. -/
structure Chosen (o : Opening) (path : Option String) (d : Discovery) : Prop where
  /-- There is no other one to choose from. -/
  only : ∃ devices, o.devices = .ok devices ∧ candidates path devices = [d]
  /-- Its telemetry is qualified. -/
  family : family d.pid = some .ts
  /-- No kernel driver reads it at the same time. -/
  driver : d.driver = "hid-generic"
  /-- No other process has it. -/
  locked : o.locked = true

/-- Each check of `open` has passed for the device that it selects: it is the one
candidate, its telemetry is qualified, the generic driver has it, and the lock on its
file could be taken. -/
theorem chosen_of_select {o : Opening} {path : Option String} {d : Discovery}
    (h : select o path = .ok d) : Chosen o path d := by
  unfold select at h
  cases hdevices : o.devices with
  | error e => rw [hdevices] at h; cases h
  | ok devices =>
      rw [hdevices] at h
      dsimp only at h
      cases hfound : candidates path devices with
      | nil => rw [hfound] at h; cases h
      | cons d' rest =>
          rw [hfound] at h
          cases rest with
          | cons _ _ => cases h
          | nil =>
              dsimp only at h
              split_ifs at h with hfamily hdriver hlocked
              · cases hfile : o.file with
                | error e => rw [hfile] at h; cases h
                | ok _ =>
                    rw [hfile] at h
                    obtain rfl := Except.ok.inj h
                    exact ⟨⟨devices, hdevices, hfound⟩, not_not.1 hfamily, not_not.1 hdriver,
                      hlocked⟩
              · cases hfile : o.file with
                | error e => rw [hfile] at h; cases h
                | ok _ => rw [hfile] at h; cases h

/-- A session goes on with a sound bus, or ends with one. -/
theorem Bus.Sound.used {n : ℕ} {r : Except DeviceError DeviceInfo × Bus} (h : r.2.Sound n)
    (ops : List SessionOp) : (Bus.used ops r).Sound (n + (ops.map SessionOp.cost).sum) := by
  unfold Bus.used
  cases r.1 with
  | error e => exact h.mono (Nat.le_add_right ..)
  | ok info =>
      have hinfo : ({ r.2 with device := { r.2.device with info := info } } : Bus).Sound n :=
        ⟨h.written, h.length_written, h.answered, h.length_answered, h.captures⟩
      exact hinfo.steps ops

/-- Before the first transaction there is nothing to check. -/
theorem Discovery.bus_sound (d : Discovery) : d.bus.Sound 0 :=
  ⟨fun _ hw => absurd hw List.not_mem_nil, le_rfl, fun _ ha => absurd ha List.not_mem_nil, le_rfl,
    rfl⟩

/-- **What a session comes to**: a bus of the chosen device that is sound. The device is
chosen before the first transaction, and the session only adds the costs of its
operations. -/
theorem session_sound {utf8Error : Bytes → String} {o : Opening} {path : Option String}
    {script : UInt8 → Script} {ops : List SessionOp} {b : Bus}
    (h : session utf8Error o path script ops = some b) :
    b.Sound (sessionCost ops) ∧ ∃ d, Chosen o path d ∧ b.device.info.path = d.path := by
  obtain ⟨d, hd, rfl⟩ := Option.map_eq_some_iff.1 h
  cases hselect : select o path with
  | error e => rw [hselect] at hd; cases hd
  | ok d' =>
      rw [hselect] at hd
      obtain rfl := Option.some.inj hd
      have hopened := d'.bus_sound.run (within_identify utf8Error d') script
      exact ⟨hopened.used ops, d', chosen_of_select hselect, used_path d' script ops⟩

/-- **A session only reads, and only from a PSU it is made for.**  Whatever the device,
the kernel and the programs before it do: what is written goes to the file of the one
device that there is to choose from, of a qualified family, with the generic driver and
the lock; it is the request of a qualified transaction, 65 bytes with no payload whose
opcode is never `WRITE`; and it is three requests to open the device, seven for a poll
and three for the diagnostics at most. -/
theorem only_reads_are_written {utf8Error : Bytes → String} {o : Opening} {path : Option String}
    {script : UInt8 → Script} {ops : List SessionOp} {b : Bus}
    (h : session utf8Error o path script ops = some b) :
    (∃ d, Chosen o path d ∧ b.device.info.path = d.path) ∧
      b.written.length ≤ 3 + (ops.map SessionOp.cost).sum ∧
      ∀ w ∈ b.written, w.length = 65 ∧ w[1]? ≠ some writeOp ∧ (∀ x ∈ w.drop 3, x = 0) ∧
        ∃ t ∈ qualified, request t.opcode t.command [] = .ok w := by
  obtain ⟨hsound, hchosen⟩ := session_sound h
  refine ⟨hchosen, hsound.length_written, fun w hw => ?_⟩
  obtain ⟨t, ht, rfl⟩ := hsound.written w hw
  have hopcode : ∀ t ∈ qualified, t.opcode ≠ writeOp := by decide
  refine ⟨rfl, fun heq => hopcode t ht (Option.some.inj heq), fun x hx => ?_, t, ht, rfl⟩
  exact List.eq_of_mem_replicate (n := 62) hx

/-- A power supply that says nothing. -/
def silentPsu : Opening where
  devices := .ok [⟨"/dev/hidraw3", 0x808c, "MPG Ai1600TS", "hid-generic"⟩]

/-- It is asked for its identity once, in vain. -/
theorem only_reads_are_written_of_silent : ∃ b,
    session (fun _ => "") silentPsu none (fun _ => { turns := [] }) [] = some b ∧
      b.written = [0 :: 0xfa :: readOp :: List.replicate 62 0] ∧ b.written.length ≤ 3 :=
  ⟨_, rfl, rfl, (only_reads_are_written (show session (fun _ => "") silentPsu none
    (fun _ => { turns := [] }) [] = some _ from rfl)).2.1⟩

/-- What a power supply with the serial number `S7` answers. -/
def answerS7 (command : UInt8) : Bytes :=
  if command = readOp then 0xfa :: readOp :: (handshakeIdentity ++ List.replicate 58 0)
  else if command = 0x13 then readOp :: 0x13 :: 2 :: 0x53 :: 0x37 :: List.replicate 59 0
  else readOp :: command :: 1 :: List.replicate 61 0

/-- It answers every request at once. -/
def scriptS7 (command : UInt8) : Script :=
  { turns := [{ arrivals := [answerS7 command], poll := .ready }] }

/-- **The captures of a session are its last answers.**  Whatever the device does, the
captures are the last 64 of the reports that the exchanges returned, in order and with
their commands; each of them answers a qualified transaction with this command; and as
long as a session has made at most 64 transactions, as a probe has that polls once and
reads the diagnostics, no answer is missing. -/
theorem captures_are_the_last_answers {utf8Error : Bytes → String} {o : Opening}
    {path : Option String} {script : UInt8 → Script} {ops : List SessionOp} {b : Bus}
    (h : session utf8Error o path script ops = some b) :
    b.device.captures = b.answered.drop (b.answered.length - 64) ∧
      (∀ a ∈ b.device.captures, ∃ t ∈ qualified, a.1 = t.command ∧
        Answers t.opcode t.command a.2) ∧
      (3 + (ops.map SessionOp.cost).sum ≤ 64 → b.device.captures = b.answered) := by
  obtain ⟨hsound, -⟩ := session_sound h
  refine ⟨hsound.captures, fun a ha => ?_, fun hcost => ?_⟩
  · rw [hsound.captures] at ha
    exact hsound.answered a (List.mem_of_mem_drop ha)
  · have hlength := hsound.length_answered
    unfold sessionCost at hlength
    rw [hsound.captures, latest, show b.answered.length - 64 = 0 by omega, List.drop_zero]

/-- A probe captures the reports of its thirteen transactions. -/
theorem captures_of_probe : ∃ b,
    session (fun _ => "") silentPsu none scriptS7 [.telemetry 0 0 scriptS7, .diagnostics scriptS7] =
        some b ∧
      b.answered.length = 13 ∧ b.device.captures = b.answered := by
  have hlength : (session (fun _ => "") silentPsu none scriptS7
      [.telemetry 0 0 scriptS7, .diagnostics scriptS7]).map (fun b => b.answered.length) =
        some 13 := by decide +kernel
  obtain ⟨b, hb, hanswered⟩ := Option.map_eq_some_iff.1 hlength
  exact ⟨b, hb, hanswered, (captures_are_the_last_answers hb).2.2 (by decide)⟩

end Railwatch
