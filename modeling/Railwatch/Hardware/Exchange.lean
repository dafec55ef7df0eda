/-
# Transactions with the PSU

`HidDevice::exchange` of `crates/hardware/src/lib.rs`: drain what is there, write
the request, and read until its answer comes.

The descriptor is a queue of input reports, 64 of them at most, which is what
the kernel keeps; a report that arrives when it is full is lost.  When reports
arrive and how the system calls end is up to the `Script`.  The stamp of a
report tells it from every other one, the source does not see it.

At most 32 reports are drained, so that a report further back may be taken for
the answer: `exchange_is_fresh_iff` says for which queues.
-/

import Railwatch.Core.Model
import Railwatch.General.Effects
import Railwatch.Protocol.Layout

namespace Railwatch

open Wire Effects

/-! ### The descriptor -/

/-- An input report, and its number among all that arrived. The number is not seen by
the program; it tells old reports from new ones. -/
structure Report where
  /-- How many have arrived before it. -/
  stamp : ℕ
  /-- What the kernel hands out. -/
  bytes : Bytes
  deriving DecidableEq, Repr

/-- What the kernel holds of a descriptor: the reports that wait, oldest first,
and how many have arrived. -/
structure Descriptor where
  /-- The reports that wait. -/
  queue : List Report
  /-- How many have arrived. -/
  arrived : ℕ
  /-- The kernel keeps 64. -/
  limit : queue.length ≤ 64
  /-- Later ones get later stamps. -/
  stamped : ∀ r ∈ queue, r.stamp < arrived

/-- A report arrives. The kernel keeps 64 reports for a reader and drops what comes
while they are waiting; a report that is dropped has been counted all the same, so the
numbers of those that are kept may have gaps. -/
def Descriptor.arrive (f : Descriptor) (bytes : Bytes) : Descriptor :=
  if h : f.queue.length < 64 then
    { queue := f.queue ++ [⟨f.arrived, bytes⟩]
      arrived := f.arrived + 1
      limit := by
        rw [List.length_append, List.length_singleton]
        exact h
      stamped := fun r hr => by
        rcases List.mem_append.1 hr with hr | hr
        · exact Nat.lt_succ_of_lt (f.stamped r hr)
        · rw [List.mem_singleton.1 hr]
          exact Nat.lt_succ_self _ }
  else
    { f with
      arrived := f.arrived + 1
      stamped := fun r hr => Nat.lt_succ_of_lt (f.stamped r hr) }

/-- The oldest report and the descriptor without it. Reports are taken in the order in
which they came, and the numbers of those that are left are below the next one as
before. -/
def Descriptor.pop (f : Descriptor) : Option (Report × Descriptor) :=
  match h : f.queue with
  | [] => none
  | r :: rest => some (r,
      { f with
        queue := rest
        limit := by
          have := f.limit
          rw [h, List.length_cons] at this
          omega
        stamped := fun r' hr' => f.stamped r' (by rw [h]; exact List.mem_cons_of_mem r hr') })

/-- Popping takes the first report of the queue, and no report arrives by it. -/
theorem Descriptor.queue_of_pop {f f' : Descriptor} {r : Report} (h : f.pop = some (r, f')) :
    f.queue = r :: f'.queue ∧ f'.arrived = f.arrived := by
  unfold Descriptor.pop at h
  split at h
  · cases h
  · next hqueue =>
      cases h
      exact ⟨hqueue, rfl⟩

/-- There is nothing to pop only if the queue is empty. -/
theorem Descriptor.pop_eq_none {f : Descriptor} (h : f.pop = none) : f.queue = [] := by
  unfold Descriptor.pop at h
  split at h
  · assumption
  · cases h

/-- What a read into the buffer of 65 bytes leaves of a report. -/
def Report.read (r : Report) : Report := { r with bytes := r.bytes.take 65 }

/-! ### The environment -/

/-- One `read`: the reports that arrive before it, and whether it fails with an
error other than `WouldBlock`. -/
structure ReadTurn where
  /-- The reports that come before it. -/
  arrivals : List Bytes := []
  /-- Whether it fails. -/
  error : Option String := none

/-- How one `poll` ends: the descriptor is ready, or has hung up, the time is up, or the
call fails. -/
inductive PollResult where
  | interrupted
  | failed (error : String)
  | timeout
  | hangup
  | ready

/-- One turn of the waiting loop: the reports that arrive before it, how its `poll`
ends, and the read behind it. -/
structure PollTurn where
  /-- The reports that come before it. -/
  arrivals : List Bytes := []
  /-- How `poll` ends. -/
  poll : PollResult
  /-- And how the read behind it does. -/
  read : ReadTurn := {}

/-- What happens around one exchange.  `drain n` is for the read with `n` more
to follow; the deadline passes at the end of `turns`. -/
structure Script where
  /-- The reads before the request. -/
  drain : ℕ → ReadTurn := fun _ => {}
  /-- The write. -/
  write : ReadTurn := {}
  /-- The turns of the loop. -/
  turns : List PollTurn

/-! ### The exchange -/

/-- An error, by its message, or an index outside a slice. The latter is a panic in the
source, and is shown not to happen. -/
inductive DeviceError where
  | error (text : String)
  | outOfRange
  deriving DecidableEq, Repr

/-- `HidDevice`: its descriptor, what is known of it, and the last answers. It is used
by one thread. -/
structure HidDevice where
  /-- The descriptor. -/
  file : Descriptor
  /-- What is known of the device. -/
  info : DeviceInfo
  /-- The last 64 answers, with their commands. -/
  captures : List (UInt8 × Bytes)

/-- The methods of `HidDevice`. -/
abbrev Io := EStateM DeviceError HidDevice

/-- `{:x}` of a byte. -/
def lowerHex (b : UInt8) : String := String.ofList (Nat.toDigits 16 b.toNat)

/-- `?` on a result of the wire format. -/
def ofWire {α : Type} : Result α → Io α
  | .ok a => pure a
  | .error (.error e) => throw (.error e.text)
  | .error .outOfRange => throw .outOfRange

/-- Reports arrive. -/
def arrive (reports : List Bytes) : Io Unit :=
  modify fun h => { h with file := reports.foldl Descriptor.arrive h.file }

/-- `File::read`: nothing if it would block. The reports that arrive meanwhile are put
behind those that wait; a call that fails takes none of them. -/
def readFile (turn : ReadTurn) : Io (Option Report) := do
  arrive turn.arrivals
  match turn.error with
  | some e => throw (.error e)
  | none =>
      let h ← get
      match h.file.pop with
      | none => pure none
      | some (r, file) => do
          set { h with file := file }
          pure (some r.read)

/-- The reads before the request. -/
def drain (turn : ℕ → ReadTurn) : ℕ → Io Unit
  | 0 => pure ()
  | n + 1 => do
      match ← readFile (turn n) with
      | none => pure ()
      | some r => if r.bytes = [] then throw (.error "PSU disconnected") else drain turn n

/-- `write_all` of the request. -/
def writeAll (turn : ReadTurn) : Io Unit := do
  arrive turn.arrivals
  match turn.error with
  | some _ => throw (.error "send HID request")
  | none => pure ()

/-- The message when no answer came. -/
def timedOut (command : UInt8) : DeviceError :=
  .error ("command 0x" ++ lowerHex command ++ " timed out; write outcome may be unknown")

/-- Keep an answer, and 64 of them. -/
def capture (command : UInt8) (bytes : Bytes) : Io Unit :=
  modify fun h =>
    let captures := h.captures ++ [(command, bytes)]
    { h with captures := if captures.length > 64 then captures.drop 1 else captures }

/-- The loop until the deadline. Each turn is one `poll` and, if it is ready, one read;
a report of another command is passed over. The loop ends with the first report that
echoes the command, with an error, or when the time is up, which is when the turns are. -/
def awaitReply (opcode command : UInt8) : List PollTurn → Io Report
  | [] => throw (timedOut command)
  | turn :: turns => do
      arrive turn.arrivals
      match turn.poll with
      | .interrupted => awaitReply opcode command turns
      | .failed e => throw (.error e)
      | .timeout => throw (timedOut command)
      | .hangup => throw (.error "PSU disconnected")
      | .ready =>
          match ← readFile turn.read with
          | none => awaitReply opcode command turns
          | some r =>
              if r.bytes = [] then throw (.error "PSU disconnected")
              else do
                let body ← ofWire (Wire.normalize r.bytes)
                if ← ofWire (echoMismatch body opcode command) then awaitReply opcode command turns
                else if busyPattern body then
                  throw (.error ("device returned busy/error sentinel for command 0x" ++
                    lowerHex command))
                else do
                  capture command r.bytes
                  pure r

/-- `HidDevice::exchange`. -/
def exchange (opcode command : UInt8) (payload : Bytes) (script : Script) : Io Report := do
  drain script.drain 32
  let _tx ← ofWire (request opcode command payload)
  writeAll script.write
  awaitReply opcode command script.turns

end Railwatch
