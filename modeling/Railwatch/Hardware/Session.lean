/-
# Sessions with a PSU

The methods of a PSU's owner on a `Bus`: a descriptor that keeps what is handed to
`write_all` and what the exchanges returned.  Without these two logs it is the device of
`exchange` (`forget_exchange`), and a poll is `telemetry` (`poll_on_bus`).

A session opens a device and then polls it and reads its diagnostics as often as one
likes, whatever these return.  `identify_ok` is what a device is taken for when it is
opened, and `used_path` says that its file stays the same from then on.

Both logs only grow by what an exchange does, so that statements about a whole session
are sums over its exchanges (`Hardware/Traffic`).
-/

import Railwatch.General.Transition
import Railwatch.Hardware.Opening

namespace Railwatch

open Wire Effects Calls Transport

/-! ### The bus -/

/-- A device, with the bytes that were handed to `write_all` and the answers that its
exchanges returned, by their commands. -/
structure Bus where
  /-- The device. -/
  device : HidDevice
  /-- The bytes that were handed to `write_all`. -/
  written : List Bytes := []
  /-- The answers that came back, with their commands. -/
  answered : List (UInt8 × Bytes) := []

/-- A method that only knows the device. -/
def onDevice {α : Type} (x : Io α) : EStateM DeviceError Bus α := fun b =>
  match x b.device with
  | .ok a h => .ok a { b with device := h }
  | .error e h => .error e { b with device := h }

/-- `HidDevice::exchange`. -/
def Bus.exchange (t : Transaction) (script : Script) : EStateM DeviceError Bus Report := do
  onDevice (drain script.drain 32)
  let tx ← onDevice (ofWire (request t.opcode t.command []))
  modify fun b => { b with written := b.written ++ [tx] }
  onDevice (writeAll script.write)
  onDevice (awaitReply t.opcode t.command script.turns)

/-- A transaction on the bus, with what happens around it. -/
def Bus.turn (script : UInt8 → Script) : Turn Transaction Bytes DeviceError Bus := fun t b =>
  match Bus.exchange t (script t.command) b with
  | .ok reply b =>
      (.ok reply.bytes, { b with answered := b.answered ++ [(t.command, reply.bytes)] })
  | .error e b => (.error e, b)

/-- What the daemon, or a probe, does with an open device: it polls it, or reads its
diagnostics. -/
inductive SessionOp where
  | telemetry (capturedAtMs : ℤ) (monotonicMs : ℕ) (script : UInt8 → Script)
  | diagnostics (script : UInt8 → Script)

/-- The bus after an operation, whatever it returns. -/
def Bus.step (b : Bus) : SessionOp → Bus
  | .telemetry capturedAtMs monotonicMs script =>
      (run (turn script) (poll b.device.info.id capturedAtMs monotonicMs) b).2
  | .diagnostics script => (run (turn script) Railwatch.diagnostics b).2

/-- How many transactions an operation makes at most. -/
def SessionOp.cost : SessionOp → ℕ
  | .telemetry .. => 7
  | .diagnostics _ => 3

/-- A descriptor that has just been opened. -/
def Descriptor.empty : Descriptor where
  queue := []
  arrived := 0
  limit := Nat.zero_le _
  stamped := by simp

/-- The bus of a device before its first transaction. -/
def Discovery.bus (d : Discovery) : Bus := { device := ⟨.empty, d.info, []⟩ }

/-- The transactions of `HidDevice::open`, on the bus of the device it has selected. -/
def identified (utf8Error : Bytes → String) (d : Discovery) (script : UInt8 → Script) :
    Except DeviceError DeviceInfo × Bus := run (Bus.turn script) (identify utf8Error d) d.bus

/-- `HidDevice::open`. -/
def HidDevice.open (utf8Error : Bytes → String) (o : Opening) (path : Option String)
    (script : UInt8 → Script) : Except DeviceError HidDevice := do
  let d ← select o path
  let info ← (identified utf8Error d script).1
  pure { (identified utf8Error d script).2.device with info := info }

/-- The bus of a device that is used once it is open. -/
def Bus.used (ops : List SessionOp) (r : Except DeviceError DeviceInfo × Bus) : Bus :=
  match r.1 with
  | .error _ => r.2
  | .ok info => Transition.run Bus.step { r.2 with device := { r.2.device with info := info } } ops

/-- A session: a device is opened, and then used as long as one likes.  There is none if
no device is selected. -/
def session (utf8Error : Bytes → String) (o : Opening) (path : Option String)
    (script : UInt8 → Script) (ops : List SessionOp) : Option Bus :=
  (select o path).toOption.map fun d => Bus.used ops (identified utf8Error d script)

/-! ### The bus is the device -/

/-- A transaction with the device alone. -/
def deviceTurn (script : UInt8 → Script) : Turn Transaction Bytes DeviceError HidDevice :=
    fun t h =>
  match Railwatch.exchange t.opcode t.command [] (script t.command) h with
  | .ok reply h => (.ok reply.bytes, h)
  | .error e h => (.error e, h)

/-- The outcome of a run on the bus, as the device sees it. -/
def forget {α : Type} : EStateM.Result DeviceError Bus α → EStateM.Result DeviceError HidDevice α
  | .ok a b => .ok a b.device
  | .error e b => .error e b.device

/-- A method of the device does on the bus what it does without. -/
theorem forget_onDevice {α : Type} (x : Io α) (b : Bus) : forget (onDevice x b) = x b.device := by
  unfold onDevice
  cases x b.device <;> rfl

/-- So do two methods, one after the other. -/
theorem forget_bind {α β : Type} {x : EStateM DeviceError Bus α} {x' : Io α}
    {f : α → EStateM DeviceError Bus β} {f' : α → Io β} (hx : ∀ b, forget (x b) = x' b.device)
    (hf : ∀ a b, forget (f a b) = f' a b.device) (b : Bus) :
    forget ((x >>= f) b) = (x' >>= f') b.device := by
  have hrun := hx b
  cases hb : x b with
  | ok a b' =>
      rw [hb] at hrun
      rw [bind_of_ok hb, bind_of_ok hrun.symm]
      exact hf a b'
  | error e b' =>
      rw [hb] at hrun
      rw [bind_of_error hb, bind_of_error hrun.symm]
      rfl

/-- **The bus does what the device does.** It only keeps a record of what is written
besides, and no step looks at that record. -/
theorem forget_exchange (t : Transaction) (script : Script) (b : Bus) :
    forget (Bus.exchange t script b) =
      Railwatch.exchange t.opcode t.command [] script b.device := by
  refine forget_bind (forget_onDevice _) (fun _ b => ?_) b
  refine forget_bind (forget_onDevice _) (fun tx b => ?_) b
  exact forget_bind (forget_onDevice _) (fun _ b => forget_onDevice _ b)
    { b with written := b.written ++ [tx] }

/-- A transaction answers the same with and without the logs, and leaves the same
device. -/
theorem turn_device (script : UInt8 → Script) (t : Transaction) (b : Bus) :
    (Bus.turn script t b).1 = (deviceTurn script t b.device).1 ∧
      (Bus.turn script t b).2.device = (deviceTurn script t b.device).2 := by
  have hforget := forget_exchange t (script t.command) b
  unfold Bus.turn deviceTurn
  rw [← hforget]
  cases Bus.exchange t (script t.command) b <;> exact ⟨rfl, rfl⟩

/-! ### What a transaction leaves -/

/-- Only the file of the device has changed. -/
def HidDevice.OnlyFile (h h' : HidDevice) : Prop := h'.info = h.info ∧ h'.captures = h.captures

/-- A method that changes nothing but the file. -/
def KeepsDevice {α : Type} (x : Io α) : Prop :=
  ∀ h, Ensures x h (fun _ h' => h.OnlyFile h') (fun _ h' => h.OnlyFile h')

/-- Two methods that leave the device alone make one. -/
theorem KeepsDevice.bind {α β : Type} {x : Io α} {f : α → Io β} (hx : KeepsDevice x)
    (hf : ∀ a, KeepsDevice (f a)) : KeepsDevice (x >>= f) := by
  intro h
  refine ensures_bind ((hx h).mono (fun a h' hsame => ?_) fun _ _ he => he)
  exact (hf a h').mono (fun _ _ hsame' => ⟨hsame'.1.trans hsame.1, hsame'.2.trans hsame.2⟩)
    fun _ _ hsame' => ⟨hsame'.1.trans hsame.1, hsame'.2.trans hsame.2⟩

/-- A method that only reads leaves the device alone. -/
theorem keepsDevice_reads {α : Type} {x : Io α} (hx : Reads x) : KeepsDevice x := fun h =>
  (hx h).mono (fun _ _ heq => heq ▸ ⟨rfl, rfl⟩) fun _ _ heq => heq ▸ ⟨rfl, rfl⟩

/-- Decoding does. -/
theorem keepsDevice_ofWire {α : Type} (r : Result α) : KeepsDevice (ofWire r) := fun h => by
  match r with
  | .ok a => exact ⟨rfl, rfl⟩
  | .error (.error e) => exact ⟨rfl, rfl⟩
  | .error .outOfRange => exact ⟨rfl, rfl⟩

/-- Reports that arrive change the file only. -/
theorem keepsDevice_arrive (reports : List Bytes) : KeepsDevice (arrive reports) := fun _ =>
  ensures_modify ⟨rfl, rfl⟩

/-- So does a read from the file. -/
theorem keepsDevice_readFile (turn : ReadTurn) : KeepsDevice (readFile turn) := by
  refine (keepsDevice_arrive _).bind fun _ h => ?_
  cases turn.error with
  | some e => exact ⟨rfl, rfl⟩
  | none =>
      refine ensures_bind (ensures_get ?_)
      cases h.file.pop with
      | none => exact ensures_pure ⟨rfl, rfl⟩
      | some popped => exact ensures_bind (ensures_set (ensures_pure ⟨rfl, rfl⟩))

/-- And so does draining it. -/
theorem keepsDevice_drain (turn : ℕ → ReadTurn) (n : ℕ) : KeepsDevice (drain turn n) := by
  induction n with
  | zero => exact keepsDevice_reads (reads_pure ())
  | succ n ih =>
      refine (keepsDevice_readFile _).bind fun read => ?_
      cases read with
      | none => exact keepsDevice_reads (reads_pure ())
      | some r =>
          dsimp only
          split_ifs
          · exact keepsDevice_reads (reads_throw _)
          · exact ih

/-- A write changes nothing but what arrives meanwhile. -/
theorem keepsDevice_writeAll (turn : ReadTurn) : KeepsDevice (writeAll turn) := by
  refine (keepsDevice_arrive _).bind fun _ => ?_
  cases turn.error with
  | some e => exact keepsDevice_reads (reads_throw _)
  | none => exact keepsDevice_reads (reads_pure ())

/-- The last 64 of a list. -/
def latest {α : Type} (l : List α) : List α := l.drop (l.length - 64)

/-- A list with one more at its end, of which 64 are kept. -/
def pushed {α : Type} (l : List α) (a : α) : List α :=
  if (l ++ [a]).length > 64 then (l ++ [a]).drop 1 else l ++ [a]

/-- Keeping 64, one by one, keeps the last 64. -/
theorem pushed_latest {α : Type} (l : List α) (a : α) :
    pushed (latest l) a = latest (l ++ [a]) := by
  unfold pushed latest
  simp only [List.length_append, List.length_drop, List.length_singleton]
  split_ifs with hfull
  · rw [← List.drop_append_of_le_length (by omega), List.drop_drop]
    congr 1
    omega
  · rw [show l.length + 1 - 64 = 0 by omega, show l.length - 64 = 0 by omega]
    rfl

/-- A method that leaves the device alone, somewhere on the way from `h₀`. -/
theorem KeepsDevice.from {α : Type} {x : Io α} (hx : KeepsDevice x) {h₀ h : HidDevice}
    (hsame : h₀.OnlyFile h) :
    Ensures x h (fun _ h' => h₀.OnlyFile h') (fun _ h' => h₀.OnlyFile h') :=
  (hx h).mono (fun _ _ h' => ⟨h'.1.trans hsame.1, h'.2.trans hsame.2⟩)
    fun _ _ h' => ⟨h'.1.trans hsame.1, h'.2.trans hsame.2⟩

/-- What the waiting loop leaves of the captures: its answer is the last one. A report
that is skipped is not captured, and a wait that fails leaves the captures as they were. -/
theorem awaitReply_captures (opcode command : UInt8) (turns : List PollTurn) {h₀ h : HidDevice}
    (hsame : h₀.OnlyFile h) :
    Ensures (awaitReply opcode command turns) h
      (fun reply h' => h'.info = h₀.info ∧ h'.captures = pushed h₀.captures (command, reply.bytes))
      (fun _ h' => h₀.OnlyFile h') := by
  induction turns generalizing h with
  | nil => exact ensures_throw hsame
  | cons turn turns ih =>
      refine ensures_bind (((keepsDevice_arrive _).from hsame).mono ?_ fun _ _ he => he)
      intro _ h hsame
      cases turn.poll with
      | interrupted => exact ih hsame
      | failed e => exact ensures_throw hsame
      | timeout => exact ensures_throw hsame
      | hangup => exact ensures_throw hsame
      | ready =>
          refine ensures_bind (((keepsDevice_readFile _).from hsame).mono ?_ fun _ _ he => he)
          intro read h hsame
          cases read with
          | none => exact ih hsame
          | some reply =>
              dsimp only
              split_ifs
              · exact ensures_throw hsame
              · refine ensures_bind (((keepsDevice_ofWire _).from hsame).mono ?_ fun _ _ he => he)
                intro body h hsame
                refine ensures_bind (((keepsDevice_ofWire _).from hsame).mono ?_ fun _ _ he => he)
                intro other h hsame
                split_ifs
                · exact ih hsame
                · exact ensures_throw hsame
                · refine ensures_bind (ensures_modify (ensures_pure ⟨hsame.1, ?_⟩))
                  dsimp only
                  rw [hsame.2, pushed]

/-- **What an exchange leaves of the device**: its answer, if it returns one, is the
last capture. -/
theorem exchange_captures (opcode command : UInt8) (payload : Bytes) (script : Script)
    (h : HidDevice) :
    Ensures (Railwatch.exchange opcode command payload script) h
      (fun reply h' => h'.info = h.info ∧ h'.captures = pushed h.captures (command, reply.bytes))
      (fun _ h' => h.OnlyFile h') := by
  have hsame : h.OnlyFile h := ⟨rfl, rfl⟩
  refine ensures_bind (((keepsDevice_drain _ _).from hsame).mono ?_ fun _ _ he => he)
  intro _ h₁ hsame
  refine ensures_bind (((keepsDevice_ofWire _).from hsame).mono ?_ fun _ _ he => he)
  intro _ h₂ hsame
  refine ensures_bind (((keepsDevice_writeAll _).from hsame).mono ?_ fun _ _ he => he)
  intro _ h₃ hsame
  exact awaitReply_captures opcode command script.turns hsame

/-- The bytes of a transaction's request. -/
def Transaction.bytes (t : Transaction) : Bytes :=
  0 :: t.opcode :: t.command :: List.replicate 62 0

/-- A transaction without payload has a request, which is its bytes. -/
theorem Transaction.request_eq (t : Transaction) :
    request t.opcode t.command [] = .ok t.bytes := rfl

/-- **What a transaction writes**: its request, or nothing. It writes nothing if the
drain fails, and once it has written it writes no second time, whatever it reads. -/
theorem exchange_written (t : Transaction) (script : Script) (b : Bus) :
    Ensures (Bus.exchange t script) b
      (fun _ b' => b'.written = b.written ++ [t.bytes] ∧ b'.answered = b.answered)
      (fun _ b' => (b'.written = b.written ∨ b'.written = b.written ++ [t.bytes]) ∧
        b'.answered = b.answered) := by
  have hlogs {α : Type} (x : Io α) (b : Bus) : Ensures (onDevice x) b
      (fun _ b' => b'.written = b.written ∧ b'.answered = b.answered)
      (fun _ b' => b'.written = b.written ∧ b'.answered = b.answered) := by
    unfold Ensures onDevice
    cases x b.device <;> exact ⟨rfl, rfl⟩
  refine ensures_bind ((hlogs _ b).mono ?_ fun _ _ he => ⟨.inl he.1, he.2⟩)
  rintro _ b₁ ⟨hwritten₁, hanswered₁⟩
  rw [Transaction.request_eq]
  refine ensures_bind (ensures_of_ok (a := t.bytes)
    (show onDevice (ofWire (.ok t.bytes)) b₁ = .ok t.bytes b₁ from rfl) ?_)
  refine ensures_bind (ensures_modify (ensures_bind ((hlogs _ _).mono ?_ fun _ b' he => ?_)))
  · rintro _ b₂ ⟨hwritten₂, hanswered₂⟩
    refine (hlogs _ b₂).mono (fun _ b₃ h => ⟨?_, ?_⟩) fun _ b₃ h => ⟨.inr ?_, ?_⟩
    · rw [h.1, hwritten₂, hwritten₁]
    · rw [h.2, hanswered₂, hanswered₁]
    · rw [h.1, hwritten₂, hwritten₁]
    · rw [h.2, hanswered₂, hanswered₁]
  · exact ⟨.inr (by rw [he.1, hwritten₁]), by rw [he.2, hanswered₁]⟩

/-- A transaction leaves what is known of the device as it is. -/
theorem turn_info (script : UInt8 → Script) (t : Transaction) (b : Bus) :
    (Bus.turn script t b).2.device.info = b.device.info := by
  have hcaptures := exchange_captures t.opcode t.command [] (script t.command) b.device
  rw [(turn_device script t b).2, deviceTurn]
  unfold Ensures at hcaptures
  cases hrun : Railwatch.exchange t.opcode t.command [] (script t.command) b.device with
  | ok reply h => exact (hrun ▸ hcaptures).1
  | error e h => exact (hrun ▸ hcaptures).1

/-- **A program of transactions** leaves what is known of the device as it is. Only
`open` sets it, from the answers to its own transactions. -/
theorem run_info {α : Type} (script : UInt8 → Script) (x : Transport α) (b : Bus) :
    (run (Bus.turn script) x b).2.device.info = b.device.info := by
  induction x generalizing b with
  | done r => rfl
  | call t next ih => exact (ih _ _).trans (turn_info script t b)

/-- And so does a session that goes on. -/
theorem steps_info (ops : List SessionOp) (b : Bus) :
    (Transition.run Bus.step b ops).device.info = b.device.info := by
  induction ops generalizing b with
  | nil => rfl
  | cons op ops ih =>
      refine (ih (b.step op)).trans ?_
      cases op with
      | telemetry capturedAtMs monotonicMs script => exact run_info ..
      | diagnostics script => exact run_info ..

/-! ### Opening a device -/

/-- A program without calls that returns has changed nothing. -/
theorem of_run_done_eq_ok {α : Type} {turn : Turn Transaction Bytes DeviceError Bus} {b b' : Bus}
    {r : Except DeviceError α} {a : α} (h : run turn (.done r) b = (.ok a, b')) :
    r = .ok a ∧ b' = b := ⟨(Prod.mk.inj h).1, (Prod.mk.inj h).2.symm⟩

/-- A transaction that returns has its answer in the log, behind those of the earlier
ones and under its own command. -/
theorem of_run_perform_eq_ok {script : UInt8 → Script} {t : Transaction} {b b' : Bus} {r : Bytes}
    (h : run (Bus.turn script) (Program.perform t) b = (.ok r, b')) :
    b'.answered = b.answered ++ [(t.command, r)] := by
  have hwritten := exchange_written t (script t.command) b
  unfold Program.perform run Bus.turn at h
  cases hrun : Bus.exchange t (script t.command) b with
  | ok reply b₁ =>
      rw [Ensures, hrun] at hwritten
      rw [hrun] at h
      obtain ⟨hr, rfl⟩ := Prod.mk.inj h
      obtain rfl := Except.ok.inj hr
      show b₁.answered ++ _ = _
      rw [hwritten.2]
  | error e b₁ =>
      rw [hrun] at h
      cases (Prod.mk.inj h).1

/-- The conversion of errors does not make a success. -/
theorem of_deviceResult_eq_ok {α : Type} {r : Result α} {a : α} (h : deviceResult r = .ok a) :
    r = .ok a := by
  match r with
  | .ok a' => exact congrArg _ (Except.ok.inj h)
  | .error (.error e) => cases h
  | .error .outOfRange => cases h

/-- The serial number in a reply to command `0x13`, if it is well formed: a length of at
most 61, so many bytes of UTF-8, and of these the text without zeros behind it and
blanks around it. -/
def serialText (reply : Bytes) : Option String := do
  let p ← (response reply readOp 0x13 62).toOption
  let n ← (byteAt p 0).toOption
  if ¬n.toNat ≤ 61 then none
  else do
    let bytes ← (slice p 1 (1 + n.toNat)).toOption
    let text ← fromUtf8 bytes
    some (trim (trimEndMatches (· = '\x00') text))

/-- The reply to the handshake of a PSU of this maker. -/
def IsHandshake (reply : Bytes) : Prop :=
  ∃ body, response reply 0xfa readOp 62 = .ok body ∧ handshakeIdentity.isPrefixOf body = true

/-- **What a device is taken for**: its product, and the serial number it has reported or
else the name of its file. -/
theorem identify_ok {utf8Error : Bytes → String} {d : Discovery} {script : UInt8 → Script}
    {b b' : Bus} {info : DeviceInfo}
    (h : run (Bus.turn script) (identify utf8Error d) b = (.ok info, b')) :
    ∃ r₀ r₁ r₂ serial revision,
      b'.answered = b.answered ++ [(readOp, r₀), (0x13, r₁), (0x12, r₂)] ∧ IsHandshake r₀ ∧
        serialText r₁ = some serial ∧ info = { d.info with
          id := deviceId d.pid (d.label serial)
          serial := some serial
          revision := some revision } := by
  unfold identify at h
  obtain ⟨r₀, b₁, h₀, hrest₁⟩ := of_run_bind_eq_ok _ h
  obtain ⟨body, b₂, hbody, hrest₂⟩ := of_run_bind_eq_ok _ hrest₁
  obtain ⟨hbody', rfl⟩ := of_run_done_eq_ok hbody
  split_ifs at hrest₂ with hidentity
  · obtain ⟨r₁, b₃, h₁, hrest₃⟩ := of_run_bind_eq_ok _ hrest₂
    obtain ⟨p, b₄, hp, hrest₄⟩ := of_run_bind_eq_ok _ hrest₃
    obtain ⟨hp', rfl⟩ := of_run_done_eq_ok hp
    obtain ⟨n, b₅, hn, hrest₅⟩ := of_run_bind_eq_ok _ hrest₄
    obtain ⟨hn', rfl⟩ := of_run_done_eq_ok hn
    split_ifs at hrest₅ with hlength
    · obtain ⟨bytes, b₆, hbytes, hrest₆⟩ := of_run_bind_eq_ok _ hrest₅
      obtain ⟨hbytes', rfl⟩ := of_run_done_eq_ok hbytes
      cases htext : fromUtf8 bytes with
      | none =>
          rw [htext] at hrest₆
          cases (Prod.mk.inj hrest₆).1
      | some text =>
          rw [htext] at hrest₆
          dsimp only at hrest₆
          obtain ⟨r₂, b₇, h₂, hrest₇⟩ := of_run_bind_eq_ok _ hrest₆
          obtain ⟨revision, b₈, hrevision, hrest₈⟩ := of_run_bind_eq_ok _ hrest₇
          obtain ⟨-, rfl⟩ := of_run_done_eq_ok hrevision
          obtain ⟨hinfo, rfl⟩ := of_run_done_eq_ok hrest₈
          refine ⟨r₀, r₁, r₂, trim (trimEndMatches (· = '\x00') text), fromUtf8Lossy revision, ?_,
            ⟨body, of_deviceResult_eq_ok hbody', hidentity⟩, ?_, (Except.ok.inj hinfo).symm⟩
          · rw [of_run_perform_eq_ok h₂, of_run_perform_eq_ok h₁, of_run_perform_eq_ok h₀]
            simp only [List.append_assoc]
            rfl
          · simp [serialText, of_deviceResult_eq_ok hp', of_deviceResult_eq_ok hn',
              of_deviceResult_eq_ok hbytes', hlength, htext, Except.toOption]
    · cases (Prod.mk.inj hrest₅).1
  · cases (Prod.mk.inj hrest₂).1

/-- **A session is with one device**: the file that it has opened stays the file that it
knows its device by. -/
theorem used_path {utf8Error : Bytes → String} (d : Discovery) (script : UInt8 → Script)
    (ops : List SessionOp) :
    (Bus.used ops (identified utf8Error d script)).device.info.path = d.path := by
  unfold Bus.used
  cases hrun : identified utf8Error d script with
  | mk r b =>
      cases r with
      | error e =>
          have hinfo := run_info script (identify utf8Error d) d.bus
          unfold identified at hrun
          rw [hrun] at hinfo
          exact congrArg DeviceInfo.path hinfo
      | ok info =>
          obtain ⟨-, -, -, -, -, -, -, -, rfl⟩ := identify_ok hrun
          exact congrArg DeviceInfo.path (steps_info ops _)

/-! ### A poll on the bus -/

/-- The outcome of a method, from that of its program. -/
def methodResult {α : Type} (r : Except DeviceError α × HidDevice) :
    EStateM.Result DeviceError HidDevice α :=
  match r.1 with
  | .ok a => .ok a r.2
  | .error e => .error e r.2

/-- A read is its exchange: here one that returns. -/
theorem run_read_ok {script : UInt8 → Script} {command : UInt8} {h h' : HidDevice} {reply : Report}
    (hrun : Railwatch.exchange readOp command [] (script command) h = .ok reply h') :
    run (deviceTurn script) (Transport.read command) h = (.ok reply.bytes, h') := by
  unfold Transport.read Program.perform run deviceTurn
  rw [hrun]
  rfl

/-- Here one that fails. -/
theorem run_read_error {script : UInt8 → Script} {command : UInt8} {h h' : HidDevice}
    {e : DeviceError}
    (hrun : Railwatch.exchange readOp command [] (script command) h = .error e h') :
    run (deviceTurn script) (Transport.read command) h = (.error e, h') := by
  unfold Transport.read Program.perform run deviceTurn
  rw [hrun]
  rfl

/-- A read whose error is kept has the outcome of `outcome`. In the session it is a
transaction whose answer is looked at, in the poll a call whose error is caught, and
both leave the device in one state. -/
theorem run_tryRead (script : UInt8 → Script) (command : UInt8) (h : HidDevice) :
    run (deviceTurn script) (tryRead command) h =
      (.ok (outcome script command h).1, (outcome script command h).2) := by
  have hensures := exchange_ensures readOp command [] (script command) h
  unfold outcome readCommand tryRead run deviceTurn
  cases hrun : Railwatch.exchange readOp command [] (script command) h with
  | ok reply h' =>
      rw [bind_of_ok hrun]
      rfl
  | error e h' =>
      rw [Ensures, hrun] at hensures
      rw [bind_of_error hrun]
      cases e with
      | error text => rfl
      | outOfRange => exact absurd rfl hensures

/-- The device behind the reads of the optional groups but the last one. -/
def afterOptional (script : UInt8 → Script) (h₀ : HidDevice) : HidDevice :=
  (outcome script 0xd0 (outcome script 0x41 (outcome script 0x42 (outcome script 0xc1
    (outcome script 0xe1 h₀).2).2).2).2).2

/-- What a poll leaves of the device when its telemetry report decodes: the state behind
the last of its seven reads, each of which starts where the one before it has stopped. -/
theorem telemetry_state (capturedAtMs : ℤ) (monotonicMs : ℕ) (script : UInt8 → Script)
    (h : HidDevice) {h₀ : HidDevice} {r : Bytes} {base : Telemetry}
    (houtcome : outcome script 0xe0 h = (.ok r, h₀)) (hbase : decodeTelemetry r .ts = .ok base) :
    telemetry capturedAtMs monotonicMs script h = .ok (sampleOf base h₀.info.id capturedAtMs
      monotonicMs (outcomes script h)) (outcome script 0xd1 (afterOptional script h₀)).2 := by
  have hread : readCommand script 0xe0 h = .ok r h₀ := by
    have hread := readCommand_of_outcome (congrArg Prod.fst houtcome)
    rwa [houtcome] at hread
  have hfirst : (ofExcept (decodeTelemetry r .ts) : Io Telemetry) h₀ = .ok base h₀ := by
    rw [hbase]
    rfl
  have hget : (get : Io HidDevice) h₀ = .ok h₀ h₀ := rfl
  obtain ⟨hrun₁, hanswer₁⟩ := outcome_spec script 0xe1 h₀
  obtain ⟨hrun₂, hanswer₂⟩ := outcome_spec script 0xc1 (outcome script 0xe1 h₀).2
  obtain ⟨hrun₃, hanswer₃⟩ := outcome_spec script 0x42 (outcome script 0xc1
    (outcome script 0xe1 h₀).2).2
  obtain ⟨hrun₄, hanswer₄⟩ := outcome_spec script 0x41 (outcome script 0x42 (outcome script 0xc1
    (outcome script 0xe1 h₀).2).2).2
  obtain ⟨hrun₅, hanswer₅⟩ := outcome_spec script 0xd0 (outcome script 0x41 (outcome script 0x42
    (outcome script 0xc1 (outcome script 0xe1 h₀).2).2).2).2
  obtain ⟨hrun₆, hanswer₆⟩ := outcome_spec script 0xd1 (afterOptional script h₀)
  obtain ⟨h', hsample⟩ := telemetry_of_ok capturedAtMs monotonicMs script h
    (congrArg Prod.fst houtcome) hbase
  rw [houtcome] at hsample
  have hstate := hsample
  rw [telemetry, bind_of_ok hread, bind_of_ok hfirst, bind_of_ok hget, bind_of_ok hrun₁,
    bind_of_ok (hardwareAlerts_eq _ hanswer₁), bind_of_ok hrun₂,
    bind_of_ok (safeguardGroup_eq _ hanswer₂), bind_of_ok hrun₃,
    bind_of_ok (fanDuty_eq _ hanswer₃), bind_of_ok hrun₄, bind_of_ok (fanSetting_eq _ hanswer₄),
    bind_of_ok hrun₅, bind_of_ok (session_eq _ hanswer₅)] at hstate
  unfold afterOptional at hrun₆ hanswer₆
  rw [bind_of_ok hrun₆, lifetime_eq _ hanswer₆] at hstate
  obtain ⟨-, rfl⟩ := EStateM.Result.ok.inj hstate
  exact hsample

/-- **A poll is `telemetry`**: the program has its transactions and its sample. The
groups are put together at the end in the one and as they are read in the other, which
makes no difference. -/
theorem poll_eq_telemetry (capturedAtMs : ℤ) (monotonicMs : ℕ) (script : UInt8 → Script)
    (h : HidDevice) :
    telemetry capturedAtMs monotonicMs script h =
      methodResult (run (deviceTurn script) (poll h.info.id capturedAtMs monotonicMs) h) := by
  have hcaptures := exchange_captures readOp 0xe0 [] (script 0xe0) h
  cases hrun : Railwatch.exchange readOp 0xe0 [] (script 0xe0) h with
  | error e h' =>
      have hread : readCommand script 0xe0 h = .error e h' := bind_of_error hrun
      rw [telemetry, bind_of_error hread, poll, run_bind_of_error _ (run_read_error hrun)]
      rfl
  | ok reply h₀ =>
      rw [Ensures, hrun] at hcaptures
      have hread : readCommand script 0xe0 h = .ok reply.bytes h₀ := bind_of_ok hrun
      have houtcome : outcome script 0xe0 h = (.ok reply.bytes, h₀) := by rw [outcome, hread]
      rw [poll, run_bind_of_ok _ (run_read_ok hrun)]
      cases hbase : decodeTelemetry reply.bytes .ts with
      | error e =>
          rw [telemetry, bind_of_ok hread, hbase]
          rfl
      | ok base =>
          have hdone : run (deviceTurn script) (.done (.ok base) : Transport Telemetry) h₀ =
            (.ok base, h₀) := rfl
          rw [telemetry_state capturedAtMs monotonicMs script h houtcome hbase,
            run_bind_of_ok _ hdone, run_bind_of_ok _ (run_tryRead ..),
            run_bind_of_ok _ (run_tryRead ..), run_bind_of_ok _ (run_tryRead ..),
            run_bind_of_ok _ (run_tryRead ..), run_bind_of_ok _ (run_tryRead ..),
            run_bind_of_ok _ (run_tryRead ..), run_pure, hcaptures.1]
          unfold outcomes
          rw [houtcome]
          rfl

/-- **On the bus a poll is `telemetry`, too.** So what is counted on the bus is what the
method writes to the device. -/
theorem poll_on_bus (capturedAtMs : ℤ) (monotonicMs : ℕ) (script : UInt8 → Script) (b : Bus) :
    telemetry capturedAtMs monotonicMs script b.device =
      methodResult
        ((run (Bus.turn script) (poll b.device.info.id capturedAtMs monotonicMs) b).1,
          (b.step (.telemetry capturedAtMs monotonicMs script)).device) := by
  have hsimulates := run_simulates (f := Bus.device) (turn_device script)
    (poll b.device.info.id capturedAtMs monotonicMs) b
  rw [poll_eq_telemetry, Bus.step, hsimulates.1, hsimulates.2]

end Railwatch
