/-
# The methods of a PSU's owner

`HidDevice::open`, `HidDevice::telemetry` and `HidDevice::diagnostics` of
`crates/hardware/src/lib.rs`, as programs whose calls are transactions.

What `discover` finds, whether the file can be opened and locked, and the text of an
UTF-8 error are inputs.

A program says in which order the calls are made and what depends on their answers, for
any device; what a device answers is decided by the turn that it is run with
(`General/Calls`).  The texts of all errors are those of the source, since they are
shown to the user as they are.
-/

import Railwatch.General.Calls
import Railwatch.Hardware.Poll

namespace Railwatch

open Wire Effects Calls

/-! ### Texts of a device -/

/-- The characters of a `String` that `trim` removes: `White_Space`. -/
def isWhiteSpace (c : Char) : Bool :=
  let n := c.toNat
  (9 ≤ n && n ≤ 13) || n == 0x20 || n == 0x85 || n == 0xa0 || n == 0x1680 ||
    (0x2000 ≤ n && n ≤ 0x200a) || n == 0x2028 || n == 0x2029 || n == 0x202f || n == 0x205f ||
    n == 0x3000

/-- `trim_end_matches`. -/
def trimEndMatches (p : Char → Bool) (s : String) : String :=
  String.ofList (s.toList.reverse.dropWhile p).reverse

/-- `trim`. -/
def trim (s : String) : String :=
  trimEndMatches isWhiteSpace (String.ofList (s.toList.dropWhile isWhiteSpace))

/-- `String::from_utf8`. -/
def fromUtf8 (bytes : Bytes) : Option String := String.fromUTF8? ⟨bytes.toArray⟩

/-- The second byte of a sequence of three or four bytes fits the first one. -/
def secondByteFits (first second : UInt8) : Bool :=
  if first = 0xe0 then 0xa0 ≤ second && second ≤ 0xbf
  else if first = 0xed then 0x80 ≤ second && second ≤ 0x9f
  else if first = 0xf0 then 0x90 ≤ second && second ≤ 0xbf
  else if first = 0xf4 then 0x80 ≤ second && second ≤ 0x8f
  else 0xe1 ≤ first && first ≤ 0xf3 && 0x80 ≤ second && second ≤ 0xbf

/-- How many bytes one replacement character stands for: the longest start of a
character, or a byte that starts none. -/
def brokenLength : Bytes → ℕ
  | first :: second :: rest =>
      if secondByteFits first second then
        if 0xf0 ≤ first ∧ rest.head?.any fun third => 0x80 ≤ third && third ≤ 0xbf then 3 else 2
      else 1
  | _ => 1

/-- The characters of `String::from_utf8_lossy`; `fuel` bytes at most. -/
def utf8Lossy : ℕ → Bytes → List Char
  | 0, _ => []
  | _ + 1, [] => []
  | fuel + 1, b :: bytes =>
      match ByteArray.utf8DecodeChar? ⟨(b :: bytes).toArray⟩ 0 with
      | some c => c :: utf8Lossy fuel ((b :: bytes).drop c.utf8Size)
      | none => Char.ofNat 0xfffd :: utf8Lossy fuel ((b :: bytes).drop (brokenLength (b :: bytes)))

/-- `String::from_utf8_lossy`. -/
def fromUtf8Lossy (bytes : Bytes) : String := String.ofList (utf8Lossy bytes.length bytes)

/-- `{:04x}` of a `u16`: its four digits. -/
def hex4 (pid : UInt16) : String :=
  String.ofList ([pid.toNat / 4096, pid.toNat / 256 % 16, pid.toNat / 16 % 16, pid.toNat % 16].map
    Nat.digitChar)

/-- `Path::file_name`, of a path that ends in a name. -/
def fileName (path : String) : String :=
  String.ofList (path.toList.reverse.takeWhile (· ≠ '/')).reverse

/-! ### Transactions -/

/-- `WRITE`. -/
def writeOp : UInt8 := 0x50

/-- A request without payload. No method of the owner sends another one. -/
structure Transaction where
  opcode : UInt8
  command : UInt8
  deriving DecidableEq, Repr

/-- A method of `HidDevice`, by the transactions it makes. -/
abbrev Transport (α : Type) := Program Transaction Bytes DeviceError α

namespace Transport

/-- `HidDevice::read`. -/
def read (command : UInt8) : Transport Bytes := Program.perform ⟨readOp, command⟩

/-- A read whose error is kept as a text. -/
def tryRead (command : UInt8) : Transport (Except String Bytes) :=
  .call ⟨readOp, command⟩ fun
    | .ok r => .done (.ok (.ok r))
    | .error (.error e) => .done (.ok (.error e))
    | .error .outOfRange => .done (.error .outOfRange)

/-- `?` on a result of the wire format. -/
def decoded {α : Type} (r : Result α) : Transport α := .done (deviceResult r)

/-- `bail!`. -/
def fail {α : Type} (text : String) : Transport α := .done (.error (.error text))

/-- `context`, as `{:#}` shows it. -/
def context {α : Type} (text : String) (x : Transport α) : Transport α := do
  match ← x.attempt with
  | .ok a => pure a
  | .error (.error e) => fail (text ++ ": " ++ e)
  | .error .outOfRange => .done (.error .outOfRange)

end Transport

open Transport

/-! ### Opening a device -/

/-- `family`. -/
def family (pid : UInt16) : Option Family :=
  if pid = 0x808c ∨ pid = 0xaa6f then some .ts
  else if pid = 0xc9eb then some .t
  else if pid = 0x56d4 ∨ pid = 0xe749 then some .p
  else none

/-- `Discovery`: the file of a device, its product, its name and the driver that has it. -/
structure Discovery where
  path : String
  pid : UInt16
  model : String
  driver : String
  deriving DecidableEq, Repr

/-- What `HidDevice::open` meets before its first transaction: what `discover`
returns, and whether the file can be opened and locked. -/
structure Opening where
  /-- What `discover` returns. -/
  devices : Except String (List Discovery)
  /-- Whether the file can be opened. -/
  file : Except String Unit := .ok ()
  /-- Whether it can be locked. -/
  locked : Bool := true

/-- `b"MPG "`. -/
def handshakeIdentity : Bytes := [0x4d, 0x50, 0x47, 0x20]

/-- The devices to choose from. -/
def candidates (path : Option String) (devices : List Discovery) : List Discovery :=
  devices.filter fun d => path.all (· = d.path)

/-- `HidDevice::open` up to its first transaction. Exactly one candidate has to be left;
its family and its driver are checked before the file is opened, and the lock is taken
before anything is written to it. -/
def select (o : Opening) (path : Option String) : Except DeviceError Discovery :=
  match o.devices with
  | .error e => .error (.error e)
  | .ok devices =>
      match candidates path devices with
      | [d] =>
          if family d.pid ≠ some .ts then
            .error (.error "model is detected but its telemetry layout is not yet qualified")
          else if d.driver ≠ "hid-generic" then
            .error (.error ("PSU has driver " ++ d.driver ++
              "; use its kernel backend instead of concurrent raw access"))
          else
            match o.file with
            | .error e => .error (.error ("open " ++ d.path ++ ": " ++ e))
            | .ok () =>
                if o.locked then .ok d
                else .error (.error "PSU is already owned by another process")
      | found =>
          .error (.error ("select exactly one supported PSU with --device; found " ++
            toString found.length))

/-- The `DeviceInfo` before the first transaction. The id, the serial number and the
revision are still to be read; what the discovery found is there already. -/
def Discovery.info (d : Discovery) : DeviceInfo where
  id := ""
  model := d.model
  pid := d.pid.toNat
  serial := none
  revision := none
  path := d.path
  backend := "hidraw"
  simulated := false
  capabilities := ["telemetry", "conductor_currents", "hardware_alerts", "device_diagnostics"]

/-- What tells a PSU from others of its kind: its serial number, or the name of its
file. -/
def Discovery.label (d : Discovery) (serial : String) : String :=
  if serial = "" then fileName d.path else serial

/-- `device.info.id`. -/
def deviceId (pid : UInt16) (label : String) : String := "usb-0db0-" ++ hex4 pid ++ "-" ++ label

/-- `HidDevice::open` from its first transaction on: the `DeviceInfo` it ends with. The
handshake has to name an MPG, the serial number has to be a text of at most 61 bytes,
and the revision is read last; a failure of any of them is a failure of `open`. -/
def identify (utf8Error : Bytes → String) (d : Discovery) : Transport DeviceInfo := do
  let reply ← Program.perform ⟨0xfa, readOp⟩
  let body ← decoded (response reply 0xfa readOp 62)
  if ¬handshakeIdentity.isPrefixOf body then fail "unexpected handshake identity"
  else do
    let reply ← read 0x13
    let p ← decoded (response reply readOp 0x13 62)
    let n ← decoded (byteAt p 0)
    if ¬n.toNat ≤ 61 then fail "invalid serial length"
    else do
      let bytes ← decoded (slice p 1 (1 + n.toNat))
      match fromUtf8 bytes with
      | none => fail (utf8Error bytes)
      | some text => do
          let serial := trim (trimEndMatches (· = '\x00') text)
          let reply ← read 0x12
          let revision ← decoded (response reply readOp 0x12 2)
          pure { d.info with
            id := deviceId d.pid (d.label serial)
            serial := some serial
            revision := some (fromUtf8Lossy revision) }

/-! ### Polls and diagnostics -/

/-- `HidDevice::telemetry`. The first read is the sample and its failure the failure of
the poll; the other six are groups, each of which is read whether the others fail or
not. -/
def poll (id : String) (capturedAtMs : ℤ) (monotonicMs : ℕ) : Transport Telemetry := do
  let r ← read 0xe0
  let base ← (.done (decodeTelemetry r .ts) : Transport Telemetry)
  let alerts ← tryRead 0xe1
  let safeguards ← tryRead 0xc1
  let fanDuty ← tryRead 0x42
  let fanSetting ← tryRead 0x41
  let session ← tryRead 0xd0
  let lifetime ← tryRead 0xd1
  pure (sampleOf base id capturedAtMs monotonicMs
    ⟨.ok r, alerts, safeguards, fanDuty, fanSetting, session, lifetime⟩)

/-- `Diagnostics`: three reports as they came, and what is not offered to be changed. -/
structure Diagnostics where
  fanSettingReport : Bytes
  fanDutyReport : Bytes
  safeguardReport : Bytes
  writesAvailable : Bool
  reason : String
  deriving DecidableEq, Repr

/-- `HidDevice::diagnostics`. Three reads, of which each has to succeed. The fields that
say what is not offered are constants of the source. -/
def diagnostics : Transport Diagnostics := do
  let fanSettingReport ← context "read fan settings" (read 0x41)
  let fanDutyReport ← read 0x42
  let safeguardReport ← read 0xc0
  pure {
    fanSettingReport := fanSettingReport
    fanDutyReport := fanDutyReport
    safeguardReport := safeguardReport
    writesAvailable := false
    reason := "Fan mode mapping, safeguard timer units, buzzer switching, and nonvolatile " ++
      "persistence require separate qualification. No raw write endpoint is exposed." }

/-- The transactions that are qualified. -/
def qualified : List Transaction :=
  [⟨0xfa, readOp⟩, ⟨readOp, 0x13⟩, ⟨readOp, 0x12⟩, ⟨readOp, 0xe0⟩, ⟨readOp, 0xe1⟩, ⟨readOp, 0xc1⟩,
    ⟨readOp, 0x42⟩, ⟨readOp, 0x41⟩, ⟨readOp, 0xd0⟩, ⟨readOp, 0xd1⟩, ⟨readOp, 0xc0⟩]

end Railwatch
