/-
# The wire format

`crates/protocol/src/lib.rs`: framing and decoding of HID reports, without any
state.

A report is 64 bytes, or 65 with a leading zero.  It starts with the opcode and
the command it answers, its payload follows.  A telemetry payload is 22 numbers
of two bytes each, with an unsigned mantissa of eleven bits and a signed
exponent of five; a safeguard payload is two blocks of 21 bytes.

An index or a range outside a slice is an outcome of its own here, `outOfRange`,
where the source would panic.
Numbers are integers; those of the wire fit an `i64` (`unsignedLinear11_fits`).
-/

import Mathlib

namespace Railwatch
namespace Wire

/-- `&[u8]`. -/
abbrev Bytes := List UInt8

/-- `READ`. -/
def readOp : UInt8 := 0x51

/-- `Error`. These are all the errors that the crate has. -/
inductive WireError where
  | payloadLength
  | reportLength
  | echoMismatch
  | busy
  | implausibleTelemetry
  deriving DecidableEq, Repr

/-- `Display` of `Error`. -/
def WireError.text : WireError → String
  | .payloadLength => "invalid payload length"
  | .reportLength => "invalid HID report length"
  | .echoMismatch => "response does not match outstanding command"
  | .busy => "device returned busy/error sentinel"
  | .implausibleTelemetry => "implausible telemetry values"

/-- How a function of this module ends without a result: with one of the errors, or with
an index outside a slice. -/
inductive Failure where
  | error (e : WireError)
  | outOfRange
  deriving DecidableEq, Repr

/-- The result of a function that may fail. -/
abbrev Result (α : Type) := Except Failure α

/-- `r[i]`. -/
def byteAt (r : Bytes) (i : ℕ) : Result UInt8 :=
  match r[i]? with
  | some b => .ok b
  | none => .error .outOfRange

/-- `&r[first..last]`. -/
def slice (r : Bytes) (first last : ℕ) : Result Bytes :=
  if first ≤ last ∧ last ≤ r.length then .ok ((r.take last).drop first)
  else .error .outOfRange

/-! ### Framing -/

/-- `request`: the bytes of a hidraw write. -/
def request (opcode command : UInt8) (payload : Bytes) : Result Bytes :=
  if payload.length > 62 then .error (.error .payloadLength)
  else .ok (0 :: opcode :: command :: (payload ++ List.replicate (62 - payload.length) 0))

/-- `normalize`. -/
def normalize (report : Bytes) : Result Bytes :=
  if report.length = 64 then .ok report
  else if report.length = 65 then do
    if (← byteAt report 0) = 0 then slice report 1 report.length
    else .error (.error .reportLength)
  else .error (.error .reportLength)

/-- `busy_pattern`.  Where byte 2 exists the range from 3 on does, too. -/
def busyPattern (report : Bytes) : Bool :=
  report[2]? == some 0xfe && (report.drop 3).all (· == 0)

/-- `r[0] != opcode || r[1] != command`. -/
def echoMismatch (r : Bytes) (opcode command : UInt8) : Result Bool := do
  if (← byteAt r 0) ≠ opcode then .ok true
  else .ok ((← byteAt r 1) ≠ command)

/-- `response`. -/
def response (report : Bytes) (opcode command : UInt8) (length : ℕ) : Result Bytes := do
  let report ← normalize report
  if ← echoMismatch report opcode command then .error (.error .echoMismatch)
  else if busyPattern report then .error (.error .busy)
  else if length > 62 then .error (.error .payloadLength)
  else slice report 2 (2 + length)

/-! ### Numbers -/

/-- `u16::from_le_bytes`. -/
def u16 (low high : UInt8) : UInt16 := UInt16.ofNat (low.toNat + 256 * high.toNat)

/-- `u32::from_le_bytes`. -/
def u32 (b₀ b₁ b₂ b₃ : UInt8) : ℕ :=
  b₀.toNat + 2 ^ 8 * b₁.toNat + 2 ^ 16 * b₂.toNat + 2 ^ 24 * b₃.toNat

/-- `Scale`: the units that a number is read in, by how many there are in one. -/
inductive Scale where
  | base
  | milli
  | micro
  deriving DecidableEq, Repr

/-- `scale as i64`. -/
def Scale.factor : Scale → ℤ
  | .base => 1
  | .milli => 1000
  | .micro => 1000000

/-- `unsigned_linear11`. -/
def unsignedLinear11 (raw : UInt16) (scale : Scale) : ℤ :=
  let exponent := (raw.toNat : ℤ).bmod (2 ^ 16) >>> (11 : ℕ)
  let mantissa := ((raw &&& 0x7ff).toNat : ℤ) * scale.factor
  if 0 ≤ exponent then mantissa <<< exponent.toNat else mantissa >>> (-exponent).toNat

/-! ### Telemetry -/

/-- `Rail`, as it is on the wire. Which rail it is follows from its place. -/
structure Rail where
  voltageMv : ℤ
  currentMa : ℤ
  deriving DecidableEq, Repr

/-- `TsTelemetry`: the numbers of the report, at their scales. Temperatures and
efficiencies are in thousandths. -/
structure TsTelemetry where
  /-- Microwatts. -/
  powerUw : ℤ
  /-- Thousandths of a percent. -/
  efficiencyMillipercent : ℤ
  /-- Thousandths of a degree. -/
  temperatureMc : ℤ
  /-- Turns a minute. -/
  fanRpm : ℤ
  /-- Ordered 12V, 5V, 3.3V. -/
  rails : Vector Rail 3
  /-- Six conductors for each of the two connectors. -/
  connectorCurrentsMa : Vector (Vector ℤ 6) 2
  deriving DecidableEq, Repr

/-- `value` of `decode_ts_telemetry`. -/
def value (d : Bytes) (offset : ℕ) (scale : Scale) : Result ℤ := do
  .ok (unsignedLinear11 (u16 (← byteAt d offset) (← byteAt d (offset + 1))) scale)

/-- The voltage and current offsets of the rails. -/
def railOffsets : Fin 3 → ℕ × ℕ
  | 0 => (38, 0)
  | 1 => (40, 2)
  | 2 => (42, 4)

/-- The check at the end of `decode_ts_telemetry`. -/
def implausibleValues (t : TsTelemetry) : Bool :=
  t.powerUw > 2500000000 || t.temperatureMc > 200000 || t.efficiencyMillipercent > 100000 ||
    t.rails.any (fun r => r.voltageMv > 20000 || r.currentMa > 200000) ||
    t.connectorCurrentsMa.any fun c => c.any (· > 50000)

/-- `decode_ts_telemetry`. Every number is read at its own offset of the body, at its
own scale; values that no power supply has are refused as a whole. -/
def decodeTsTelemetry (report : Bytes) : Result TsTelemetry := do
  let d ← response report readOp 0xe0 44
  let t : TsTelemetry := {
    powerUw := ← value d 30 .micro
    efficiencyMillipercent := ← value d 32 .milli
    temperatureMc := ← value d 34 .milli
    fanRpm := ← value d 36 .base
    rails := ← Vector.ofFnM fun i => do
      .ok ⟨← value d (railOffsets i).1 .milli, ← value d (railOffsets i).2 .milli⟩
    connectorCurrentsMa := ← Vector.ofFnM fun c => Vector.ofFnM fun i =>
      value d (6 + c * 12 + i * 2) .milli }
  if implausibleValues t then .error (.error .implausibleTelemetry) else .ok t

/-! ### Safeguards -/

/-- `FaultSnapshot`, as it is on the wire. The times are in seconds. -/
structure FaultSnapshot where
  statusRaw : UInt8
  runtimeSeconds : ℕ
  lifetimeSeconds : ℕ
  currentsMa : Vector ℤ 6
  deriving DecidableEq, Repr

/-- `u32::from_le_bytes(p[k..k + 4])`. -/
def u32At (p : Bytes) (k : ℕ) : Result ℕ := do
  .ok (u32 (← byteAt p k) (← byteAt p (k + 1)) (← byteAt p (k + 2)) (← byteAt p (k + 3)))

/-- One block of `decode_ts_safeguards`. -/
def safeguardBlock (p : Bytes) : Result FaultSnapshot := do
  .ok {
    statusRaw := ← byteAt p 0
    runtimeSeconds := ← u32At p 1
    lifetimeSeconds := ← u32At p 5
    currentsMa := ← Vector.ofFnM fun i => value p (9 + i * 2) .milli }

/-- `decode_ts_safeguards`. -/
def decodeTsSafeguards (report : Bytes) : Result (Vector FaultSnapshot 2) := do
  let d ← response report readOp 0xc1 42
  Vector.ofFnM fun c => do safeguardBlock (← slice d (c * 21) ((c + 1) * 21))

end Wire
end Railwatch
