/-
# Userspace telemetry values

`crates/core/src/model.rs` and `crates/core/src/measurements.rs`: the sample
every part of the daemon passes around, the estimated wall input, and the
conductor imbalance.

| Rust | here |
| --- | --- |
| `i64` | `ℤ`, read without wrapping |
| `u32`, `u64` | `ℕ` |
| `u8` | `UInt8` |
| `[i64; 6]` | `Vector ℤ 6` |
| `Vec<T>`, `VecDeque<T>` | `List T` |
| `String` | `String` |

Timestamps come from `chrono` and `CLOCK_BOOTTIME`, currents and powers from
the wire decoder, so all of them stay far inside their machine types.  A cast
that the source writes out (`as u32`, `as i64`) is kept.
-/

import Mathlib

namespace Railwatch

/-- `Rail`: one DC rail of a sample. Its voltage is in millivolts and its current in
milliamperes. -/
structure Rail where
  label : String
  voltageMv : ℤ
  currentMa : ℤ
  deriving DecidableEq, Repr

/-- `Fan`: the fan readings of a sample; the optional groups may be absent. Only the
speed comes with every sample. -/
structure Fan where
  rpm : ℤ
  modeRaw : Option UInt8
  requestedDutyPercent : Option UInt8
  actualDutyPercent : Option UInt8
  calculatedDutyPercent : Option UInt8
  zeroFan : Option Bool
  deriving DecidableEq, Repr

/-- `FaultSnapshot`: the protection snapshot the PSU keeps for one connector. A status
other than zero is a fault. -/
structure FaultSnapshot where
  /-- What the protection has seen. -/
  statusRaw : UInt8
  runtimeSeconds : ℕ
  lifetimeSeconds : ℕ
  /-- The conductors at that time. -/
  currentsMa : Vector ℤ 6
  deriving DecidableEq, Repr

/-- `Telemetry`: one polled sample. It is told from others by its device, its session
and its number, and it has two times: one of the calendar, which can be set, and one
that only goes forward. -/
structure Telemetry where
  /-- Which device it is from. -/
  deviceId : String
  /-- A new UUID for each opening. -/
  sessionId : String
  /-- The number in its session. -/
  sequence : ℕ
  /-- The wall clock, which may be set. -/
  capturedAtMs : ℤ
  /-- The boot clock, which may not. -/
  monotonicMs : ℕ
  /-- Microwatts that the device gives. -/
  powerUw : ℤ
  /-- Its efficiency; zero where it reports none. -/
  efficiencyMillipercent : ℤ
  /-- Thousandths of a degree. -/
  temperatureMc : ℤ
  rails : List Rail
  /-- The conductors of each connector. -/
  connectorCurrentsMa : List (Vector ℤ 6)
  fan : Fan
  /-- The alerts as they came. -/
  alertsRaw : List UInt8
  /-- And by their names. -/
  alertNames : List String
  /-- One for each connector. -/
  safeguards : List FaultSnapshot
  sessionSeconds : Option ℕ
  lifetimeSeconds : Option ℕ
  inputVoltageMv : Option ℤ
  /-- Which of the optional groups could not be read. -/
  groupErrors : List String
  deriving DecidableEq, Repr

/-- `Telemetry::estimated_input_uw`: DC output over reported efficiency, in
integer division towards zero; absent when the efficiency is not usable. -/
def Telemetry.estimatedInputUw (t : Telemetry) : Option ℤ :=
  if 0 < t.efficiencyMillipercent ∧ t.efficiencyMillipercent ≤ 100000 then
    some ((t.powerUw * 100000).tdiv t.efficiencyMillipercent)
  else none

/-- The estimate is present exactly for a usable efficiency. -/
theorem Telemetry.estimatedInputUw_isSome (t : Telemetry) :
    t.estimatedInputUw.isSome ↔
      0 < t.efficiencyMillipercent ∧ t.efficiencyMillipercent ≤ 100000 := by
  unfold Telemetry.estimatedInputUw
  split_ifs with h <;> simp [h]

/-- What the decoder makes of a telemetry report of zeros: labelled rails, two
connectors, no optional group. -/
def Telemetry.blank : Telemetry where
  deviceId := ""
  sessionId := ""
  sequence := 0
  capturedAtMs := 0
  monotonicMs := 0
  powerUw := 0
  efficiencyMillipercent := 0
  temperatureMc := 0
  rails := [⟨"12V", 0, 0⟩, ⟨"5V", 0, 0⟩, ⟨"3.3V", 0, 0⟩]
  connectorCurrentsMa := [#v[0, 0, 0, 0, 0, 0], #v[0, 0, 0, 0, 0, 0]]
  fan := ⟨0, none, none, none, none, none⟩
  alertsRaw := []
  alertNames := []
  safeguards := []
  sessionSeconds := none
  lifetimeSeconds := none
  inputVoltageMv := none
  groupErrors := []

/-- `simulated_sample` of `crates/hardware/src/lib.rs`. The power rises over forty
samples and starts again. A fault is the first conductor of the second connector without
a current, together with what the hardware reports about it. -/
def simulatedSample (sequence : ℕ) (fault : Bool) : Telemetry :=
  { Telemetry.blank with
    deviceId := "demo-ai1600ts"
    sequence := sequence
    powerUw := 250000000 + (sequence % 40 : ℕ) * 1000000
    efficiencyMillipercent := 90000
    temperatureMc := 52000
    fan := ⟨700, some 0, some 35, some 35, some 35, some false⟩
    rails := [⟨"12V", 12090, 18000⟩, ⟨"5V", 5020, 6000⟩, ⟨"3.3V", 3320, 1000⟩]
    connectorCurrentsMa := [#v[0, 0, 0, 0, 0, 0],
      if fault then #v[0, 3000, 3000, 3000, 3000, 3000]
      else #v[2000, 2100, 1900, 2000, 2000, 2000]]
    alertsRaw := if fault then (List.replicate 18 0).set 9 1 else List.replicate 18 0
    alertNames := if fault then ["connector2_conductor1_ocp"] else []
    safeguards := [⟨0, 0, 0, #v[0, 0, 0, 0, 0, 0]⟩,
      ⟨if fault then 2 else 0, 0, 0, #v[0, 0, 0, 0, 0, 0]⟩] }

/-- `TS_ALERTS` of `crates/hardware/src/decode.rs`: the alarm bytes' names. -/
def tsAlerts : Vector String 18 :=
  #v["ocp_12v", "ocp_5v", "ocp_3v3",
    "connector1_conductor1_ocp", "connector1_conductor2_ocp", "connector1_conductor3_ocp",
    "connector1_conductor4_ocp", "connector1_conductor5_ocp", "connector1_conductor6_ocp",
    "connector2_conductor1_ocp", "connector2_conductor2_ocp", "connector2_conductor3_ocp",
    "connector2_conductor4_ocp", "connector2_conductor5_ocp", "connector2_conductor6_ocp",
    "over_power", "over_temperature", "fan_fault"]

/-- `DeviceInfo`: what is known of an opened PSU. The id is the one its history is filed
under. -/
structure DeviceInfo where
  /-- `usb-0db0-`, the product, and the serial number or the file. -/
  id : String
  model : String
  /-- The product. -/
  pid : ℕ
  /-- What the device says of itself. -/
  serial : Option String
  revision : Option String
  /-- The file in `/dev`. -/
  path : String
  backend : String
  /-- Whether it is the simulator. -/
  simulated : Bool
  capabilities : List String
  deriving DecidableEq, Repr

/-- A Rust `as u32` cast. -/
def asU32 (x : ℤ) : ℕ := (x % 2 ^ 32).toNat

/-- A Rust `as i64` cast of an unsigned number. -/
def asI64 (n : ℕ) : ℤ := Int.bmod n (2 ^ 64)

/-- The cast never makes a number larger. -/
theorem asI64_le (n : ℕ) : asI64 n ≤ n := by
  unfold asI64 Int.bmod
  dsimp only
  split_ifs <;> omega

/-- The cast of a number below `2 ^ 63` keeps it. -/
theorem asI64_of_lt {n : ℕ} (h : n < 2 ^ 63) : asI64 n = n := by
  unfold asI64
  exact Int.bmod_eq_of_le (by omega) (by omega)

/-- `imbalance`: the spread between the conductors of one connector and the
largest deviation from their mean, in percent.  The mean is avoided by scaling
with six; `iter().max().unwrap()` never fails on six values. -/
def imbalance (currents : Vector ℤ 6) : ℤ × ℕ :=
  let total := currents.toList.sum
  if total ≤ 0 then (0, 0)
  else
    let spread := currents.toList.max?.getD 0 - currents.toList.min?.getD 0
    let max := (currents.toList.map fun c => |c * 6 - total|).max?.getD 0
    (spread, asU32 ((max * 100).tdiv total))

example : imbalance #v[0, 0, 0, 0, 0, 0] = (0, 0) ∧
    imbalance #v[0, 3000, 3000, 3000, 3000, 3000] = (3000, 100) := by decide +kernel

end Railwatch
