/-
# Which PSU it is

The id of an opened device, `usb-0db0-` with its product and its serial number.
`opened_devices_are_identified` says that it comes from the device's own answers, and
when two openings find the same PSU.

The text between the prefix and the serial number has four digits, so that the two parts
of an id can be told apart and two ids are equal only if product and serial number are.
A device without a serial number is named by its file instead, and then another file is
another id.
-/

import Railwatch.Core.Text
import Railwatch.Hardware.Traffic

namespace Railwatch

open Wire Effects Calls Transport

/-! ### Identities -/

/-- There are four digits, also of a small product. -/
theorem length_hex4 (pid : UInt16) : (hex4 pid).toList.length = 4 := by
  rw [hex4, String.toList_ofList]
  rfl

/-- Two products have different digits: a product is 16 bits, and each of the four
digits stands for four of them. -/
theorem hex4_injective : Function.Injective hex4 := by
  intro pid pid' h
  have hdigit : ∀ a b : Fin 16, Nat.digitChar a = Nat.digitChar b → a = b := by decide
  have hdigit' {a b : ℕ} (ha : a < 16) (hb : b < 16) (hab : Nat.digitChar a = Nat.digitChar b) :
      a = b := congrArg Fin.val (hdigit ⟨a, ha⟩ ⟨b, hb⟩ hab)
  have hlist := congrArg String.toList h
  rw [hex4, hex4, String.toList_ofList, String.toList_ofList] at hlist
  simp only [List.map_cons, List.map_nil, List.cons.injEq, and_true] at hlist
  obtain ⟨h₃, h₂, h₁, h₀⟩ := hlist
  have hlt := pid.toNat_lt
  have hlt' := pid'.toNat_lt
  have e₃ := hdigit' (by omega) (by omega) h₃
  have e₂ := hdigit' (by omega) (by omega) h₂
  have e₁ := hdigit' (by omega) (by omega) h₁
  have e₀ := hdigit' (by omega) (by omega) h₀
  exact UInt16.toNat_inj.1 (by omega)

/-- The parts of an id can be told from the id, since the digits of the product are
always four. -/
theorem deviceId_inj {pid pid' : UInt16} {label label' : String} :
    deviceId pid label = deviceId pid' label' ↔ pid = pid' ∧ label = label' := by
  constructor
  · intro h
    have hlist := congrArg String.toList h
    simp only [deviceId, String.toList_append, List.append_assoc, List.append_cancel_left_eq]
      at hlist
    obtain ⟨hpid, hrest⟩ :=
      List.append_inj hlist ((length_hex4 pid).trans (length_hex4 pid').symm)
    exact ⟨hex4_injective (String.toList_injective hpid),
      String.toList_injective (List.append_cancel_left hrest)⟩
  · rintro ⟨rfl, rfl⟩
    rfl

/-- Each id starts as `usb-` does, which no simulated one does. -/
theorem deviceId_head (pid : UInt16) (label : String) :
    (deviceId pid label).toList.head? = some 'u' := by
  simp only [deviceId, String.toList_append, List.append_assoc]
  rfl

/-- What tells an opened device from others of its kind. -/
def DeviceInfo.label (i : DeviceInfo) : String :=
  if i.serial.getD "" = "" then fileName i.path else i.serial.getD ""

/-- What `open` returns if it does: the selected device with what it has said of itself,
and the three answers as its captures. -/
theorem open_ok {utf8Error : Bytes → String} {o : Opening} {path : Option String}
    {script : UInt8 → Script} {dev : HidDevice}
    (h : HidDevice.open utf8Error o path script = .ok dev) :
    ∃ (d : Discovery) (r₀ r₁ r₂ : Bytes) (serial revision : String), select o path = .ok d ∧
      dev.captures = [(readOp, r₀), (0x13, r₁), (0x12, r₂)] ∧ IsHandshake r₀ ∧
        serialText r₁ = some serial ∧ dev.info = { d.info with
          id := deviceId d.pid (d.label serial)
          serial := some serial
          revision := some revision } := by
  unfold HidDevice.open at h
  cases hselect : select o path with
  | error e => rw [hselect] at h; cases h
  | ok d =>
      rw [hselect] at h
      have hsound := d.bus_sound.run (within_identify utf8Error d) script
      cases hrun : identified utf8Error d script with
      | mk r b =>
          change (do
            let info ← (identified utf8Error d script).1
            pure { (identified utf8Error d script).2.device with info := info }) = _ at h
          rw [hrun] at h
          cases r with
          | error e => cases h
          | ok info =>
              obtain rfl := Except.ok.inj h
              obtain ⟨r₀, r₁, r₂, serial, revision, hanswered, hhandshake, hserial, hinfo⟩ :=
                identify_ok hrun
              refine ⟨d, r₀, r₁, r₂, serial, revision, rfl, ?_, hhandshake, hserial, hinfo⟩
              unfold identified at hrun
              rw [hrun] at hsound
              show b.device.captures = _
              rw [hsound.captures, hanswered]
              rfl

/-- **An opened device has identified itself.**  Its captures are the three answers that
it was opened with: the handshake of its maker, the serial number that it is known by,
and its revision.  Its id is never empty nor that of the simulator, and two devices have
the same id exactly if they are the same product with the same serial number, or with the
same file where a device has none. -/
theorem opened_devices_are_identified {utf8Error : Bytes → String} {o : Opening}
    {path : Option String} {script : UInt8 → Script} {dev : HidDevice}
    (h : HidDevice.open utf8Error o path script = .ok dev) :
    (∃ r₀ r₁ r₂, dev.captures = [(readOp, r₀), (0x13, r₁), (0x12, r₂)] ∧ IsHandshake r₀ ∧
      (serialText r₁).isSome ∧ dev.info.serial = serialText r₁) ∧
    dev.info.id ≠ "" ∧ (∀ n fault, dev.info.id ≠ (simulatedSample n fault).deviceId) ∧
    ∀ utf8Error' o' path' script' dev',
      HidDevice.open utf8Error' o' path' script' = .ok dev' →
        (dev.info.id = dev'.info.id ↔
          dev.info.pid = dev'.info.pid ∧ dev.info.label = dev'.info.label) := by
  obtain ⟨d, r₀, r₁, r₂, serial, revision, -, hcaptures, hhandshake, hserial, hinfo⟩ := open_ok h
  have hhead : dev.info.id.toList.head? = some 'u' := by
    rw [hinfo]
    exact deviceId_head ..
  refine ⟨⟨r₀, r₁, r₂, hcaptures, hhandshake, ?_, ?_⟩, ?_, fun n fault => ?_, ?_⟩
  · rw [hserial]
    rfl
  · rw [hinfo, hserial]
  · intro hempty
    rw [hempty] at hhead
    cases hhead
  · have hdemo : "demo-ai1600ts".toList.head? = some 'd' := rfl
    exact ne_of_head?_ne hhead hdemo (by decide)
  · intro utf8Error' o' path' script' dev' h'
    obtain ⟨d', r₀', r₁', r₂', serial', revision', -, -, -, -, hinfo'⟩ := open_ok h'
    rw [hinfo, hinfo']
    show deviceId d.pid (d.label serial) = deviceId d'.pid (d'.label serial') ↔
      d.pid.toNat = d'.pid.toNat ∧ d.label serial = d'.label serial'
    rw [deviceId_inj, UInt16.toNat_inj]

/-- The same power supply at another port. -/
def movedPsu : Opening where
  devices := .ok [⟨"/dev/hidraw5", 0x808c, "MPG Ai1600TS", "hid-generic"⟩]

/-- It is known by its serial number: the two openings find it under different paths, as
a device that was plugged in again, and give it one identifier. -/
theorem moved_device_is_identified : ∃ dev dev',
    HidDevice.open (fun _ => "") silentPsu none scriptS7 = .ok dev ∧
      HidDevice.open (fun _ => "") movedPsu none scriptS7 = .ok dev' ∧
      dev.info.path ≠ dev'.info.path ∧ dev.info.id = dev'.info.id := by
  have hopen (o : Opening) (info : DeviceInfo)
      (h : (HidDevice.open (fun _ => "") o none scriptS7).toOption.map HidDevice.info =
        some info) :
      ∃ dev, HidDevice.open (fun _ => "") o none scriptS7 = .ok dev ∧ dev.info = info := by
    obtain ⟨dev, hdev, hinfo⟩ := Option.map_eq_some_iff.1 h
    cases hrun : HidDevice.open (fun _ => "") o none scriptS7 with
    | ok dev' =>
        rw [hrun] at hdev
        obtain rfl := Option.some.inj hdev
        exact ⟨dev', rfl, hinfo⟩
    | error e =>
        rw [hrun] at hdev
        cases hdev
  obtain ⟨dev, hdev, hinfo⟩ := hopen silentPsu
    { (Discovery.info ⟨"/dev/hidraw3", 0x808c, "MPG Ai1600TS", "hid-generic"⟩) with
      id := "usb-0db0-808c-S7"
      serial := some "S7"
      revision := some "\x01\x00" } (by decide +kernel)
  obtain ⟨dev', hdev', hinfo'⟩ := hopen movedPsu
    { (Discovery.info ⟨"/dev/hidraw5", 0x808c, "MPG Ai1600TS", "hid-generic"⟩) with
      id := "usb-0db0-808c-S7"
      serial := some "S7"
      revision := some "\x01\x00" } (by decide +kernel)
  refine ⟨dev, dev', hdev, hdev', ?_, ((opened_devices_are_identified hdev).2.2.2 _ _ _ _ _
    hdev').2 ⟨?_, ?_⟩⟩ <;> rw [hinfo, hinfo'] <;> decide +kernel

end Railwatch
