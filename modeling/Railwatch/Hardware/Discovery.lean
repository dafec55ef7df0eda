/-
# Finding the devices

`discover` of `crates/hardware/src/lib.rs`: the entries of `/sys/class/hidraw`, the `uevent`
file of each, and what is read of it.

The kernel writes the id of a device before its name, and the name is the device's own: any
bytes, of which it takes the first 127.  A file that is no UTF-8 is not read
(`read_to_string`), and then nothing is found.

`only_power_supplies_are_opened` says that the devices that are found otherwise are those with
the ids of power supplies, whatever their names are, and that `HidDevice::open` takes no
other one.
-/

import Railwatch.General.Hexadecimal
import Railwatch.Hardware.Identity

namespace Railwatch

open Wire

/-! ### Lines and numbers -/

/-- A line without its carriage return. -/
def stripReturn (line : List Char) : List Char :=
  if line.getLast? = some '\r' then line.dropLast else line

/-- `str::lines`, from within a line. -/
def linesFrom : List Char → List Char → List (List Char)
  | line, [] => if line = [] then [] else [line]
  | line, c :: rest =>
      if c = '\n' then stripReturn line :: linesFrom [] rest else linesFrom (line ++ [c]) rest

/-- The first line of a text: all of it if it has no line feed. -/
def firstLine (s : List Char) : List Char :=
  if '\n' ∈ s then stripReturn (s.takeWhile (· ≠ '\n')) else s

/-- `data.lines().find_map(|l| l.strip_prefix(key))`. -/
def findField (key : String) (data : String) : Option (List Char) :=
  (linesFrom [] data.toList).findSome? fun line => key.toList.isPrefixOf? line

/-- `u16::from_str_radix(_, 16)`. -/
def u16FromHex (s : List Char) : Option UInt16 :=
  let digits := if s.head? = some '+' ∧ 1 < s.length then s.tail else s
  if digits = [] then none else (Hexadecimal.parse 65536 digits).map UInt16.ofNat

/-! ### `discover` -/

/-- What there is to read of an entry: its name, its `uevent` file, and the name that its
`driver` leads to. -/
structure HidrawEntry where
  /-- Its name in `/sys/class/hidraw`. -/
  name : String
  /-- `device/uevent`, as text. -/
  uevent : Except String String
  /-- Where `device/driver` leads. -/
  driver : Except String String

/-- What `read_to_string` says of bytes that are no UTF-8. -/
def invalidUtf8 : String := "stream did not contain valid UTF-8"

/-- `read_to_string` of a file. -/
def readToString (bytes : List UInt8) : Except String String :=
  match ofUtf8 bytes with
  | some text => .ok text
  | none => .error invalidUtf8

/-- `VID`. -/
def vid : UInt16 := 0x0db0

/-- One turn of the loop. An entry without an id, with an id of other than three parts
or with the ids of another kind of device is passed over; an `uevent` that cannot be
read, or a driver, ends the whole search with its error. -/
def discoverOne (e : HidrawEntry) : Except String (Option Discovery) := do
  let data ← e.uevent
  match findField "HID_ID=" data with
  | none => pure none
  | some id =>
      match id.splitOn ':' with
      | [_, vendor, product] => do
          let vendor := (u16FromHex vendor).getD 0
          let pid := (u16FromHex product).getD 0
          if vendor ≠ vid ∨ (family pid).isNone then pure none
          else do
            let driver ← e.driver
            pure (some {
              path := "/dev/" ++ e.name
              pid := pid
              model := ((findField "HID_NAME=" data).map String.ofList).getD "Railwatch"
              driver := driver })
      | _ => pure none

/-- `discover`: the entries of the directory, each of which may not be readable. -/
def discover (directory : Except String (List (Except String HidrawEntry))) :
    Except String (List Discovery) := do
  let entries ← directory
  let found ← entries.mapM fun e => do discoverOne (← e)
  pure (found.filterMap id)

/-! ### What the kernel writes -/

/-- A device, as the kernel knows it: the names of its entry and of its driver, its ids, the
bytes that it calls itself, and what else the kernel writes behind them (which holds the
device's own bytes, too). -/
structure KernelDevice where
  /-- The name of its entry. -/
  name : String
  /-- And that of its driver. -/
  driver : String
  /-- `HID_ID` begins with the bus. -/
  bus : ℕ
  /-- Then there is the vendor. -/
  vendor : ℕ
  /-- And the product. -/
  product : ℕ
  /-- What the device calls itself. -/
  hidName : List UInt8
  /-- The lines behind it. -/
  rest : List UInt8
  deriving DecidableEq, Repr

namespace KernelDevice

/-- The ids have 32 bits, and the name of a driver is one line. Nothing is said of the
name of the device, which is its own. -/
structure Valid (k : KernelDevice) : Prop where
  /-- A `u32` of the kernel. -/
  vendor : k.vendor < 2 ^ 32
  /-- Another one. -/
  product : k.product < 2 ^ 32
  /-- The kernel's own text: no device chooses it. -/
  driver : '\n' ∉ k.driver.toList

/-- The beginning of its `uevent` file. -/
def heading (k : KernelDevice) : String :=
  "DRIVER=" ++ k.driver ++ "\nHID_ID=" ++ String.ofList (Hexadecimal.text 4 k.bus) ++ ":" ++
    String.ofList (Hexadecimal.text 8 k.vendor) ++ ":" ++
    String.ofList (Hexadecimal.text 8 k.product) ++ "\nHID_NAME="

/-- The rest of it: the name, and the lines behind it. -/
def said (k : KernelDevice) : List UInt8 := k.hidName ++ 10 :: k.rest

/-- Its `uevent` file. -/
def uevent (k : KernelDevice) : List UInt8 := utf8 k.heading ++ k.said

/-- Its entry. -/
def entry (k : KernelDevice) : HidrawEntry :=
  { name := k.name, uevent := readToString k.uevent, driver := .ok k.driver }

/-- The text of what it says, if that is UTF-8. -/
def saidText (k : KernelDevice) : Option String := ofUtf8 k.said

/-- What it says is UTF-8. -/
def Readable (k : KernelDevice) : Prop := k.saidText.isSome

instance (k : KernelDevice) : Decidable k.Readable :=
  inferInstanceAs (Decidable (_ = true))

/-- It is a power supply of a known family. -/
def IsPowerSupply (k : KernelDevice) : Prop :=
  k.vendor = 0x0db0 ∧ k.product ∈ [0x808c, 0xaa6f, 0xc9eb, 0x56d4, 0xe749]

instance (k : KernelDevice) : Decidable k.IsPowerSupply :=
  inferInstanceAs (Decidable (_ ∧ _))

/-- What is found of it; its name is the first line of what it says. -/
def discovery (k : KernelDevice) : Discovery where
  path := "/dev/" ++ k.name
  pid := UInt16.ofNat k.product
  model := String.ofList (firstLine ((k.saidText.getD "").toList))
  driver := k.driver

end KernelDevice

/-! ### What is read of it -/

/-- A line ends at the first line feed, and the next one starts behind it. -/
theorem linesFrom_cons {s : List Char} (h : '\n' ∉ s) (line rest : List Char) :
    linesFrom line (s ++ '\n' :: rest) = stripReturn (line ++ s) :: linesFrom [] rest := by
  induction s generalizing line with
  | nil => simp [linesFrom]
  | cons c s ih =>
      have hc : c ≠ '\n' := fun heq => h (heq ▸ List.mem_cons_self)
      rw [List.cons_append, linesFrom, if_neg hc, ih fun hs => h (List.mem_cons_of_mem c hs)]
      simp

/-- A text without a line feed is one line, if it is not empty. -/
theorem linesFrom_of_notMem {s : List Char} (h : '\n' ∉ s) (line : List Char) :
    linesFrom line s = if line ++ s = [] then [] else [line ++ s] := by
  induction s generalizing line with
  | nil => simp [linesFrom]
  | cons c s ih =>
      have hc : c ≠ '\n' := fun heq => h (heq ▸ List.mem_cons_self)
      rw [linesFrom, if_neg hc, ih fun hs => h (List.mem_cons_of_mem c hs), List.append_assoc,
        List.singleton_append]

/-- The first of the lines of a text. -/
theorem linesFrom_firstLine {s : List Char} (h : s ≠ []) :
    ∃ lines, linesFrom [] s = firstLine s :: lines := by
  by_cases hline : '\n' ∈ s
  · obtain ⟨first, rest, rfl, hfirst⟩ := List.eq_append_cons_of_mem hline
    have htake : (first ++ '\n' :: rest).takeWhile (· ≠ '\n') = first := by
      have hall : ∀ c ∈ first, decide (c ≠ '\n') = true := fun c hc =>
        decide_eq_true fun heq => hfirst (heq ▸ hc)
      rw [List.takeWhile_append_of_pos hall]
      simp
    refine ⟨linesFrom [] rest, ?_⟩
    rw [linesFrom_cons hfirst, firstLine, if_pos hline, htake, List.nil_append]
  · refine ⟨[], ?_⟩
    rw [linesFrom_of_notMem hline, List.nil_append, if_neg h, firstLine, if_neg hline]

/-- A line without a carriage return keeps all of its characters. -/
theorem stripReturn_of_notMem {line : List Char} (h : '\r' ∉ line) : stripReturn line = line :=
  if_neg fun hlast => h (List.mem_of_getLast? hlast)

/-- A line that starts with a key ends as what follows it. -/
theorem stripReturn_append {key : List Char} (h : '\r' ∉ key) (line : List Char) :
    stripReturn (key ++ line) = key ++ stripReturn line := by
  cases line with
  | nil =>
      rw [List.append_nil, stripReturn_of_notMem h]
      exact (List.append_nil key).symm
  | cons c line =>
      have hne : c :: line ≠ [] := List.cons_ne_nil c line
      unfold stripReturn
      rw [List.getLast?_append_of_ne_nil _ hne, List.dropLast_append_of_ne_nil hne]
      split_ifs <;> rfl

/-- A key in front of a text is in front of its first line. -/
theorem firstLine_append {key : List Char} (hline : '\n' ∉ key) (hreturn : '\r' ∉ key)
    (s : List Char) : firstLine (key ++ s) = key ++ firstLine s := by
  have hmem : '\n' ∈ key ++ s ↔ '\n' ∈ s := by
    rw [List.mem_append, or_iff_right hline]
  have htake : (key ++ s).takeWhile (· ≠ '\n') = key ++ s.takeWhile (· ≠ '\n') :=
    List.takeWhile_append_of_pos fun c hc => decide_eq_true fun heq => hline (heq ▸ hc)
  unfold firstLine
  rw [if_congr hmem rfl rfl, htake, stripReturn_append hreturn]
  split_ifs <;> rfl

/-- The eight digits of an id are read back if the id has sixteen bits, and refused
otherwise. -/
theorem u16FromHex_text {n : ℕ} (h : n < 2 ^ 32) : u16FromHex (Hexadecimal.text 8 n) =
    if n < 65536 then some (UInt16.ofNat n) else none := by
  have hsign : (Hexadecimal.text 8 n).head? ≠ some '+' := fun hhead =>
    Hexadecimal.notMem_text (by decide) 8 n (List.mem_of_head? hhead)
  have hne : Hexadecimal.text 8 n ≠ [] := List.append_ne_nil_of_right_ne_nil _ (by simp)
  unfold u16FromHex
  dsimp only
  rw [if_neg (c := _ ∧ _) fun hplus => hsign hplus.1, if_neg hne,
    Hexadecimal.parse_text (by omega) (by omega)]
  split_ifs <;> rfl

/-- The id, as the kernel writes it. -/
def KernelDevice.idText (k : KernelDevice) : List Char :=
  Hexadecimal.text 4 k.bus ++ ':' ::
    (Hexadecimal.text 8 k.vendor ++ ':' :: Hexadecimal.text 8 k.product)

/-- The text of an id has its digits and two colons, and nothing else. -/
theorem KernelDevice.notMem_idText (k : KernelDevice) {c : Char}
    (hc : Hexadecimal.digitValue c = none) (hcolon : c ≠ ':') : c ∉ k.idText := by
  simp [KernelDevice.idText, hcolon, Hexadecimal.notMem_text hc]

/-- The lines that the kernel writes before a device's own name. -/
theorem KernelDevice.toList_heading (k : KernelDevice) : k.heading.toList =
    ("DRIVER=".toList ++ k.driver.toList) ++ '\n' ::
      (("HID_ID=".toList ++ k.idText) ++ '\n' :: "HID_NAME=".toList) := by
  have hid : "\nHID_ID=".toList = '\n' :: "HID_ID=".toList := rfl
  have hname : "\nHID_NAME=".toList = '\n' :: "HID_NAME=".toList := rfl
  have hcolon : ":".toList = [':'] := rfl
  unfold KernelDevice.heading KernelDevice.idText
  generalize Hexadecimal.text 4 k.bus = bus
  generalize Hexadecimal.text 8 k.vendor = vendor
  generalize Hexadecimal.text 8 k.product = product
  simp only [String.toList_append, String.toList_ofList, hid, hname, hcolon,
    List.append_assoc, List.cons_append, List.nil_append]

/-- The lines of a `uevent` file that can be read: the driver, the identifier and the
name come first, and the name ends at its first line end. What a device puts into its
name can add lines behind these three, but none before. -/
theorem KernelDevice.lines {k : KernelDevice} (h : k.Valid) (text : String) : ∃ lines,
    linesFrom [] (k.heading ++ text).toList =
      ("DRIVER=".toList ++ stripReturn k.driver.toList) :: ("HID_ID=".toList ++ k.idText) ::
        ("HID_NAME=".toList ++ firstLine text.toList) :: lines := by
  have hdriver : '\n' ∉ "DRIVER=".toList ++ k.driver.toList := by
    simp [h.driver]
  have hid : '\n' ∉ "HID_ID=".toList ++ k.idText := by
    simpa using k.notMem_idText (by decide) (by decide)
  have hreturn : '\r' ∉ k.idText := k.notMem_idText (by decide) (by decide)
  have hkey : "HID_NAME=".toList ++ text.toList ≠ [] :=
    List.append_ne_nil_of_left_ne_nil (by decide) _
  obtain ⟨lines, hname⟩ := linesFrom_firstLine hkey
  refine ⟨lines, ?_⟩
  rw [String.toList_append, k.toList_heading, List.append_assoc, List.cons_append,
    List.append_assoc ("HID_ID=".toList ++ k.idText), List.cons_append, linesFrom_cons hdriver,
    linesFrom_cons hid, hname, firstLine_append (by decide) (by decide), List.nil_append,
    List.nil_append, stripReturn_append (by decide), stripReturn_append (by decide),
    stripReturn_of_notMem hreturn]

/-- The fields of a `uevent` file that can be read. -/
theorem KernelDevice.fields {k : KernelDevice} (h : k.Valid) (text : String) :
    findField "HID_ID=" (k.heading ++ text) = some k.idText ∧
    findField "HID_NAME=" (k.heading ++ text) = some (firstLine text.toList) := by
  obtain ⟨lines, hlines⟩ := KernelDevice.lines h text
  have hfound (key line : List Char) : key.isPrefixOf? (key ++ line) = some line :=
    List.isPrefixOf?_eq_some_iff_append_eq.2 rfl
  unfold findField
  rw [hlines]
  constructor
  · rw [List.findSome?_cons_of_isNone rfl, List.findSome?_cons_of_isSome (by rw [hfound]; rfl),
      hfound]
  · rw [List.findSome?_cons_of_isNone rfl, List.findSome?_cons_of_isNone rfl,
      List.findSome?_cons_of_isSome (by rw [hfound]; rfl), hfound]

/-- Reading a `uevent` file. -/
theorem KernelDevice.readToString_uevent (k : KernelDevice) :
    readToString k.uevent = match k.saidText with
      | some text => .ok (k.heading ++ text)
      | none => .error invalidUtf8 := by
  unfold readToString KernelDevice.uevent
  rw [ofUtf8_append, ← KernelDevice.saidText]
  cases k.saidText <;> rfl

/-- A number of sixteen bits is told by its bits. -/
theorem ofNat_eq_iff {n : ℕ} (h : n < 65536) (m : UInt16) :
    UInt16.ofNat n = m ↔ n = m.toNat := by
  rw [← UInt16.toNat_inj, UInt16.toNat_ofNat_of_lt' h]

/-- The id that is read: zero if the number is too large. -/
def readId (n : ℕ) : UInt16 := (if n < 65536 then some (UInt16.ofNat n) else none).getD 0

/-- An id reads as a known one exactly if it is that one: an id that cannot be read
becomes zero, which is no vendor and no product. -/
theorem readId_eq_iff (n : ℕ) {m : UInt16} (hm : m ≠ 0) : readId n = m ↔ n = m.toNat := by
  unfold readId
  split_ifs with h
  · exact ofNat_eq_iff h m
  · have hlt : m.toNat < 65536 := m.toNat_lt
    exact iff_of_false hm.symm (by omega)

/-- The products of a known family, by their numbers. -/
theorem family_readId (n : ℕ) :
    (family (readId n)).isNone = false ↔ n ∈ [0x808c, 0xaa6f, 0xc9eb, 0x56d4, 0xe749] := by
  have h₁ : readId n = 0x808c ↔ n = 0x808c := readId_eq_iff n (by decide)
  have h₂ : readId n = 0xaa6f ↔ n = 0xaa6f := readId_eq_iff n (by decide)
  have h₃ : readId n = 0xc9eb ↔ n = 0xc9eb := readId_eq_iff n (by decide)
  have h₄ : readId n = 0x56d4 ↔ n = 0x56d4 := readId_eq_iff n (by decide)
  have h₅ : readId n = 0xe749 ↔ n = 0xe749 := readId_eq_iff n (by decide)
  simp only [family, h₁, h₂, h₃, h₄, h₅, List.mem_cons, List.not_mem_nil, or_false]
  split_ifs with hts ht hp
  · exact iff_of_true rfl (by omega)
  · exact iff_of_true rfl (by omega)
  · exact iff_of_true rfl (by omega)
  · exact iff_of_false nofun (by omega)

/-- The product of a power supply has sixteen bits, so it is read as it is. -/
theorem KernelDevice.product_lt (k : KernelDevice) (h : k.IsPowerSupply) : k.product < 65536 := by
  have hall : ∀ p ∈ [0x808c, 0xaa6f, 0xc9eb, 0x56d4, 0xe749], p < 65536 := by decide
  exact hall _ h.2

/-- What is read of a device that can be read. It is found if and only if it is a power
supply, by the vendor and the product that the kernel writes; its driver and its name
have no part in that. -/
theorem KernelDevice.discoverOne {k : KernelDevice} (h : k.Valid) (hreadable : k.Readable) :
    discoverOne k.entry = .ok (if k.IsPowerSupply then some k.discovery else none) := by
  obtain ⟨text, htext⟩ := Option.isSome_iff_exists.1 hreadable
  obtain ⟨hid, hname⟩ := KernelDevice.fields h text
  have hread : readToString k.uevent = .ok (k.heading ++ text) := by
    rw [k.readToString_uevent, htext]
  have hfirst : firstLine text.toList = firstLine ((k.saidText.getD "").toList) := by
    rw [htext, Option.getD_some]
  have hsplit : k.idText.splitOn ':' =
      [Hexadecimal.text 4 k.bus, Hexadecimal.text 8 k.vendor, Hexadecimal.text 8 k.product] := by
    have hcolon (w n : ℕ) : ':' ∉ Hexadecimal.text w n := Hexadecimal.notMem_text (by decide) w n
    rw [KernelDevice.idText, List.splitOn_append_cons_self_of_not_mem (hcolon 4 k.bus),
      List.splitOn_append_cons_self_of_not_mem (hcolon 8 k.vendor),
      List.splitOn_eq_singleton (hcolon 8 k.product)]
  unfold Railwatch.discoverOne KernelDevice.entry
  simp only [bind, Except.bind, pure, Except.pure, hread, hid, hsplit, hname, hfirst,
    u16FromHex_text h.vendor, u16FromHex_text h.product]
  change (if readId k.vendor ≠ vid ∨ (family (readId k.product)).isNone = true then _ else _) = _
  have hvendor : readId k.vendor = vid ↔ k.vendor = 0x0db0 := readId_eq_iff k.vendor (by decide)
  have hfamily := family_readId k.product
  by_cases hpower : k.IsPowerSupply
  · rw [if_neg, if_pos hpower]
    · rw [if_pos (k.product_lt hpower)]
      rfl
    · rw [not_or, not_not, hvendor, Bool.not_eq_true, hfamily]
      exact hpower
  · rw [if_pos, if_neg hpower]
    by_contra hfound
    rw [not_or, not_not, hvendor, Bool.not_eq_true, hfamily] at hfound
    exact hpower hfound

/-- A device that says what is no UTF-8. -/
theorem KernelDevice.discoverOne_of_not_readable {k : KernelDevice} (h : ¬k.Readable) :
    Railwatch.discoverOne k.entry = .error invalidUtf8 := by
  have hread : readToString k.uevent = .error invalidUtf8 := by
    rw [k.readToString_uevent, Option.not_isSome_iff_eq_none.1 h]
  unfold Railwatch.discoverOne KernelDevice.entry
  rw [hread]
  rfl

/-- A loop over entries none of which fails. -/
theorem mapM_map_ok {ε α β γ : Type} {f : β → Except ε γ} {e : α → β} {g : α → γ} {l : List α}
    (h : ∀ a ∈ l, f (e a) = .ok (g a)) : (l.map e).mapM f = .ok (l.map g) := by
  induction l with
  | nil => rfl
  | cons a l ih =>
      rw [List.map_cons, List.mapM_cons, h a List.mem_cons_self,
        ih fun b hb => h b (List.mem_cons_of_mem a hb)]
      rfl

/-- One element that fails is enough, if the others fail alike. Elements before it may
succeed, as `collect` stops at the first one that fails. -/
theorem mapM_map_error {ε α β γ : Type} {f : β → Except ε γ} {e : α → β} {err : ε}
    {l : List α} (h : ∀ a ∈ l, (∃ c, f (e a) = .ok c) ∨ f (e a) = .error err)
    (hfails : ∃ a ∈ l, f (e a) = .error err) : (l.map e).mapM f = .error err := by
  induction l with
  | nil =>
      obtain ⟨a, ha, -⟩ := hfails
      cases ha
  | cons a l ih =>
      rw [List.map_cons, List.mapM_cons]
      rcases h a List.mem_cons_self with ⟨c, ha⟩ | ha
      · have hrest : ∃ b ∈ l, f (e b) = .error err := by
          obtain ⟨b, hb, herror⟩ := hfails
          rcases List.mem_cons.1 hb with rfl | hb
          · rw [ha] at herror
            cases herror
          · exact ⟨b, hb, herror⟩
        rw [ha, ih (fun b hb => h b (List.mem_cons_of_mem a hb)) hrest]
        rfl
      · rw [ha]
        rfl

/-- What is found: the power supplies, in the order of the entries; or nothing, if one of the
files is no UTF-8. -/
theorem discover_eq {devices : List KernelDevice}
    (h : ∀ k ∈ devices, k.Valid) :
    discover (.ok (devices.map fun k => .ok k.entry)) =
      if ∀ k ∈ devices, k.Readable then
        .ok ((devices.filter fun k => k.IsPowerSupply).map KernelDevice.discovery)
      else .error invalidUtf8 := by
  have hbind (k : KernelDevice) : ((.ok k.entry : Except String HidrawEntry) >>= discoverOne) =
      discoverOne k.entry := rfl
  split_ifs with hreadable
  · have hfound : (devices.map fun k => (.ok k.entry : Except String HidrawEntry)).mapM
        (fun e => e >>= discoverOne) =
          .ok (devices.map fun k => if k.IsPowerSupply then some k.discovery else none) := by
      refine mapM_map_ok fun k hk => ?_
      rw [hbind, KernelDevice.discoverOne (h k hk) (hreadable k hk)]
    have hfilter : (devices.map fun k =>
        if k.IsPowerSupply then some k.discovery else none).filterMap id =
          (devices.filter fun k => k.IsPowerSupply).map KernelDevice.discovery := by
      rw [List.filterMap_map, ← List.filterMap_eq_map, List.filterMap_filter]
      refine List.filterMap_congr fun k _ => ?_
      by_cases hpower : k.IsPowerSupply <;> simp [hpower]
    rw [← hfilter]
    exact congrArg (Except.map (List.filterMap id)) hfound
  · push Not at hreadable
    obtain ⟨k, hk, hno⟩ := hreadable
    have hfails : (devices.map fun k => (.ok k.entry : Except String HidrawEntry)).mapM
        (fun e => e >>= discoverOne) = .error invalidUtf8 := by
      refine mapM_map_error (fun k hk => ?_)
        ⟨k, hk, (hbind k).trans (KernelDevice.discoverOne_of_not_readable hno)⟩
      rw [hbind]
      by_cases hread : k.Readable
      · exact .inl ⟨_, KernelDevice.discoverOne (h k hk) hread⟩
      · exact .inr (KernelDevice.discoverOne_of_not_readable hread)
    exact congrArg (Except.map (List.filterMap id)) hfails

/-- **Only power supplies are found and opened.**  Whatever the devices say of themselves,
those that are found are the ones that the kernel knows as power supplies, in the order of
the entries; but if one of them says what is no UTF-8, there is an error instead.  The one
that is opened is the only one of them, at its path if there is a path, of a product that is
qualified, and with the generic driver. -/
theorem only_power_supplies_are_opened {devices : List KernelDevice}
    (hvalid : ∀ k ∈ devices, k.Valid) :
    discover (.ok (devices.map fun k => .ok k.entry)) =
      (if ∀ k ∈ devices, k.Readable then
        .ok ((devices.filter fun k => k.IsPowerSupply).map KernelDevice.discovery)
      else .error invalidUtf8) ∧
    ∀ (utf8Error : Bytes → String) (o : Opening) (path : Option String) (script : UInt8 → Script)
      (dev : HidDevice), o.devices = discover (.ok (devices.map fun k => .ok k.entry)) →
      HidDevice.open utf8Error o path script = .ok dev →
      (∀ k ∈ devices, k.Readable) ∧
      ∃ k, devices.filter (fun k => k.IsPowerSupply ∧ path.all (· = "/dev/" ++ k.name)) = [k] ∧
        k.product ∈ [0x808c, 0xaa6f] ∧ k.driver = "hid-generic" ∧
        dev.info.path = "/dev/" ++ k.name ∧ dev.info.pid = k.product := by
  refine ⟨discover_eq hvalid, fun utf8Error o path script dev hdevices h => ?_⟩
  obtain ⟨d, -, -, -, serial, revision, hselect, -, -, -, hinfo⟩ := open_ok h
  have hchosen := chosen_of_select hselect
  obtain ⟨found, hfound, hcandidates⟩ := hchosen.only
  rw [hdevices, discover_eq hvalid] at hfound
  -- a device was found, so all of them have been read
  have hreadable : ∀ k ∈ devices, k.Readable := by
    by_contra hno
    rw [if_neg hno] at hfound
    cases hfound
  rw [if_pos hreadable] at hfound
  rw [← Except.ok.inj hfound, candidates, List.filter_map, List.filter_filter,
    List.map_eq_singleton_iff] at hcandidates
  obtain ⟨k, honly, rfl⟩ := hcandidates
  have hpower : k.IsPowerSupply := by
    have hmem : k ∈ [k] := List.mem_singleton_self k
    rw [← honly, List.mem_filter, Bool.and_eq_true] at hmem
    exact of_decide_eq_true hmem.2.2
  have hqualified : ∀ p ∈ [0x808c, 0xaa6f, 0xc9eb, 0x56d4, 0xe749],
      family (UInt16.ofNat p) = some .ts → p ∈ [0x808c, 0xaa6f] := by decide
  refine ⟨hreadable, k, ?_, hqualified _ hpower.2 hchosen.family, hchosen.driver,
    by rw [hinfo]; rfl, ?_⟩
  · rw [← honly]
    refine List.filter_congr fun k' _ => ?_
    rw [Bool.and_comm, Bool.decide_and, Bool.decide_coe]
    rfl
  · rw [hinfo]
    exact UInt16.toNat_ofNat_of_lt' (k.product_lt hpower)

/-- A mouse that calls itself a power supply, and a power supply that calls itself a mouse. -/
def disguised : List KernelDevice :=
  [⟨"hidraw0", "hid-generic", 3, 0x046d, 0xc077, utf8 "MPG Ai1600TS", []⟩,
    ⟨"hidraw3", "hid-generic", 3, 0x0db0, 0x808c,
      utf8 "MPG Ai1600TS\nHID_ID=0003:0000046D:0000C077", []⟩]

/-- The kernel can report the disguised device. -/
theorem valid_disguised : ∀ k ∈ disguised, k.Valid := by
  intro k hk
  simp only [disguised, List.mem_cons, List.not_mem_nil, or_false] at hk
  obtain rfl | rfl := hk <;> exact ⟨by decide, by decide, by decide⟩

/-- What it reports is UTF-8, the trap in the name included. -/
theorem readable_disguised : ∀ k ∈ disguised, k.Readable := by decide +kernel

/-- The power supply is opened, though another device has its name, and though its own
name holds a line that pretends that it is the other one. -/
theorem disguised_power_supply_is_opened : ∃ dev,
    HidDevice.open (fun _ => "") silentPsu none scriptS7 = .ok dev ∧
      silentPsu.devices = discover (.ok (disguised.map fun k => .ok k.entry)) ∧
      ∃ k ∈ disguised, dev.info.path = "/dev/" ++ k.name ∧ dev.info.pid = k.product := by
  obtain ⟨hfound, hopened⟩ := only_power_supplies_are_opened valid_disguised
  have hdevices : silentPsu.devices = discover (.ok (disguised.map fun k => .ok k.entry)) := by
    rw [hfound, if_pos readable_disguised]
    decide +kernel
  have hok : (HidDevice.open (fun _ => "") silentPsu none scriptS7).toOption.isSome = true := by
    decide +kernel
  cases hrun : HidDevice.open (fun _ => "") silentPsu none scriptS7 with
  | error e =>
      rw [hrun] at hok
      cases hok
  | ok dev =>
      obtain ⟨-, k, honly, -, -, hpath, hpid⟩ := hopened _ _ _ _ dev hdevices hrun
      refine ⟨dev, rfl, hdevices, k, ?_, hpath, hpid⟩
      exact (List.mem_filter.1 (honly ▸ List.mem_singleton_self k)).1

end Railwatch
