/-
# What the decoders read

`decode_ts_telemetry` and `decode_ts_safeguards` check the form of a report and
then read fixed places of its payload.  The two are described here by what they
accept (`DecodesExactly`) and by the place of every number: the 22 words of a
telemetry payload are the 22 numbers of a sample in the order of `inOrder`, and
no index leaves the report.

The format is a floating-point one, with a mantissa of eleven bits and a signed exponent
of five (`linear11`); the decoder computes it with shifts, and a scale that turns the
result into whole units.  Every word has a value that fits, so no word is refused by
itself, only values that are implausible.
-/

import Railwatch.Protocol.Wire

namespace Railwatch
namespace Wire

/-! ### Reports -/

/-- A report is 64 bytes, or 65 with a leading zero. -/
def IsReport (r : Bytes) : Prop := r.length = 64 ∨ r.length = 65 ∧ r.head? = some 0

instance instDecidableIsReport (r : Bytes) : Decidable (IsReport r) :=
  inferInstanceAs (Decidable (_ ∨ _))

/-- A report without the leading zero. -/
def body (r : Bytes) : Bytes := if r.length = 65 then r.tail else r

/-- The report starts with the opcode and the command. -/
def Echoes (r : Bytes) (opcode command : UInt8) : Prop :=
  r[0]? = some opcode ∧ r[1]? = some command

instance instDecidableEchoes (r : Bytes) (opcode command : UInt8) :
    Decidable (Echoes r opcode command) :=
  inferInstanceAs (Decidable (_ ∧ _))

/-- The payload of a report. -/
def payload (r : Bytes) (length : ℕ) : Bytes := ((body r).drop 2).take length

/-- A body has 64 bytes. -/
theorem length_body {r : Bytes} (h : IsReport r) : (body r).length = 64 := by
  unfold body
  rcases h with h | ⟨h, -⟩
  · rw [if_neg (by omega), h]
  · rw [if_pos h, List.length_tail, h]

/-- A payload has as many bytes as were asked for. -/
theorem length_payload {r : Bytes} (h : IsReport r) {length : ℕ} (hlen : length ≤ 62) :
    (payload r length).length = length := by
  rw [payload, List.length_take, List.length_drop, length_body h]
  omega

/-- A report with or without its leading zero is taken to its body, and any other length
is refused. -/
theorem normalize_eq (r : Bytes) :
    normalize r = if IsReport r then .ok (body r) else .error (.error .reportLength) := by
  unfold normalize
  by_cases h64 : r.length = 64
  · rw [if_pos h64, if_pos (.inl h64), body, if_neg (by omega)]
  · rw [if_neg h64]
    by_cases h65 : r.length = 65
    · cases r with
      | nil => cases h65
      | cons b r =>
          rw [if_pos h65]
          by_cases hb : b = 0
          · rw [if_pos (.inr ⟨h65, congrArg some hb⟩), body, if_pos h65]
            simp [byteAt, slice, hb, bind, Except.bind]
          · rw [if_neg]
            · simp [byteAt, hb, bind, Except.bind]
            · rintro (h | ⟨-, h⟩)
              · exact h64 h
              · exact hb (Option.some.inj h)
    · rw [if_neg h65, if_neg]
      rintro (h | ⟨h, -⟩)
      · exact h64 h
      · exact h65 h

/-- The comparison with the request looks at the first two bytes. -/
theorem echoMismatch_eq {r : Bytes} (h : r.length = 64) (opcode command : UInt8) :
    echoMismatch r opcode command = .ok (decide ¬Echoes r opcode command) := by
  obtain ⟨b₀, r, rfl⟩ := List.exists_cons_of_length_eq_add_one h
  obtain ⟨b₁, r, rfl⟩ := List.exists_cons_of_length_eq_add_one (Nat.succ.inj h)
  by_cases h₀ : b₀ = opcode <;> by_cases h₁ : b₁ = command <;>
    simp [echoMismatch, byteAt, Echoes, h₀, h₁, bind, Except.bind]

/-- **`response` in one piece**: the checks in their order, and no other way to
fail. -/
theorem response_eq (r : Bytes) (opcode command : UInt8) (length : ℕ) :
    response r opcode command length =
      if ¬IsReport r then .error (.error .reportLength)
      else if ¬Echoes (body r) opcode command then .error (.error .echoMismatch)
      else if busyPattern (body r) then .error (.error .busy)
      else if 62 < length then .error (.error .payloadLength)
      else .ok (payload r length) := by
  unfold response
  rw [normalize_eq]
  by_cases hr : IsReport r
  · rw [if_pos hr, if_neg (not_not.2 hr)]
    have hlen := length_body hr
    simp only [bind, Except.bind, echoMismatch_eq hlen, decide_eq_true_eq]
    split_ifs with hecho hbusy hlong
    · rfl
    · rfl
    · rw [slice, if_pos ⟨by omega, by omega⟩, payload, List.take_drop]
    · rfl
  · rw [if_neg hr, if_pos hr]
    rfl

/-- A decoder that looks at nothing but `response` fails like it, and goes on with
the payload. -/
theorem decode_eq_of_response {α : Type} {decode : Bytes → Result α} {command : UInt8}
    {length : ℕ} (read : Bytes → Result α) (hlength : length ≤ 62)
    (herror : ∀ r e, response r readOp command length = .error e → decode r = .error e)
    (hok : ∀ r d, response r readOp command length = .ok d → d.length = length →
      decode r = read d) (r : Bytes) :
    decode r =
      if ¬IsReport r then .error (.error .reportLength)
      else if ¬Echoes (body r) readOp command then .error (.error .echoMismatch)
      else if busyPattern (body r) then .error (.error .busy)
      else read (payload r length) := by
  have hresponse := response_eq r readOp command length
  by_cases hr : IsReport r
  · rw [if_neg (not_not.2 hr)] at hresponse ⊢
    by_cases hecho : Echoes (body r) readOp command
    · rw [if_neg (not_not.2 hecho)] at hresponse ⊢
      by_cases hbusy : busyPattern (body r) = true
      · rw [if_pos hbusy] at hresponse ⊢
        exact herror r _ hresponse
      · rw [if_neg hbusy] at hresponse ⊢
        rw [if_neg (by omega)] at hresponse
        exact hok r _ hresponse (length_payload hr hlength)
    · rw [if_pos hecho] at hresponse ⊢
      exact herror r _ hresponse
  · rw [if_pos hr] at hresponse ⊢
    exact herror r _ hresponse

/-! ### Numbers -/

/-- The exponent of a number, five bits with a sign. -/
def exponent11 (w : UInt16) : ℤ :=
  if w.toNat / 2048 < 16 then (w.toNat / 2048 : ℕ) else (w.toNat / 2048 : ℕ) - 32

/-- The value of a number at a scale: eleven bits of mantissa, rounded down. -/
def linear11 (w : UInt16) (scale : Scale) : ℤ :=
  ⌊((w.toNat % 2048 : ℕ) : ℚ) * scale.factor * (2 : ℚ) ^ exponent11 w⌋

/-- **The decoder's shifts are the value of the number.** A shift to the right cuts off,
as the division of a number that is not negative does. -/
theorem unsignedLinear11_eq (w : UInt16) (scale : Scale) :
    unsignedLinear11 w scale = linear11 w scale := by
  have hw : w.toNat < 65536 := w.toNat_lt
  have hmantissa : (w &&& 0x7ff).toNat = w.toNat % 2048 := by
    rw [UInt16.toNat_and]
    exact Nat.and_two_pow_sub_one_eq_mod w.toNat 11
  unfold unsignedLinear11 linear11 exponent11
  dsimp only
  rw [hmantissa]
  generalize w.toNat % 2048 = mantissa
  rcases Nat.lt_or_ge w.toNat 32768 with hpos | hneg
  · have hexp : (w.toNat : ℤ).bmod (2 ^ 16) >>> (11 : ℕ) = ((w.toNat / 2048 : ℕ) : ℤ) := by
      rw [Int.bmod_eq_of_le (by omega) (by omega), Int.shiftRight_eq_div_pow]
      omega
    rw [hexp, if_pos (Int.natCast_nonneg _), if_pos (by omega), Int.toNat_natCast,
      Int.shiftLeft_eq, zpow_natCast]
    symm
    rw [Int.floor_eq_iff]
    push_cast
    constructor <;> norm_num
  · obtain ⟨k, hk⟩ : ∃ k : ℕ, w.toNat / 2048 + (k + 1) = 32 := ⟨31 - w.toNat / 2048, by omega⟩
    have hexp : (w.toNat : ℤ).bmod (2 ^ 16) >>> (11 : ℕ) = -((k + 1 : ℕ) : ℤ) := by
      rw [Int.bmod_def, Int.shiftRight_eq_div_pow]
      omega
    have hsigned : ((w.toNat / 2048 : ℕ) : ℤ) - 32 = -((k + 1 : ℕ) : ℤ) := by omega
    rw [hexp, if_neg (by omega), if_neg (by omega), neg_neg, Int.toNat_natCast,
      Int.shiftRight_eq_div_pow, hsigned, zpow_neg, zpow_natCast, ← div_eq_mul_inv]
    have hfloor := Rat.floor_intCast_div_natCast (mantissa * scale.factor) (2 ^ (k + 1))
    push_cast at hfloor ⊢
    exact hfloor.symm

/-- **Every number fits an `i64`**, at every scale. The mantissa has 11 bits, the scale
20, and the exponent adds 15 at most. -/
theorem unsignedLinear11_fits (w : UInt16) (scale : Scale) :
    0 ≤ unsignedLinear11 w scale ∧ unsignedLinear11 w scale < 2 ^ 63 := by
  have hw : w.toNat < 65536 := w.toNat_lt
  have hmantissa : ((w.toNat % 2048 : ℕ) : ℚ) ≤ 2047 := by
    have : w.toNat % 2048 ≤ 2047 := by omega
    exact_mod_cast this
  have hfactor : (0 : ℚ) ≤ scale.factor ∧ (scale.factor : ℚ) ≤ 1000000 := by
    cases scale <;> norm_num [Scale.factor]
  have hexponent : exponent11 w ≤ 15 := by
    unfold exponent11
    split_ifs <;> omega
  have hpow : (2 : ℚ) ^ exponent11 w ≤ 2 ^ (15 : ℤ) :=
    zpow_le_zpow_right₀ (by norm_num) hexponent
  have hpos : (0 : ℚ) ≤ 2 ^ exponent11 w := by positivity
  rw [unsignedLinear11_eq, linear11]
  refine ⟨Int.floor_nonneg.2 (mul_nonneg (mul_nonneg (Nat.cast_nonneg _) hfactor.1) hpos),
    Int.floor_lt.2 ?_⟩
  calc ((w.toNat % 2048 : ℕ) : ℚ) * scale.factor * (2 : ℚ) ^ exponent11 w
      ≤ 2047 * 1000000 * 2 ^ (15 : ℤ) := by
        gcongr
        · exact hfactor.1
        · exact hfactor.2
    _ < ((2 ^ 63 : ℤ) : ℚ) := by norm_num

/-- The number at an offset of a payload. -/
def wordAt (d : Bytes) (offset : ℕ) : UInt16 := u16 (d.getD offset 0) (d.getD (offset + 1) 0)

/-- A byte inside of the report is read. -/
theorem byteAt_eq {d : Bytes} {i : ℕ} (h : i < d.length) : byteAt d i = .ok (d.getD i 0) := by
  simp [byteAt, h]

/-- A word inside of the report is read, and decoded. -/
theorem value_eq {d : Bytes} {offset : ℕ} (h : offset + 1 < d.length) (scale : Scale) :
    value d offset scale = .ok (linear11 (wordAt d offset) scale) := by
  rw [value, byteAt_eq (by omega), byteAt_eq h, ← unsignedLinear11_eq]
  rfl

/-- An array whose elements are all read is read. -/
theorem ofFnM_ok {ε α : Type} {n : ℕ} {f : Fin n → Except ε α} {g : Fin n → α}
    (h : ∀ i, f i = .ok (g i)) : Vector.ofFnM f = .ok (Vector.ofFn g) := by
  induction n with
  | zero => simp [Vector.ofFnM_zero, pure, Except.pure]
  | succ n ih =>
      rw [Vector.ofFnM_succ, ih fun i => h i.castSucc, h, Vector.ofFn_succ]
      rfl

/-- A result is passed on. -/
theorem ok_bind {ε α β : Type} (a : α) (f : α → Except ε β) : (Except.ok a >>= f) = f a := rfl

/-! ### Telemetry -/

/-- The sample of 22 numbers, which are the words of the reply in their order: the
currents of the rails, those of the two connectors, then the power, the efficiency, the
temperature and the fan, and last the voltages of the rails. -/
def reading (w : ℕ → UInt16) : TsTelemetry where
  powerUw := linear11 (w 15) .micro
  efficiencyMillipercent := linear11 (w 16) .milli
  temperatureMc := linear11 (w 17) .milli
  fanRpm := linear11 (w 18) .base
  rails := Vector.ofFn fun i => ⟨linear11 (w (19 + i)) .milli, linear11 (w i) .milli⟩
  connectorCurrentsMa := Vector.ofFn fun c => Vector.ofFn fun i =>
    linear11 (w (3 + 6 * c + i)) .milli

/-- The numbers of a sample in the order of the payload. -/
def TsTelemetry.inOrder (t : TsTelemetry) : List ℤ :=
  (t.rails.map Rail.currentMa).toList ++ (t.connectorCurrentsMa.toList.flatMap Vector.toList) ++
    [t.powerUw, t.efficiencyMillipercent, t.temperatureMc, t.fanRpm] ++
    (t.rails.map Rail.voltageMv).toList

/-- The scale of a word. -/
def scaleOf (k : ℕ) : Scale := if k = 15 then .micro else if k = 18 then .base else .milli

/-- **Word `k` of the payload is number `k` of the sample.** So every word of the
payload has one place in the sample, and the scale of that place. -/
theorem inOrder_reading (w : ℕ → UInt16) :
    (reading w).inOrder = (List.range 22).map fun k => linear11 (w k) (scaleOf k) := by
  simp [reading, TsTelemetry.inOrder, Vector.toList_ofFn, List.range, List.range.loop, scaleOf]

/-- The limits of a plausible sample. They are upper limits, since no number on the wire
is negative. -/
structure Plausible (t : TsTelemetry) : Prop where
  /-- 2500 W. -/
  power : t.powerUw ≤ 2500000000
  /-- 200 degrees. -/
  temperature : t.temperatureMc ≤ 200000
  /-- 100 percent. -/
  efficiency : t.efficiencyMillipercent ≤ 100000
  /-- 20 V and 200 A. -/
  rails : ∀ r ∈ t.rails, r.voltageMv ≤ 20000 ∧ r.currentMa ≤ 200000
  /-- 50 A for each conductor. -/
  connectors : ∀ c ∈ t.connectorCurrentsMa, ∀ i ∈ c, i ≤ 50000

/-- The limits of the decoder, as a condition on its values. -/
theorem implausibleValues_iff (t : TsTelemetry) : implausibleValues t = false ↔ Plausible t := by
  simp only [implausibleValues, Bool.or_eq_false_iff, Vector.any_eq_false',
    decide_eq_false_iff_not, not_lt, gt_iff_lt, Bool.not_eq_true]
  exact ⟨fun ⟨⟨⟨⟨h₁, h₂⟩, h₃⟩, h₄⟩, h₅⟩ => ⟨h₁, h₂, h₃, h₄, h₅⟩,
    fun h => ⟨⟨⟨⟨h.power, h.temperature⟩, h.efficiency⟩, h.rails⟩, h.connectors⟩⟩

instance instDecidablePlausible (t : TsTelemetry) : Decidable (Plausible t) :=
  decidable_of_iff _ (implausibleValues_iff t)

/-- The words of a telemetry payload. -/
def words (d : Bytes) (k : ℕ) : UInt16 := wordAt d (2 * k)

/-- A payload of 44 bytes is read without leaving it: each offset of the source is twice
the number of a word below 22, and the rails and connectors are words of the same row. -/
theorem decodeTsTelemetry_of_payload {r d : Bytes} (h : response r readOp 0xe0 44 = .ok d)
    (hd : d.length = 44) :
    decodeTsTelemetry r =
      if implausibleValues (reading (words d)) then .error (.error .implausibleTelemetry)
      else .ok (reading (words d)) := by
  have hrails : (Vector.ofFnM fun i : Fin 3 => (do
      .ok ⟨← value d (railOffsets i).1 .milli, ← value d (railOffsets i).2 .milli⟩ :
        Result Rail)) = .ok (reading (words d)).rails := by
    refine ofFnM_ok fun i => ?_
    have hi : railOffsets i = (2 * (19 + (i : ℕ)), 2 * (i : ℕ)) := by
      match i with
      | 0 => rfl
      | 1 => rfl
      | 2 => rfl
    rw [hi, value_eq (by omega), value_eq (by omega)]
    rfl
  have hconnectors : (Vector.ofFnM fun c : Fin 2 => (Vector.ofFnM fun i : Fin 6 =>
      value d (6 + c * 12 + i * 2) .milli : Result (Vector ℤ 6))) =
        .ok (reading (words d)).connectorCurrentsMa := by
    refine ofFnM_ok fun c => ofFnM_ok fun i => ?_
    have hi : 6 + (c : ℕ) * 12 + i * 2 = 2 * (3 + 6 * c + i) := by omega
    rw [hi, value_eq (by omega)]
    rfl
  rw [decodeTsTelemetry, h, ok_bind, value_eq (by omega), ok_bind, value_eq (by omega), ok_bind,
    value_eq (by omega), ok_bind, value_eq (by omega), ok_bind, hrails, ok_bind, hconnectors,
    ok_bind]
  rfl

/-- **`decode_ts_telemetry` in one piece.** Within a payload of 44 bytes no offset is
out of range, so that its only errors are these four. -/
theorem decodeTsTelemetry_eq (r : Bytes) :
    decodeTsTelemetry r =
      if ¬IsReport r then .error (.error .reportLength)
      else if ¬Echoes (body r) readOp 0xe0 then .error (.error .echoMismatch)
      else if busyPattern (body r) then .error (.error .busy)
      else if ¬Plausible (reading (words (payload r 44))) then
        .error (.error .implausibleTelemetry)
      else .ok (reading (words (payload r 44))) := by
  refine decode_eq_of_response (fun d =>
    if ¬Plausible (reading (words d)) then .error (.error .implausibleTelemetry)
    else .ok (reading (words d))) (by norm_num) (fun r e h => ?_) (fun r d h hd => ?_) r
  · rw [decodeTsTelemetry, h]
    rfl
  · rw [decodeTsTelemetry_of_payload h hd]
    by_cases himp : implausibleValues (reading (words d)) = true
    · exact (if_pos himp).trans (if_pos (by rw [← implausibleValues_iff, himp]; decide)).symm
    · exact (if_neg himp).trans (if_neg (by rw [← implausibleValues_iff]; simpa using himp)).symm

/-! ### Safeguards -/

/-- The safeguard block at an offset of a payload. -/
def snapshotAt (d : Bytes) (offset : ℕ) : FaultSnapshot where
  statusRaw := d.getD offset 0
  runtimeSeconds := u32 (d.getD (offset + 1) 0) (d.getD (offset + 2) 0) (d.getD (offset + 3) 0)
    (d.getD (offset + 4) 0)
  lifetimeSeconds := u32 (d.getD (offset + 5) 0) (d.getD (offset + 6) 0) (d.getD (offset + 7) 0)
    (d.getD (offset + 8) 0)
  currentsMa := Vector.ofFn fun i => linear11 (wordAt d (offset + 9 + 2 * i)) .milli

/-- The two blocks of a payload. -/
def snapshots (d : Bytes) : Vector FaultSnapshot 2 := Vector.ofFn fun c => snapshotAt d (21 * c)

/-- A block is read without leaving it. -/
theorem safeguardBlock_eq {p : Bytes} (hp : p.length = 21) :
    safeguardBlock p = .ok (snapshotAt p 0) := by
  have hu32 {k : ℕ} (hk : k + 3 < p.length) : u32At p k = .ok (u32 (p.getD k 0)
      (p.getD (k + 1) 0) (p.getD (k + 2) 0) (p.getD (k + 3) 0)) := by
    rw [u32At, byteAt_eq (by omega), byteAt_eq (by omega), byteAt_eq (by omega), byteAt_eq hk]
    rfl
  have hcurrents : (Vector.ofFnM fun i : Fin 6 => value p (9 + i * 2) .milli) =
      .ok (snapshotAt p 0).currentsMa := by
    refine ofFnM_ok fun i => ?_
    have hi : 9 + (i : ℕ) * 2 = 0 + 9 + 2 * i := by omega
    rw [hi, value_eq (by omega)]
  rw [safeguardBlock, byteAt_eq (by omega), ok_bind, hu32 (by omega), ok_bind, hu32 (by omega),
    ok_bind, hcurrents, ok_bind]
  rfl

/-- A block of a payload, cut out, is read as it is at its place. The source cuts the
payload into blocks of 21 bytes and reads each from its beginning. -/
theorem snapshotAt_slice {d : Bytes} (first : ℕ) :
    snapshotAt ((d.take (first + 21)).drop first) 0 = snapshotAt d first := by
  have hget {i : ℕ} (hi : i < 21) :
      ((d.take (first + 21)).drop first).getD i 0 = d.getD (first + i) 0 := by
    rw [List.getD_eq_getElem?_getD, List.getElem?_drop, List.getElem?_take, if_pos (by omega),
      List.getD_eq_getElem?_getD]
  have hword {i : ℕ} (hi : i + 1 < 21) :
      wordAt ((d.take (first + 21)).drop first) i = wordAt d (first + i) := by
    rw [wordAt, hget (by omega), hget hi]
    rfl
  simp only [snapshotAt, Nat.zero_add]
  rw [hget (by omega), hget (by omega), hget (by omega), hget (by omega), hget (by omega),
    hget (by omega), hget (by omega), hget (by omega), hget (by omega)]
  congr 1
  refine congrArg Vector.ofFn (funext fun i => ?_)
  rw [hword (by omega), Nat.add_assoc]

/-- **`decode_ts_safeguards` in one piece.** It refuses no values, whatever they are:
after the three checks of a report each block of the payload is read at its place. -/
theorem decodeTsSafeguards_eq (r : Bytes) :
    decodeTsSafeguards r =
      if ¬IsReport r then .error (.error .reportLength)
      else if ¬Echoes (body r) readOp 0xc1 then .error (.error .echoMismatch)
      else if busyPattern (body r) then .error (.error .busy)
      else .ok (snapshots (payload r 42)) := by
  refine decode_eq_of_response (fun d => .ok (snapshots d)) (by norm_num)
    (fun r e h => ?_) (fun r d h hd => ?_) r
  · rw [decodeTsSafeguards, h]
    rfl
  · rw [decodeTsSafeguards, h, ok_bind]
    refine ofFnM_ok fun c => ?_
    have hrange : (c : ℕ) * 21 ≤ (c + 1) * 21 ∧ ((c : ℕ) + 1) * 21 ≤ d.length := by omega
    have hlast : ((c : ℕ) + 1) * 21 = c * 21 + 21 := by omega
    rw [slice, if_pos hrange, ok_bind, hlast, safeguardBlock_eq, snapshotAt_slice, Nat.mul_comm]
    rw [List.length_drop, List.length_take]
    omega

/-! ### Frames -/

/-- A number as two bytes. -/
def le16 (w : UInt16) : Bytes := [UInt8.ofNat (w.toNat % 256), UInt8.ofNat (w.toNat / 256)]

/-- A counter as four bytes. -/
def le32 (n : UInt32) : Bytes :=
  [UInt8.ofNat (n.toNat % 256), UInt8.ofNat (n.toNat / 2 ^ 8 % 256),
    UInt8.ofNat (n.toNat / 2 ^ 16 % 256), UInt8.ofNat (n.toNat / 2 ^ 24)]

/-- The payload of some numbers. -/
def le16s : List UInt16 → Bytes
  | [] => []
  | w :: ws => le16 w ++ le16s ws

/-- A word takes two bytes. -/
theorem length_le16s (ws : List UInt16) : (le16s ws).length = 2 * ws.length := by
  induction ws with
  | nil => rfl
  | cons w ws ih =>
      rw [le16s, List.length_append, ih, List.length_cons, le16]
      simp only [List.length_cons, List.length_nil]
      omega

/-- A number is read back. -/
theorem u16_le16 (w : UInt16) :
    u16 (UInt8.ofNat (w.toNat % 256)) (UInt8.ofNat (w.toNat / 256)) = w := by
  have hw : w.toNat < 65536 := w.toNat_lt
  rw [u16, UInt8.toNat_ofNat', UInt8.toNat_ofNat', ← UInt16.toNat_inj, UInt16.toNat_ofNat']
  omega

/-- A counter is read back. -/
theorem u32_le32 (n : UInt32) :
    u32 (UInt8.ofNat (n.toNat % 256)) (UInt8.ofNat (n.toNat / 2 ^ 8 % 256))
      (UInt8.ofNat (n.toNat / 2 ^ 16 % 256)) (UInt8.ofNat (n.toNat / 2 ^ 24)) = n.toNat := by
  have hn : n.toNat < 4294967296 := n.toNat_lt
  simp only [u32, UInt8.toNat_ofNat']
  omega

/-- Every number is found at its place: the low byte comes first, and each number takes
two. -/
theorem wordAt_le16s (before : Bytes) (ws : List UInt16) (after : Bytes) {k : ℕ}
    (hk : k < ws.length) :
    wordAt (before ++ le16s ws ++ after) (before.length + 2 * k) = ws[k] := by
  induction ws generalizing before k with
  | nil => exact absurd hk (Nat.not_lt_zero k)
  | cons w ws ih =>
      cases k with
      | zero =>
          have hlow : (before ++ le16s (w :: ws) ++ after).getD before.length 0 =
              UInt8.ofNat (w.toNat % 256) := by
            simp [le16s, le16, List.getD_eq_getElem?_getD]
          have hhigh : (before ++ le16s (w :: ws) ++ after).getD (before.length + 1) 0 =
              UInt8.ofNat (w.toNat / 256) := by
            simp [le16s, le16, List.getD_eq_getElem?_getD]
          rw [Nat.mul_zero, Nat.add_zero, wordAt, hlow, hhigh, u16_le16]
          rfl
      | succ k =>
          have hbytes : before ++ le16s (w :: ws) ++ after =
              (before ++ le16 w) ++ le16s ws ++ after := by
            rw [le16s, List.append_assoc before (le16 w)]
          have hplace : before.length + 2 * (k + 1) = (before ++ le16 w).length + 2 * k := by
            rw [List.length_append, le16]
            simp only [List.length_cons, List.length_nil]
            omega
          rw [hbytes, hplace, ih (before ++ le16 w) (Nat.lt_of_succ_lt_succ hk)]
          rfl

/-- **A request frame** is a report that echoes its request and carries its
payload. -/
theorem request_frame (opcode command : UInt8) {d : Bytes} (hd : d.length ≤ 62) :
    ∃ frame, request opcode command d = .ok frame ∧ frame.length = 65 ∧ IsReport frame ∧
      Echoes (body frame) opcode command ∧ payload frame d.length = d := by
  refine ⟨_, if_neg (by omega), ?_, ?_, ?_, ?_⟩
  · simp only [List.length_cons, List.length_append, List.length_replicate]
    omega
  · refine .inr ⟨?_, rfl⟩
    simp only [List.length_cons, List.length_append, List.length_replicate]
    omega
  · rw [body, if_pos]
    · exact ⟨rfl, rfl⟩
    · simp only [List.length_cons, List.length_append, List.length_replicate]
      omega
  · rw [payload, body, if_pos]
    · simp
    · simp only [List.length_cons, List.length_append, List.length_replicate]
      omega

/-- The telemetry frame of 22 words carries these words. -/
theorem words_le16s (w : ℕ → UInt16) {k : ℕ} (hk : k < 22) :
    words (le16s ((List.range 22).map w)) k = w k := by
  have hlen : ((List.range 22).map w).length = 22 := by simp
  have h := wordAt_le16s [] ((List.range 22).map w) [] (k := k) (by omega)
  rw [List.nil_append, List.append_nil, List.length_nil, Nat.zero_add] at h
  rw [words, h]
  simp

/-- A sample depends on 22 words. -/
theorem reading_congr {w w' : ℕ → UInt16} (h : ∀ k < 22, w k = w' k) : reading w = reading w' := by
  simp only [reading, h 15 (by decide), h 16 (by decide), h 17 (by decide), h 18 (by decide)]
  congr 1
  · refine congrArg Vector.ofFn (funext fun i => ?_)
    rw [h _ (by omega), h _ (by omega)]
  · refine congrArg Vector.ofFn (funext fun c => congrArg Vector.ofFn (funext fun i => ?_))
    rw [h _ (by omega)]

end Wire
end Railwatch
