/-
# The decoders are exact

Each decoder accepts exactly its format, reports the first check that fails, and
never indexes outside the report; the 64- and 65-byte forms are the same to it,
and what follows the payload matters only to the busy pattern
(`DecodesExactly`).  A frame that `request` builds from numbers is decoded into
these numbers, each at its place.

Both directions are here: a text of bytes that is accepted has the numbers that are read
of it at their places, and numbers that are put at their places are read again.  Nothing
is said about what the numbers mean; that is `Layout`.
-/

import Railwatch.Protocol.Layout

namespace Railwatch
namespace Wire

/-- The decoder of a command accepts exactly the reports that answer it, are not
the busy pattern and read as something plausible. -/
structure DecodesExactly {α : Type} (decode : Bytes → Result α) (command : UInt8) (length : ℕ)
    (accepts : α → Prop) (read : Bytes → α) : Prop where
  /-- A report is accepted if it answers, is not busy and reads as something plausible,
  and then it reads so. -/
  ok : ∀ r t, decode r = .ok t ↔ IsReport r ∧ Echoes (body r) readOp command ∧
    busyPattern (body r) = false ∧ accepts (read (payload r length)) ∧
      t = read (payload r length)
  /-- The length is checked first. -/
  reportLength : ∀ r, decode r = .error (.error .reportLength) ↔ ¬IsReport r
  /-- Then the echo. -/
  echoMismatch : ∀ r, decode r = .error (.error .echoMismatch) ↔
    IsReport r ∧ ¬Echoes (body r) readOp command
  /-- Then the busy pattern. -/
  busy : ∀ r, decode r = .error (.error .busy) ↔
    IsReport r ∧ Echoes (body r) readOp command ∧ busyPattern (body r) = true
  /-- And what it reads as at last. -/
  implausibleTelemetry : ∀ r, decode r = .error (.error .implausibleTelemetry) ↔
    IsReport r ∧ Echoes (body r) readOp command ∧ busyPattern (body r) = false ∧
      ¬accepts (read (payload r length))
  /-- No byte is looked for outside of the report. -/
  inRange : ∀ r, decode r ≠ .error .outOfRange
  /-- A zero in front makes no difference. -/
  leadingZero : ∀ r, r.length = 64 → decode (0 :: r) = decode r
  /-- Nor do the bytes behind the payload, but for the busy pattern. -/
  afterPayload : ∀ r r', r.length = 64 → r'.length = 64 →
    r.take (2 + length) = r'.take (2 + length) → busyPattern r = busyPattern r' →
      decode r = decode r'

/-- The 65-byte form of a report is the report behind a zero. -/
theorem isReport_cons_zero {r : Bytes} (h : r.length = 64) :
    IsReport (0 :: r) ∧ body (0 :: r) = r :=
  ⟨.inr ⟨by rw [List.length_cons, h], rfl⟩, if_pos (by rw [List.length_cons, h])⟩

/-- A report of 64 bytes is its own body. -/
theorem body_of_length {r : Bytes} (h : r.length = 64) : body r = r := if_neg (by omega)

/-- A decoder that makes these checks in this order is exact. Each field of
`DecodesExactly` is read off the one equation: which reports are accepted, what each
error means, and that nothing but the body up to the payload's end and the busy pattern
matters. -/
theorem DecodesExactly.of_eq {α : Type} {decode : Bytes → Result α} {command : UInt8}
    {length : ℕ} {accepts : α → Prop} [DecidablePred accepts] {read : Bytes → α}
    (h : ∀ r, decode r =
      if ¬IsReport r then .error (.error .reportLength)
      else if ¬Echoes (body r) readOp command then .error (.error .echoMismatch)
      else if busyPattern (body r) then .error (.error .busy)
      else if ¬accepts (read (payload r length)) then .error (.error .implausibleTelemetry)
      else .ok (read (payload r length))) :
    DecodesExactly decode command length accepts read where
  ok r t := by
    rw [h, eq_comm (a := t)]
    split_ifs <;> simp_all
  reportLength r := by
    rw [h]
    split_ifs <;> simp_all
  echoMismatch r := by
    rw [h]
    split_ifs <;> simp_all
  busy r := by
    rw [h]
    split_ifs <;> simp_all
  implausibleTelemetry r := by
    rw [h]
    split_ifs <;> simp_all
  inRange r := by
    rw [h]
    split_ifs <;> simp
  leadingZero r hr := by
    obtain ⟨hreport, hbody⟩ := isReport_cons_zero hr
    have hpayload : payload (0 :: r) length = payload r length := by
      rw [payload, payload, hbody, body_of_length hr]
    have hsame : IsReport (0 :: r) ↔ IsReport r := iff_of_true hreport (.inl hr)
    simp only [h, hsame, hbody, hpayload, body_of_length hr]
  afterPayload r r' hr hr' htake hbusy := by
    have hpayload : payload r length = payload r' length := by
      rw [payload, payload, body_of_length hr, body_of_length hr', List.take_drop, List.take_drop,
        htake]
    have hecho : Echoes r readOp command ↔ Echoes r' readOp command := by
      have hget {i : ℕ} (hi : i < 2) : r[i]? = r'[i]? := by
        have := congrArg (·[i]?) htake
        simpa only [List.getElem?_take, if_pos (show i < 2 + length by omega)] using this
      rw [Echoes, Echoes, hget (by decide), hget (by decide)]
    have hsame : IsReport r ↔ IsReport r' := iff_of_true (.inl hr) (.inl hr')
    simp only [h, hsame, body_of_length hr, body_of_length hr', hecho, hbusy, hpayload]

/-- One safeguard block on the wire: a status, two times and six words. Every
combination of them is a block. -/
structure Block where
  statusRaw : UInt8
  runtimeSeconds : UInt32
  lifetimeSeconds : UInt32
  currents : ℕ → UInt16

/-- The bytes of a block. -/
def Block.bytes (b : Block) : Bytes :=
  b.statusRaw :: (le32 b.runtimeSeconds ++ (le32 b.lifetimeSeconds ++
    le16s ((List.range 6).map b.currents)))

/-- What a block says. -/
def Block.snapshot (b : Block) : FaultSnapshot where
  statusRaw := b.statusRaw
  runtimeSeconds := b.runtimeSeconds.toNat
  lifetimeSeconds := b.lifetimeSeconds.toNat
  currentsMa := Vector.ofFn fun i => linear11 (b.currents i) .milli

/-- A connector takes 21 bytes. -/
theorem Block.length_bytes (b : Block) : b.bytes.length = 21 := by
  simp [Block.bytes, le32, length_le16s]

/-- A block is read at its place, whatever stands before and behind it: the status, the
two times and the six currents come back as they were written. -/
theorem snapshotAt_bytes (before : Bytes) (b : Block) (after : Bytes) :
    snapshotAt (before ++ b.bytes ++ after) before.length = b.snapshot := by
  have hget (i : ℕ) : (before ++ b.bytes ++ after).getD (before.length + i) 0 =
      (b.bytes ++ after).getD i 0 := by
    rw [List.append_assoc, List.getD_eq_getElem?_getD, List.getElem?_append_right (by omega),
      Nat.add_sub_cancel_left, List.getD_eq_getElem?_getD]
  have hcurrents (i : Fin 6) :
      wordAt (before ++ b.bytes ++ after) (before.length + 9 + 2 * i) = b.currents i := by
    have hbytes : before ++ b.bytes ++ after = (before ++ (b.statusRaw ::
        (le32 b.runtimeSeconds ++ le32 b.lifetimeSeconds))) ++
          le16s ((List.range 6).map b.currents) ++ after := by
      simp [Block.bytes]
    have hlen : before.length + 9 = (before ++ (b.statusRaw ::
        (le32 b.runtimeSeconds ++ le32 b.lifetimeSeconds))).length := by
      simp [le32]
    rw [hbytes, hlen, wordAt_le16s _ _ _ (by simp)]
    simp
  have hruntime : u32 ((before ++ b.bytes ++ after).getD (before.length + 1) 0)
      ((before ++ b.bytes ++ after).getD (before.length + 2) 0)
      ((before ++ b.bytes ++ after).getD (before.length + 3) 0)
      ((before ++ b.bytes ++ after).getD (before.length + 4) 0) = b.runtimeSeconds.toNat := by
    rw [hget, hget, hget, hget]
    exact u32_le32 b.runtimeSeconds
  have hlifetime : u32 ((before ++ b.bytes ++ after).getD (before.length + 5) 0)
      ((before ++ b.bytes ++ after).getD (before.length + 6) 0)
      ((before ++ b.bytes ++ after).getD (before.length + 7) 0)
      ((before ++ b.bytes ++ after).getD (before.length + 8) 0) = b.lifetimeSeconds.toNat := by
    rw [hget, hget, hget, hget]
    exact u32_le32 b.lifetimeSeconds
  have hstatus : (before ++ b.bytes ++ after).getD before.length 0 = b.statusRaw := hget 0
  rw [snapshotAt, hruntime, hlifetime, hstatus]
  exact congrArg (FaultSnapshot.mk _ _ _) (congrArg Vector.ofFn (funext fun i =>
    congrArg (linear11 · .milli) (hcurrents i)))

/-- **The wire decoders are exact**: what they accept, how they fail, and where
each word of a frame ends up. -/
theorem wire_decoders_are_exact :
    DecodesExactly decodeTsTelemetry 0xe0 44 Plausible (fun d => reading (words d)) ∧
    (∀ w, (reading w).inOrder = (List.range 22).map fun k => linear11 (w k) (scaleOf k)) ∧
    (∀ w : ℕ → UInt16, ∃ frame,
      request readOp 0xe0 (le16s ((List.range 22).map w)) = .ok frame ∧
      decodeTsTelemetry frame =
        if busyPattern (body frame) then .error (.error .busy)
        else if ¬Plausible (reading w) then .error (.error .implausibleTelemetry)
        else .ok (reading w)) ∧
    DecodesExactly decodeTsSafeguards 0xc1 42 (fun _ => True) snapshots ∧
    ∀ b₀ b₁ : Block, ∃ frame,
      request readOp 0xc1 (b₀.bytes ++ b₁.bytes) = .ok frame ∧
      decodeTsSafeguards frame =
        if busyPattern (body frame) then .error (.error .busy)
        else .ok (Vector.ofFn fun c => if c = 0 then b₀.snapshot else b₁.snapshot) := by
  refine ⟨.of_eq decodeTsTelemetry_eq, inOrder_reading, fun w => ?_,
    .of_eq fun r => ?_, fun b₀ b₁ => ?_⟩
  · have hlen : (le16s ((List.range 22).map w)).length = 44 := by
      simp [length_le16s]
    obtain ⟨frame, hframe, -, hreport, hecho, hpayload⟩ :=
      request_frame readOp 0xe0 (d := le16s ((List.range 22).map w)) (by omega)
    rw [hlen] at hpayload
    have hreading := reading_congr fun k hk => words_le16s w hk
    refine ⟨frame, hframe, ?_⟩
    rw [decodeTsTelemetry_eq, if_neg (not_not.2 hreport), if_neg (not_not.2 hecho), hpayload,
      hreading]
  · rw [decodeTsSafeguards_eq, if_neg (not_not.2 trivial)]
  · have hlen : (b₀.bytes ++ b₁.bytes).length = 42 := by
      rw [List.length_append, b₀.length_bytes, b₁.length_bytes]
    obtain ⟨frame, hframe, -, hreport, hecho, hpayload⟩ :=
      request_frame readOp 0xc1 (d := b₀.bytes ++ b₁.bytes) (by omega)
    rw [hlen] at hpayload
    refine ⟨frame, hframe, ?_⟩
    rw [decodeTsSafeguards_eq, if_neg (not_not.2 hreport), if_neg (not_not.2 hecho), hpayload]
    have h₀ := snapshotAt_bytes [] b₀ b₁.bytes
    have h₁ := snapshotAt_bytes b₀.bytes b₁ []
    rw [List.nil_append, List.length_nil] at h₀
    rw [List.append_nil, b₀.length_bytes] at h₁
    have hsnapshots : snapshots (b₀.bytes ++ b₁.bytes) =
        Vector.ofFn fun c => if c = 0 then b₀.snapshot else b₁.snapshot := by
      refine congrArg Vector.ofFn (funext fun c => ?_)
      match c with
      | 0 => exact h₀
      | 1 => exact h₁
    rw [hsnapshots]

end Wire
end Railwatch
