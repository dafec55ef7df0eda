/-
# Frames over a stream

`read_frame` and `send` of `crates/client/src/lib.rs`, over a buffered reader
whose source delivers its bytes in any portions, with interruptions and failures.

`frames_are_read_as_sent` says that a reader gets exactly the messages that were
sent, and what a call does with any other stream.  The connections of the daemon
read in the same way: `readFrame_refines`.

The text that `serde_json` writes for a value is a parameter, and writes succeed.

A message ends with a zero, and JSON has none, so the end of a message is where the next
zero is; the limit keeps a reader from collecting without end.
-/

import Railwatch.General.Buffered
import Railwatch.Ipc.Connection

namespace Railwatch

open Buffered

namespace Client

/-- `send`: the text of a value, and a NUL. -/
def send {Value : Type} (text : Value → List UInt8) (stream : List UInt8) (value : Value) :
    List UInt8 := stream ++ text value ++ [0]

/-- `read_frame`.  The addition wraps, as it does without overflow checks. What is
behind the delimiter stays in the reader, whether the frame is accepted or refused. -/
def readFrame (max : UInt64) (reader : Reader UInt8 Failure) :
    Except Failure (Option (List UInt8)) × Reader UInt8 Failure :=
  let o := Take.readUntil ⟨reader, (max + 1).toNat⟩ 0 [] 0
  let frame : Except Failure (Option (List UInt8)) := do
    let n ← o.result
    if n = 0 then pure none
    else if n ≤ max.toNat then
      if o.bytes.getLast? = some 0 then pure (some o.bytes.dropLast)
      else throw (.message "unterminated message")
    else throw (.message "message exceeds size limit")
  (frame, o.rest.inner)

/-- What successive calls of `read_frame` return. -/
def readFrames (max : UInt64) : ℕ → Reader UInt8 Failure →
    List (Except Failure (Option (List UInt8)))
  | 0, _ => []
  | calls + 1, reader => (readFrame max reader).1 :: readFrames max calls (readFrame max reader).2

/-! ### One call -/

/-- What a call returns for the bytes that `read_until` added. -/
def frameOf (max : ℕ) (bytes : List UInt8) : Except Failure (Option (List UInt8)) :=
  if bytes = [] then .ok none
  else if bytes.length ≤ max then
    if bytes.getLast? = some 0 then .ok (some bytes.dropLast)
    else .error (.message "unterminated message")
  else .error (.message "message exceeds size limit")

/-- The limit and one more is no overflow, for any limit that is used. -/
theorem toNat_succ {max : UInt64} (h : max.toNat < 2 ^ 64 - 1) :
    (max + 1).toNat = max.toNat + 1 := by
  rw [UInt64.toNat_add, Nat.mod_eq_of_lt]
  · rfl
  · exact Nat.succ_lt_of_lt_pred h

/-- A message with its NUL is a frame if both fit. -/
theorem frameOf_message {max : ℕ} {message : List UInt8} (h : message.length + 1 ≤ max) :
    frameOf max (message ++ [0]) = .ok (some message) := by
  rw [frameOf, if_neg (by simp), if_pos (by rwa [List.length_append]),
    if_pos List.getLast?_concat, List.dropLast_concat]

/-- Only bytes that end with a NUL within the bound are a message. -/
theorem of_frameOf_eq_some {max : ℕ} {bytes message : List UInt8}
    (h : frameOf max bytes = .ok (some message)) :
    bytes = message ++ [0] ∧ message.length < max := by
  unfold frameOf at h
  split_ifs at h with hnil hlength hlast
  · cases h
  obtain rfl := Option.some.inj (Except.ok.inj h)
  have hbytes := List.dropLast_append_getLast? 0 (Option.mem_def.2 hlast)
  rw [← hbytes, List.length_append, List.length_singleton] at hlength
  exact ⟨hbytes.symm, hlength⟩

/-- There is no frame only behind the last byte. -/
theorem of_frameOf_eq_none {max : ℕ} {bytes : List UInt8} (h : frameOf max bytes = .ok none) :
    bytes = [] := by
  unfold frameOf at h
  split_ifs at h with hnil hlength hlast
  · exact hnil
  · cases h

/-- **What a call does.**  It consumes a part of what it looks for, and unless the
source fails it consumes all of it and returns what this amounts to. -/
theorem readFrame_spec {max : UInt64} (h : max.toNat < 2 ^ 64 - 1)
    (reader : Reader UInt8 Failure) :
    ∃ consumed, reader.content = consumed ++ (readFrame max reader).2.content ∧
      consumed <+: upTo 0 (max.toNat + 1) reader.content ∧
      (readFrame max reader).2.source <:+ reader.source ∧
      ((readFrame max reader).1 = frameOf max.toNat consumed ∧
          consumed = upTo 0 (max.toNat + 1) reader.content ∨
        ∃ reason, (readFrame max reader).1 = .error reason ∧ .failed reason ∈ reader.source) := by
  obtain ⟨consumed, hbytes, hrest, hprefix, hsource, hok, hfailed⟩ :=
    Take.readUntil_spec ⟨reader, (max + 1).toNat⟩ 0 [] 0
  rw [List.nil_append] at hbytes
  rw [toNat_succ h] at hbytes hrest hprefix hsource hok hfailed
  unfold readFrame
  rw [toNat_succ h]
  refine ⟨consumed, hrest, hprefix, hsource, ?_⟩
  dsimp only
  cases hresult : (Take.readUntil ⟨reader, max.toNat + 1⟩ 0 [] 0).result with
  | error reason => exact .inr ⟨reason, rfl, hfailed reason hresult⟩
  | ok n =>
      obtain ⟨rfl, hall⟩ := hok n hresult
      refine .inl ⟨?_, hall⟩
      rw [hbytes, Nat.zero_add, frameOf]
      simp only [bind, Except.bind, List.length_eq_zero_iff]
      rfl

/-- A call on a stream that does not fail. -/
theorem readFrame_of_delivers {max : UInt64} (h : max.toNat < 2 ^ 64 - 1)
    {reader : Reader UInt8 Failure} {bytes rest : List UInt8} (hreader : reader.Delivers bytes)
    (hbytes : bytes = upTo 0 (max.toNat + 1) bytes ++ rest) :
    (readFrame max reader).1 = frameOf max.toNat (upTo 0 (max.toNat + 1) bytes) ∧
      (readFrame max reader).2.Delivers rest := by
  obtain ⟨rfl, hsource⟩ := hreader
  obtain ⟨consumed, hrest, -, hleft, ⟨hframe, rfl⟩ | ⟨reason, -, hfailed⟩⟩ :=
    readFrame_spec h reader
  · have hsplit := hrest.symm.trans hbytes
    exact ⟨hframe, List.append_cancel_left hsplit,
      fun reason hmem => hsource reason (hleft.mem hmem)⟩
  · exact absurd hfailed (hsource reason)

/-- What a connection looks for. -/
theorem readUntil_eq_upTo (limit : ℕ) (input : List UInt8) :
    readUntil limit input = upTo 0 limit input := by
  obtain ⟨before, after, rfl, hnot, hlength, heq⟩ | ⟨hnot, heq⟩ := upTo_cases 0 limit input
  · rw [heq, readUntil_frame hnot hlength]
  · have hall : ∀ b ∈ input.take limit, decide (b ≠ 0) = true := fun b hb =>
      decide_eq_true fun h => hnot (h ▸ hb)
    rw [heq, readUntil, List.takeWhile_eq_self_iff.2 hall, List.dropWhile_eq_nil_iff.2 hall,
      List.take_nil, List.append_nil]

/-- **A connection that is closed behind its bytes reads its frames in this way.** The
portions in which the bytes come, and the interruptions between them, make no
difference. -/
theorem readFrame_refines {max : UInt64} (h : max.toNat < 2 ^ 64 - 1)
    {reader : Reader UInt8 Failure} {c : Connection} (hreader : reader.Delivers c.input)
    (hclosed : c.closed = true) :
    ∃ rest, (readFrame max reader).2.Delivers rest ∧
      (∀ frame, (readFrame max reader).1 = .ok frame →
        Railwatch.readFrame max.toNat c = .ok frame { c with input := rest }) ∧
      ∀ e, (readFrame max reader).1 = .error e →
        Railwatch.readFrame max.toNat c = .error e { c with input := rest } := by
  obtain ⟨rest, hrest⟩ := upTo_prefix 0 (max.toNat + 1) c.input
  obtain ⟨hframe, hdelivers⟩ := readFrame_of_delivers h hreader hrest.symm
  refine ⟨rest, hdelivers, ?_⟩
  rw [hframe, readFrame_eq, readUntil_eq_upTo, hclosed]
  generalize upTo 0 (max.toNat + 1) c.input = bytes at hrest ⊢
  have hdrop : c.input.drop bytes.length = rest := by
    rw [← hrest]
    exact List.drop_left
  simp only [hdrop, frameOf, reduceCtorEq, false_and, if_false]
  split_ifs <;> simp

/-! ### A stream of messages -/

/-- What is sent is the texts with a NUL behind each of them. -/
theorem foldl_send {Value : Type} (text : Value → List UInt8) (values : List Value)
    (stream : List UInt8) :
    values.foldl (send text) stream = stream ++ values.flatMap fun v => text v ++ [0] := by
  induction values generalizing stream with
  | nil => exact (List.append_nil _).symm
  | cons v values ih =>
      rw [List.foldl_cons, ih, send, List.flatMap_cons]
      simp only [List.append_assoc]

/-- A message is returned, and what follows it is left. -/
theorem readFrame_of_message {max : UInt64} (h : max.toNat < 2 ^ 64 - 1) {message : List UInt8}
    (hnul : 0 ∉ message) (hlength : message.length + 1 ≤ max.toNat)
    {reader : Reader UInt8 Failure} {rest : List UInt8}
    (hreader : reader.Delivers (message ++ [0] ++ rest)) :
    (readFrame max reader).1 = .ok (some message) ∧ (readFrame max reader).2.Delivers rest := by
  obtain ⟨limit, hlimit⟩ := Nat.exists_eq_add_of_le (Nat.le_succ_of_le hlength)
  have hupto : upTo 0 (max.toNat + 1) (message ++ [0] ++ rest) = message ++ [0] := by
    have hdelimiter := upTo_delimiter hnul limit rest
    rwa [List.length_append, List.length_singleton, ← hlimit] at hdelimiter
  obtain ⟨hframe, hrest⟩ := readFrame_of_delivers h hreader (by rw [hupto])
  rw [hupto, frameOf_message hlength] at hframe
  exact ⟨hframe, hrest⟩

/-- At the end of a stream all calls return `None`. -/
theorem readFrames_of_end {max : UInt64} (h : max.toNat < 2 ^ 64 - 1)
    {reader : Reader UInt8 Failure} (hreader : reader.Delivers []) (calls : ℕ) :
    readFrames max calls reader = List.replicate calls (.ok none) := by
  induction calls generalizing reader with
  | zero => rfl
  | succ calls ih =>
      have hnothing : ([] : List UInt8) = upTo 0 (max.toNat + 1) [] ++ [] := by rw [upTo_nil]; rfl
      obtain ⟨hframe, hrest⟩ := readFrame_of_delivers h hreader hnothing
      rw [readFrames, hframe, upTo_nil, ih hrest, List.replicate_succ]
      rfl

/-- Messages that stand back to back are returned one by one, however the reader is cut
into portions, and after the last of them the end is reported each time. -/
theorem readFrames_of_delivers {max : UInt64} (h : max.toNat < 2 ^ 64 - 1)
    {messages : List (List UInt8)} (hmessages : ∀ m ∈ messages, 0 ∉ m ∧ m.length + 1 ≤ max.toNat)
    {reader : Reader UInt8 Failure} (hreader : reader.Delivers (messages.flatMap (· ++ [0])))
    (more : ℕ) :
    readFrames max (messages.length + more) reader =
      messages.map (fun m => .ok (some m)) ++ List.replicate more (.ok none) := by
  induction messages generalizing reader with
  | nil => rw [List.length_nil, Nat.zero_add, List.map_nil, readFrames_of_end h hreader,
      List.nil_append]
  | cons m messages ih =>
      obtain ⟨hnul, hlength⟩ := hmessages m List.mem_cons_self
      rw [List.flatMap_cons] at hreader
      obtain ⟨hframe, hrest⟩ := readFrame_of_message h hnul hlength hreader
      rw [List.length_cons, Nat.add_right_comm, readFrames, hframe,
        ih (fun m hm => hmessages m (List.mem_cons_of_mem _ hm)) hrest]
      rfl

end Client

/-- **Reading frames undoes sending them.**  For every bound but the one whose
successor overflows: messages without a NUL that fit, sent back to back, are
returned in order and then `None`, in whatever portions they arrive; and a call on
any stream consumes at most one byte more than the bound and none behind the first
NUL, returns a message only if it and its NUL are within the bound and `None` only
at the end, and ends in an error if there are bytes but no NUL within the bound. -/
theorem frames_are_read_as_sent (max : UInt64) (hmax : max.toNat < 2 ^ 64 - 1) :
    (∀ (Value : Type) (text : Value → List UInt8) (values : List Value),
      (∀ v ∈ values, 0 ∉ text v ∧ (text v).length + 1 ≤ max.toNat) →
      ∀ reader : Reader UInt8 Failure, reader.Delivers (values.foldl (Client.send text) []) →
      ∀ more, Client.readFrames max (values.length + more) reader =
        values.map (fun v => .ok (some (text v))) ++ List.replicate more (.ok none)) ∧
    ∀ reader : Reader UInt8 Failure, ∃ consumed,
      reader.content = consumed ++ (Client.readFrame max reader).2.content ∧
      consumed.length ≤ max.toNat + 1 ∧
      0 ∉ consumed.dropLast ∧
      (∀ message, (Client.readFrame max reader).1 = .ok (some message) →
        consumed = message ++ [0] ∧ message.length < max.toNat) ∧
      ((Client.readFrame max reader).1 = .ok none → reader.content = []) ∧
      (reader.content ≠ [] → 0 ∉ reader.content.take max.toNat →
        ∃ e, (Client.readFrame max reader).1 = .error e) := by
  refine ⟨fun Value text values hvalues reader hreader more => ?_, fun reader => ?_⟩
  · rw [Client.foldl_send, List.nil_append] at hreader
    have hmessages : ∀ m ∈ values.map text, 0 ∉ m ∧ m.length + 1 ≤ max.toNat := by
      simpa using hvalues
    have hframes := Client.readFrames_of_delivers hmax hmessages (by rwa [List.flatMap_map]) more
    rwa [List.length_map, List.map_map] at hframes
  · obtain ⟨consumed, hrest, hprefix, -, hresult⟩ := Client.readFrame_spec hmax reader
    refine ⟨consumed, hrest, hprefix.length_le.trans (length_upTo_le ..), fun hnul => ?_,
      fun message hmessage => ?_, fun hnone => ?_, fun hnonempty hnul => ?_⟩
    · exact not_mem_dropLast_of_prefix_upTo hprefix hnul
    · obtain ⟨hframe, -⟩ | ⟨reason, herror, -⟩ := hresult
      · exact Client.of_frameOf_eq_some (hframe.symm.trans hmessage)
      · cases herror.symm.trans hmessage
    · obtain ⟨hframe, hall⟩ | ⟨reason, herror, -⟩ := hresult
      · exact upTo_eq_nil (hall.symm.trans (Client.of_frameOf_eq_none (hframe.symm.trans hnone)))
      · cases herror.symm.trans hnone
    · obtain ⟨hframe, hall⟩ | ⟨reason, herror, -⟩ := hresult
      · cases hcall : (Client.readFrame max reader).1 with
        | error e => exact ⟨e, rfl⟩
        | ok frame =>
            rw [hcall] at hframe
            cases frame with
            | none =>
                have hnil := hall.symm.trans (Client.of_frameOf_eq_none hframe.symm)
                exact absurd (upTo_eq_nil hnil) hnonempty
            | some message =>
                obtain ⟨rfl, hlength⟩ := Client.of_frameOf_eq_some hframe.symm
                refine absurd ?_ hnul
                rw [hrest, List.take_append, List.take_of_length_le (by simpa using hlength)]
                simp
      · exact ⟨reason, herror⟩

/-- Three messages, one of them empty, in portions that have nothing to do with
them. -/
theorem frames_are_read_as_sent_of_portions :
    Client.readFrames 8 4
        ⟨[1], [.interrupted, .elements 2 [0, 0], .elements 3 [], .elements 0 []]⟩ =
      [.ok (some [1, 2]), .ok (some []), .ok (some [3]), .ok none] :=
  (frames_are_read_as_sent 8 (by decide)).1 (List UInt8) id [[1, 2], [], [3]] (by decide) _
    ⟨rfl, by simp⟩ 1

end Railwatch
