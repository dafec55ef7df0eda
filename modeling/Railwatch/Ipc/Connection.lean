/-
# Connections

`read_frame` of `crates/client/src/lib.rs` and `serve_client` of `src/ipc.rs`.

The client has sent some bytes; behind them it has closed its end, or the next
read times out.  A connection keeps a trace of the frames it reads and sends, and
its writes succeed.  `serde_json`'s parser, what each call meets, what other
threads do before it, and how often `STOP` is found unset are parameters
(`Host`).  The calls of a connection are numbered, so that every reply and every
state of a stream is the answer of one call of `dispatch` (`Host.Answered`).

Every failure is answered by an error but one: a request for a stream whose
parameters are not empty drops the connection.  `frames_are_answered_iff` says
that each frame has its reply exactly if the first request for a stream is not of
this kind, and finds `STOP` unset.
-/

import Railwatch.Ipc.Dispatch

namespace Railwatch

open Effects

/-! ### Frames -/

/-- `MAX_REQUEST`. -/
def maxRequest : ℕ := 64 * 1024

/-- The frames that a connection serves. -/
def maxFrames : ℕ := 256

/-- A frame that the daemon sends: a reply, an error (of `dispatch`, or for a frame
that is no request), or a reply of a stream. -/
inductive Frame where
  | reply (value : Reply)
  | failed (reason : Option Failure)
  | continues (value : Reply)

/-- The frame for what a call of `dispatch` returns. -/
def Frame.of : Except Failure Reply → Frame
  | .ok v => .reply v
  | .error e => .failed (some e)

/-- What goes over a connection: a frame that was read, a reply, or a state of a stream. -/
inductive Traffic where
  | read (frame : List UInt8)
  | sent (frame : Frame)

/-- A connection: the bytes it has not read, whether the client has closed its
end behind them, the service, the calls made, and the traffic so far. -/
structure Connection where
  /-- The bytes that are not read yet. -/
  input : List UInt8
  /-- Whether there is an end behind them. -/
  closed : Bool
  /-- The service. -/
  service : Service
  /-- How often `dispatch` was called. -/
  calls : ℕ := 0
  /-- The frames that were read and sent. -/
  trace : List Traffic := []

/-- A program of a connection. -/
abbrev Session (α : Type) := EStateM Failure Connection α

/-- The error of a read that times out. -/
def readTimedOut : Failure := .message "Resource temporarily unavailable (os error 11)"

/-- The bytes up to the first NUL, and no more than a number of them. -/
def readUntil (limit : ℕ) (input : List UInt8) : List UInt8 :=
  let taken := input.take limit
  taken.takeWhile (· ≠ 0) ++ (taken.dropWhile (· ≠ 0)).take 1

/-- `read_frame`. A frame that the client has not ended, on a connection that it has not
closed, makes the read wait and time out after five seconds. Otherwise the bytes up to
the zero are consumed, one more than the limit at most, and judged. -/
def readFrame (max : ℕ) : Session (Option (List UInt8)) := do
  let c ← get
  let bytes := readUntil (max + 1) c.input
  if c.closed = false ∧ bytes.length ≤ max ∧ bytes.getLast? ≠ some 0 then throw readTimedOut
  else do
    set { c with input := c.input.drop bytes.length }
    if bytes = [] then pure none
    else if bytes.length ≤ max then
      if bytes.getLast? = some 0 then pure (some bytes.dropLast)
      else throw (.message "unterminated message")
    else throw (.message "message exceeds size limit")

/-- `send`. -/
def send (frame : Frame) : Session Unit :=
  modify fun c => { c with trace := c.trace ++ [.sent frame] }

/-! ### Serving a client -/

/-- An object has a field twice. -/
def Json.repeats : Json → Bool
  | .obj fields => ¬(fields.map Prod.fst).Nodup
  | _ => false

/-- A `Request`. Only the method has to be there; unknown fields are refused, and fields
that occur twice. -/
def Json.asRequest (v : Json) : Option Request := do
  let fields ← v.fields ["method", "parameters", "more", "oneway"] true
  if v.repeats then none
  else return {
    method := ← field fields "method" Json.asString
    parameters := ← field fields "parameters" some (some .null)
    more := ← field fields "more" Json.asBool false
    oneway := ← field fields "oneway" Json.asBool false }

/-- What a connection depends on: the parser of JSON texts (with the fields of an
object as they stand in the text), the authority of its socket, what the call
with a number meets and what other threads have done to the service before it,
and how often the loop of a stream finds `STOP` unset before it finds it set.  A
stream that is never stopped sends, up to any of its states, what one with a
number does. -/
structure Host where
  /-- The parser of texts. -/
  json : List UInt8 → Option Json
  /-- The authority of the socket. -/
  admin : Bool
  /-- What a call meets. -/
  env : ℕ → Environment
  /-- What was done to the service before it. -/
  others : ℕ → Service → Service
  /-- How often the loop of a stream finds `STOP` unset. -/
  untilStop : ℕ

/-- `serde_json::from_slice::<Request>`. -/
def Host.parse (h : Host) (bytes : List UInt8) : Option Request :=
  (h.json bytes).bind Json.asRequest

/-- A call of `dispatch`. Other threads have acted on the service since the last call,
and the call meets an environment of its own: both depend on its number. An error leaves
what the method had done to the service. -/
def Host.call (h : Host) (request : Request) (admin : Bool) : Session (Except Failure Reply) := do
  let c ← get
  match dispatch (h.env c.calls) request admin (h.others c.calls c.service) with
  | .ok reply service => do
      set { c with service := service, calls := c.calls + 1 }
      pure (.ok reply)
  | .error e service => do
      set { c with service := service, calls := c.calls + 1 }
      pure (.error e)

/-- The request that `Watch` makes for each state. -/
def snapshotRequest : Request where
  method := interface ++ ".Snapshot"
  parameters := .obj []

/-- The stream of `Watch`: one state for each time that `STOP` is found unset. -/
def Host.stream (h : Host) : ℕ → Session Unit
  | 0 => pure ()
  | n + 1 => do
      match ← h.call snapshotRequest false with
      | .ok state => send (.continues state)
      | .error e => throw e
      h.stream n

/-- The request for a stream that a frame is. -/
def Host.watch (h : Host) (bytes : List UInt8) : Option Request :=
  (h.parse bytes).filter fun r => r.method = interface ++ ".Watch" ∧ r.more ∧ !r.oneway

/-- The reply to a frame. -/
def Host.answer (h : Host) (bytes : List UInt8) : Session Frame :=
  match h.parse bytes with
  | none => pure (.failed none)
  | some r => do
      match ← h.call r h.admin with
      | .ok v => pure (.reply v)
      | .error e => pure (.failed (some e))

/-- The loop of `serve_client`. A frame is read; a request for a stream is answered by
the stream, and the connection ends with it; any other frame has one reply. The
parameters of the former are checked outside the part that makes replies of errors. -/
def Host.serve (h : Host) : ℕ → Session Unit
  | 0 => pure ()
  | n + 1 => do
      match ← readFrame maxRequest with
      | none => pure ()
      | some bytes => do
          modify fun c => { c with trace := c.trace ++ [.read bytes] }
          match h.watch bytes with
          | some r => do
              let _ ← ofExcept (params Json.asEmpty r.parameters)
              h.stream h.untilStop
          | none => do
              let response ← h.answer bytes
              send response
              h.serve n

/-- `serve_client`. -/
def Host.serveClient (h : Host) : Session Unit := h.serve maxFrames

/-! ### What a client may expect -/

/-- The parameters of a request for a stream are accepted. -/
def Request.watchable (r : Request) : Prop := params Json.asEmpty r.parameters = .ok ()

/-- A frame is a request for a stream, and is accepted. -/
def Host.streams (h : Host) (bytes : List UInt8) : Prop :=
  ∃ r, h.watch bytes = some r ∧ r.watchable

/-- The reply to a frame that starts no stream, after some calls have been made
and have left the service in some state: an error if the frame is no request, and
else what the next call of `dispatch` returns.  With it, the number of calls and
the service behind it. -/
def Host.reply (h : Host) (calls : ℕ) (service : Service) (bytes : List UInt8) :
    Frame × ℕ × Service :=
  match h.parse bytes with
  | none => (.failed none, calls, service)
  | some r =>
      (Frame.of ((h.others calls service).outcome (h.env calls) r h.admin), calls + 1,
        (h.others calls service).after (h.env calls) r h.admin)

/-- The frames of a stream: for each time that `STOP` is found unset, the answer
of `dispatch` to a call of `Snapshot`, after what other threads have done by
then. -/
inductive Host.Streamed (h : Host) : ℕ → ℕ → Service → List Frame → Prop where
  | stop (calls : ℕ) (service : Service) : h.Streamed 0 calls service []
  | state {n calls : ℕ} {service service' : Service} {state : Reply} {frames : List Frame}
      (hcall : dispatch (h.env calls) snapshotRequest false (h.others calls service) =
        .ok state service')
      (hrest : h.Streamed n (calls + 1) service' frames) :
      h.Streamed (n + 1) calls service (.continues state :: frames)

/-- Each frame is read and has its one reply before the next one is read, until
one of them starts a stream, which sends at least one state and goes on until
`STOP`. -/
inductive Host.Answered (h : Host) :
    ℕ → Service → List (List UInt8) → List Traffic → Prop where
  | nil (calls : ℕ) (service : Service) : h.Answered calls service [] []
  | reply {calls : ℕ} {service : Service} {bytes : List UInt8} {frames : List (List UInt8)}
      {trace : List Traffic} (hstreams : ¬h.streams bytes)
      (hrest : h.Answered (h.reply calls service bytes).2.1 (h.reply calls service bytes).2.2
        frames trace) :
      h.Answered calls service (bytes :: frames)
        (.read bytes :: .sent (h.reply calls service bytes).1 :: trace)
  | stream {calls : ℕ} {service : Service} {bytes : List UInt8} {frames : List (List UInt8)}
      {states : List Frame} {trace : List Traffic} (hstreams : h.streams bytes)
      (hstates : h.Streamed h.untilStop calls service states) (hsome : states ≠ [])
      (htrace : trace = states.map .sent) :
      h.Answered calls service (bytes :: frames) (.read bytes :: trace)

/-- A client that sends some frames has its replies, and the connection does not
fail but for a read that times out behind them. -/
def Host.Serves (h : Host) (frames : List (List UInt8)) (closed : Bool) (service : Service) :
    Prop :=
  Ensures h.serveClient { input := frames.flatMap (· ++ [0]), closed := closed, service := service }
    (fun _ c => h.Answered 0 service frames c.trace)
    (fun e c => h.Answered 0 service frames c.trace ∧ e = readTimedOut ∧ closed = false)

/-- The first request for a stream, if there is one, is accepted, and `STOP` is
not set yet when its stream starts. -/
def Host.Accepts (h : Host) (frames : List (List UInt8)) : Prop :=
  ∀ r ∈ frames.findSome? h.watch, r.watchable ∧ 0 < h.untilStop

/-! ### Reading a frame -/

/-- A frame is read up to its NUL, and not further. -/
theorem readUntil_frame {frame rest : List UInt8} (hframe : 0 ∉ frame) {limit : ℕ}
    (hlimit : frame.length < limit) :
    readUntil limit (frame ++ 0 :: rest) = frame ++ [0] := by
  have htake : (frame ++ 0 :: rest).take limit =
      frame ++ 0 :: rest.take (limit - frame.length - 1) := by
    rw [List.take_append, List.take_of_length_le hlimit.le,
      List.take_cons (by omega : 0 < limit - frame.length)]
  have hall : ∀ b ∈ frame, decide (b ≠ 0) = true := fun b hb =>
    decide_eq_true fun h => hframe (h ▸ hb)
  rw [readUntil, htake, List.takeWhile_append_of_pos hall, List.dropWhile_append_of_pos hall]
  simp

/-- What reading a frame comes to. It ends at a NUL, at the limit, or at the end of what
the client has sent; in the last case it waits until the time limit unless the client
has closed. -/
theorem readFrame_eq (max : ℕ) (c : Connection) :
    readFrame max c =
      let bytes := readUntil (max + 1) c.input
      let c' := { c with input := c.input.drop bytes.length }
      if c.closed = false ∧ bytes.length ≤ max ∧ bytes.getLast? ≠ some 0 then
        .error readTimedOut c
      else if bytes = [] then .ok none c'
      else if bytes.length ≤ max then
        if bytes.getLast? = some 0 then .ok (some bytes.dropLast) c'
        else .error (.message "unterminated message") c'
      else .error (.message "message exceeds size limit") c' := by
  have hget : (get : Session Connection) c = .ok c c := rfl
  rw [readFrame, bind_of_ok hget]
  dsimp only
  split_ifs <;> rfl

/-- **A frame that is complete is read as it was sent.** The delimiter is consumed with
it, and what is behind it is left for the next read. -/
theorem readFrame_frame {c : Connection} {frame rest : List UInt8} (hframe : 0 ∉ frame)
    {max : ℕ} (hmax : frame.length + 1 ≤ max) (hinput : c.input = frame ++ 0 :: rest) :
    readFrame max c = .ok (some frame) { c with input := rest } := by
  have hbytes : readUntil (max + 1) c.input = frame ++ [0] := by
    rw [hinput]
    exact readUntil_frame hframe (by omega)
  have hdrop : c.input.drop (frame ++ [0]).length = rest := by
    have hsplit : frame ++ 0 :: rest = frame ++ [0] ++ rest := List.append_cons ..
    rw [hinput, hsplit]
    exact List.drop_left
  have hlen : (frame ++ [0]).length ≤ max := by
    rw [List.length_append, List.length_singleton]
    exact hmax
  rw [readFrame_eq, hbytes]
  dsimp only
  rw [if_neg (by simp), if_neg (by simp), if_pos hlen, if_pos (by simp), hdrop,
    List.dropLast_concat]

/-- Behind the last frame a connection ends, or its read times out. -/
theorem readFrame_nil {c : Connection} {max : ℕ} (hinput : c.input = []) :
    readFrame max c = if c.closed then .ok none c else .error readTimedOut c := by
  have hbytes : readUntil (max + 1) c.input = [] := by
    rw [hinput]
    rfl
  have hrest : { c with input := c.input.drop 0 } = c := rfl
  rw [readFrame_eq, hbytes]
  cases hclosed : c.closed <;> simp [← hclosed]

/-! ### Replies -/

/-- What a call of `dispatch` comes to. -/
theorem Host.call_eq (h : Host) (request : Request) (admin : Bool) (c : Connection) :
    h.call request admin c =
      .ok ((h.others c.calls c.service).outcome (h.env c.calls) request admin)
        { c with
          service := (h.others c.calls c.service).after (h.env c.calls) request admin
          calls := c.calls + 1 } := by
  have hget : (get : Session Connection) c = .ok c c := rfl
  rw [Host.call, bind_of_ok hget, Service.outcome, Service.after]
  cases dispatch (h.env c.calls) request admin (h.others c.calls c.service) <;> rfl

/-- Whether the answer to `Snapshot` is stale. -/
def Snapshot.isStale (s : Snapshot) (now : ℕ) : Bool :=
  !s.connected || (s.telemetry.map fun t => now - t.monotonicMs).all fun age => age > 3500

/-- A state is always at hand. -/
theorem dispatch_snapshot (env : Environment) (admin : Bool) (s : Service) :
    dispatch env snapshotRequest admin s =
      .ok (.snapshot s.shared (s.shared.telemetry.map fun t => env.monotonicMs - t.monotonicMs)
        (s.shared.isStale env.monotonicMs)) s := rfl

/-- A stream sends the states that are due, and does not fail: one for each turn until
`STOP` is seen, each of them what `Snapshot` answers at that moment. -/
theorem Host.stream_spec (h : Host) (n : ℕ) (c : Connection) :
    Ensures (h.stream n) c
      (fun _ c' => ∃ states, c'.trace = c.trace ++ states.map .sent ∧
        h.Streamed n c.calls c.service states)
      (fun _ _ => False) := by
  induction n generalizing c with
  | zero => exact ⟨[], (List.append_nil _).symm, .stop c.calls c.service⟩
  | succ n ih =>
      have hcall := dispatch_snapshot (h.env c.calls) false (h.others c.calls c.service)
      refine ensures_bind (ensures_of_ok (h.call_eq snapshotRequest false c) ?_)
      rw [Service.outcome, Service.after, hcall]
      refine ensures_bind (ensures_modify ((ih _).mono ?_ fun _ _ => False.elim))
      rintro - c' ⟨states, htrace, hstates⟩
      refine ⟨_ :: states, htrace.trans ?_, .state hcall hstates⟩
      rw [List.map_cons, List.append_assoc]
      rfl

/-- As many states are sent as `STOP` is found unset. -/
theorem Host.Streamed.length_eq {h : Host} {n calls : ℕ} {service : Service}
    {states : List Frame} (hstates : h.Streamed n calls service states) : states.length = n := by
  induction hstates with
  | stop => rfl
  | state _ _ ih => rw [List.length_cons, ih]

/-- The reply to a frame that is a request. -/
theorem Host.reply_of_parse (h : Host) {calls : ℕ} {service : Service} {bytes : List UInt8}
    {r : Request} (hparse : h.parse bytes = some r) :
    h.reply calls service bytes =
      (Frame.of ((h.others calls service).outcome (h.env calls) r h.admin), calls + 1,
        (h.others calls service).after (h.env calls) r h.admin) := by
  unfold Host.reply
  rw [hparse]

/-- A frame that starts no stream has its reply. -/
theorem Host.answer_eq (h : Host) (bytes : List UInt8) (c : Connection) :
    h.answer bytes c =
      .ok (h.reply c.calls c.service bytes).1
        { c with
          service := (h.reply c.calls c.service bytes).2.2
          calls := (h.reply c.calls c.service bytes).2.1 } := by
  unfold Host.answer Host.reply
  cases h.parse bytes with
  | none => rfl
  | some r =>
      dsimp only
      rw [bind_of_ok (h.call_eq r h.admin c)]
      cases (h.others c.calls c.service).outcome (h.env c.calls) r h.admin <;> rfl

/-- Behind a reply go the replies to the frames that follow. -/
theorem Host.answered_reply_iff (h : Host) (calls : ℕ) (service : Service) {bytes : List UInt8}
    (frames : List (List UInt8)) (trace : List Traffic) (hstreams : ¬h.streams bytes) :
    h.Answered calls service (bytes :: frames)
        (.read bytes :: .sent (h.reply calls service bytes).1 :: trace) ↔
      h.Answered (h.reply calls service bytes).2.1 (h.reply calls service bytes).2.2 frames
        trace := by
  refine ⟨fun hanswered => ?_, .reply hstreams⟩
  cases hanswered with
  | reply _ hrest => exact hrest
  | stream hyes => exact absurd hyes hstreams

/-! ### The connection -/

/-- `serde_json` refuses parameters in one way only. -/
theorem params_error {α : Type} {read : Json → Option α} {v : Json} {e : Failure}
    (h : params read v = .error e) : e = .parameters := by
  unfold params at h
  dsimp only at h
  split at h
  · cases h
  · exact (Except.error.inj h).symm

/-- A stream is what is due if and only if it sends a state. -/
theorem Host.answered_stream_iff {h : Host} {calls : ℕ} {service : Service} {bytes : List UInt8}
    {frames : List (List UInt8)} {states : List Frame} (hstreams : h.streams bytes)
    (hstates : h.Streamed h.untilStop calls service states) :
    h.Answered calls service (bytes :: frames) (.read bytes :: states.map .sent) ↔
      0 < h.untilStop := by
  rw [← hstates.length_eq, List.length_pos_iff]
  refine ⟨fun hanswered => ?_, fun hsome => .stream hstreams hstates hsome rfl⟩
  rintro rfl
  cases hanswered with
  | stream _ _ hsome htrace => exact hsome (List.map_eq_nil_iff.1 htrace.symm)

/-- **What a connection does with complete frames**: it returns, or the read
behind them times out, with every reply sent, exactly if the first request for a
stream is accepted.  Otherwise it drops the connection at this request, or ends
its stream with no state. -/
theorem Host.serve_spec (h : Host) {frames : List (List UInt8)} {n : ℕ}
    (hlength : frames.length ≤ n)
    (hframes : ∀ f ∈ frames, 0 ∉ f ∧ f.length + 1 ≤ maxRequest) (c : Connection)
    (hinput : c.input = frames.flatMap (· ++ [0])) :
    Ensures (h.serve n) c
      (fun _ c' => ∃ trace, c'.trace = c.trace ++ trace ∧
        (h.Answered c.calls c.service frames trace ↔ h.Accepts frames))
      (fun e c' => ∃ trace, c'.trace = c.trace ++ trace ∧
        (h.Answered c.calls c.service frames trace ∧ e = readTimedOut ∧ c.closed = false ↔
          h.Accepts frames)) := by
  induction frames generalizing n c with
  | nil =>
      have hnone : h.Accepts [] := fun r hr => by cases hr
      have hnil : h.Answered c.calls c.service [] [] := .nil c.calls c.service
      have htrace : c.trace = c.trace ++ [] := (List.append_nil _).symm
      cases n with
      | zero => exact ⟨[], htrace, iff_of_true hnil hnone⟩
      | succ n =>
          have hread : readFrame maxRequest c = _ := readFrame_nil hinput
          cases hclosed : c.closed with
          | false =>
              rw [hclosed] at hread
              exact ensures_bind (ensures_of_error hread
                ⟨[], htrace, iff_of_true ⟨hnil, rfl, rfl⟩ hnone⟩)
          | true =>
              rw [hclosed] at hread
              exact ensures_bind (ensures_of_ok hread ⟨[], htrace, iff_of_true hnil hnone⟩)
  | cons frame frames ih =>
      obtain ⟨n, rfl⟩ : ∃ m, n = m + 1 :=
        ⟨n - 1, by simp only [List.length_cons] at hlength; omega⟩
      obtain ⟨hnul, hsize⟩ := hframes frame List.mem_cons_self
      rw [List.flatMap_cons, List.append_assoc] at hinput
      refine ensures_bind (ensures_of_ok (readFrame_frame hnul hsize hinput)
        (ensures_bind (ensures_modify ?_)))
      -- a request to watch takes the connection, any other is answered
      cases hwatch : h.watch frame with
      | some r =>
          have haccepts : h.Accepts (frame :: frames) ↔ r.watchable ∧ 0 < h.untilStop := by
            simp [Host.Accepts, hwatch]
          refine ensures_bind (ensures_ofExcept ?_ ?_)
          · -- the stream starts
            intro u hu
            have hok : r.watchable := hu
            refine (h.stream_spec h.untilStop _).mono ?_ fun _ _ => False.elim
            rintro - c' ⟨states, htrace, hstates⟩
            refine ⟨.read frame :: states.map .sent, ?_, ?_⟩
            · rw [htrace, List.append_assoc]
              rfl
            · rw [haccepts, and_iff_right hok]
              exact h.answered_stream_iff ⟨r, hwatch, hok⟩ hstates
          · -- its parameters are refused
            intro e he
            have hnot : ¬r.watchable := fun hok => by
              rw [Request.watchable, he] at hok
              cases hok
            refine ⟨[.read frame], rfl, iff_of_false ?_ fun hall => hnot (haccepts.1 hall).1⟩
            rintro ⟨-, htimeout, -⟩
            rw [params_error he] at htimeout
            cases htimeout
      | none =>
          have haccepts : h.Accepts (frame :: frames) ↔ h.Accepts frames := by
            simp [Host.Accepts, hwatch]
          have hstreams : ¬h.streams frame := by
            rintro ⟨r, hr, -⟩
            rw [hwatch] at hr
            cases hr
          refine ensures_bind (ensures_of_ok (h.answer_eq frame _)
            (ensures_bind (ensures_modify ?_)))
          have hreply (trace : List Traffic) :=
            h.answered_reply_iff c.calls c.service frames trace hstreams
          refine (ih (by simpa using hlength)
            (fun f hf => hframes f (List.mem_cons_of_mem frame hf)) _ rfl).mono ?_ ?_
          · rintro - c' ⟨trace, htrace, hanswered⟩
            refine ⟨.read frame :: .sent _ :: trace, by simpa using htrace, ?_⟩
            exact (hreply trace).trans (hanswered.trans haccepts.symm)
          · rintro e c' ⟨trace, htrace, hanswered⟩
            refine ⟨.read frame :: .sent _ :: trace, by simpa using htrace, ?_⟩
            exact (and_congr_left' (hreply trace)).trans (hanswered.trans haccepts.symm)

/-- What the connection of a client that sends up to 256 complete frames comes to, from
its first call on. The trace is answered as claimed if and only if the frames are
accepted, whether the connection ends in the end of the input or in the time limit. -/
theorem Host.serveClient_spec (h : Host) (frames : List (List UInt8))
    (hlength : frames.length ≤ maxFrames)
    (hframes : ∀ f ∈ frames, 0 ∉ f ∧ f.length + 1 ≤ maxRequest) (closed : Bool)
    (service : Service) :
    Ensures h.serveClient
      { input := frames.flatMap (· ++ [0]), closed := closed, service := service }
      (fun _ c => h.Answered 0 service frames c.trace ↔ h.Accepts frames)
      (fun e c => h.Answered 0 service frames c.trace ∧ e = readTimedOut ∧ closed = false ↔
        h.Accepts frames) := by
  refine (h.serve_spec hlength hframes _ rfl).mono ?_ ?_
  · rintro - c ⟨trace, htrace, hanswered⟩
    rw [htrace]
    exact hanswered
  · rintro e c ⟨trace, htrace, hanswered⟩
    rw [htrace]
    exact hanswered

/-- **Every frame has its reply exactly if the first request for a stream is
accepted.**  A client sends up to 256 complete frames: each of them is read and
has one reply, an error if it is no request and else what its own call of
`dispatch` returns, before the next one is read, until a request starts a stream;
the stream sends what its calls of `Snapshot` return, at least once and until
`STOP`; and the connection ends without an error but for a read that times out,
if and only if the first frame that is a `Watch` request with `more` and without
`oneway` has empty parameters and finds `STOP` unset. -/
theorem frames_are_answered_iff (h : Host) (frames : List (List UInt8))
    (hlength : frames.length ≤ maxFrames)
    (hframes : ∀ f ∈ frames, 0 ∉ f ∧ f.length + 1 ≤ maxRequest) (closed : Bool)
    (service : Service) : h.Serves frames closed service ↔ h.Accepts frames :=
  ensures_iff (h.serveClient_spec frames hlength hframes closed service)

/-- The bytes of a text in ASCII. -/
def asciiBytes (text : String) : List UInt8 := text.toList.map fun c => UInt8.ofNat c.toNat

/-- A host whose parser knows some texts. -/
def textHost (texts : List (String × Json)) : Host where
  json bytes := (texts.find? fun t => asciiBytes t.1 = bytes).map Prod.snd
  admin := false
  env _ := {}
  others _ s := s
  untilStop := 1

/-- A request for a stream, with some parameters. -/
def watchJson (parameters : Json) : Json :=
  .obj [("method", .str (interface ++ ".Watch")), ("more", .bool true), ("parameters", parameters)]

/-- A text of such a request. -/
def watchText (parameters : String) : String :=
  "\x7b\"method\":\"io.github.railwatch.Monitor1.Watch\",\"more\":true," ++
    "\"parameters\":" ++ parameters ++ "\x7d"

/-- A request for a stream is one whatever its parameters are: they are looked at later. -/
theorem watch_of_watchJson {h : Host} {bytes : List UInt8} {parameters : Json}
    (hjson : h.json bytes = some (watchJson parameters)) :
    h.watch bytes =
      some { method := interface ++ ".Watch", parameters := parameters, more := true } := by
  have hrequest : (watchJson parameters).asRequest =
      some { method := interface ++ ".Watch", parameters := parameters, more := true } := by
    simp [watchJson, Json.asRequest, Json.fields, Json.repeats, field, Json.asString, Json.asBool,
      List.lookup]
  rw [Host.watch, Host.parse, hjson, Option.bind_some, hrequest]
  simp

/-- A text that is no request, a request, and a request for a stream, whose first state
is sent before `STOP` is seen. -/
theorem three_frames_are_answered :
    let policy := "\x7b\"method\":\"io.github.railwatch.Monitor1.Policy\"\x7d"
    let watch := watchText "\x7b\x7d"
    let h := textHost [(policy, .obj [("method", .str (interface ++ ".Policy"))]),
      (watch, watchJson (.obj []))]
    h.Serves [asciiBytes "?", asciiBytes policy, asciiBytes watch] true {} := by
  intro policy watch h
  refine (frames_are_answered_iff h _ (by decide) (by decide +kernel) true {}).2 ?_
  have hother : asciiBytes policy ≠ asciiBytes "?" ∧ asciiBytes watch ≠ asciiBytes "?" ∧
      asciiBytes policy ≠ asciiBytes watch := by decide +kernel
  have hnone : h.watch (asciiBytes "?") = none := by
    simp [Host.watch, Host.parse, h, textHost, hother]
  have hpolicy : h.watch (asciiBytes policy) = none := by
    simp [Host.watch, Host.parse, h, textHost, Json.asRequest, Json.fields, Json.repeats, field,
      Json.asString, List.lookup]
  have hjson : h.json (asciiBytes watch) = some (watchJson (.obj [])) := by
    simp [h, textHost, hother]
  intro r hr
  rw [List.findSome?_cons, hnone, List.findSome?_cons, hpolicy, List.findSome?_cons,
    watch_of_watchJson hjson] at hr
  cases hr
  exact ⟨rfl, Nat.one_pos⟩

/-- **The connection is dropped**: a request for a stream with a parameter is read
and not answered. -/
theorem watch_with_parameters_is_not_answered :
    let watch := watchText "\x7b\"x\":1\x7d"
    let h := textHost [(watch, watchJson (.obj [("x", .int 1)]))]
    ¬h.Serves [asciiBytes watch] true {} := by
  intro watch h hserves
  have hjson : h.json (asciiBytes watch) = some (watchJson (.obj [("x", .int 1)])) := by
    simp [h, textHost]
  have hwatch := watch_of_watchJson hjson
  have haccepts := (ensures_iff (h.serveClient_spec [asciiBytes watch] (by decide)
    (by decide +kernel) true {})).1 hserves
  obtain ⟨hwatchable, -⟩ := haccepts _ (by rw [List.findSome?_cons, hwatch]; rfl)
  cases hwatchable

end Railwatch
