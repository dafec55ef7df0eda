/-
# Calls

`call` of `crates/client/src/lib.rs`, and what the daemon answers to it.

The client sends one frame and reads one.  What `serde_json` writes and reads, the texts of
errors and the values of replies are parameters, and the connection does not fail.
`calls_are_answered` goes all the way: the request that `call` sends is the one that
`dispatch` is given, once, and what `dispatch` returns is what `call` returns.

The protocol limits a request to 64 KiB and a reply to 32 MiB; what is beyond that is
refused by the other side, so both limits are hypotheses of the theorem and named in it.
-/

import Railwatch.Clients.Stream
import Railwatch.Ipc.Clients
import Railwatch.Ipc.Framing

namespace Railwatch

open Buffered Effects

/-! ### The client -/

/-- The frame that `call` sends. -/
def callJson (method : String) (parameters : Json) : Json :=
  .obj [("method", .str (interface ++ "." ++ method)), ("parameters", parameters)]

/-- The request that it is. -/
def callRequest (method : String) (parameters : Json) : Request :=
  { method := interface ++ "." ++ method, parameters := parameters }

/-- The frames that `call` accepts. -/
def maxReply : UInt64 := 32 * 1024 * 1024

/-- What `serde_json` and `anyhow` write: the bytes of a value, its text in a message, and
the texts of errors; and what `serde_json` reads. -/
structure Texts where
  /-- `serde_json::to_writer`. -/
  bytes : Json → List UInt8
  /-- `serde_json::from_slice`. -/
  json : List UInt8 → Option Json
  /-- A value inside of a message. -/
  display : Json → String
  /-- `{:#}` of an error of the connection. -/
  failure : Option Failure → String
  /-- The value of a reply. -/
  reply : Reply → Json

/-- What `call` makes of a reply. -/
def Texts.resultOf (t : Texts) (reply : Json) : Except String Json :=
  match reply.get "error" with
  | some e => .error (t.display e ++ ": " ++ t.display ((reply.at "parameters").at "message"))
  | none =>
      match reply.get "parameters" with
      | some v => .ok v
      | none => .error "missing reply parameters"

/-- `call`, from when the frame is sent. It reads one frame of at most 32 MiB; a
connection that ends first, a frame that is no JSON and a reply with an `error` are
failures of the call. -/
def Texts.receive (t : Texts) (reader : Reader UInt8 Failure) : Except String Json :=
  match (Client.readFrame maxReply reader).1 with
  | .error e => .error (t.failure (some e))
  | .ok none => .error "daemon closed connection"
  | .ok (some bytes) =>
      match t.json bytes with
      | some reply => t.resultOf reply
      | none => .error (t.failure none)

/-! ### The daemon -/

/-- The value that the daemon sends as a frame. -/
def Texts.frame (t : Texts) : Frame → Json
  | .reply v => .obj [("parameters", t.reply v)]
  | .failed reason =>
      .obj [("error", .str (interface ++ ".Failed")),
        ("parameters", .obj [("message", .str (t.failure reason))])]
  | .continues v => .obj [("parameters", t.reply v), ("continues", .bool true)]

/-- The frames of a connection that were sent. -/
def sentFrames (trace : List Traffic) : List Frame :=
  trace.filterMap fun
    | .read _ => none
    | .sent frame => some frame

/-- The bytes that the client of a connection receives. -/
def Texts.sent (t : Texts) (trace : List Traffic) : List UInt8 :=
  (sentFrames trace).foldl (fun stream frame => Client.send t.bytes stream (t.frame frame)) []

/-- What `call` returns for it. -/
def Texts.returned (t : Texts) : Except Failure Reply → Except String Json
  | .ok v => .ok (t.reply v)
  | .error e => .error (t.display (.str (interface ++ ".Failed")) ++ ": " ++
      t.display (.str (t.failure (some e))))

/-! ### One call -/

/-- The daemon reads the request that was made. -/
theorem asRequest_callJson (method : String) (parameters : Json) :
    (callJson method parameters).asRequest = some (callRequest method parameters) := by
  simp [callJson, callRequest, Json.asRequest, Json.fields, Json.repeats, field, Json.asString,
    List.lookup]

/-- The reply of a frame is understood. -/
theorem Texts.resultOf_frame (t : Texts) (r : Except Failure Reply) :
    t.resultOf (t.frame (Frame.of r)) = t.returned r := by
  cases r <;> rfl

/-- A value that can be sent within a limit, and is read as it was sent. The text has no
zero in it, as JSON has none, and the zero behind it counts. -/
structure Texts.Carries (t : Texts) (json : List UInt8 → Option Json) (limit : ℕ) (v : Json) :
    Prop where
  /-- What is written is read back. -/
  read : json (t.bytes v) = some v
  /-- No NUL ends it early. -/
  nul : 0 ∉ t.bytes v
  /-- It fits, with its own NUL. -/
  size : (t.bytes v).length + 1 ≤ limit

/-- A connection over which a call was made: the request has been given to `dispatch` once,
and the client that gets the bytes, in any portions, returns its result. -/
structure Texts.Answered (t : Texts) (h : Host) (request : Request) (service : Service)
    (c : Connection) : Prop where
  /-- `dispatch` was called once for this connection. -/
  once : c.calls = 1
  /-- The service is as that call left it. -/
  changes : c.service = (h.others 0 service).after (h.env 0) request h.admin
  /-- In whatever portions the bytes come, `call` returns what `dispatch` did. -/
  result : ∀ reader : Reader UInt8 Failure, reader.Delivers (t.sent c.trace) →
    t.receive reader = t.returned ((h.others 0 service).outcome (h.env 0) request h.admin)

/-- What a client makes of a single frame. -/
theorem Texts.receive_frame {t : Texts} {r : Except Failure Reply}
    (hcarries : t.Carries t.json maxReply.toNat (t.frame (Frame.of r))) {bytes : List UInt8}
    {reader : Reader UInt8 Failure}
    (hreader : reader.Delivers (t.sent [.read bytes, .sent (Frame.of r)])) :
    t.receive reader = t.returned r := by
  have hsent : t.sent [.read bytes, .sent (Frame.of r)] =
      t.bytes (t.frame (Frame.of r)) ++ [0] ++ [] := by
    rw [List.append_nil]
    rfl
  rw [hsent] at hreader
  obtain ⟨hframe, -⟩ :=
    Client.readFrame_of_message (by decide) hcarries.nul hcarries.size hreader
  unfold Texts.receive
  simp only [hframe, hcarries.read, t.resultOf_frame]

/-- A request of `call` is no request for a stream. -/
theorem watch_of_callJson {h : Host} {bytes : List UInt8} {method : String} {parameters : Json}
    (hparse : h.parse bytes = some (callRequest method parameters)) : h.watch bytes = none := by
  rw [Host.watch, hparse, Option.filter_some, if_neg]
  simp [callRequest]

/-- **A call gets what `dispatch` returns.**  A daemon that reads the request of a call gives
it to `dispatch` once, and nothing else; it changes the service as that does, and `call`
returns the value or the message that comes of it, in whatever portions the reply
arrives.  The request has less than 64 KiB and the reply less than 32 MiB: what is longer
is an error on the side that reads it. -/
theorem calls_are_answered (h : Host) (t : Texts) (method : String) (parameters : Json)
    (closed : Bool) (service : Service)
    (hrequest : t.Carries h.json maxRequest (callJson method parameters))
    (hreply : t.Carries t.json maxReply.toNat (t.frame (Frame.of ((h.others 0 service).outcome
      (h.env 0) (callRequest method parameters) h.admin)))) :
    Ensures h.serveClient
      { input := Client.send t.bytes [] (callJson method parameters)
        closed := closed
        service := service }
      (fun _ c => t.Answered h (callRequest method parameters) service c)
      (fun _ c => t.Answered h (callRequest method parameters) service c) := by
  have hparse : h.parse (t.bytes (callJson method parameters)) =
      some (callRequest method parameters) := by
    rw [Host.parse, hrequest.read]
    exact asRequest_callJson method parameters
  -- the first frame
  refine ensures_bind (ensures_of_ok (readFrame_frame hrequest.nul hrequest.size rfl)
    (ensures_bind (ensures_modify ?_)))
  rw [watch_of_callJson hparse]
  refine ensures_bind (ensures_of_ok (h.answer_eq _ _) (ensures_bind (ensures_modify ?_)))
  rw [h.reply_of_parse hparse]
  -- behind it there is nothing
  have hnil : ∀ c : Connection, c.input = [] → t.Answered h (callRequest method parameters)
      service c → Ensures (h.serve 255) c
        (fun _ c => t.Answered h (callRequest method parameters) service c)
        (fun _ c => t.Answered h (callRequest method parameters) service c) := by
    intro c hinput hanswered
    have hread : readFrame maxRequest c = _ := readFrame_nil hinput
    cases hclosed : c.closed with
    | false =>
        rw [hclosed] at hread
        exact ensures_bind (ensures_of_error hread hanswered)
    | true =>
        rw [hclosed] at hread
        exact ensures_bind (ensures_of_ok hread hanswered)
  refine hnil _ rfl ⟨rfl, rfl, fun reader hreader => ?_⟩
  exact Texts.receive_frame hreply hreader

/-- The text of a call of `Tariffs`. -/
def tariffsCall : String :=
  "\x7b\"method\":\"io.github.railwatch.Monitor1.Tariffs\",\"parameters\":\x7b\x7d\x7d"

/-- The text of its reply, if there are none. -/
def tariffsReply : String := "\x7b\"parameters\":\x7b\"tariffs\":[]\x7d\x7d"

/-- What `serde_json` writes and reads in this call. A value with a method is the
request, the other one is the reply, and no other text occurs on either side. -/
def tariffsTexts : Texts where
  bytes v := asciiBytes (if (v.get "method").isSome then tariffsCall else tariffsReply)
  json bytes :=
    if bytes = asciiBytes tariffsReply then
      some (.obj [("parameters", .obj [("tariffs", .arr [])])])
    else none
  display _ := ""
  failure _ := ""
  reply _ := .obj [("tariffs", .arr [])]

/-- A call of `Tariffs`, when there are none. -/
theorem call_of_tariffs_is_answered :
    let h := textHost [(tariffsCall, callJson "Tariffs" (.obj []))]
    Ensures h.serveClient
      { input := Client.send tariffsTexts.bytes [] (callJson "Tariffs" (.obj []))
        closed := false
        service := {} }
      (fun _ c => tariffsTexts.Answered h (callRequest "Tariffs" (.obj [])) {} c)
      (fun _ c => tariffsTexts.Answered h (callRequest "Tariffs" (.obj [])) {} c) := by
  intro h
  refine calls_are_answered h tariffsTexts "Tariffs" (.obj []) false {} ⟨?_, ?_, ?_⟩ ?_
  · simp [h, textHost, tariffsTexts, callJson, Json.get]
  · decide +kernel
  · decide +kernel
  · obtain ⟨v, hv⟩ : ∃ v, (h.others 0 {}).outcome (h.env 0)
        (callRequest "Tariffs" (.obj [])) h.admin = .ok v := ⟨_, rfl⟩
    have hbytes : tariffsTexts.bytes (tariffsTexts.frame (Frame.of (.ok v))) =
        asciiBytes tariffsReply := by
      simp [tariffsTexts, Texts.frame, Frame.of, Json.get]
    have hsize : (asciiBytes tariffsReply).length + 1 ≤ maxReply.toNat := by decide +kernel
    rw [hv]
    refine ⟨?_, ?_, ?_⟩
    · rw [hbytes]
      simp [tariffsTexts, Texts.frame, Frame.of]
    · rw [hbytes]
      decide +kernel
    · rw [hbytes]
      exact hsize

end Railwatch
