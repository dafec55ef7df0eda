/-
# The stream for the desktop panel

`src/plugin.rs`: `stream` keeps a connection to the daemon, publishes a line for each
snapshot, asks for today's energy and the incidents every fifteen seconds, and connects
again when the connection is lost.

What a connection meets is an input: its frames, the clocks, the replies to the requests
and whether a line can be written.  An error is told by its text and by whether there is a
broken pipe in its chain.  The time and the connection of a history are kept with its
line; they are not part of it.

`turn_ensures` and `Stream.step_does` say what one turn and one step do.
-/

import Railwatch.General.Transition
import Railwatch.General.Effects
import Railwatch.Ipc.Requests

namespace Railwatch

open Effects

/-! ### Values -/

/-- `Value::get`. -/
def Json.get (v : Json) (key : String) : Option Json :=
  match v with
  | .obj fields => fields.lookup key
  | _ => none

/-- `Value::index`. -/
def Json.at (v : Json) (key : String) : Json := (v.get key).getD .null

/-- The assignment to a field of an object. -/
def Json.set (v : Json) (key : String) (value : Json) : Json :=
  match v with
  | .obj fields =>
      .obj (if (fields.lookup key).isSome then
        fields.map fun f => if f.1 = key then (key, value) else f
      else fields ++ [(key, value)])
  | _ => v

/-- Replacing a field's value changes what is found under its key, and nothing else. An
object without the key is left as it is; `Json.set` then adds the field at the end. -/
theorem lookup_map_replace (fields : List (String × Json)) (key key' : String) (value : Json) :
    (fields.map fun f => if f.1 = key then (key, value) else f).lookup key' =
      if key' = key then (fields.lookup key').map fun _ => value else fields.lookup key' := by
  induction fields with
  | nil => simp
  | cons f fields ih =>
      obtain ⟨name, old⟩ := f
      by_cases hname : name = key
      · subst hname
        by_cases hkey : key' = name
        · simp [hkey]
        · simp [List.lookup_cons, beq_false_of_ne hkey, ih, hkey]
      · by_cases hkey : key' = name
        · subst hkey
          simp [hname]
        · simp [List.lookup_cons, hname, beq_false_of_ne hkey, ih]

/-- What is assigned can be read, and nothing else changes. -/
theorem Json.get_set (fields : List (String × Json)) (key key' : String) (value : Json) :
    (Json.set (.obj fields) key value).get key' =
      if key' = key then some value else (Json.obj fields).get key' := by
  show (if (fields.lookup key).isSome then _ else _ : List (String × Json)).lookup key' = _
  split_ifs with hsome hkey hkey
  · subst hkey
    obtain ⟨old, hold⟩ := Option.isSome_iff_exists.1 hsome
    simp [lookup_map_replace, hold]
  · simp [lookup_map_replace, hkey, Json.get]
  · subst hkey
    have hnone : fields.lookup key' = none := Option.not_isSome_iff_eq_none.1 hsome
    simp [List.lookup_append, hnone]
  · simp [List.lookup_append, List.lookup_cons, beq_false_of_ne hkey, Json.get]

namespace Plugin

/-- An error, as `{:#}` shows it. All that `stream` looks at besides is whether a broken
pipe is among its causes. -/
structure StreamError where
  /-- Its text. -/
  text : String
  /-- Whether its cause is `BrokenPipe`. -/
  brokenPipe : Bool := false
  deriving DecidableEq, Repr

/-- When, and in which connection, a history was asked for. The clock is that of the
process, which is never set back. -/
structure Asked where
  /-- The connection. -/
  connection : ℕ
  /-- The time of the clock that the histories go by. -/
  at_ : ℕ
  deriving DecidableEq, Repr

/-- A line of the stream: a snapshot, a history or the error in place of one, or the
error that ends a connection. -/
inductive Event where
  | snapshot (data : Json)
  | history (asked : Asked) (energy incidents : Json)
  | historyError (asked : Asked) (message : String)
  | offline (message : String)

/-- The line itself. -/
def Event.json : Event → Json
  | .snapshot data => .obj [("kind", .str "snapshot"), ("data", data)]
  | .history _ energy incidents =>
      .obj [("kind", .str "history"), ("energy", energy), ("incidents", incidents)]
  | .historyError _ message => .obj [("kind", .str "history_error"), ("message", .str message)]
  | .offline message => .obj [("kind", .str "offline"), ("message", .str message)]

/-- The age of a snapshot, in milliseconds of the monotonic clock. -/
def ageOf (data : Json) (nowMs : ℕ) : Option ℕ :=
  ((((data.at "snapshot").at "telemetry").at "monotonic_ms").asUnsigned 64).map (nowMs - ·)

/-- The snapshot with its age, and stale if that is over 3.5 seconds. -/
def withAge (data : Json) (nowMs : ℕ) : Json :=
  match ageOf data nowMs with
  | none => data
  | some age =>
      let data := data.set "age_ms" (.int age)
      if 3500 < age then data.set "stale" (.bool true) else data

/-- Only an object has an age. -/
theorem isObject_of_ageOf {data : Json} {nowMs age : ℕ} (h : ageOf data nowMs = some age) :
    ∃ fields, data = .obj fields := by
  cases data with
  | obj fields => exact ⟨fields, rfl⟩
  | _ => exact absurd h (by simp [ageOf, Json.at, Json.get, Json.asUnsigned])

/-- What the age changes in a snapshot: `age_ms` is the age now, `stale` becomes true
when that is over 3.5 seconds, and all other fields are as they were sent. A snapshot
that is sent as stale stays so. -/
theorem withAge_get {data : Json} {nowMs age : ℕ} (h : ageOf data nowMs = some age)
    (key : String) :
    (withAge data nowMs).get key =
      if key = "age_ms" then some (.int age)
      else if key = "stale" ∧ 3500 < age then some (.bool true) else data.get key := by
  obtain ⟨fields, rfl⟩ := isObject_of_ageOf h
  obtain ⟨fields', hset⟩ : ∃ fields', (Json.obj fields).set "age_ms" (.int age) = .obj fields' :=
    ⟨_, rfl⟩
  have hage := Json.get_set fields "age_ms" key (.int age)
  unfold withAge
  simp only [h, hset] at hage ⊢
  by_cases hstale : 3500 < age
  · rw [if_pos hstale, Json.get_set, hage]
    split_ifs <;> simp_all
  · rw [if_neg hstale, hage]
    simp [hstale]

/-- A snapshot whose age cannot be told is published as it came. -/
theorem withAge_of_none {data : Json} {nowMs : ℕ} (h : ageOf data nowMs = none) :
    withAge data nowMs = data := by
  unfold withAge
  rw [h]

/-- The device of a snapshot. -/
def deviceOf (data : Json) : Option String := (((data.at "snapshot").at "device").at "id").asString

/-! ### The stream -/

/-- What one turn of `connected` meets: the frame that is read, as the parser returns it;
the monotonic clock; the time that passes before its two readings of the clock; the wall
clock, the start of today, the replies to the requests, and whether its two lines can be
written. -/
structure Turn where
  /-- The frame; none if the daemon has closed the connection. -/
  frame : Except StreamError (Option Json)
  /-- A value in a message. -/
  display : Json → String := fun _ => ""
  /-- The boot clock, from which the age is taken. -/
  nowMs : ℕ
  /-- How long the frame took to come. -/
  waited : ℕ := 0
  /-- How long it took to handle. -/
  thought : ℕ := 0
  /-- The wall clock. -/
  utcMs : ℤ := 0
  /-- When today began. -/
  today : Except StreamError ℤ := .ok 0
  /-- What the daemon answers to other requests. -/
  call : String → Json → Except StreamError Json := fun _ _ => .ok .null
  /-- Whether the line of the snapshot can be written. -/
  snapshot : Except StreamError Unit := .ok ()
  /-- Whether that of the history can. -/
  history : Except StreamError Unit := .ok ()

/-- Where a stream stands: without a connection, with one and the time of its next
history, or at its end. -/
inductive Phase where
  | disconnected
  | connected (nextHistory : ℕ)
  | stopped (result : Except StreamError Unit)

/-- `stream`, with the clock and the number of its connections. What it has written so
far is its output. -/
structure Stream where
  /-- How many snapshots are asked for. -/
  count : Option ℕ
  timezone : String
  /-- Whether it is connected, or has ended. -/
  phase : Phase := .disconnected
  /-- How many there were. -/
  delivered : ℕ := 0
  /-- The lines. -/
  output : List Event := []
  /-- The clock that the histories go by. -/
  clock : ℕ := 0
  /-- The number of its connections. -/
  connections : ℕ := 0

/-- A turn of the loop. -/
abbrev Loop (α : Type) := EStateM StreamError Stream α

/-- `publish`. -/
def publish (event : Event) (written : Except StreamError Unit) : Loop Unit :=
  match written with
  | .error e => throw e
  | .ok () => modify fun s => { s with output := s.output ++ [event] }

/-- Fifteen seconds, in nanoseconds. -/
def historyInterval : ℕ := 15000000000

/-- The requests of a history: today's energy and the last incidents. -/
def historyOf (timezone device : String) (t : Turn) : Except StreamError (Json × Json) := do
  let start ← t.today
  let stop := t.utcMs.tdiv 60000 * 60000 + 60000
  let energy ← t.call "Energy" (.obj [("device_id", .str device), ("from_ms", .int start),
    ("to_ms", .int stop), ("period", .str "day"), ("timezone", .str timezone)])
  let incidents ← t.call "Incidents" (.obj [("limit", .int 10)])
  return (energy, incidents)

/-- The line of a history. -/
def historyLine (asked : Asked) : Except StreamError (Json × Json) → Event
  | .ok (energy, incidents) => .history asked energy incidents
  | .error e => .historyError asked e.text

/-- The snapshot in a frame. The connection fails on a frame that cannot be read, at the
end of the stream, on an error of the daemon and on a reply without parameters; none of
these is a broken pipe. -/
def replyOf (t : Turn) : Except StreamError Json :=
  match t.frame with
  | .error e => .error e
  | .ok none => .error ⟨"railwatchd disconnected", false⟩
  | .ok (some reply) =>
      if (reply.get "error").isSome then .error ⟨"daemon error: " ++ t.display reply, false⟩
      else
        match reply.get "parameters" with
        | none => .error ⟨"missing snapshot", false⟩
        | some data => .ok data

/-- The part of a turn that is due every fifteen seconds. The next one is set from the
clock at which this one starts, and before it is known whether there is a device to ask
about; a failed request is a line of its own and does not end the connection. -/
def historyPart (t : Turn) (data : Json) (nextHistory : ℕ) : Loop Unit := do
  modify fun s => { s with clock := s.clock + t.waited }
  let s ← get
  if nextHistory ≤ s.clock then do
    let asked : Asked := ⟨s.connections, s.clock + t.thought⟩
    set { s with clock := asked.at_, phase := .connected (asked.at_ + historyInterval) }
    match deviceOf data with
    | none => pure ()
    | some device => publish (historyLine asked (historyOf s.timezone device t)) t.history
  else pure ()

/-- One turn of `connected`, and whether it is the last one. The line of the snapshot is
written first and counted only then; the history comes after it, and the limit is looked
at last. -/
def turn (t : Turn) (nextHistory : ℕ) : Loop Bool := do
  let data ← ofExcept (replyOf t)
  let data := withAge data t.nowMs
  publish (.snapshot data) t.snapshot
  modify fun s => { s with delivered := s.delivered + 1 }
  historyPart t data nextHistory
  let s ← get
  pure (s.count.any (· ≤ s.delivered))

/-- What `stream` does with an error of `connected`. A broken pipe ends it quietly,
since nobody reads on. Any other error is published; then a stream with a limit fails
with it, and one without connects again. -/
def Stream.lost (s : Stream) (e : StreamError) (offline : Except StreamError Unit) : Stream :=
  if e.brokenPipe then { s with phase := .stopped (.ok ()) }
  else
    match offline with
    | .error e' => { s with phase := .stopped (.error e') }
    | .ok () =>
        { s with
          output := s.output ++ [.offline e.text]
          phase := if s.count.isSome then .stopped (.error e) else .disconnected }

/-- What may happen: a connection is made or not, or the daemon's next frame comes.
`offline` is whether the line can be written that an error calls for. -/
inductive Op where
  | connect (elapsed : ℕ) (result offline : Except StreamError Unit)
  | turn (t : Turn) (offline : Except StreamError Unit)

/-- One step of a stream: an attempt to connect, which starts a connection whose history
is due at once, or a turn of the connection there is. A stream that has stopped takes no
more steps. -/
def Stream.step (s : Stream) : Op → Stream
  | .connect elapsed result offline =>
      match s.phase with
      | .disconnected =>
          let s := { s with clock := s.clock + elapsed }
          match result with
          | .error e => s.lost e offline
          | .ok () =>
              { s with phase := .connected s.clock, connections := s.connections + 1 }
      | _ => s
  | .turn t offline =>
      match s.phase with
      | .connected nextHistory =>
          match Plugin.turn t nextHistory s with
          | .ok true s => { s with phase := .stopped (.ok ()) }
          | .ok false s => s
          | .error e s => s.lost e offline
      | _ => s

/-- `stream`, at its start. -/
def start (count : Option ℕ) (timezone : String) : Stream :=
  { count := count, timezone := timezone }

/-- A stream after a number of steps. -/
def Stream.run (s : Stream) (ops : List Op) : Stream := Transition.run Stream.step s ops

/-! ### What a step does -/

/-- What a turn leaves behind whose snapshot is published: `rest` is the line of its
history, if there is one. -/
structure Turned (t : Turn) (nextHistory : ℕ) (s s' : Stream) (rest : List Event) : Prop where
  /-- A snapshot has come, and its line is written. -/
  reply : ∃ data, replyOf t = .ok data ∧
    s'.output = s.output ++ .snapshot (withAge data t.nowMs) :: rest ∧
      (rest = [] ∨ (deviceOf (withAge data t.nowMs)).isSome)
  /-- The count that was asked for stays. -/
  count : s'.count = s.count
  /-- The snapshot is counted. -/
  delivered : s'.delivered = s.delivered + 1
  /-- The connection is the same. -/
  connections : s'.connections = s.connections
  /-- A history is asked for if it is due, and then the next one is due in fifteen
  seconds. -/
  history : rest = [] ∧ s'.phase = s.phase ∨ ∃ asked : Asked, asked.connection = s.connections ∧
    nextHistory ≤ asked.at_ ∧ s'.phase = .connected (asked.at_ + historyInterval) ∧
      (rest = [] ∨ ∃ r, rest = [historyLine asked r])

/-- A turn fails before its snapshot is published, or because the line of its history
cannot be written. -/
structure Failed (t : Turn) (nextHistory : ℕ) (s s' : Stream) (e : StreamError) : Prop where
  /-- The reply, the line of the snapshot or that of the history. -/
  reason : replyOf t = .error e ∨ t.snapshot = .error e ∨ t.history = .error e
  /-- Nothing was published, or the snapshot without its history. -/
  state : s' = s ∨ Turned t nextHistory s s' []

/-- What publishing a line does. -/
theorem publish_ensures (event : Event) (written : Except StreamError Unit) (s : Stream) :
    Ensures (publish event written) s
      (fun _ s' => s' = { s with output := s.output ++ [event] })
      (fun e s' => written = .error e ∧ s' = s) := by
  unfold publish
  cases written with
  | error e => exact ensures_throw ⟨rfl, rfl⟩
  | ok _ => exact ensures_modify rfl

/-- **What a turn does.** It ends with a line of the snapshot and perhaps one of the
history, and tells whether the limit is reached; or it fails, and then what it has
written before stays written. -/
theorem turn_ensures (t : Turn) (nextHistory : ℕ) (s : Stream) :
    Ensures (turn t nextHistory) s
      (fun last s' => last = s.count.any (· ≤ s.delivered + 1) ∧
        ∃ rest, Turned t nextHistory s s' rest)
      (fun e s' => Failed t nextHistory s s' e) := by
  unfold turn
  cases hreply : replyOf t with
  | error e => exact ensures_bind (ensures_throw ⟨.inl hreply, .inl rfl⟩)
  | ok data =>
      refine ensures_bind (ensures_pure ?_)
      refine ensures_bind ((publish_ensures _ _ s).mono ?_ ?_)
      · rintro _ s₁ rfl
        refine ensures_bind (ensures_modify (ensures_bind ?_))
        refine ensures_bind (ensures_modify (ensures_bind (ensures_get ?_)))
        dsimp only
        split_ifs with hdue
        · refine ensures_bind (ensures_set ?_)
          cases hdevice : deviceOf (withAge data t.nowMs) with
          | none =>
              refine ensures_pure (ensures_bind (ensures_get (ensures_pure ⟨rfl, [], ?_⟩)))
              exact ⟨⟨data, hreply, rfl, .inl rfl⟩, rfl, rfl, rfl,
                .inr ⟨⟨s.connections, s.clock + t.waited + t.thought⟩, rfl,
                  hdue.trans (Nat.le_add_right ..), rfl, .inl rfl⟩⟩
          | some device =>
              refine (publish_ensures _ _ _).mono ?_ ?_
              · rintro _ s₂ rfl
                refine ensures_bind (ensures_get (ensures_pure ⟨rfl, [historyLine
                  ⟨s.connections, s.clock + t.waited + t.thought⟩
                  (historyOf s.timezone device t)], ?_⟩))
                refine ⟨⟨data, hreply, ?_, .inr ?_⟩, rfl, rfl, rfl, .inr ⟨⟨s.connections,
                  s.clock + t.waited + t.thought⟩, rfl, hdue.trans (Nat.le_add_right ..), rfl,
                  .inr ⟨_, rfl⟩⟩⟩
                · show (s.output ++ [_]) ++ [_] = s.output ++ [_, _]
                  rw [List.append_assoc]
                  rfl
                · rw [hdevice]
                  rfl
              · rintro e s₂ ⟨hwritten, rfl⟩
                refine ⟨.inr (.inr hwritten), .inr ?_⟩
                exact ⟨⟨data, hreply, rfl, .inl rfl⟩, rfl, rfl, rfl, .inr ⟨⟨s.connections,
                  s.clock + t.waited + t.thought⟩, rfl, hdue.trans (Nat.le_add_right ..), rfl,
                  .inl rfl⟩⟩
        · refine ensures_pure (ensures_bind (ensures_get (ensures_pure ⟨rfl, [], ?_⟩)))
          exact ⟨⟨data, hreply, rfl, .inl rfl⟩, rfl, rfl, rfl, .inl ⟨rfl, rfl⟩⟩
      · rintro e s₁ ⟨hwritten, rfl⟩
        exact ⟨.inr (.inl hwritten), .inl rfl⟩

/-- The steps that change a stream: an attempt to connect, which may fail, and a turn of
a connection, which may end it. -/
inductive Stream.Does (s : Stream) : Op → Stream → Prop where
  | connected {elapsed : ℕ} {offline : Except StreamError Unit} (hphase : s.phase = .disconnected) :
      s.Does (.connect elapsed (.ok ()) offline)
        { s with
          clock := s.clock + elapsed
          phase := .connected (s.clock + elapsed)
          connections := s.connections + 1 }
  | refused {elapsed : ℕ} {e : StreamError} {offline : Except StreamError Unit}
      (hphase : s.phase = .disconnected) :
      s.Does (.connect elapsed (.error e) offline)
        (({ s with clock := s.clock + elapsed } : Stream).lost e offline)
  | turned {t : Turn} {offline : Except StreamError Unit} {nextHistory : ℕ} {s' : Stream}
      {rest : List Event} (hphase : s.phase = .connected nextHistory)
      (hturn : Turned t nextHistory s s' rest)
      (hcount : s.count.any (· ≤ s.delivered + 1) = false) : s.Does (.turn t offline) s'
  | last {t : Turn} {offline : Except StreamError Unit} {nextHistory : ℕ} {s' : Stream}
      {rest : List Event} (hphase : s.phase = .connected nextHistory)
      (hturn : Turned t nextHistory s s' rest)
      (hcount : s.count.any (· ≤ s.delivered + 1) = true) :
      s.Does (.turn t offline) { s' with phase := .stopped (.ok ()) }
  | failed {t : Turn} {offline : Except StreamError Unit} {nextHistory : ℕ} {s' : Stream}
      {e : StreamError} (hphase : s.phase = .connected nextHistory)
      (hfailed : Failed t nextHistory s s' e) : s.Does (.turn t offline) (s'.lost e offline)

/-- **What a step does**: nothing, or what is possible. A stream that has stopped has no
step that does anything. -/
theorem Stream.step_does (s : Stream) (op : Op) : s.step op = s ∨ s.Does op (s.step op) := by
  cases op with
  | connect elapsed result offline =>
      cases hphase : s.phase with
      | disconnected =>
          refine .inr ?_
          cases result with
          | error e =>
              simp only [Stream.step, hphase]
              exact .refused hphase
          | ok _ =>
              simp only [Stream.step, hphase]
              exact .connected hphase
      | _ => exact .inl (by simp only [Stream.step, hphase])
  | turn t offline =>
      cases hphase : s.phase with
      | connected nextHistory =>
          refine .inr ?_
          have hturn := turn_ensures t nextHistory s
          simp only [Stream.step, hphase]
          cases hrun : Plugin.turn t nextHistory s with
          | error e s' =>
              rw [Ensures, hrun] at hturn
              exact .failed hphase hturn
          | ok last s' =>
              rw [Ensures, hrun] at hturn
              obtain ⟨hlast, rest, hturned⟩ := hturn
              cases last with
              | true => exact .last hphase hturned hlast.symm
              | false => exact .turned hphase hturned hlast.symm
      | _ => exact .inl (by simp only [Stream.step, hphase])

/-- An invariant of a stream, from what each step does to it. -/
theorem Stream.run_induction {I : Stream → Prop} {s : Stream} (h : I s)
    (hdoes : ∀ s op s', I s → s.Does op s' → I s') (ops : List Op) : I (s.run ops) := by
  refine Transition.run_induction Stream.step h (fun s op hs => ?_) ops
  rcases s.step_does op with heq | hstep
  · rwa [heq]
  · exact hdoes s op _ hs hstep

/-- What the loss of a connection does. A broken pipe ends the stream well, as nobody
reads it any more; otherwise the failure is a line, after which a stream with a count
ends with the error and another one connects again. That line may itself fail. -/
theorem Stream.lost_cases (s : Stream) (e : StreamError) (offline : Except StreamError Unit) :
    e.brokenPipe = true ∧ s.lost e offline = { s with phase := .stopped (.ok ()) } ∨
      e.brokenPipe = false ∧ ((∃ e', offline = .error e' ∧
          s.lost e offline = { s with phase := .stopped (.error e') }) ∨
        s.lost e offline = { s with
          output := s.output ++ [.offline e.text]
          phase := if s.count.isSome then .stopped (.error e) else .disconnected }) := by
  cases hpipe : e.brokenPipe with
  | true => exact .inl ⟨rfl, if_pos hpipe⟩
  | false =>
      refine .inr ⟨rfl, ?_⟩
      unfold Stream.lost
      rw [hpipe, if_neg Bool.false_ne_true]
      cases offline with
      | error e' => exact .inl ⟨e', rfl, rfl⟩
      | ok _ => exact .inr rfl

/-! ### What is published -/

/-- The value of a snapshot's line. -/
def Event.data : Event → Option Json
  | .snapshot data => some data
  | _ => none

/-- When a history's line was asked for. -/
def Event.asked : Event → Option Asked
  | .history asked _ _ => some asked
  | .historyError asked _ => some asked
  | _ => none

/-- The line of an error. -/
def Event.isOffline : Event → Bool
  | .offline _ => true
  | _ => false

/-- The snapshots that have been published. -/
def Stream.published (s : Stream) : List Json := s.output.filterMap Event.data

/-- Whether a stream has ended. -/
def Stream.Running (s : Stream) : Prop := ∀ result, s.phase ≠ .stopped result

/-- The errors that a step can meet. -/
def Op.Fails : Op → StreamError → Prop
  | .connect _ result _, e => result = .error e
  | .turn t _, e => replyOf t = .error e ∨ t.snapshot = .error e ∨ t.history = .error e

/-- Whether the line of its error can be written. -/
def Op.offline : Op → Except StreamError Unit
  | .connect _ _ offline => offline
  | .turn _ offline => offline

/-- The line of a history is no snapshot. -/
@[simp] theorem historyLine_data (asked : Asked) (r : Except StreamError (Json × Json)) :
    (historyLine asked r).data = none := by
  cases r <;> rfl

/-- It knows when it was asked for. -/
@[simp] theorem historyLine_asked (asked : Asked) (r : Except StreamError (Json × Json)) :
    (historyLine asked r).asked = some asked := by
  cases r <;> rfl

/-- And it is not the line of an error that ends a connection. -/
@[simp] theorem historyLine_isOffline (asked : Asked) (r : Except StreamError (Json × Json)) :
    (historyLine asked r).isOffline = false := by
  cases r <;> rfl

/-- Behind its snapshot a turn writes the line of a history, or nothing. -/
theorem Turned.rest_cases {t : Turn} {nextHistory : ℕ} {s s' : Stream} {rest : List Event}
    (h : Turned t nextHistory s s' rest) : rest = [] ∨ ∃ asked r, rest = [historyLine asked r] := by
  obtain ⟨hrest, -⟩ | ⟨asked, -, -, -, hrest | ⟨r, hrest⟩⟩ := h.history
  · exact .inl hrest
  · exact .inl hrest
  · exact .inr ⟨asked, r, hrest⟩

/-- A turn publishes its snapshot once. -/
theorem Turned.published {t : Turn} {nextHistory : ℕ} {s s' : Stream} {rest : List Event}
    (h : Turned t nextHistory s s' rest) :
    ∃ sent, replyOf t = .ok sent ∧ s'.published = s.published ++ [withAge sent t.nowMs] := by
  obtain ⟨sent, hsent, hout, -⟩ := h.reply
  refine ⟨sent, hsent, ?_⟩
  have hrest : rest.filterMap Event.data = [] := by
    obtain rfl | ⟨asked, r, rfl⟩ := h.rest_cases
    · rfl
    · simp
  simp [Stream.published, hout, Event.data, hrest]

/-- A turn has no line of an error. -/
theorem Turned.quiet {t : Turn} {nextHistory : ℕ} {s s' : Stream} {rest : List Event}
    (h : Turned t nextHistory s s' rest) (hs : ∀ line ∈ s.output, line.isOffline = false) :
    ∀ line ∈ s'.output, line.isOffline = false := by
  obtain ⟨sent, -, hout, -⟩ := h.reply
  intro line hline
  rw [hout, List.mem_append, List.mem_cons] at hline
  rcases hline with hline | rfl | hline
  · exact hs line hline
  · rfl
  · obtain rfl | ⟨asked, r, rfl⟩ := h.rest_cases
    · exact absurd hline (by simp)
    · rw [List.mem_singleton.1 hline, historyLine_isOffline]

end Plugin

end Railwatch
