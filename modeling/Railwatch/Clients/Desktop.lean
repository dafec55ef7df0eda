/-
# The desktop application

`clients/gui/src/main.rs`: the window and its connection worker, which are two threads.
Clicks go to the worker through a queue of sixteen, and what the window is to show comes
back through a queue of eight.

The worker polls the daemon, or does what it was asked to, in any order with what happens
to the window.  What the daemon answers and what the clocks show are inputs of its steps.
What the window does with an update is left out, and the texts of its rows with it; a
power is shown as it was sent.

`App.step_does` says what one step does.
-/

import Railwatch.General.Calls
import Railwatch.General.Transition
import Railwatch.Clients.Stream
import Railwatch.History.PriceText

namespace Railwatch

/-! ### Equality of values -/

mutual

/-- `Value::eq`. Objects are compared field by field in the order in which they are
kept, and numbers of different kinds are different, also if their values agree. -/
def Json.eq : Json → Json → Bool
  | .null, .null => true
  | .bool a, .bool b => a == b
  | .int a, .int b => a == b
  | .float a, .float b => a == b
  | .str a, .str b => a == b
  | .arr a, .arr b => Json.eqValues a b
  | .obj a, .obj b => Json.eqFields a b
  | _, _ => false

/-- Equality of arrays. -/
def Json.eqValues : List Json → List Json → Bool
  | [], [] => true
  | a :: as, b :: bs => Json.eq a b && Json.eqValues as bs
  | _, _ => false

/-- Equality of objects, whose fields are in order. -/
def Json.eqFields : List (String × Json) → List (String × Json) → Bool
  | [], [] => true
  | (k, a) :: as, (l, b) :: bs => k == l && Json.eq a b && Json.eqFields as bs
  | _, _ => false

end

mutual

/-- Values that are equal are the same. -/
theorem Json.of_eq (a b : Json) (h : a.eq b = true) : a = b := by
  cases a <;> cases b <;> simp only [Json.eq, Bool.false_eq_true, beq_iff_eq] at h
  · rfl
  · rw [h]
  · rw [h]
  · rw [h]
  · rw [h]
  · next as bs => rw [Json.of_eqValues as bs h]
  · next as bs => rw [Json.of_eqFields as bs h]

/-- The comparison of lists of values finds them equal only if they are. -/
theorem Json.of_eqValues (as bs : List Json) (h : Json.eqValues as bs = true) : as = bs := by
  cases as <;> cases bs <;>
    simp only [Json.eqValues, Bool.false_eq_true, Bool.and_eq_true] at h
  · rfl
  · next a as b bs => rw [Json.of_eq a b h.1, Json.of_eqValues as bs h.2]

/-- And that of fields. -/
theorem Json.of_eqFields (as bs : List (String × Json)) (h : Json.eqFields as bs = true) :
    as = bs := by
  cases as with
  | nil =>
      cases bs with
      | nil => rfl
      | cons b bs => simp [Json.eqFields] at h
  | cons a as =>
      obtain ⟨k, a⟩ := a
      cases bs with
      | nil => simp [Json.eqFields] at h
      | cons b bs =>
          obtain ⟨l, b⟩ := b
          simp only [Json.eqFields, Bool.and_eq_true, beq_iff_eq] at h
          rw [h.1.1, Json.of_eq a b h.1.2, Json.of_eqFields as bs h.2]

end

namespace Desktop

open Calls

/-! ### The worker -/

/-- `Action`: what a user can ask for that takes a call of the daemon. -/
inductive Action where
  | energy (from_ to_ zone : String) (period : ℤ)
  | tariff (price currency effective : String)
  | inspect
  | acknowledge (id : String)
  | evidence (id : String)
  | exportData
  | incidents
  deriving DecidableEq, Repr

/-- The two sockets of the daemon: one for reading, and one that may change something. -/
inductive Socket where
  | monitor
  | control
  deriving DecidableEq, Repr

/-- What the worker asks for: a call of the daemon, the home directory, or a new file in a
directory, whose path is the answer. -/
inductive Request where
  | call (socket : Socket) (method : String) (parameters : Json)
  | home
  | write (dir : String) (content : Json)

/-- What the worker does for an action. -/
abbrev Work (α : Type) := Program Request Json String α

/-- A result that is there already. -/
def given {α : Type} (r : Except String α) : Work α := .done r

/-- `call`. -/
def ask (socket : Socket) (method : String) (parameters : Json) : Work Json :=
  Program.perform (.call socket method parameters)

/-- The periods, as the window numbers them. -/
def periodNames : List String := ["hour", "day", "week", "month", "year"]

/-- `get(p as usize)`: no negative number is an index. -/
def periodName (p : ℤ) : Except String String :=
  match if 0 ≤ p then periodNames[p.toNat]? else none with
  | some name => .ok name
  | none => .error "invalid period"

/-- The last incidents. -/
def lastIncidents : Work Json := ask .monitor "Incidents" (.obj [("limit", .int 50)])

/-- What the worker does for an action: the kind of the answer, and the answer.  How a date
is read is an input. -/
def handle (date : String → Except String ℤ) (device : String) : Action → Work (String × Json)
  | .energy from_ to_ zone period => do
      let from_ ← given (date from_)
      let to_ ← given (date to_)
      let period ← given (periodName period)
      let v ← ask .monitor "Energy" (.obj [("device_id", .str device), ("from_ms", .int from_),
        ("to_ms", .int to_), ("timezone", .str zone), ("period", .str period)])
      pure ("energy", v)
  | .tariff price currency effective => do
      let effective ← given (date effective)
      let price ← given (parsePrice price)
      let _ ← ask .control "SetTariff" (.obj [("tariff", .obj [("effective_at_ms", .int effective),
        ("microcurrency_per_kwh", .int price), ("currency", .str currency)])])
      pure ("Price saved. Recorded energy will use this dated rate.", .null)
  | .inspect => do
      let v ← ask .control "Inspect" (.obj [])
      pure ("inspect", v)
  | .acknowledge id => do
      let _ ← ask .control "Acknowledge" (.obj [("id", .str id)])
      let v ← lastIncidents
      pure ("incidents", v)
  | .incidents => do
      let v ← lastIncidents
      pure ("incidents", v)
  | .evidence id => do
      let v ← ask .monitor "Evidence" (.obj [("id", .str id)])
      pure ("evidence", v)
  | .exportData => do
      let v ← ask .monitor "Snapshot" (.obj [])
      let home ← Program.perform .home
      let path ← Program.perform (.write (home.asString.getD "") v)
      pure ("Exported " ++ path.asString.getD "", .null)

/-- A point of the graph: a power, as it was sent, or the mark of a stale snapshot. The
window scales the powers; the worker only keeps them. -/
inductive Point where
  | stale
  | power (v : Json)

/-- The point of a snapshot. -/
def pointOf (v : Json) : Point :=
  if (v.at "stale").eq (.bool true) then .stale
  else .power (((v.at "snapshot").at "telemetry").at "power_uw")

/-- What tells one sample from the next. -/
def sequenceOf (v : Json) : Json :=
  let telemetry := (v.at "snapshot").at "telemetry"
  .arr [telemetry.at "session_id", telemetry.at "sequence"]

/-- An update of the window; the action of a result is kept with it. In the source an
update is a closure, of which this is what it shows. -/
inductive Update where
  | snapshot (v : Json) (graph : List Point)
  | offline (message : String)
  | energy (v : Json) (elapsed : ℤ)
  | tariffs (v : Json)
  | incidents (v : Json)
  | result (action : Action) (r : Except String (String × Json))

/-- What the worker remembers: when the next poll is due, the graph with its last
sample, and what the last snapshot said of the device. -/
structure Memory where
  /-- The points that are drawn, 180 at most. -/
  graph : List Point := []
  /-- The id of the last device, if there was one. -/
  device : String := ""
  /-- The sequence number of the last point. -/
  lastSeq : Json := .null
  /-- When the next poll is due. -/
  next : ℕ := 0
  /-- The number of polls. -/
  energyTick : ℕ := 0

/-- The graph and its last sample, after another snapshot. -/
def Memory.note (l : Memory) (v : Json) : Memory :=
  let l := { l with device := (Plugin.deviceOf v).getD "" }
  let seq := sequenceOf v
  if seq.eq l.lastSeq then l
  else
    let graph := l.graph ++ [pointOf v]
    { l with graph := if 180 < graph.length then graph.drop 1 else graph, lastSeq := seq }

/-- The calls of a poll, in their order. Only the first one is made in every poll. -/
inductive Poll where
  | snapshot
  | energy
  | tariffs
  | incidents
  deriving DecidableEq, Repr

/-- Where the worker stands: at the top of its loop, in a poll, waiting for an action,
in the calls of one, or about to send an update. -/
inductive Stage where
  | top
  | polling (p : Poll)
  | receiving
  | handling (action : Action) (rest : Work (String × Json))
  | delivering (u : Update) (next : Stage)
  | ended

/-- What a step of the worker meets: the clocks, the time between two readings, the start of
today, and the answer to its request. -/
structure Input where
  /-- `Instant::now`. -/
  instant : ℕ := 0
  /-- The time until it is read again. -/
  thought : ℕ := 0
  /-- `Utc::now`. -/
  nowMs : ℤ := 0
  /-- `start_of_day`. -/
  today : Except String ℤ := .ok 0
  /-- What the daemon answers. -/
  reply : Except String Json := .ok .null

/-- The window, the worker, and the queues between them.  The rest is what has happened:
the clicks that were accepted or refused, the actions that the worker took, the updates
that were delivered, those that the window showed, and the requests that were made. -/
structure App where
  timezone : String
  /-- Whether the window is there. -/
  windowOpen : Bool := true
  /-- `running`, the flag that the worker looks at. -/
  running : Bool := true
  /-- Whether the receiver of the updates is there. -/
  receiver : Bool := true
  /-- The variables of the worker. -/
  memory : Memory := {}
  /-- And where it is in its loop. -/
  stage : Stage := .top
  /-- The queue of clicks. -/
  actions : List Action := []
  /-- The queue of updates. -/
  updates : List Update := []
  /-- All clicks. -/
  clicks : List Action := []
  /-- Those that the queue took. -/
  accepted : List Action := []
  /-- And those that it did not. -/
  refused : List Action := []
  /-- What was shown instead. -/
  notices : List String := []
  /-- The actions that the worker has taken. -/
  taken : List Action := []
  /-- The updates that the queue took. -/
  delivered : List Update := []
  /-- And those that came too late. -/
  lost : List Update := []
  /-- The updates that the window has shown. -/
  shown : List Update := []
  /-- The requests that were made. -/
  requests : List Request := []

/-- What follows a call of a poll: an update if it was answered. -/
def answered (reply : Except String Json) (update : Json → Update) (next : Stage) : Stage :=
  match reply with
  | .ok v => .delivering (update v) next
  | .error _ => next

/-- A call of a poll.  The last three are made with every tenth poll, and once there is a
device. -/
def App.poll (s : App) (i : Input) : Poll → App
  | .snapshot =>
      let memory := match i.reply with
        | .ok v => s.memory.note v
        | .error _ => s.memory
      let update := match i.reply with
        | .ok v => .snapshot v memory.graph
        | .error e => .offline ("Cannot connect to railwatchd: " ++ e)
      let next := if memory.energyTick % 10 = 0 ∧ memory.device ≠ "" then .polling .energy
        else .receiving
      { s with
        memory := { memory with energyTick := memory.energyTick + 1 }
        stage := .delivering update next
        requests := s.requests ++ [.call .monitor "Snapshot" (.obj [])] }
  | .energy =>
      let minute := i.nowMs.tdiv 60000 * 60000
      let start := match i.today with
        | .ok start => start
        | .error _ => minute
      { s with
        stage := answered i.reply (.energy · (max (i.nowMs - start) 1)) (.polling .tariffs)
        requests := s.requests ++ [.call .monitor "Energy" (.obj [
          ("device_id", .str s.memory.device), ("from_ms", .int start),
          ("to_ms", .int (minute + 60000)), ("period", .str "day"),
          ("timezone", .str s.timezone)])] }
  | .tariffs =>
      { s with
        stage := answered i.reply .tariffs (.polling .incidents)
        requests := s.requests ++ [.call .monitor "Tariffs" (.obj [])] }
  | .incidents =>
      { s with
        stage := answered i.reply .incidents .receiving
        requests := s.requests ++ [.call .monitor "Incidents" (.obj [("limit", .int 50)])] }

/-- `deliver`: the worker waits while eight updates are queued, and goes on when nobody will
receive them. -/
def App.deliver (s : App) (u : Update) (next : Stage) : App :=
  if s.receiver = false then { s with lost := s.lost ++ [u], stage := next }
  else if s.updates.length < 8 then
    { s with updates := s.updates ++ [u], delivered := s.delivered ++ [u], stage := next }
  else s

section

variable (date : String → Except String ℤ)

/-- A step of the worker. At the top of its loop it looks at `running`, then polls if
the second is over, and else waits for an action; a poll and an action each consist of
calls, one a step, and end with an update that is sent to the window. -/
def App.work (s : App) (i : Input) : App :=
  match s.stage with
  | .ended => s
  | .top =>
      if s.running = false then { s with stage := .ended }
      else if s.memory.next ≤ i.instant then
        { s with
          memory := { s.memory with next := i.instant + i.thought + 1000000000 }
          stage := .polling .snapshot }
      else { s with stage := .receiving }
  | .polling p => s.poll i p
  | .receiving =>
      match s.actions with
      | [] => { s with stage := .top }
      | a :: rest =>
          { s with
            actions := rest
            taken := s.taken ++ [a]
            stage := .handling a (handle date s.memory.device a) }
  | .handling a (.call r next) =>
      { s with requests := s.requests ++ [r], stage := .handling a (next i.reply) }
  | .handling a (.done r) => { s with stage := .delivering (.result a r) .top }
  | .delivering u next => s.deliver u next

/-! ### The window -/

/-- The notice when the queue is full. -/
def stillProcessing : String := "Still processing earlier requests. Try again shortly."

/-- The notice when the worker has ended. -/
def workerStopped : String := "The connection worker stopped. Reopen the application."

/-- The worker has ended. -/
def Stage.isEnded : Stage → Bool
  | .ended => true
  | _ => false

/-- `queue_action`. -/
def App.click (s : App) (a : Action) : App :=
  let s := { s with clicks := s.clicks ++ [a] }
  if s.stage.isEnded then
    { s with refused := s.refused ++ [a], notices := s.notices ++ [workerStopped] }
  else if s.actions.length < 16 then
    { s with accepted := s.accepted ++ [a], actions := s.actions ++ [a] }
  else { s with refused := s.refused ++ [a], notices := s.notices ++ [stillProcessing] }

/-- What may happen: a click, an update that the window takes, the end of the window, the two
steps with which `main` stops the worker, and a step of the worker. -/
inductive Event where
  | click (a : Action)
  | take
  | close
  | stop
  | dropTimer
  | work (i : Input)

/-- One step. The window sends actions and takes updates for as long as it is open;
afterwards `running` is cleared and its timer, with the receiver, is dropped. The worker
takes its steps in between. -/
def App.step (s : App) : Event → App
  | .click a => if s.windowOpen then s.click a else s
  | .take =>
      match s.updates with
      | u :: rest =>
          if s.windowOpen then { s with updates := rest, shown := s.shown ++ [u] } else s
      | [] => s
  | .close => { s with windowOpen := false }
  | .stop => if s.windowOpen then s else { s with running := false }
  | .dropTimer => if s.running then s else { s with receiver := false, updates := [] }
  | .work i => s.work date i

/-- The application at its start, with the incident that it is to show. -/
def start (timezone : String) (incident : Option String) : App :=
  let actions := (incident.map Action.evidence).toList
  { timezone, actions, clicks := actions, accepted := actions }

/-- The application after a number of steps. -/
def App.run (s : App) (events : List Event) : App := Transition.run (App.step date) s events

/-! ### What a step does -/

/-- What a step makes of the application. Each case says what is needed for it, and what
it leaves alone by leaving it out. -/
inductive App.Does (s : App) : Event → App → Prop where
  | stays (e : Event) : s.Does e s
  | accepts {a : Action} (hopen : s.windowOpen = true) (hroom : s.actions.length < 16) :
      s.Does (.click a)
        { s with
          clicks := s.clicks ++ [a]
          accepted := s.accepted ++ [a]
          actions := s.actions ++ [a] }
  | refuses {a : Action} {notice : String} (hopen : s.windowOpen = true)
      (hnotice : s.stage = .ended ∨ notice = stillProcessing) :
      s.Does (.click a)
        { s with
          clicks := s.clicks ++ [a]
          refused := s.refused ++ [a]
          notices := s.notices ++ [notice] }
  | takes {u : Update} {rest : List Update} (hupdates : s.updates = u :: rest) :
      s.Does .take { s with updates := rest, shown := s.shown ++ [u] }
  | closes : s.Does .close { s with windowOpen := false }
  | stops (hopen : s.windowOpen = false) : s.Does .stop { s with running := false }
  | drops (hrunning : s.running = false) :
      s.Does .dropTimer { s with receiver := false, updates := [] }
  | ends {i : Input} (hstage : s.stage = .top) (hrunning : s.running = false) :
      s.Does (.work i) { s with stage := .ended }
  | begins {i : Input} {next : ℕ} {stage : Stage} (hstage : s.stage = .top)
      (hnext : stage = .polling .snapshot ∨ stage = .receiving) :
      s.Does (.work i) { s with memory := { s.memory with next }, stage }
  | polls {i : Input} {p : Poll} (hstage : s.stage = .polling p) : s.Does (.work i) (s.poll i p)
  | idles {i : Input} (hstage : s.stage = .receiving) : s.Does (.work i) { s with stage := .top }
  | receives {i : Input} {a : Action} {rest : List Action} (hstage : s.stage = .receiving)
      (hactions : s.actions = a :: rest) :
      s.Does (.work i)
        { s with
          actions := rest
          taken := s.taken ++ [a]
          stage := .handling a (handle date s.memory.device a) }
  | asks {i : Input} {a : Action} {r : Request} {next : Except String Json → Work (String × Json)}
      (hstage : s.stage = .handling a (.call r next)) :
      s.Does (.work i)
        { s with requests := s.requests ++ [r], stage := .handling a (next i.reply) }
  | finishes {i : Input} {a : Action} {r : Except String (String × Json)}
      (hstage : s.stage = .handling a (.done r)) :
      s.Does (.work i) { s with stage := .delivering (.result a r) .top }
  | loses {i : Input} {u : Update} {next : Stage} (hstage : s.stage = .delivering u next)
      (hreceiver : s.receiver = false) :
      s.Does (.work i) { s with lost := s.lost ++ [u], stage := next }
  | delivers {i : Input} {u : Update} {next : Stage} (hstage : s.stage = .delivering u next)
      (hreceiver : s.receiver = true) (hroom : s.updates.length < 8) :
      s.Does (.work i)
        { s with
          updates := s.updates ++ [u]
          delivered := s.delivered ++ [u]
          stage := next }

/-- What a step of the worker does, one case for each stage: `Does` has what the step
needs of the state before and what it leaves, so that no invariant has to go through the
code of `work`. -/
theorem App.work_does (s : App) (i : Input) : s.Does date (.work i) (s.work date i) := by
  unfold App.work
  cases hstage : s.stage with
  | ended => exact .stays _
  | top =>
      dsimp only
      split_ifs with hrunning hdue
      · exact .ends hstage hrunning
      · exact .begins hstage (.inl rfl)
      · exact App.Does.begins (i := i) hstage (.inr rfl)
  | polling p => exact .polls hstage
  | receiving =>
      dsimp only
      split
      · exact .idles hstage
      · next a rest hactions => exact .receives hstage hactions
  | handling a rest =>
      cases rest with
      | done r => exact .finishes hstage
      | call r next => exact .asks hstage
  | delivering u next =>
      show s.Does date _ (s.deliver u next)
      unfold App.deliver
      split_ifs with hreceiver hroom
      · exact .loses hstage hreceiver
      · exact .delivers hstage (Bool.eq_true_of_not_eq_false hreceiver) hroom
      · exact .stays _

/-- **What a step does.** All later invariants are about the cases of `Does`, and none
of them looks at the definition of a step again. -/
theorem App.step_does (s : App) (e : Event) : s.Does date e (s.step date e) := by
  cases e with
  | click a =>
      show s.Does date _ (if s.windowOpen then s.click a else s)
      split_ifs with hopen
      · unfold App.click
        dsimp only
        split_ifs with hended hroom
        · refine .refuses hopen (.inl ?_)
          cases hstage : s.stage with
          | ended => rfl
          | _ =>
              rw [hstage] at hended
              cases hended
        · exact .accepts hopen hroom
        · exact .refuses hopen (.inr rfl)
      · exact .stays _
  | take =>
      unfold App.step
      cases hupdates : s.updates with
      | nil => exact .stays _
      | cons u rest =>
          dsimp only
          split_ifs with hopen
          · exact .takes hupdates
          · exact .stays _
  | close => exact .closes
  | stop =>
      show s.Does date _ (if s.windowOpen then s else _)
      split_ifs with hopen
      · exact .stays _
      · exact .stops (Bool.eq_false_of_not_eq_true hopen)
  | dropTimer =>
      show s.Does date _ (if s.running then s else _)
      split_ifs with hrunning
      · exact .stays _
      · exact .drops (Bool.eq_false_of_not_eq_true hrunning)
  | work i => exact s.work_does date i

end

end Desktop

end Railwatch
