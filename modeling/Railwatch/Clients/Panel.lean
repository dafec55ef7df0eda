/-
# The service of the desktop panel

`clients/noctalia/railwatch/service.luau`: `publish`, which is given each line of the stream,
`update`, which is called every second, and what they leave for the widget and the panel.

A Luau value is the value of JSON that it comes from, and `nil` is `null`.  What `tostring`
makes of a value and the time are inputs.  A point of the graph is kept as the power that it
is computed from: `math.min(1, (tonumber(t.power_uw) or 0) / 1600000000)`, a double that is
drawn and never read again, is left out.

A function of the service stops at an error, with what it has done until then.  On snapshots
that are objects (`Readable`) none does, and each line has its equation: `step_snapshot`,
`step_offline` and `step_update`.  `Service.Shows` is what they leave of a snapshot.
-/

import Railwatch.General.Windows
import Railwatch.Clients.Lines

namespace Railwatch.Panel

open Effects Windows

/-! ### Values of Luau -/

/-- Whether a value counts as true. -/
def truthy : Json → Bool
  | .null | .bool false => false
  | _ => true

/-- `v.key`: a string has the fields of the string library, none of which is read here, and
what is no table is an error. -/
def index (v : Json) (key : String) : Except Unit Json :=
  match v with
  | .obj _ => .ok (v.at key)
  | .arr _ | .str _ => .ok .null
  | _ => .error ()

/-- `snapshot.stale = true`. -/
def freeze (snapshot : Json) : Except Unit Json :=
  match snapshot with
  | .obj _ => .ok (snapshot.set "stale" (.bool true))
  | .arr _ => .ok snapshot
  | _ => .error ()

/-! ### The service -/

/-- What the widget and the panel watch: the state that the service sets for them, and
all that they show. -/
structure Shared where
  /-- What is shown. -/
  snapshot : Json := .null
  /-- Why it is not fresh. -/
  error : Json := .null
  /-- The points of the graph. -/
  series : Option (List Json) := none
  /-- The history of today. -/
  history : Json := .null
  /-- Why there is none. -/
  historyError : Json := .null

/-- The variables of the service: the last snapshot with its time, the graph, and the
key of the last reading in it. -/
structure Service where
  /-- When the last snapshot came. -/
  last : ℤ := 0
  /-- The last snapshot. -/
  snapshot : Json := .null
  /-- The points of the graph. -/
  series : List Json := []
  /-- The key of the last reading. -/
  previous : Option String := none
  /-- What was set with `noctalia.state.set`. -/
  shared : Shared := {}

/-- A function of the service, which stops at an error. -/
abbrev Script := EStateM Unit Service

/-- `table.insert(series, …)`, with 180 points at most. -/
def extend (series : List Json) (power : Json) : List Json :=
  let series := series ++ [power]
  if 180 < series.length then series.drop 1 else series

section

variable (tostring : Json → String)

/-- A reading that is not the one before goes to the graph. The key of a reading is made
of its session and its number. A stale one empties the graph instead, so that a line is
never drawn over an interruption. -/
def plot (snapshot t : Json) : Script Unit := do
  let session ← ofExcept (index t "session_id")
  let sequence ← ofExcept (index t "sequence")
  let key := tostring session ++ ":" ++ tostring sequence
  let s ← get
  if s.previous = some key then pure ()
  else do
    let stale ← ofExcept (index snapshot "stale")
    if truthy stale then modify fun s => { s with series := [] }
    else do
      let power ← ofExcept (index t "power_uw")
      modify fun s => { s with series := extend s.series power }
    modify fun s =>
      { s with previous := some key, shared := { s.shared with series := some s.series } }

/-- The line of a snapshot. It is remembered with the time at which it came, then a
reading in it is plotted, and last the panel is told; an error that was shown is taken
away. -/
def publishSnapshot (now : ℤ) (data : Json) : Script Unit := do
  modify fun s => { s with snapshot := data, last := now }
  let inner ← ofExcept (index data "snapshot")
  let t ← ofExcept (index inner "telemetry")
  match t with
  | .null => pure ()
  | t => plot tostring data t
  modify fun s => { s with shared := { s.shared with snapshot := data, error := .null } }

/-- The line of an error. The message is shown, and a snapshot that is still on show is
replaced by a copy that is marked stale. A script that has none shows the message alone. -/
def publishOffline (message : Json) : Script Unit := do
  modify fun s => { s with shared := { s.shared with error := message } }
  let s ← get
  if truthy s.snapshot then do
    let frozen ← ofExcept (freeze s.snapshot)
    modify fun s =>
      { s with snapshot := frozen, shared := { s.shared with snapshot := frozen } }
  else pure ()

/-- `publish`. The kind of a line says what it is about; a line of a kind that is not
known here is left out without an error. -/
def publish (now : ℤ) (line : Json) : Script Unit :=
  match (line.at "kind").asString with
  | some "snapshot" => publishSnapshot tostring now (line.at "data")
  | some "history" =>
      modify fun s => { s with shared := { s.shared with history := line, historyError := .null } }
  | some "history_error" =>
      modify fun s => { s with shared := { s.shared with historyError := line.at "message" } }
  | some "offline" => publishOffline (line.at "message")
  | _ => pure ()

/-- What the panel says of a snapshot that is not followed by another one. -/
def interrupted : Json := .str "Monitoring interrupted. Readings are frozen."

/-- `update`, the timer of the service. More than five seconds without a snapshot make
the one on show stale, once: a snapshot that is stale already is left as it is, with the
error that is shown beside it. -/
def update (now : ℤ) : Script Unit := do
  let s ← get
  if 5 < now - s.last ∧ truthy s.snapshot then do
    let stale ← ofExcept (index s.snapshot "stale")
    if truthy stale then pure ()
    else do
      let frozen ← ofExcept (freeze s.snapshot)
      modify fun s =>
        { s with
          snapshot := frozen
          shared := { s.shared with snapshot := frozen, error := interrupted } }
  else pure ()

/-- What happens to the service: a line of the stream, or a call of `update`. The host
calls the script for one of these at a time. -/
inductive Op where
  | line (now : ℤ) (event : Plugin.Event)
  | update (now : ℤ)

/-- The variables after a function, which may have stopped at an error. -/
def Service.after (s : Service) (x : Script Unit) : Service :=
  match x s with
  | .ok _ s' => s'
  | .error _ s' => s'

/-- One step. -/
def Service.step (s : Service) : Op → Service
  | .line now event => s.after (publish tostring now event.json)
  | .update now => s.after (update now)

/-- The service at its start: whether the stream could be started. -/
def start (started : Bool) : Service :=
  { shared := { error := if started then .null else .str "Could not start the PSU monitor" } }

/-- The service after a number of steps. -/
def Service.run (s : Service) (ops : List Op) : Service :=
  Transition.run (Service.step tostring) s ops

/-! ### What a line does -/

/-- The reading of a snapshot. -/
def sampleOf (data : Json) : Json := (data.at "snapshot").at "telemetry"

/-- A snapshot as the daemon sends it: an object, in which there is one, and a reading that is
missing or an object. -/
structure Readable (data : Json) : Prop where
  /-- `snapshot.snapshot` and `snapshot.stale` can be looked up. -/
  object : ∃ fields, data = .obj fields
  /-- `snapshot.snapshot.telemetry` can. -/
  inner : ∃ fields, data.at "snapshot" = .obj fields
  /-- And so can the fields of a reading, if there is one. -/
  sample : sampleOf data = .null ∨ ∃ fields, sampleOf data = .obj fields

/-- What the graph needs of a snapshot. Two snapshots with the same key are of one
reading, which is drawn once. -/
structure Reading where
  /-- Its session and its number, as a text. -/
  key : String
  /-- Whether the snapshot is stale. -/
  stale : Bool
  /-- Its power. -/
  power : Json

/-- The reading of a snapshot, if it has one: the key it is told apart by, whether the
daemon called it stale, and the power that would be drawn. -/
def readingOf (data : Json) : Option Reading :=
  match sampleOf data with
  | .null => none
  | t =>
      some {
        key := tostring (t.at "session_id") ++ ":" ++ tostring (t.at "sequence")
        stale := truthy (data.at "stale")
        power := t.at "power_uw" }

/-- The service after a reading. -/
def Service.note (s : Service) (r : Reading) : Service :=
  if s.previous = some r.key then s
  else
    let series := if r.stale then [] else extend s.series r.power
    { s with series, previous := some r.key, shared := { s.shared with series := some series } }

/-- The service after a snapshot. -/
def Service.show (s : Service) (now : ℤ) (data : Json) : Service :=
  let s := { s with snapshot := data, last := now }
  let s := ((readingOf tostring data).map s.note).getD s
  { s with shared := { s.shared with snapshot := data, error := .null } }

/-- Reading a field of an object. -/
theorem ensures_index {v : Json} (hv : ∃ fields, v = .obj fields) {key : String} {s : Service}
    {Q : Json → Service → Prop} {E : Unit → Service → Prop} (h : Q (v.at key) s) :
    Ensures (ofExcept (index v key)) s Q E := by
  obtain ⟨fields, rfl⟩ := hv
  exact h

/-- A reading that the code can take is noted, and nothing stops it. `readingOf` is what
`plot` looks up in the snapshot; a reading with the key of the one before is left out,
and a stale one empties the series. -/
theorem plot_ensures {data : Json} (h : Readable data) {r : Reading}
    (hr : readingOf tostring data = some r) (s : Service) :
    Ensures (plot tostring data (sampleOf data)) s (fun _ s' => s' = s.note r)
      fun _ _ => False := by
  obtain hnull | hsample := h.sample
  · simp [readingOf, hnull] at hr
  · have hreading : r = {
        key := tostring ((sampleOf data).at "session_id") ++ ":" ++
          tostring ((sampleOf data).at "sequence")
        stale := truthy (data.at "stale")
        power := (sampleOf data).at "power_uw" } := by
      obtain ⟨sample, hsample⟩ := hsample
      simp only [readingOf, hsample] at hr ⊢
      exact (Option.some.inj hr).symm
    subst hreading
    unfold plot Service.note
    refine ensures_bind (ensures_index hsample (ensures_bind (ensures_index hsample
      (ensures_bind (ensures_get ?_)))))
    dsimp only
    split_ifs with hsame hstale
    · exact ensures_pure rfl
    · refine ensures_bind (ensures_index h.object ?_)
      rw [if_pos hstale]
      exact ensures_bind (ensures_modify (ensures_modify rfl))
    · refine ensures_bind (ensures_index h.object ?_)
      rw [if_neg hstale]
      exact ensures_bind (ensures_index hsample (ensures_bind
        (ensures_modify (ensures_modify rfl))))

/-- What the line of a snapshot does: the snapshot and the time are set, its reading is
noted if it has one, and what the panel shows is the snapshot with the new series and
without an error. Nothing stops it, since the snapshot is readable. -/
theorem publishSnapshot_ensures {data : Json} (h : Readable data) (s : Service) (now : ℤ) :
    Ensures (publishSnapshot tostring now data) s (fun _ s' => s' = s.show tostring now data)
      fun _ _ => False := by
  unfold publishSnapshot
  refine ensures_bind (ensures_modify (ensures_bind (ensures_index h.object
    (ensures_bind (ensures_index h.inner ?_)))))
  change Ensures (match sampleOf data with | .null => _ | _ => _) _ _ _
  obtain hsample | ⟨sample, hsample⟩ := h.sample
  · rw [hsample]
    refine ensures_modify ?_
    simp only [Service.show, readingOf, hsample]
    rfl
  · have hreading : ∃ r, readingOf tostring data = some r := by
      simp only [readingOf, hsample]
      exact ⟨_, rfl⟩
    obtain ⟨r, hr⟩ := hreading
    rw [hsample]
    refine ensures_bind ?_
    have hplot := plot_ensures tostring h hr { s with snapshot := data, last := now }
    rw [hsample] at hplot
    refine hplot.mono ?_ fun _ _ => id
    rintro _ s' rfl
    refine ensures_modify ?_
    simp only [Service.show, hr]
    rfl

/-- A function with only one way to end leaves the service in the state of that end. -/
theorem after_of_ensures {x : Script Unit} {s s' : Service}
    (h : Ensures x s (fun _ t => t = s') fun _ _ => False) : s.after x = s' := by
  unfold Ensures at h
  unfold Service.after
  cases hx : x s with
  | ok _ t =>
      rw [hx] at h
      exact h
  | error _ t =>
      rw [hx] at h
      exact h.elim

/-- What the line of a snapshot does. -/
theorem step_snapshot {data : Json} (h : Readable data) (s : Service) (now : ℤ) :
    s.step tostring (.line now (.snapshot data)) = s.show tostring now data :=
  after_of_ensures (publishSnapshot_ensures tostring h s now)

/-! ### What becomes of a snapshot -/

/-- The snapshot of a line. -/
def Op.data : Op → Option Json
  | .line _ event => event.data
  | .update _ => none

/-- Whether a snapshot that was shown at a time is no longer the state of the PSU. -/
def Op.Interrupts (shown : ℤ) : Op → Prop
  | .line _ event => event.isOffline = true
  | .update now => 5 < now - shown

/-- What is left of a snapshot after a number of steps: its fields, and whether it is
stale. -/
structure Service.Shows (s : Service) (now : ℤ) (data : Json) (after : List Op) : Prop where
  /-- The time of the line. -/
  last : s.last = now
  /-- The widget sees what the service has. -/
  shared : s.shared.snapshot = s.snapshot
  /-- It stays an object, so that it can be marked. -/
  object : ∃ fields, s.snapshot = .obj fields
  /-- Nothing but the mark has changed. -/
  fields : ∀ key, key ≠ "stale" → s.snapshot.get key = data.get key
  /-- It is marked exactly if it came so, or was interrupted since. -/
  stale : truthy (s.snapshot.at "stale") = true ↔
    truthy (data.at "stale") = true ∨ ∃ op ∈ after, op.Interrupts now
  /-- An error is never shown beside a snapshot that is not marked. -/
  error : s.shared.error ≠ .null → truthy (s.snapshot.at "stale") = true

/-- After the line of a snapshot the service shows it: field by field, as stale as it
was sent, and without an error. -/
theorem shows_show {data : Json} (h : Readable data) (s : Service) (now : ℤ) :
    (s.show tostring now data).Shows now data [] := by
  have hfields : (s.show tostring now data).last = now ∧
      (s.show tostring now data).snapshot = data := by
    unfold Service.show
    cases hr : readingOf tostring data with
    | none => exact ⟨rfl, rfl⟩
    | some r =>
        simp only [Option.map_some, Option.getD_some, Service.note]
        split_ifs <;> exact ⟨rfl, rfl⟩
  obtain ⟨hlast, hsnapshot⟩ := hfields
  refine ⟨hlast, hsnapshot.symm, ?_, fun key _ => by rw [hsnapshot], ?_, ?_⟩
  · rw [hsnapshot]
    exact h.object
  · simp [hsnapshot]
  · exact fun herror => absurd rfl herror

/-- What freezing a snapshot changes. -/
theorem freeze_eq {v : Json} (h : ∃ fields, v = .obj fields) : ∃ frozen, freeze v = .ok frozen ∧
    (∃ fields, frozen = .obj fields) ∧ (∀ key, key ≠ "stale" → frozen.get key = v.get key) ∧
      truthy (frozen.at "stale") = true := by
  obtain ⟨fields, rfl⟩ := h
  refine ⟨_, rfl, ⟨_, rfl⟩, fun key hkey => ?_, ?_⟩
  · rw [Json.get_set, if_neg hkey]
  · rw [Json.at, Json.get_set, if_pos rfl]
    rfl

/-- An object counts as true. -/
theorem truthy_of_object {v : Json} (h : ∃ fields, v = .obj fields) : truthy v = true := by
  obtain ⟨fields, rfl⟩ := h
  rfl

namespace Service.Shows

variable {s : Service} {now : ℤ} {data : Json} {after : List Op}

/-- A step that leaves the snapshot alone keeps what is shown. If such a step would
interrupt the reading, then the snapshot has to be stale already, which the caller says. -/
theorem keep (h : s.Shows now data after) {s' : Service} {op : Op} (hlast : s'.last = s.last)
    (hsnapshot : s'.snapshot = s.snapshot) (hshared : s'.shared.snapshot = s.shared.snapshot)
    (herror : s'.shared.error = s.shared.error)
    (hop : op.Interrupts now → truthy (s.snapshot.at "stale") = true) :
    s'.Shows now data (after ++ [op]) where
  last := hlast.trans h.last
  shared := by rw [hshared, hsnapshot, h.shared]
  object := by rw [hsnapshot]; exact h.object
  fields key hkey := by rw [hsnapshot, h.fields key hkey]
  stale := by
    rw [hsnapshot]
    refine ⟨fun hstale => ?_, ?_⟩
    · obtain hdata | ⟨op', hmem, hinterrupts⟩ := h.stale.1 hstale
      · exact .inl hdata
      · exact .inr ⟨op', List.mem_append_left _ hmem, hinterrupts⟩
    · rintro (hdata | ⟨op', hmem, hinterrupts⟩)
      · exact h.stale.2 (.inl hdata)
      · obtain hmem | hmem := List.mem_append.1 hmem
        · exact h.stale.2 (.inr ⟨op', hmem, hinterrupts⟩)
        · obtain rfl := List.mem_singleton.1 hmem
          exact hop hinterrupts
  error := by rw [herror, hsnapshot]; exact h.error

/-- A step that freezes it. -/
theorem freezes (h : s.Shows now data after) {op : Op} (hop : op.Interrupts now) {s' : Service}
    {frozen : Json} (hfrozen : freeze s.snapshot = .ok frozen) (hlast : s'.last = s.last)
    (hsnapshot : s'.snapshot = frozen) (hshared : s'.shared.snapshot = frozen) :
    s'.Shows now data (after ++ [op]) := by
  obtain ⟨frozen', hfreeze, hobject, hfields, hstale⟩ := freeze_eq h.object
  obtain rfl : frozen' = frozen := Except.ok.inj (hfreeze.symm.trans hfrozen)
  have hmem : op ∈ after ++ [op] := List.mem_append_right _ (List.mem_singleton_self op)
  refine ⟨hlast.trans h.last, hshared.trans hsnapshot.symm, hsnapshot ▸ hobject, fun key hkey => ?_,
    ?_, fun _ => hsnapshot ▸ hstale⟩
  · rw [hsnapshot, hfields key hkey, h.fields key hkey]
  · rw [hsnapshot]
    exact iff_of_true hstale (.inr ⟨op, hmem, hop⟩)

end Service.Shows

/-- What the line of an error does. -/
theorem step_offline {s : Service} {frozen : Json} (hobject : ∃ fields, s.snapshot = .obj fields)
    (hfrozen : freeze s.snapshot = .ok frozen) (at_ : ℤ) (message : String) :
    s.step tostring (.line at_ (.offline message)) = { s with
      snapshot := frozen
      shared := { s.shared with snapshot := frozen, error := .str message } } := by
  refine after_of_ensures ?_
  change Ensures (publishOffline (.str message)) s _ _
  unfold publishOffline
  refine ensures_bind (ensures_modify (ensures_bind (ensures_get ?_)))
  dsimp only
  rw [if_pos (truthy_of_object hobject), hfrozen]
  exact ensures_bind (ensures_pure (ensures_modify rfl))

/-- What `update` does: after more than five seconds without a line, a snapshot that is
not stale yet is frozen, with an error; else nothing. There has to be a snapshot, which
Lua takes for true. -/
theorem step_update {s : Service} {frozen : Json} (hobject : ∃ fields, s.snapshot = .obj fields)
    (hfrozen : freeze s.snapshot = .ok frozen) (at_ : ℤ) :
    s.step tostring (.update at_) =
      if 5 < at_ - s.last ∧ truthy (s.snapshot.at "stale") = false then
        { s with
          snapshot := frozen
          shared := { s.shared with snapshot := frozen, error := interrupted } }
      else s := by
  refine after_of_ensures ?_
  unfold update
  refine ensures_bind (ensures_get ?_)
  dsimp only
  by_cases hlate : 5 < at_ - s.last
  · rw [if_pos ⟨hlate, truthy_of_object hobject⟩]
    refine ensures_bind (ensures_index hobject ?_)
    by_cases hstale : truthy (s.snapshot.at "stale") = true
    · rw [if_pos hstale, if_neg (by simp [hstale])]
      exact ensures_pure rfl
    · rw [if_neg hstale, if_pos ⟨hlate, Bool.eq_false_of_not_eq_true hstale⟩, hfrozen]
      exact ensures_bind (ensures_pure (ensures_modify rfl))
  · rw [if_neg (fun h => hlate h.1), if_neg (fun h => hlate h.1)]
    exact ensures_pure rfl

/-- What a step does to the snapshot that is shown, unless there is a new one. Histories
leave it alone, an offline line freezes it, and an `update` freezes it when it is late;
frozen, it differs from the one that came in its `stale` alone. -/
theorem Service.Shows.step {s : Service} {now : ℤ} {data : Json} {after : List Op}
    (h : s.Shows now data after) {op : Op} (hop : op.data = none) :
    (s.step tostring op).Shows now data (after ++ [op]) := by
  obtain ⟨frozen, hfrozen, -⟩ := freeze_eq h.object
  cases op with
  | line at_ event =>
      cases event with
      | snapshot _ => cases hop
      | history _ _ _ => exact h.keep rfl rfl rfl rfl (fun hno => by cases hno)
      | historyError _ _ => exact h.keep rfl rfl rfl rfl (fun hno => by cases hno)
      | offline message =>
          rw [step_offline tostring h.object hfrozen]
          have hinterrupts : (Op.line at_ (.offline message)).Interrupts now := rfl
          exact h.freezes hinterrupts hfrozen rfl rfl rfl
  | update at_ =>
      rw [step_update tostring h.object hfrozen]
      split_ifs with hfreezes
      · rw [h.last] at hfreezes
        have hinterrupts : (Op.update at_).Interrupts now := hfreezes.1
        exact h.freezes hinterrupts hfrozen rfl rfl rfl
      · refine h.keep rfl rfl rfl rfl fun hlate => ?_
        by_contra hstale
        rw [← h.last] at hlate
        exact hfreezes ⟨hlate, Bool.eq_false_of_not_eq_true hstale⟩

/-- What is shown after a snapshot, until the next one. -/
theorem shows_run {data : Json} (h : Readable data) (s : Service) (now : ℤ) {after : List Op}
    (hafter : ∀ op ∈ after, op.data = none) :
    (s.run tostring (.line now (.snapshot data) :: after)).Shows now data after := by
  induction after using List.reverseRecOn with
  | nil =>
      show (s.step tostring (.line now (.snapshot data))).Shows now data []
      rw [step_snapshot tostring h]
      exact shows_show tostring h s now
  | append_singleton after op ih =>
      rw [Service.run, ← List.cons_append, Transition.run_concat]
      exact (ih fun op' hop' => hafter op' (List.mem_append_left _ hop')).step tostring
        (hafter op (List.mem_append_right _ (List.mem_singleton_self op)))

/-- Before the first snapshot nothing is shown. There is nothing to freeze either: an
offline line then only sets the error, and an `update` does nothing at all. -/
theorem nothing_run (started : Bool) {ops : List Op} (h : ∀ op ∈ ops, op.data = none) :
    ((start started).run tostring ops).snapshot = .null ∧
      ((start started).run tostring ops).shared.snapshot = .null := by
  induction ops using List.reverseRecOn with
  | nil => exact ⟨rfl, rfl⟩
  | append_singleton ops op ih =>
      obtain ⟨hsnapshot, hshared⟩ := ih fun op' hop' => h op' (List.mem_append_left _ hop')
      have hop := h op (List.mem_append_right _ (List.mem_singleton_self op))
      rw [Service.run, Transition.run_concat, ← Service.run]
      generalize (start started).run tostring ops = s at hsnapshot hshared
      cases op with
      | line now event =>
          cases event with
          | snapshot _ => cases hop
          | offline message =>
              have hstep : s.step tostring (.line now (.offline message)) =
                  { s with shared := { s.shared with error := .str message } } := by
                refine after_of_ensures ?_
                change Ensures (publishOffline (.str message)) s _ _
                unfold publishOffline
                refine ensures_bind (ensures_modify (ensures_bind (ensures_get ?_)))
                dsimp only
                rw [hsnapshot, if_neg (by decide)]
                exact ensures_pure rfl
              rw [hstep]
              exact ⟨hsnapshot, hshared⟩
          | _ => exact ⟨hsnapshot, hshared⟩
      | update now =>
          have hstep : s.step tostring (.update now) = s := by
            refine after_of_ensures (ensures_bind (ensures_get ?_))
            rw [hsnapshot, if_neg (fun hlate => Bool.false_ne_true hlate.2)]
            exact ensures_pure rfl
          rw [hstep]
          exact ⟨hsnapshot, hshared⟩

end

end Railwatch.Panel
