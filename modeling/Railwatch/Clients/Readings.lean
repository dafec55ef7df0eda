/-
# What the desktop panel shows

The daemon, the stream of `Clients/Stream.lean` and the service of `Clients/Panel.lean`
together: the daemon sends what `dispatch` answers to `Snapshot`, which the panel can read
(`Readable.answer`); the service is given the lines that the stream has written, in their
order, and some may still be on their way.

`panel_is_fresh_or_stale` follows a snapshot from the daemon to the panel, and
`graph_has_the_last_readings` says what is in the graph.

A reading is drawn when it is new, and it is new if its session or its number is not
that of the last one (`changes`).  A new reading that is stale empties the graph, so
that what is drawn has come since the last of these.
-/

import Railwatch.General.Changes
import Railwatch.Clients.Panel
import Railwatch.Ipc.Answers

namespace Railwatch.Panel

open Changes Windows

/-- The line that a step is about. -/
def Op.event : Op → Option Plugin.Event
  | .line _ event => some event
  | .update _ => none

/-- What has a snapshot is the line of one. -/
theorem Op.line_of_data {op : Op} {data : Json} (h : op.data = some data) :
    ∃ now, op = .line now (.snapshot data) := by
  cases op with
  | update _ => cases h
  | line now event =>
      cases event with
      | snapshot data' =>
          obtain rfl := Option.some.inj h
          exact ⟨now, rfl⟩
      | _ => cases h

/-- **What the daemon sends can be read.** The script indexes the snapshot, its sample
and the fields of the sample, all of which are objects or absent in an answer of
`dispatch`. -/
theorem Readable.answer {sent : Json} (h : sent.IsSnapshotAnswer) : Readable sent := by
  obtain ⟨-, -, -, shown, ageMs, stale, -, rfl⟩ := h
  exact ⟨⟨_, rfl⟩, ⟨_, rfl⟩, jsonOrNull_object (fun t => ⟨_, rfl⟩) shown.telemetry⟩

/-- What the age makes of a snapshot. -/
theorem Readable.withAge {sent : Json} (h : Readable sent) (nowMs : ℕ) :
    Readable (Plugin.withAge sent nowMs) := by
  cases hage : Plugin.ageOf sent nowMs with
  | none => rwa [Plugin.withAge_of_none hage]
  | some age =>
      have hinner : (Plugin.withAge sent nowMs).at "snapshot" = sent.at "snapshot" := by
        rw [Json.at, Plugin.withAge_get hage, if_neg (by decide), if_neg (by simp), Json.at]
      refine ⟨?_, hinner ▸ h.inner, ?_⟩
      · obtain ⟨fields, rfl⟩ := h.object
        unfold Plugin.withAge
        simp only [hage]
        split_ifs <;> exact ⟨_, rfl⟩
      · rw [sampleOf, hinner]
        exact h.sample

/-- A snapshot with its age has the other fields of what was sent. -/
theorem withAge_get_of_ne {sent : Json} {nowMs : ℕ} {key : String} (hage : key ≠ "age_ms")
    (hstale : key ≠ "stale") : (Plugin.withAge sent nowMs).get key = sent.get key := by
  cases h : Plugin.ageOf sent nowMs with
  | none => rw [Plugin.withAge_of_none h]
  | some age => rw [Plugin.withAge_get h, if_neg hage, if_neg fun hkey => hstale hkey.1]

/-- It is stale if it was sent so, or is older than 3.5 seconds. A snapshot whose age
cannot be computed is left as it was sent. -/
theorem withAge_stale (sent : Json) (nowMs : ℕ) :
    truthy ((Plugin.withAge sent nowMs).at "stale") = true ↔ truthy (sent.at "stale") = true ∨
      ∃ age, Plugin.ageOf sent nowMs = some age ∧ 3500 < age := by
  cases h : Plugin.ageOf sent nowMs with
  | none =>
      rw [Plugin.withAge_of_none h]
      exact ⟨.inl, fun hstale => hstale.resolve_right nofun⟩
  | some age =>
      rw [Json.at, Plugin.withAge_get h, if_neg (by decide)]
      by_cases hold : 3500 < age
      · rw [if_pos ⟨rfl, hold⟩]
        exact iff_of_true rfl (.inr ⟨age, rfl, hold⟩)
      · rw [if_neg fun hkey => hold hkey.2]
        refine ⟨.inl, fun hstale => hstale.resolve_right ?_⟩
        rintro ⟨age', heq, hold'⟩
        exact hold (Option.some.inj heq ▸ hold')

/-- **The panel is fresh or stale.**  Take any run of the stream with a daemon that sends what
`dispatch` answers to `Snapshot`, and any run of the service on lines of it.  Nothing is shown
before the first snapshot; then it is the last one that came, with the age that the stream
gave it and every other field but `stale` as the daemon sent it.  It counts as stale exactly
if the daemon said so, if it was older than 3.5 seconds when the stream had it, if an error
followed it, or if `update` was called more than five seconds after it; and there is no error
beside one that is not stale. -/
theorem panel_is_fresh_or_stale (tostring : Json → String) (count : Option ℕ) (timezone : String)
    (started : Bool) {ops : List Plugin.Op} {evs : List Op}
    (hanswers : ∀ t offline sent, Plugin.Op.turn t offline ∈ ops →
      Plugin.replyOf t = .ok sent → sent.IsSnapshotAnswer)
    (hlines : evs.filterMap Op.event <+: ((Plugin.start count timezone).run ops).output) :
    let shown := ((start started).run tostring evs).shared
    ((∀ op ∈ evs, op.data = none) ∧ shown.snapshot = .null) ∨
    ∃ before now after t offline sent,
      evs = before ++ .line now (.snapshot (Plugin.withAge sent t.nowMs)) :: after ∧
      (∀ op ∈ after, op.data = none) ∧
      Plugin.Op.turn t offline ∈ ops ∧ Plugin.replyOf t = .ok sent ∧
      (∀ key, key ≠ "age_ms" → key ≠ "stale" → shown.snapshot.get key = sent.get key) ∧
      (∀ age, Plugin.ageOf sent t.nowMs = some age →
        shown.snapshot.get "age_ms" = some (.int age)) ∧
      (truthy (shown.snapshot.at "stale") = true ↔ truthy (sent.at "stale") = true ∨
        (∃ age, Plugin.ageOf sent t.nowMs = some age ∧ 3500 < age) ∨
        ∃ op ∈ after, op.Interrupts now) ∧
      (shown.error ≠ .null → truthy (shown.snapshot.at "stale") = true) := by
  intro shown
  obtain hnone | ⟨before, op, data, after, rfl, hop, hafter⟩ := nothing_or_last Op.data evs
  · exact .inl ⟨hnone, (nothing_run tostring started hnone).2⟩
  · obtain ⟨now, rfl⟩ := Op.line_of_data hop
    have hpublished : data ∈ ((Plugin.start count timezone).run ops).published := by
      refine List.mem_filterMap.2 ⟨.snapshot data, hlines.subset ?_, rfl⟩
      exact List.mem_filterMap.2 ⟨.line now (.snapshot data), by simp, rfl⟩
    obtain ⟨t, offline, sent, hturn, hsent, rfl⟩ := Plugin.turn_of_mem_published hpublished
    -- the service shows it from there on, as no later line brings another
    have hshows : ((start started).run tostring (before ++
        .line now (.snapshot (Plugin.withAge sent t.nowMs)) :: after)).Shows now
          (Plugin.withAge sent t.nowMs) after := by
      rw [Service.run, Transition.run_append]
      exact shows_run tostring ((Readable.answer (hanswers t offline sent hturn hsent)).withAge
        t.nowMs) _ now hafter
    refine .inr ⟨before, now, after, t, offline, sent, rfl, hafter, hturn, hsent, ?_, ?_, ?_, ?_⟩
    · intro key hage hstale
      rw [hshows.shared, hshows.fields key hstale, withAge_get_of_ne hage hstale]
    · intro age hage
      rw [hshows.shared, hshows.fields "age_ms" (by decide), Plugin.withAge_get hage, if_pos rfl]
    · rw [hshows.shared, hshows.stale, withAge_stale, or_assoc]
    · rw [hshows.shared]
      exact hshows.error

/-- `tostring` of texts and of whole numbers. -/
def textOf : Json → String
  | .str s => s
  | .int n => toString n
  | _ => ""

/-- A snapshot with a reading of 180 W. -/
def readingShown : Snapshot where
  connected := true
  telemetry := some { Telemetry.blank with
    sessionId := "s"
    sequence := 1
    monotonicMs := 1000
    powerUw := 180000000 }

/-- What the daemon sends for it. -/
def sentReading : Json := snapshotAnswer readingShown (some 0) false

/-- A daemon can send it. -/
theorem isSnapshotAnswer_sentReading : sentReading.IsSnapshotAnswer :=
  ⟨{ monotonicMs := 1000 }, false, { shared := readingShown }, readingShown, some 0, false, rfl,
    rfl⟩

/-- It comes 200 ms later. -/
def sentTurn : Plugin.Turn where
  frame := .ok (some (.obj [("parameters", sentReading)]))
  nowMs := 1200

/-- A stream that gets no other one. -/
def sentOnce : List Plugin.Op := [.connect 0 (.ok ()) (.ok ()), .turn sentTurn (.ok ())]

/-- The panel gets it, and then nothing for six seconds. -/
def silence : List Op := [.line 100 (.snapshot (Plugin.withAge sentReading 1200)), .update 106]

/-- Nothing else is sent in this run. -/
theorem sent_of_sentOnce {t : Plugin.Turn} {offline : Except Plugin.StreamError Unit} {sent : Json}
    (hturn : Plugin.Op.turn t offline ∈ sentOnce) (hsent : Plugin.replyOf t = .ok sent) :
    sent = sentReading := by
  obtain ⟨rfl, -⟩ : t = sentTurn ∧ offline = .ok () := by simpa [sentOnce] using hturn
  exact (Except.ok.inj hsent).symm

/-- What the panel shows is stale then: the reading as it was sent, with its age at the
time it was published, and the error that tells of the silence. -/
theorem panel_is_stale_after_silence :
    let shown := ((start true).run textOf silence).shared
    shown.snapshot.get "snapshot" = sentReading.get "snapshot" ∧
      shown.snapshot.get "age_ms" = some (.int 200) ∧
      truthy (shown.snapshot.at "stale") = true ∧ shown.error = interrupted := by
  have h := panel_is_fresh_or_stale textOf none "" true
    (fun t offline sent hturn hsent => sent_of_sentOnce hturn hsent ▸ isSnapshotAnswer_sentReading)
    (show silence.filterMap Op.event <+: ((Plugin.start none "").run sentOnce).output from
      ⟨[], rfl⟩)
  obtain ⟨hnone, -⟩ | ⟨-, -, -, t, offline, sent, -, -, hturn, hsent, hfields, hage, -⟩ := h
  · exact absurd (hnone _ List.mem_cons_self) nofun
  · obtain rfl : t = sentTurn := by
      obtain ⟨rfl, -⟩ : t = sentTurn ∧ offline = .ok () := by simpa [sentOnce] using hturn
      rfl
    obtain rfl := sent_of_sentOnce hturn hsent
    exact ⟨hfields "snapshot" (by decide) (by decide), hage 200 rfl, rfl, rfl⟩

/-! ### The graph -/

section

variable (tostring : Json → String)

/-- The readings of some snapshots, without those that are the reading before. -/
def changes (datas : List Json) : List Reading :=
  (datas.filterMap (readingOf tostring)).destutter fun r r' => r.key ≠ r'.key

/-- The last 180 powers of the new readings since the last one that came stale. -/
def graphOf (readings : List Reading) : List Json :=
  ((readings.rtakeWhile fun r => !r.stale).map Reading.power).rtake 180

/-- Without readings there is no graph. -/
theorem graphOf_nil : graphOf [] = [] := by
  rw [graphOf, List.rtakeWhile_nil, List.map_nil, List.rtake_nil]

/-- A stale reading starts the graph again, and another one is added to it. -/
theorem graphOf_concat (readings : List Reading) (r : Reading) :
    graphOf (readings ++ [r]) = if r.stale then [] else extend (graphOf readings) r.power := by
  have hlimit : 0 < 180 := by omega
  have hconcat := concat_rtake hlimit
    ((readings.rtakeWhile fun r => !r.stale).map Reading.power) r.power
  unfold graphOf
  rw [List.rtakeWhile_concat]
  by_cases hstale : r.stale = true
  · rw [if_neg (by simp [hstale]), if_pos hstale, List.map_nil, List.rtake_nil]
  · rw [if_pos (by simpa using hstale), if_neg hstale, List.map_append, List.map_singleton,
      ← hconcat, extend]

/-- The graph and the last reading after some snapshots. It is the invariant of the
script's runs: both are functions of the snapshots that came. -/
structure Service.Draws (s : Service) (datas : List Json) : Prop where
  /-- The points are those of the readings that are not repeated. -/
  series : s.series = graphOf (changes tostring datas)
  /-- The last of these is remembered by its key. -/
  previous : s.previous = (changes tostring datas).getLast?.map Reading.key
  /-- The widget sees the points as soon as there was a reading. -/
  shared : s.shared.series = if changes tostring datas = [] then none else some s.series

/-- A new reading is kept, and one that is the last one again is not. -/
theorem changes_concat {s : Service} {datas : List Json} (h : s.Draws tostring datas)
    {data : Json} {r : Reading} (hr : readingOf tostring data = some r) :
    changes tostring (datas ++ [data]) =
      if s.previous = some r.key then changes tostring datas
      else changes tostring datas ++ [r] := by
  have hprevious := h.previous
  unfold changes at hprevious ⊢
  rw [List.filterMap_append, List.filterMap_cons_some hr, List.filterMap_nil, destutter_concat,
    hprevious]
  generalize (datas.filterMap (readingOf tostring)).destutter (fun r r' => r.key ≠ r'.key) = kept
  cases kept.getLast? with
  | none => simp
  | some last => by_cases hkey : last.key = r.key <;> simp [hkey]

/-- A step without a new reading. -/
theorem Service.Draws.same {s s' : Service} {datas datas' : List Json} (h : s.Draws tostring datas)
    (hchanges : changes tostring datas' = changes tostring datas) (hseries : s'.series = s.series)
    (hprevious : s'.previous = s.previous) (hshared : s'.shared.series = s.shared.series) :
    s'.Draws tostring datas' where
  series := by rw [hseries, hchanges, h.series]
  previous := by rw [hprevious, hchanges, h.previous]
  shared := by rw [hshared, hchanges, hseries, h.shared]

/-- The line of a snapshot adds its reading, unless it repeats the one before. With the
new one the graph is what `note` makes of the old graph: one point more, of which the
last 180 are kept, or none if the reading is stale. -/
theorem Service.Draws.show {s : Service} {datas : List Json} (h : s.Draws tostring datas)
    (now : ℤ) (data : Json) : (s.show tostring now data).Draws tostring (datas ++ [data]) := by
  cases hr : readingOf tostring data with
  | none =>
      have hchanges : changes tostring (datas ++ [data]) = changes tostring datas := by
        rw [changes, List.filterMap_append, List.filterMap_cons_none hr, List.filterMap_nil,
          List.append_nil, changes]
      refine h.same tostring hchanges ?_ ?_ ?_ <;>
        simp only [Service.show, hr, Option.map_none, Option.getD_none]
  | some r =>
      have hchanges := changes_concat tostring h hr
      by_cases hsame : s.previous = some r.key
      · rw [if_pos hsame] at hchanges
        refine h.same tostring hchanges ?_ ?_ ?_ <;>
          simp only [Service.show, hr, Option.map_some, Option.getD_some, Service.note,
            if_pos hsame]
      · rw [if_neg hsame] at hchanges
        have hshow : s.show tostring now data =
            { s with
              snapshot := data, last := now, previous := some r.key
              series := graphOf (changes tostring datas ++ [r])
              shared := { s.shared with
                snapshot := data, error := .null
                series := some (graphOf (changes tostring datas ++ [r])) } } := by
          simp only [Service.show, hr, Option.map_some, Option.getD_some, Service.note,
            if_neg hsame, graphOf_concat, h.series]
        rw [hshow]
        refine ⟨by rw [hchanges], by rw [hchanges, List.getLast?_concat]; rfl, ?_⟩
        rw [hchanges, if_neg (List.append_ne_nil_of_right_ne_nil _ (List.cons_ne_nil r []))]

/-- What no line but that of a snapshot changes. -/
def Service.SameGraph (s s' : Service) : Prop :=
  s'.series = s.series ∧ s'.previous = s.previous ∧ s'.shared.series = s.shared.series

open Effects in
/-- No other line changes the graph. Histories, offline lines and `update` work on the
snapshot and the error only, also where they fail on the way. -/
theorem sameGraph_step (s : Service) {op : Op} (hop : op.data = none) :
    s.SameGraph (s.step tostring op) := by
  have hafter {x : Script Unit} (h : Ensures x s (fun _ s' => s.SameGraph s')
      fun _ s' => s.SameGraph s') : s.SameGraph (s.after x) := by
    unfold Ensures at h
    unfold Service.after
    cases hx : x s <;> rw [hx] at h <;> exact h
  cases op with
  | line now event =>
      cases event with
      | snapshot _ => cases hop
      | offline message =>
          refine hafter ?_
          change Ensures (publishOffline (.str message)) s _ _
          unfold publishOffline
          refine ensures_bind (ensures_modify (ensures_bind (ensures_get ?_)))
          split_ifs
          · exact ensures_bind (ensures_ofExcept (fun frozen _ => ensures_modify ⟨rfl, rfl, rfl⟩)
              fun _ _ => ⟨rfl, rfl, rfl⟩)
          · exact ensures_pure ⟨rfl, rfl, rfl⟩
      | _ => exact ⟨rfl, rfl, rfl⟩
  | update now =>
      refine hafter (ensures_bind (ensures_get ?_))
      dsimp only
      split_ifs
      · refine ensures_bind (ensures_ofExcept (fun stale _ => ?_) fun _ _ => ⟨rfl, rfl, rfl⟩)
        split_ifs
        · exact ensures_pure ⟨rfl, rfl, rfl⟩
        · exact ensures_bind (ensures_ofExcept (fun frozen _ => ensures_modify ⟨rfl, rfl, rfl⟩)
            fun _ _ => ⟨rfl, rfl, rfl⟩)
      · exact ensures_pure ⟨rfl, rfl, rfl⟩

/-- **The graph has the last readings**: in every run of the service, whatever comes between
the snapshots, it is the powers of the last 180 readings, without those that are the reading
before, since the last one that came stale. -/
theorem graph_has_the_last_readings (started : Bool) {evs : List Op}
    (hreadable : ∀ op ∈ evs, ∀ data, op.data = some data → Readable data) :
    ((start started).run tostring evs).shared.series =
      if changes tostring (evs.filterMap Op.data) = [] then none
      else some (graphOf (changes tostring (evs.filterMap Op.data))) := by
  suffices h : ((start started).run tostring evs).Draws tostring (evs.filterMap Op.data) by
    rw [h.shared, h.series]
  induction evs using List.reverseRecOn with
  | nil => exact ⟨graphOf_nil.symm, rfl, rfl⟩
  | append_singleton evs op ih =>
      have h := ih fun op' hop' => hreadable op' (List.mem_append_left _ hop')
      have hlast := hreadable op (List.mem_append_right _ (List.mem_singleton_self op))
      rw [Service.run, Transition.run_concat, List.filterMap_append, ← Service.run]
      cases hop : op.data with
      | none =>
          obtain ⟨hseries, hprevious, hshared⟩ := sameGraph_step tostring
            ((start started).run tostring evs) hop
          rw [List.filterMap_cons_none hop, List.filterMap_nil, List.append_nil]
          exact h.same tostring rfl hseries hprevious hshared
      | some data =>
          obtain ⟨now, rfl⟩ := Op.line_of_data hop
          rw [List.filterMap_cons_some hop, List.filterMap_nil,
            step_snapshot tostring (hlast data hop)]
          exact h.show tostring now data

end

/-- A reading that comes twice is one point. -/
theorem graph_of_a_repeated_reading :
    ((start true).run textOf (silence ++ silence)).shared.series = some [.int 180000000] := by
  rw [graph_has_the_last_readings textOf true fun op hop data hdata => ?_]
  · rfl
  · obtain rfl : data = Plugin.withAge sentReading 1200 := by
      have hmem : data ∈ (silence ++ silence).filterMap Op.data :=
        List.mem_filterMap.2 ⟨op, hop, hdata⟩
      simpa [silence, Op.data, Plugin.Event.data, eq_comm] using hmem
    exact (Readable.answer isSnapshotAnswer_sentReading).withAge 1200

end Railwatch.Panel
