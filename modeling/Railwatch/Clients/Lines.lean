/-
# The lines of a stream

`src/plugin.rs`: what is published.  `lines_follow_snapshots` says in which order the lines
of a stream come, and `published_snapshots_are_what_was_sent` what is in them.

A connection writes groups of lines: a snapshot, and perhaps a history behind it
(`Group`).  Between two connections stands the line that says why the first one ended.
Histories are asked for at least fifteen seconds apart within a connection, and each
connection asks for its first one at once (`Spaced`).
-/

import Railwatch.Clients.Ending

namespace Railwatch.Plugin

open Effects

/-! ### Their order -/

/-- A step's lines: those of a snapshot, which a history may follow that was asked for its
device, and that of an error. -/
inductive Group : List Event → Prop where
  | snapshot (data : Json) : Group [.snapshot data]
  | history {data : Json} (hdevice : (deviceOf data).isSome) (asked : Asked)
      (r : Except StreamError (Json × Json)) : Group [.snapshot data, historyLine asked r]
  | offline (text : String) : Group [.offline text]

/-- The lines come in groups. -/
def Grouped (lines : List Event) : Prop :=
  ∃ groups : List (List Event), lines = groups.flatten ∧ ∀ g ∈ groups, Group g

/-- One more group behind the others. -/
theorem Grouped.concat {lines group : List Event} (h : Grouped lines) (hgroup : Group group) :
    Grouped (lines ++ group) := by
  obtain ⟨groups, rfl, hgroups⟩ := h
  refine ⟨groups ++ [group], by simp, fun g hg => ?_⟩
  rcases List.mem_append.1 hg with hg | hg
  · exact hgroups g hg
  · rwa [List.mem_singleton.1 hg]

/-- A turn writes one group: a snapshot, and a history behind it or none. -/
theorem Turned.grouped {t : Turn} {nextHistory : ℕ} {s s' : Stream} {rest : List Event}
    (h : Turned t nextHistory s s' rest) (hs : Grouped s.output) : Grouped s'.output := by
  obtain ⟨sent, -, hout, hdevice⟩ := h.reply
  rw [hout]
  obtain rfl | ⟨asked, r, rfl⟩ := h.rest_cases
  · exact hs.concat (.snapshot _)
  · obtain hnil | hdevice := hdevice
    · cases hnil
    · exact hs.concat (.history hdevice asked r)

/-- A lost connection writes the line of its error, or nothing. -/
theorem Stream.lost_grouped {s : Stream} (hs : Grouped s.output) (e : StreamError)
    (offline : Except StreamError Unit) : Grouped (s.lost e offline).output := by
  obtain ⟨-, heq⟩ | ⟨-, ⟨e', -, heq⟩ | heq⟩ := s.lost_cases e offline
  · rwa [heq]
  · rwa [heq]
  · rw [heq]
    exact hs.concat (.offline e.text)

/-- So the lines of a run come in groups. -/
theorem run_grouped (count : Option ℕ) (timezone : String) (ops : List Op) :
    Grouped ((start count timezone).run ops).output := by
  refine Stream.run_induction (I := fun s => Grouped s.output) ⟨[], rfl, nofun⟩ ?_ ops
  intro s op s' hs hdoes
  cases hdoes with
  | connected _ => exact hs
  | refused _ => exact Stream.lost_grouped (by exact hs) _ _
  | turned _ hturn _ => exact hturn.grouped hs
  | last _ hturn _ => exact hturn.grouped hs
  | failed _ hfailed =>
      refine Stream.lost_grouped ?_ _ _
      obtain rfl | hturned := hfailed.state
      · exact hs
      · exact hturned.grouped hs

/-- The times at which histories were asked for. -/
def Stream.asked (s : Stream) : List Asked := s.output.filterMap Event.asked

/-- One history is asked for after another: in a later connection, or fifteen seconds
later. -/
def Asked.Before (a b : Asked) : Prop :=
  a.connection < b.connection ∨
    a.connection = b.connection ∧ a.at_ + historyInterval ≤ b.at_

/-- The next history of a connection is due fifteen seconds after its last one.
Histories of different connections are not spaced: a new connection asks at once. -/
structure Stream.Spaced (s : Stream) : Prop where
  /-- The connections are numbered as they come. -/
  connections : ∀ a ∈ s.asked, a.connection ≤ s.connections
  /-- In the connection that is open the next history is not due before its time. -/
  due : ∀ next, s.phase = .connected next → ∀ a ∈ s.asked, a.connection = s.connections →
    a.at_ + historyInterval ≤ next
  /-- Of two histories the later one is in another connection, or late enough. -/
  spaced : s.asked.Pairwise Asked.Before

/-- A lost connection asks for no history. It writes at most the line of its failure,
and no history is due any more until there is another connection. -/
theorem Stream.Spaced.lost {s : Stream} (h : s.Spaced) (e : StreamError)
    (offline : Except StreamError Unit) : (s.lost e offline).Spaced := by
  obtain ⟨-, heq⟩ | ⟨-, ⟨e', -, heq⟩ | heq⟩ := s.lost_cases e offline
  · rw [heq]
    exact ⟨h.connections, nofun, h.spaced⟩
  · rw [heq]
    exact ⟨h.connections, nofun, h.spaced⟩
  · have hasked : (s.output ++ [Event.offline e.text]).filterMap Event.asked = s.asked := by
      simp [Event.asked, Stream.asked]
    rw [heq]
    refine ⟨?_, fun next hnext => ?_, ?_⟩
    · show ∀ a ∈ List.filterMap _ _, _
      rw [hasked]
      exact h.connections
    · dsimp only at hnext
      split_ifs at hnext
    · show List.Pairwise _ (List.filterMap _ _)
      rw [hasked]
      exact h.spaced

/-- A turn asks for a history when the last one was fifteen seconds ago, or in another
connection. -/
theorem Turned.spaced {t : Turn} {nextHistory : ℕ} {s s' : Stream} {rest : List Event}
    (h : Turned t nextHistory s s' rest) (hphase : s.phase = .connected nextHistory)
    (hs : s.Spaced) : s'.Spaced := by
  obtain ⟨sent, -, hout, -⟩ := h.reply
  have hasked : s'.asked = s.asked ++ rest.filterMap Event.asked := by
    simp [Stream.asked, hout, List.filterMap_cons, Event.asked]
  obtain ⟨rfl, hsame⟩ | ⟨asked, hconnection, hdue, hnext, hrest⟩ := h.history
  · rw [List.filterMap_nil, List.append_nil] at hasked
    refine ⟨?_, ?_, ?_⟩
    · rw [hasked, h.connections]
      exact hs.connections
    · rw [hasked, h.connections, hsame]
      exact hs.due
    · rw [hasked]
      exact hs.spaced
  -- a history, which was due: the earlier ones of this connection are far enough behind
  · have hlater : ∀ a ∈ s.asked, a.connection = s.connections →
        a.at_ + historyInterval ≤ asked.at_ :=
      fun a ha hcon => (hs.due nextHistory hphase a ha hcon).trans hdue
    have hbefore : ∀ a ∈ s.asked, a.Before asked := by
      intro a ha
      obtain hlt | heq := (hs.connections a ha).lt_or_eq
      · exact .inl (hconnection ▸ hlt)
      · exact .inr ⟨heq.trans hconnection.symm, hlater a ha heq⟩
    have hnew : s'.asked = s.asked ∨ s'.asked = s.asked ++ [asked] := by
      obtain rfl | ⟨r, rfl⟩ := hrest
      · exact .inl (by simpa using hasked)
      · exact .inr (by simpa using hasked)
    have hmem : ∀ a ∈ s'.asked, a ∈ s.asked ∨ a = asked := by
      intro a ha
      obtain heq | heq := hnew
      · exact .inl (heq ▸ ha)
      · rw [heq, List.mem_append, List.mem_singleton] at ha
        exact ha
    refine ⟨fun a ha => ?_, fun next hphase' a ha hcon => ?_, ?_⟩
    · rw [h.connections]
      obtain ha | rfl := hmem a ha
      · exact hs.connections a ha
      · exact hconnection.le
    · rw [hnext] at hphase'
      obtain rfl := Phase.connected.inj hphase'
      obtain ha | rfl := hmem a ha
      · have := hlater a ha (hcon.trans h.connections)
        omega
      · exact le_rfl
    · obtain heq | heq := hnew
      · rw [heq]
        exact hs.spaced
      · rw [heq]
        exact List.pairwise_append.2 ⟨hs.spaced, List.pairwise_singleton _ _,
          fun a ha b hb => List.mem_singleton.1 hb ▸ hbefore a ha⟩

/-- The histories of a run are spaced. By induction over the steps: a new connection has
asked for none, a turn asks for one only when it is due, and a failure asks for none. -/
theorem run_spaced (count : Option ℕ) (timezone : String) (ops : List Op) :
    ((start count timezone).run ops).Spaced := by
  refine Stream.run_induction ⟨nofun, nofun, List.Pairwise.nil⟩ ?_ ops
  intro s op s' hs hdoes
  cases hdoes with
  | connected _ =>
      refine ⟨fun a ha => (hs.connections a ha).trans (Nat.le_succ _), fun next _ a ha hcon => ?_,
        hs.spaced⟩
      have hle := hs.connections a ha
      change a.connection = s.connections + 1 at hcon
      omega
  | @refused elapsed e offline hphase =>
      have hs' : Stream.Spaced { s with clock := s.clock + elapsed } :=
        ⟨hs.connections, hs.due, hs.spaced⟩
      exact hs'.lost e offline
  | turned hphase hturn _ => exact hturn.spaced hphase hs
  | last hphase hturn _ =>
      have hs' := hturn.spaced hphase hs
      exact ⟨hs'.connections, nofun, hs'.spaced⟩
  | failed hphase hfailed =>
      refine Stream.Spaced.lost ?_ _ _
      obtain rfl | hturned := hfailed.state
      · exact hs
      · exact hturned.spaced hphase hs

/-- **The order of the lines.**  Over every run, the line of a history comes directly after
a snapshot with a device, and two histories are asked for in different connections or
fifteen seconds apart.  `asked` has the histories whose line was written: one whose line
could not be written has ended its connection. -/
theorem lines_follow_snapshots (count : Option ℕ) (timezone : String) (ops : List Op) :
    let s := (start count timezone).run ops
    Grouped s.output ∧ s.asked.Pairwise Asked.Before :=
  ⟨run_grouped count timezone ops, (run_spaced count timezone ops).spaced⟩

/-! ### The snapshots -/

/-- The snapshot that a step would publish. -/
def Op.published : Op → Option Json
  | .connect .. => none
  | .turn t _ => (replyOf t).toOption.map fun sent => withAge sent t.nowMs

/-- A turn publishes the snapshot that was sent in it. -/
theorem Turned.published_eq {t : Turn} {nextHistory : ℕ} {s s' : Stream} {rest : List Event}
    (h : Turned t nextHistory s s' rest) (offline : Except StreamError Unit) :
    s'.published = s.published ++ (Op.turn t offline).published.toList := by
  obtain ⟨sent, hsent, heq⟩ := h.published
  rw [heq, Op.published, hsent]
  rfl

/-- A lost connection publishes no snapshot. -/
@[simp] theorem Stream.lost_published (s : Stream) (e : StreamError)
    (offline : Except StreamError Unit) : (s.lost e offline).published = s.published := by
  obtain ⟨-, heq⟩ | ⟨-, ⟨e', -, heq⟩ | heq⟩ := s.lost_cases e offline
  · rw [heq, Stream.published, Stream.published]
  · rw [heq, Stream.published, Stream.published]
  · rw [heq]
    simp [Stream.published, Event.data]

/-- A step publishes its snapshot, or nothing: the lines of a turn are a snapshot and
perhaps a history, and a turn that fails may have written the first of them. -/
theorem Stream.Does.published {s s' : Stream} {op : Op} (h : s.Does op s') :
    s'.published = s.published ∨ s'.published = s.published ++ op.published.toList := by
  cases h with
  | connected _ => exact .inl rfl
  | refused _ =>
      refine .inl ?_
      rw [Stream.lost_published]
      rfl
  | turned _ hturn _ => exact .inr (hturn.published_eq _)
  | last _ hturn _ => exact .inr (hturn.published_eq _)
  | failed _ hfailed =>
      rw [Stream.lost_published]
      obtain rfl | hturned := hfailed.state
      · exact .inl rfl
      · exact .inr (hturned.published_eq _)

/-- The published snapshots are some of those that came, in their order. Nothing is
published twice, and nothing that did not come from the daemon. -/
theorem run_published (count : Option ℕ) (timezone : String) (ops : List Op) :
    ((start count timezone).run ops).published.Sublist (ops.filterMap Op.published) := by
  induction ops using List.reverseRecOn with
  | nil => exact List.Sublist.refl _
  | append_singleton ops op ih =>
      have hrun : (start count timezone).run (ops ++ [op]) =
          ((start count timezone).run ops).step op := Transition.run_concat ..
      have hop : [op].filterMap Op.published = op.published.toList := by
        cases h : op.published <;> simp [h]
      rw [hrun, List.filterMap_append, hop]
      obtain heq | hdoes := Stream.step_does ((start count timezone).run ops) op
      · rw [heq]
        exact ih.trans (List.sublist_append_left ..)
      · obtain heq | heq := hdoes.published
        · rw [heq]
          exact ih.trans (List.sublist_append_left ..)
        · rw [heq]
          exact ih.append (List.Sublist.refl _)

/-- A published snapshot is one that was sent, with its age. -/
theorem turn_of_mem_published {count : Option ℕ} {timezone : String} {ops : List Op} {data : Json}
    (h : data ∈ ((start count timezone).run ops).published) : ∃ t offline sent,
      Op.turn t offline ∈ ops ∧ replyOf t = .ok sent ∧ data = withAge sent t.nowMs := by
  obtain ⟨op, hop, hpublished⟩ := List.mem_filterMap.1 ((run_published ..).subset h)
  cases op with
  | connect _ _ _ => cases hpublished
  | turn t offline =>
      cases hsent : replyOf t with
      | error e =>
          rw [Op.published, hsent] at hpublished
          cases hpublished
      | ok sent =>
          rw [Op.published, hsent] at hpublished
          exact ⟨t, offline, sent, hop, hsent, (Option.some.inj hpublished).symm⟩

/-- **What is in the snapshots.**  The published snapshots are some of those that were
sent, in their order and none of them twice.  Each has its age beside what was sent, and is
stale if it is older than 3.5 seconds; apart from these two values it is what was sent, and
one without a time is left alone. -/
theorem published_snapshots_are_what_was_sent (count : Option ℕ) (timezone : String)
    (ops : List Op) :
    let s := (start count timezone).run ops
    s.published.Sublist (ops.filterMap Op.published) ∧
    ∀ data ∈ s.published, ∃ t offline sent, Op.turn t offline ∈ ops ∧ replyOf t = .ok sent ∧
      (ageOf sent t.nowMs = none → data = sent) ∧
      ∀ age, ageOf sent t.nowMs = some age → data.get "age_ms" = some (.int age) ∧
        data.get "stale" = (if 3500 < age then some (.bool true) else sent.get "stale") ∧
        ∀ key, key ≠ "age_ms" → key ≠ "stale" → data.get key = sent.get key := by
  intro s
  refine ⟨run_published count timezone ops, fun data hdata => ?_⟩
  obtain ⟨t, offline, sent, hop, hsent, rfl⟩ := turn_of_mem_published hdata
  refine ⟨t, offline, sent, hop, hsent, withAge_of_none, fun age hage => ⟨?_, ?_, ?_⟩⟩
  · rw [withAge_get hage, if_pos rfl]
  · rw [withAge_get hage, if_neg (by decide)]
    simp
  · intro key hkey hkey'
    rw [withAge_get hage, if_neg hkey, if_neg fun h => hkey' h.1]

end Railwatch.Plugin
