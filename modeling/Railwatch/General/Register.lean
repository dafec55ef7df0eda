/-
# A register with a revision

The sequential object that concurrent clients of a compare-and-swap see: a value
and its revision.  An update names the revision it expects and is accepted if it
is the current one, the value is acceptable and there is a next revision; then
the value is replaced and the revision counts up.  `Legal` says that a history is
one of this object.  In a legal history the accepted revisions count up without
a gap (`Legal.revisions`), a read returns the last accepted value, and only
acceptable values are ever read (`Legal.reads_good`).

A system serves the register if each of its steps puts out events that carry on a legal
history; the point at which an update takes effect is the step that puts out its event,
and the order of these points is the order of the register.
-/

import Railwatch.General.Transition

namespace Register

variable {α : Type*}

/-- What a client sees the register do: an update is accepted or refused, or a value is
read with its revision. -/
inductive Event (α : Type*) where
  | accepted (expected : ℕ) (value : α) (revision : ℕ)
  | rejected (expected : ℕ) (value : α)
  | read (revision : ℕ) (value : α)

/-- The register after an event. -/
def next (s : ℕ × α) : Event α → ℕ × α
  | .accepted _ value revision => (revision, value)
  | _ => s

/-- The revision an event accepts. -/
def Event.revision? : Event α → Option ℕ
  | .accepted _ _ revision => some revision
  | _ => none

variable (limit : ℕ) (good : α → Prop)

/-- The update is one that the register takes. -/
def Takes (s : ℕ × α) (expected : ℕ) (value : α) : Prop :=
  expected = s.1 ∧ good value ∧ expected + 1 < limit

/-- The event is what the register does. -/
def Fits (s : ℕ × α) : Event α → Prop
  | .accepted expected value revision =>
      Takes limit good s expected value ∧ revision = expected + 1
  | .rejected expected value => ¬ Takes limit good s expected value
  | .read revision value => (revision, value) = s

/-- A history of the register from a state on. -/
def Legal (s : ℕ × α) (events : List (Event α)) : Prop :=
  Transition.Along next (Fits limit good) s events

variable {limit good}

/-- The register after a history. -/
def after (s : ℕ × α) (events : List (Event α)) : ℕ × α := Transition.run next s events

/-- Two legal histories, the second from where the first one ends. -/
theorem legal_append {s : ℕ × α} {events events' : List (Event α)}
    (h : Legal limit good s events) (h' : Legal limit good (after s events) events') :
    Legal limit good s (events ++ events') := by
  induction events' using List.reverseRecOn with
  | nil => rwa [List.append_nil]
  | append_singleton events' e ih =>
      obtain ⟨hlegal, he⟩ := (Transition.along_concat next).1 h'
      rw [← List.append_assoc]
      refine (Transition.along_concat next).2 ⟨ih hlegal, ?_⟩
      rwa [Transition.run_append]

/-- **Accepted revisions count up without a gap.** An update is accepted only with the
revision that is current, and makes the next one of it. -/
theorem Legal.revisions {s : ℕ × α} {events : List (Event α)} (h : Legal limit good s events) :
    events.filterMap Event.revision? =
      List.range' (s.1 + 1) (events.filterMap Event.revision?).length := by
  induction events generalizing s with
  | nil => rfl
  | cons e events ih =>
      obtain ⟨he, hrest⟩ := h
      cases e with
      | accepted expected value revision =>
          obtain ⟨⟨rfl, -, -⟩, rfl⟩ := he
          exact congrArg (List.cons (s.1 + 1)) (ih hrest)
      | rejected => exact ih hrest
      | read => exact ih hrest

/-- **Only good values are read.** A read returns the value of the last update that was
accepted, and only good ones are. -/
theorem Legal.reads_good {s : ℕ × α} {events : List (Event α)} (h : Legal limit good s events)
    (hs : good s.2) {revision : ℕ} {value : α} (hread : .read revision value ∈ events) :
    good value := by
  induction events generalizing s with
  | nil => cases hread
  | cons e events ih =>
      obtain ⟨he, hrest⟩ := h
      rcases List.mem_cons.1 hread with rfl | hread
      · cases he
        exact hs
      · refine ih hrest ?_ hread
        cases e with
        | accepted => exact he.1.2.1
        | rejected => exact hs
        | read => exact hs

end Register
