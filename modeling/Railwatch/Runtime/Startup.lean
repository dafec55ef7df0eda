/-
# One daemon for a runtime directory

`src/bin/daemon.rs`: the lock, `bind`, and the removal of the sockets at the end of `main`,
for any number of processes that start, fail, stop or are killed at any time.

A process holds the lock on `daemon.lock` from `flock` on until its descriptors are closed,
and a listening socket until its own is.  The system calls are the steps; those of different
processes come in any order.  A process that fails or is killed stops where it stands, and
its descriptors are closed one by one.  `connect` succeeds only if somebody listens.

The permissions and the control group are left out: they touch neither the lock nor the
names.
-/

import Railwatch.General.Transition

namespace Railwatch.Startup

/-- `monitor.sock` and `control.sock`. They are bound in this order, and unlinked in it. -/
inductive Endpoint where
  | monitor
  | control
  deriving DecidableEq, Repr

/-- What a name leads to: a socket, told by its inode, or something else. A socket stays
when its process is gone. -/
inductive Entry where
  | socket (inode : ℕ)
  | other
  deriving DecidableEq, Repr

/-- The next system call of a process; one that is `exiting` has none. A process can
fail or be killed at every stage. -/
inductive Stage where
  | locking
  | checking (e : Endpoint)
  | probing (e : Endpoint)
  | removing (e : Endpoint)
  | binding (e : Endpoint)
  | configuring
  | serving
  | unlinking (e : Endpoint)
  | exiting
  deriving DecidableEq, Repr

/-- The processes, the one that holds the lock, the names, the processes that listen, by
inode, and the number of inodes. -/
structure World where
  /-- Where a process is, if it is there. -/
  stage : ℕ → Option Stage := fun _ => none
  /-- Who has the lock. -/
  holder : Option ℕ := none
  /-- What is at a name. -/
  entry : Endpoint → Option Entry
  /-- Who listens at an inode. -/
  listener : ℕ → Option ℕ := fun _ => none
  /-- The next inode. -/
  inodes : ℕ

/-- What may be found where a socket should be. What is no socket is left alone, and
stops the start. -/
inductive Leftover where
  | nothing
  | socket
  | other
  deriving DecidableEq, Repr

/-- The inode of a socket that was left. -/
def Endpoint.inode : Endpoint → ℕ
  | .monitor => 0
  | .control => 1

/-- A runtime directory without a daemon. -/
def World.initial (left : Endpoint → Leftover) : World where
  entry e :=
    match left e with
    | .nothing => none
    | .socket => some (.socket e.inode)
    | .other => some .other
  inodes := 2

/-- A process makes its next call. -/
def World.goes (w : World) (p : ℕ) (s : Stage) : World :=
  { w with stage := Function.update w.stage p (some s) }

/-- What may happen: a process makes a call, fails, or loses a descriptor. A failure is
a kill, too: the kernel takes the descriptors back. -/
inductive Op where
  | start (p : ℕ)
  | flock (p : ℕ)
  | check (p : ℕ)
  | probe (p : ℕ) (reachable : Bool)
  | remove (p : ℕ)
  | bind (p : ℕ)
  | ready (p : ℕ)
  | stop (p : ℕ)
  | unlink (p : ℕ)
  | fail (p : ℕ)
  | unlock (p : ℕ)
  | hangUp (p inode : ℕ)
  | gone (p : ℕ)

/-- The stage behind the socket that has been bound. -/
def Endpoint.next : Endpoint → Stage
  | .monitor => .checking .control
  | .control => .configuring

/-- The stage behind the socket that has been removed. -/
def Endpoint.last : Endpoint → Stage
  | .monitor => .unlinking .control
  | .control => .exiting

/-- Somebody listens at a name. -/
def World.listens (w : World) (e : Endpoint) : Bool :=
  match w.entry e with
  | some (.socket i) => (w.listener i).isSome
  | _ => false

/-- One step, of a process or of the kernel. A process takes the lock, and then for each
of its sockets looks at the name, tries whether somebody listens, removes what is left
of an earlier process and binds. A process that exits gives back the lock and its
listeners, in any order. -/
def World.step (w : World) : Op → World
  | .start p => if w.stage p = none then w.goes p .locking else w
  | .flock p =>
      if w.stage p = some .locking then
        match w.holder with
        | none => { w.goes p (.checking .monitor) with holder := some p }
        | some _ => w.goes p .exiting
      else w
  | .check p =>
      match w.stage p with
      | some (.checking e) =>
          match w.entry e with
          | none => w.goes p (.binding e)
          | some (.socket _) => w.goes p (.probing e)
          | some .other => w.goes p .exiting
      | _ => w
  | .probe p reachable =>
      match w.stage p with
      | some (.probing e) => w.goes p (if reachable ∧ w.listens e then .exiting else .removing e)
      | _ => w
  | .remove p =>
      match w.stage p with
      | some (.removing e) =>
          { w.goes p (.binding e) with entry := Function.update w.entry e none }
      | _ => w
  | .bind p =>
      match w.stage p with
      | some (.binding e) =>
          if w.entry e = none then
            { w.goes p e.next with
              entry := Function.update w.entry e (some (.socket w.inodes))
              listener := Function.update w.listener w.inodes (some p)
              inodes := w.inodes + 1 }
          else w.goes p .exiting
      | _ => w
  | .ready p => if w.stage p = some .configuring then w.goes p .serving else w
  | .stop p => if w.stage p = some .serving then w.goes p (.unlinking .monitor) else w
  | .unlink p =>
      match w.stage p with
      | some (.unlinking e) => { w.goes p e.last with entry := Function.update w.entry e none }
      | _ => w
  | .fail p => if w.stage p = none then w else w.goes p .exiting
  | .unlock p =>
      if w.stage p = some .exiting ∧ w.holder = some p then { w with holder := none } else w
  | .hangUp p i =>
      if w.stage p = some .exiting ∧ w.listener i = some p then
        { w with listener := Function.update w.listener i none }
      else w
  | .gone p =>
      if w.stage p = some .exiting then
        { w with
          stage := Function.update w.stage p none
          holder := if w.holder = some p then none else w.holder
          listener := fun i => if w.listener i = some p then none else w.listener i }
      else w

/-- A number of steps. -/
def World.run (w : World) (ops : List Op) : World := Transition.run World.step w ops

/-! ### What a step does -/

/-- A process has the lock. -/
def Stage.locked : Stage → Bool
  | .locking | .exiting => false
  | _ => true

/-- A process has bound a socket, and has not removed it. -/
def Stage.bound : Stage → Endpoint → Bool
  | .checking e, e' | .probing e, e' | .removing e, e' | .binding e, e' =>
      e = .control && e' = .monitor
  | .configuring, _ | .serving, _ => true
  | .unlinking e, e' => e = .monitor || e' = .control
  | _, _ => false

/-- A process has found a socket where its own should be. -/
def Stage.found : Stage → Endpoint → Bool
  | .probing e, e' | .removing e, e' => e = e'
  | _, _ => false

/-- The steps that change something. Each has what it needs of the state before, so that
an invariant has one case for each; `advance` stands for all the calls that only move a
process on. -/
inductive World.Does (w : World) : World → Prop where
  | start {p : ℕ} (hstage : w.stage p = none) : w.Does (w.goes p .locking)
  | lock {p : ℕ} (hstage : w.stage p = some .locking) (hholder : w.holder = none) :
      w.Does { w.goes p (.checking .monitor) with holder := some p }
  | advance {p : ℕ} {s s' : Stage} (hstage : w.stage p = some s) (hlocked : s.locked)
      (hbound : ∀ e, s'.bound e → s.bound e)
      (hfound : ∀ e, s'.found e → s.found e ∨ ∃ i, w.entry e = some (.socket i))
      (hnext : s' ≠ .locking) : w.Does (w.goes p s')
  | remove {p : ℕ} {e : Endpoint} (hstage : w.stage p = some (.removing e)) :
      w.Does { w.goes p (.binding e) with entry := Function.update w.entry e none }
  | bind {p : ℕ} {e : Endpoint} (hstage : w.stage p = some (.binding e))
      (hentry : w.entry e = none) :
      w.Does { w.goes p e.next with
        entry := Function.update w.entry e (some (.socket w.inodes))
        listener := Function.update w.listener w.inodes (some p)
        inodes := w.inodes + 1 }
  | unlink {p : ℕ} {e : Endpoint} (hstage : w.stage p = some (.unlinking e)) :
      w.Does { w.goes p e.last with entry := Function.update w.entry e none }
  | exit {p : ℕ} (hstage : w.stage p ≠ none) : w.Does (w.goes p .exiting)
  | unlock {p : ℕ} (hstage : w.stage p = some .exiting) (hholder : w.holder = some p) :
      w.Does { w with holder := none }
  | hangUp {p i : ℕ} (hstage : w.stage p = some .exiting) (hlistener : w.listener i = some p) :
      w.Does { w with listener := Function.update w.listener i none }
  | gone {p : ℕ} (hstage : w.stage p = some .exiting) :
      w.Does { w with
        stage := Function.update w.stage p none
        holder := if w.holder = some p then none else w.holder
        listener := fun i => if w.listener i = some p then none else w.listener i }

/-- **What a step does**: nothing, or what is possible. The cases name the entry and the
process, so that what is left alone by a step is clear from its case. -/
theorem World.step_does (w : World) (op : Op) : w.step op = w ∨ w.Does (w.step op) := by
  cases op with
  | start p =>
      simp only [World.step]
      split_ifs with h
      · exact .inr (.start h)
      · exact .inl rfl
  | flock p =>
      simp only [World.step]
      split_ifs with h
      · cases hholder : w.holder with
        | none => exact .inr (.lock h hholder)
        | some q => exact .inr (.exit (by rw [h]; exact Option.some_ne_none _))
      · exact .inl rfl
  | check p =>
      simp only [World.step]
      split
      · rename_i e hstage
        refine .inr ?_
        cases hentry : w.entry e with
        | none => exact .advance hstage rfl (fun _ h => h) nofun nofun
        | some entry =>
            cases entry with
            | socket i =>
                refine .advance hstage rfl (fun _ h => h) (fun e' he => .inr ⟨i, ?_⟩) nofun
                obtain rfl : e = e' := of_decide_eq_true he
                exact hentry
            | other => exact .exit (by rw [hstage]; exact Option.some_ne_none _)
      · exact .inl rfl
  | probe p reachable =>
      simp only [World.step]
      split
      · rename_i e hstage
        refine .inr ?_
        split_ifs
        · exact .exit (by rw [hstage]; exact Option.some_ne_none _)
        · exact .advance hstage rfl (fun _ h => h) (fun _ h => .inl h) nofun
      · exact .inl rfl
  | remove p =>
      simp only [World.step]
      split
      · rename_i e hstage
        exact .inr (.remove hstage)
      · exact .inl rfl
  | bind p =>
      simp only [World.step]
      split
      · rename_i e hstage
        split_ifs with hentry
        · exact .inr (.bind hstage hentry)
        · exact .inr (.exit (by rw [hstage]; exact Option.some_ne_none _))
      · exact .inl rfl
  | ready p =>
      simp only [World.step]
      split_ifs with h
      · exact .inr (.advance h rfl (fun _ h => h) nofun nofun)
      · exact .inl rfl
  | stop p =>
      simp only [World.step]
      split_ifs with h
      · exact .inr (.advance h rfl (fun _ _ => rfl) nofun nofun)
      · exact .inl rfl
  | unlink p =>
      simp only [World.step]
      split
      · rename_i e hstage
        exact .inr (.unlink hstage)
      · exact .inl rfl
  | fail p =>
      simp only [World.step]
      split_ifs with h
      · exact .inl rfl
      · exact .inr (.exit h)
  | unlock p =>
      simp only [World.step]
      split_ifs with h
      · exact .inr (.unlock h.1 h.2)
      · exact .inl rfl
  | hangUp p i =>
      simp only [World.step]
      split_ifs with h
      · exact .inr (.hangUp h.1 h.2)
      · exact .inl rfl
  | gone p =>
      simp only [World.step]
      by_cases h : w.stage p = some .exiting
      · rw [if_pos h]
        exact .inr (.gone h)
      · rw [if_neg h]
        exact .inl rfl

/-! ### The invariant -/

/-- What is known of a world: a process that is past the lock has it, and the one that has
it exists; a process that listens exists; a socket that a process has bound is its own; one
that it has found is a socket; and an inode is used once. -/
structure World.Sound (w : World) : Prop where
  /-- A process that is past the lock has it. -/
  locked : ∀ p s, w.stage p = some s → s.locked → w.holder = some p
  /-- The process that has it is there. -/
  holder : ∀ p, w.holder = some p → ∃ s, w.stage p = some s
  /-- So is one that listens, and its inode was given out. -/
  listener : ∀ i p, w.listener i = some p → i < w.inodes ∧ ∃ s, w.stage p = some s
  /-- A socket that a process has bound is at its name, and is its own. -/
  bound : ∀ p s e, w.stage p = some s → s.bound e →
    ∃ i, w.entry e = some (.socket i) ∧ w.listener i = some p
  /-- What a process has found at a name is a socket. -/
  found : ∀ p s e, w.stage p = some s → s.found e → ∃ i, w.entry e = some (.socket i)
  /-- A socket has an inode that was given out. -/
  entry : ∀ e i, w.entry e = some (.socket i) → i < w.inodes

/-- A process that has bound a socket has the lock. -/
theorem Stage.locked_of_bound {s : Stage} {e : Endpoint} (h : s.bound e) : s.locked := by
  cases s <;> first | rfl | cases h

/-- So has one that has found a socket of another. -/
theorem Stage.locked_of_found {s : Stage} {e : Endpoint} (h : s.found e) : s.locked := by
  cases s <;> first | rfl | cases h

/-- A process goes on to its next stage. -/
@[simp] theorem World.stage_goes (w : World) (p : ℕ) (s : Stage) :
    (w.goes p s).stage = Function.update w.stage p (some s) := rfl

/-- Another process stays where it was. -/
theorem goes_stage {w : World} {p q : ℕ} {s t : Stage} (h : (w.goes p s).stage q = some t) :
    q = p ∧ t = s ∨ w.stage q = some t := by
  rw [World.stage_goes] at h
  by_cases hq : q = p
  · subst hq
    rw [Function.update_self] at h
    exact .inl ⟨rfl, (Option.some.inj h).symm⟩
  · rw [Function.update_of_ne hq] at h
    exact .inr h

/-- And it stays there at all. -/
theorem goes_isSome {w : World} (p : ℕ) (s : Stage) {q : ℕ} (h : ∃ t, w.stage q = some t) :
    ∃ t, (w.goes p s).stage q = some t := by
  rw [World.stage_goes]
  by_cases hq : q = p
  · subst hq
    exact ⟨s, Function.update_self ..⟩
  · rwa [Function.update_of_ne hq]

/-- What is left when something is taken away was there before. -/
theorem of_update_none {α β : Type} [DecidableEq α] {f : α → Option β} {a a' : α} {b : β}
    (h : Function.update f a none a' = some b) : f a' = some b := by
  by_cases ha : a' = a
  · subst ha
    rw [Function.update_self] at h
    cases h
  · rwa [Function.update_of_ne ha] at h

namespace World.Sound

variable {w w' : World}

/-- A process starts, fails, or finds the lock taken. It has bound nothing then, so
nothing is claimed of it but that it is there. -/
theorem goes (h : w.Sound) (p : ℕ) {s' : Stage} (hlocked : s'.locked = false)
    (hbound : ∀ e, s'.bound e = false) (hfound : ∀ e, s'.found e = false) :
    (w.goes p s').Sound := by
  refine ⟨fun q s hq hs => ?_, fun q hq => ?_, fun i q hq => ?_, fun q s e hq hs => ?_,
    fun q s e hq hs => ?_, h.entry⟩
  · obtain ⟨rfl, rfl⟩ | hq := goes_stage hq
    · exact absurd hs (by rw [hlocked]; exact Bool.false_ne_true)
    · exact h.locked q s hq hs
  · exact goes_isSome p s' (h.holder q hq)
  · exact ⟨(h.listener i q hq).1, goes_isSome p s' (h.listener i q hq).2⟩
  · obtain ⟨rfl, rfl⟩ | hq := goes_stage hq
    · exact absurd hs (by rw [hbound]; exact Bool.false_ne_true)
    · exact h.bound q s e hq hs
  · obtain ⟨rfl, rfl⟩ | hq := goes_stage hq
    · exact absurd hs (by rw [hfound]; exact Bool.false_ne_true)
    · exact h.found q s e hq hs

/-- The process with the lock makes a call: the others have bound and found nothing, so
only what the call leaves of this process has to be checked. -/
theorem alter (h : w.Sound) {p : ℕ} {s s' : Stage} (hstage : w.stage p = some s)
    (hlocked : s.locked) {entry : Endpoint → Option Entry} {listener : ℕ → Option ℕ} {inodes : ℕ}
    (hlistener : ∀ i q, listener i = some q → i < inodes ∧ (w.listener i = some q ∨ q = p))
    (hbound : ∀ e, s'.bound e → ∃ i, entry e = some (.socket i) ∧ listener i = some p)
    (hfound : ∀ e, s'.found e → ∃ i, entry e = some (.socket i))
    (hentry : ∀ e i, entry e = some (.socket i) → i < inodes) :
    World.Sound { w.goes p s' with entry := entry, listener := listener, inodes := inodes } := by
  have hholder := h.locked p s hstage hlocked
  have hself : ∀ q t, (w.goes p s').stage q = some t → t.locked → q = p := by
    intro q t hq ht
    obtain ⟨rfl, -⟩ | hq := goes_stage hq
    · rfl
    · exact Option.some.inj ((h.locked q t hq ht).symm.trans hholder)
  have hnow : ∀ t, (w.goes p s').stage p = some t → t = s' := by
    intro t ht
    rw [World.stage_goes, Function.update_self] at ht
    exact (Option.some.inj ht).symm
  refine ⟨fun q t hq ht => ?_, fun q hq => goes_isSome p s' (h.holder q hq), fun i q hq => ?_,
    fun q t e hq ht => ?_, fun q t e hq ht => ?_, hentry⟩
  · rw [hself q t hq ht]
    exact hholder
  · obtain ⟨hlt, hold | rfl⟩ := hlistener i q hq
    · exact ⟨hlt, goes_isSome p s' (h.listener i q hold).2⟩
    · exact ⟨hlt, goes_isSome q s' ⟨s, hstage⟩⟩
  · obtain rfl := hself q t hq (Stage.locked_of_bound ht)
    obtain rfl := hnow t hq
    exact hbound e ht
  · obtain rfl := hself q t hq (Stage.locked_of_found ht)
    obtain rfl := hnow t hq
    exact hfound e ht

/-- Each system call of a process keeps it. The calls that touch a name are all made by
the process with the lock, and a process that goes gives back its lock and its
listeners. -/
theorem step (h : w.Sound) (hdoes : w.Does w') : w'.Sound := by
  have hsame : ∀ p i q, w.listener i = some q → i < w.inodes ∧ (w.listener i = some q ∨ q = p) :=
    fun p i q hq => ⟨(h.listener i q hq).1, .inl hq⟩
  cases hdoes with
  | start hstage => exact h.goes _ rfl (fun _ => rfl) fun _ => rfl
  | exit hstage => exact h.goes _ rfl (fun _ => rfl) fun _ => rfl
  | @lock p hstage hholder =>
      refine ⟨fun q s hq hs => ?_, fun q hq => ?_, fun i q hq => ?_, fun q s e hq hs => ?_,
        fun q s e hq hs => ?_, h.entry⟩
      · obtain ⟨rfl, -⟩ | hq := goes_stage hq
        · rfl
        · exact absurd ((h.locked q s hq hs).symm.trans hholder) (Option.some_ne_none q)
      · obtain rfl := Option.some.inj hq
        exact goes_isSome _ _ ⟨_, hstage⟩
      · exact ⟨(h.listener i q hq).1, goes_isSome _ _ (h.listener i q hq).2⟩
      · obtain ⟨-, rfl⟩ | hq := goes_stage hq
        · cases hs
        · exact h.bound q s e hq hs
      · obtain ⟨-, rfl⟩ | hq := goes_stage hq
        · cases hs
        · exact h.found q s e hq hs
  | advance hstage hlocked hbound hfound hnext =>
      refine h.alter hstage hlocked (hsame _) (fun e he => ?_) (fun e he => ?_) h.entry
      · exact h.bound _ _ e hstage (hbound e he)
      · exact (hfound e he).elim (h.found _ _ e hstage) id
  | @remove p e hstage =>
      refine h.alter hstage rfl (hsame _) (fun e' he => ?_) nofun fun e' i he => ?_
      · have hne : e' ≠ e := by
          rintro rfl
          cases e' <;> cases he
        rw [Function.update_of_ne hne]
        exact h.bound p _ e' hstage he
      · exact h.entry e' i (of_update_none he)
  -- the new socket has a number that no other has had
  | @bind p e hstage hentry =>
      refine h.alter hstage rfl (fun i q hq => ?_) (fun e' he => ?_) (fun e' he => ?_)
        fun e' i he => ?_
      · by_cases hi : i = w.inodes
        · subst hi
          rw [Function.update_self] at hq
          exact ⟨Nat.lt_succ_self _, .inr (Option.some.inj hq).symm⟩
        · rw [Function.update_of_ne hi] at hq
          exact ⟨(h.listener i q hq).1.trans (Nat.lt_succ_self _), .inl hq⟩
      · by_cases hne : e' = e
        · subst hne
          exact ⟨w.inodes, Function.update_self .., Function.update_self ..⟩
        · have hold : (Stage.binding e).bound e' := by
            cases e <;> cases e' <;> first | rfl | exact absurd rfl hne | cases he
          obtain ⟨i, hi, hlistener⟩ := h.bound p _ e' hstage hold
          refine ⟨i, by rwa [Function.update_of_ne hne], ?_⟩
          rwa [Function.update_of_ne (h.entry e' i hi).ne]
      · cases e <;> cases he
      · by_cases hne : e' = e
        · subst hne
          rw [Function.update_self] at he
          obtain rfl := Entry.socket.inj (Option.some.inj he)
          exact Nat.lt_succ_self _
        · rw [Function.update_of_ne hne] at he
          exact (h.entry e' i he).trans (Nat.lt_succ_self _)
  | @unlink p e hstage =>
      refine h.alter hstage rfl (hsame _) (fun e' he => ?_) (fun e' he => ?_) fun e' i he => ?_
      · have hne : e' ≠ e := by
          rintro rfl
          cases e' <;> cases he
        have hold : (Stage.unlinking e).bound e' := by
          cases e <;> cases e' <;> first | rfl | cases he
        rw [Function.update_of_ne hne]
        exact h.bound p _ e' hstage hold
      · cases e <;> cases he
      · exact h.entry e' i (of_update_none he)
  | @unlock p hstage hholder =>
      refine ⟨fun q s hq hs => ?_, nofun, h.listener, h.bound, h.found, h.entry⟩
      obtain rfl := Option.some.inj ((h.locked q s hq hs).symm.trans hholder)
      obtain rfl := Option.some.inj (hq.symm.trans hstage)
      cases hs
  | @hangUp p i hstage hlistener =>
      refine ⟨h.locked, h.holder, fun j q hq => ?_, fun q s e hq hs => ?_, h.found, h.entry⟩
      · exact h.listener j q (of_update_none hq)
      · obtain ⟨j, hj, hq'⟩ := h.bound q s e hq hs
        have hne : j ≠ i := by
          rintro rfl
          obtain rfl := Option.some.inj (hlistener.symm.trans hq')
          obtain rfl := Option.some.inj (hq.symm.trans hstage)
          cases hs
        exact ⟨j, hj, (Function.update_of_ne hne ..).trans hq'⟩
  | @gone p hstage =>
      have hother : ∀ q s, Function.update w.stage p none q = some s →
          q ≠ p ∧ w.stage q = some s := by
        intro q s hq
        refine ⟨fun heq => ?_, of_update_none hq⟩
        rw [heq, Function.update_self] at hq
        cases hq
      have hstays : ∀ q, q ≠ p → (∃ s, w.stage q = some s) →
          ∃ s, Function.update w.stage p none q = some s := by
        intro q hne hq
        rwa [Function.update_of_ne hne]
      have hkept : ∀ (o : Option ℕ) q, (if o = some p then none else o) = some q →
          q ≠ p ∧ o = some q := by
        intro o q hq
        split_ifs at hq with ho
        refine ⟨fun heq => ho ?_, hq⟩
        rw [hq, heq]
      have hkeeps : ∀ (o : Option ℕ) q, q ≠ p → o = some q →
          (if o = some p then none else o) = some q := by
        rintro o q hne rfl
        exact if_neg fun heq => hne (Option.some.inj heq)
      refine ⟨fun q s hq hs => ?_, fun q hq => ?_, fun i q hq => ?_, fun q s e hq hs => ?_,
        fun q s e hq hs => ?_, h.entry⟩
      · obtain ⟨hne, hq⟩ := hother q s hq
        exact hkeeps _ q hne (h.locked q s hq hs)
      · obtain ⟨hne, hq⟩ := hkept _ q hq
        exact hstays q hne (h.holder q hq)
      · obtain ⟨hne, hq⟩ := hkept _ q hq
        exact ⟨(h.listener i q hq).1, hstays q hne (h.listener i q hq).2⟩
      · obtain ⟨hne, hq⟩ := hother q s hq
        obtain ⟨i, hi, hlistener⟩ := h.bound q s e hq hs
        exact ⟨i, hi, hkeeps _ q hne hlistener⟩
      · exact h.found q s e (hother q s hq).2 hs

end World.Sound

/-- Before the first process nothing is locked, whatever was left behind. -/
theorem sound_initial (left : Endpoint → Leftover) : (World.initial left).Sound := by
  refine ⟨nofun, nofun, nofun, nofun, nofun, fun e i he => ?_⟩
  simp only [World.initial] at he
  split at he
  · cases he
  · obtain rfl := Entry.socket.inj (Option.some.inj he)
    cases e <;> simp [Endpoint.inode, World.initial]
  · cases he

/-- Any processes may do any system calls in any order. -/
theorem sound_run (left : Endpoint → Leftover) (ops : List Op) :
    ((World.initial left).run ops).Sound := by
  refine Transition.run_induction World.step (sound_initial left) (fun w op h => ?_) ops
  obtain heq | hdoes := w.step_does op
  · rwa [heq]
  · exact h.step hdoes

/-! ### Files that are not sockets -/

/-- What is not a socket is neither made nor removed: what is removed is a socket, found
as one or bound by the process itself. -/
theorem other_step {w w' : World} (h : w.Sound) (hdoes : w.Does w') (e : Endpoint) :
    w'.entry e = some .other ↔ w.entry e = some .other := by
  have hreplace : ∀ {e' : Endpoint} {i : ℕ} {o : Option Entry}, w.entry e' = some (.socket i) →
      o ≠ some .other → (Function.update w.entry e' o e = some .other ↔
        w.entry e = some .other) := by
    intro e' i o hi ho
    by_cases he : e = e'
    · subst he
      rw [Function.update_self, hi]
      exact ⟨fun h => absurd h ho, nofun⟩
    · rw [Function.update_of_ne he]
  cases hdoes with
  | @remove p e' hstage =>
      obtain ⟨i, hi⟩ := h.found p _ e' hstage (decide_eq_true rfl)
      exact hreplace hi nofun
  | @unlink p e' hstage =>
      obtain ⟨i, hi, -⟩ := h.bound p _ e' hstage (by cases e' <;> rfl)
      exact hreplace hi nofun
  | @bind p e' hstage hentry =>
      by_cases he : e = e'
      · subst he
        show Function.update w.entry e _ e = _ ↔ _
        rw [Function.update_self, hentry]
        exact ⟨nofun, nofun⟩
      · show Function.update w.entry e' _ e = _ ↔ _
        rw [Function.update_of_ne he]
  | _ => rfl

/-- What is no socket stays in its place, and nothing becomes it. -/
theorem other_run (left : Endpoint → Leftover) (ops : List Op) (e : Endpoint) :
    ((World.initial left).run ops).entry e = some .other ↔ left e = .other := by
  have hkept : ((World.initial left).run ops).Sound ∧
      (((World.initial left).run ops).entry e = some .other ↔
        (World.initial left).entry e = some .other) := by
    refine Transition.run_induction (I := fun w => w.Sound ∧
      (w.entry e = some .other ↔ (World.initial left).entry e = some .other)) World.step
      ⟨sound_initial left, Iff.rfl⟩ (fun w op h => ?_) ops
    obtain heq | hdoes := w.step_does op
    · rwa [heq]
    · exact ⟨h.1.step hdoes, (other_step h.1 hdoes e).trans h.2⟩
  refine hkept.2.trans ?_
  simp only [World.initial]
  cases left e <;> simp

/-- **One daemon serves.**  Any number of processes may start, fail and be killed in a
runtime directory, whatever was left in it.  No two of them are past the lock.  While one of
them serves, both names lead to the sockets it listens at: no other process has removed or
replaced them.  A name that leads to something other than a socket keeps it. -/
theorem one_daemon_serves (left : Endpoint → Leftover) (ops : List Op) :
    let w := (World.initial left).run ops
    (∀ p q s t, w.stage p = some s → w.stage q = some t → s.locked → t.locked → p = q) ∧
    (∀ p e, w.stage p = some .serving →
      ∃ i, w.entry e = some (.socket i) ∧ w.listener i = some p) ∧
    ∀ e, w.entry e = some .other ↔ left e = .other := by
  intro w
  have h : w.Sound := sound_run left ops
  refine ⟨fun p q s t hp hq hs ht => ?_, fun p e hp => h.bound p _ e hp rfl, other_run left ops⟩
  exact Option.some.inj ((h.locked p s hp hs).symm.trans (h.locked q t hq ht))

/-! ### Starting again -/

/-- The calls of `bind`. -/
def bindCalls (p : ℕ) : List Op := [.check p, .probe p true, .remove p, .bind p]

/-- The calls of a process that is not disturbed. -/
def launch (p : ℕ) : List Op :=
  [Op.start p, .flock p] ++ (bindCalls p ++ (bindCalls p ++ [Op.ready p]))

/-- The end of a process that is not disturbed. -/
def shutdown (p : ℕ) : List Op := [.stop p, .unlink p, .unlink p, .gone p]

/-- Only the last stage counts. -/
theorem World.goes_goes (w : World) (p : ℕ) (s t : Stage) : (w.goes p s).goes p t = w.goes p t := by
  simp [World.goes]

/-- `bind`, if nobody listens at the name: a socket that was left there is removed, and
a new one takes its place, at which the process listens. -/
theorem run_bind {w : World} {p : ℕ} {e : Endpoint} (hstage : w.stage p = some (.checking e))
    (hentry : w.entry e ≠ some .other) (hlistens : w.listens e = false) :
    w.run (bindCalls p) = { w.goes p e.next with
      entry := Function.update w.entry e (some (.socket w.inodes))
      listener := Function.update w.listener w.inodes (some p)
      inodes := w.inodes + 1 } := by
  cases hfound : w.entry e with
  | none =>
      simp [World.run, bindCalls, World.step, World.goes, hstage, hfound, Function.update_idem]
  | some entry =>
      cases entry with
      | other => exact absurd hfound hentry
      | socket i =>
          have hcheck : w.step (.check p) = w.goes p (.probing e) := by
            simp [World.step, hstage, hfound]
          have hprobe : (w.goes p (.probing e)).step (.probe p true) = w.goes p (.removing e) := by
            have hfree : (w.goes p (.probing e)).listens e = false := hlistens
            simp [World.step, hfree, World.goes_goes]
          have hremove : (w.goes p (.removing e)).step (.remove p) =
              { w.goes p (.binding e) with entry := Function.update w.entry e none } := by
            simp [World.step, World.goes]
          rw [World.run, bindCalls, Transition.run_cons, hcheck, Transition.run_cons, hprobe,
            Transition.run_cons, hremove]
          simp [World.step, World.goes]

/-- **A daemon can always be started again.**  When the processes of a run are gone, however
they ended, a new one that is not disturbed gets to serve, unless something that is not a
socket is in its place; and when it stops, it leaves no sockets. -/
theorem daemon_starts_again {left : Endpoint → Leftover} (hleft : ∀ e, left e ≠ .other)
    (ops : List Op) (hgone : ∀ q, ((World.initial left).run ops).stage q = none) (p : ℕ) :
    let w := (World.initial left).run ops
    (w.run (launch p)).stage p = some .serving ∧
    ∀ e, (w.run (launch p ++ shutdown p)).entry e = none := by
  intro w
  have h : w.Sound := sound_run left ops
  have hother : ∀ e, w.entry e ≠ some .other := fun e he =>
    hleft e ((other_run left ops e).1 he)
  have hholder : w.holder = none := by
    cases hp : w.holder with
    | none => rfl
    | some q =>
        obtain ⟨s, hs⟩ := h.holder q hp
        exact absurd (hs.symm.trans (hgone q)) (Option.some_ne_none s)
  have hlistener : ∀ i, w.listener i = none := by
    intro i
    cases hp : w.listener i with
    | none => rfl
    | some q =>
        obtain ⟨-, s, hs⟩ := h.listener i q hp
        exact absurd (hs.symm.trans (hgone q)) (Option.some_ne_none s)
  have hstage : w.stage p = none := hgone p
  have hlocked : w.run [.start p, .flock p] =
      { w.goes p (.checking .monitor) with holder := some p } := by
    simp [World.run, World.step, World.goes, hstage, hholder]
  have hfree : ∀ e, w.listens e = false := by
    intro e
    unfold World.listens
    split
    · rw [hlistener]
      rfl
    · rfl
  have hmonitor : World.run { w.goes p (.checking .monitor) with holder := some p }
      (bindCalls p) = { w.goes p (.checking .control) with
        holder := some p
        entry := Function.update w.entry .monitor (some (.socket w.inodes))
        listener := Function.update w.listener w.inodes (some p)
        inodes := w.inodes + 1 } := by
    refine (run_bind (e := .monitor) (by simp) ?_ ?_).trans ?_
    · exact hother .monitor
    · exact hfree .monitor
    · simp [World.goes, Endpoint.next]
  have hcontrol : World.run { w.goes p (.checking .control) with
        holder := some p
        entry := Function.update w.entry .monitor (some (.socket w.inodes))
        listener := Function.update w.listener w.inodes (some p)
        inodes := w.inodes + 1 }
      (bindCalls p) = { w.goes p .configuring with
        holder := some p
        entry := Function.update (Function.update w.entry .monitor (some (.socket w.inodes)))
          .control (some (.socket (w.inodes + 1)))
        listener := Function.update (Function.update w.listener w.inodes (some p)) (w.inodes + 1)
          (some p)
        inodes := w.inodes + 2 } := by
    refine (run_bind (e := .control) (by simp) ?_ ?_).trans ?_
    · simpa using hother .control
    · -- its socket, if there is one, is older than the one just bound
      unfold World.listens
      simp only [Function.update_of_ne (show Endpoint.control ≠ .monitor by decide)]
      split
      · rename_i i hi
        rw [Function.update_of_ne (h.entry .control i hi).ne, hlistener]
        rfl
      · rfl
    · simp [World.goes, Endpoint.next]
  have hlaunch : w.run (launch p) = { w.goes p .serving with
      holder := some p
      entry := Function.update (Function.update w.entry .monitor (some (.socket w.inodes))) .control
        (some (.socket (w.inodes + 1)))
      listener := Function.update (Function.update w.listener w.inodes (some p)) (w.inodes + 1)
        (some p)
      inodes := w.inodes + 2 } := by
    simp only [World.run] at hlocked hmonitor hcontrol ⊢
    rw [launch, Transition.run_append, hlocked, Transition.run_append, hmonitor,
      Transition.run_append, hcontrol]
    simp [World.step, World.goes]
  refine ⟨by simp [hlaunch], fun e => ?_⟩
  rw [World.run, Transition.run_append, ← World.run, ← World.run, hlaunch]
  cases e <;> simp [World.run, shutdown, World.step, World.goes, Endpoint.last]

/-- A daemon is killed while it binds its second socket, and a second one is turned away. -/
def killedEarly : List Op := [.start 1, .flock 1, .check 1, .bind 1, .start 2, .flock 2, .gone 2,
  .check 1, .fail 1, .unlock 1, .gone 1]

/-- The first process has left the name of a socket behind; the next one serves at both. -/
theorem daemon_starts_again_after_kill :
    let w := (World.initial fun _ => .nothing).run killedEarly
    w.listens .monitor = false ∧ w.entry .monitor ≠ none ∧
      (w.run (launch 3)).stage 3 = some .serving := by
  have hgone : ∀ q, ((World.initial fun _ => .nothing).run killedEarly).stage q = none := by
    intro q
    rcases q with _ | _ | _ | q <;> rfl
  have hleft : ∀ e : Endpoint, (fun _ => Leftover.nothing) e ≠ .other := fun _ heq => by cases heq
  exact ⟨by decide, by decide, (daemon_starts_again hleft killedEarly hgone 3).1⟩

end Railwatch.Startup
