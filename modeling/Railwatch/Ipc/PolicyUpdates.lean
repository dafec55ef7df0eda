/-
# Policy updates

The `SetPolicy` requests of any number of clients, with the readers of the
policy, step by step.

`Service::dispatch` takes the mutex of the snapshot before it opens the database
and keeps it until the two fields of the snapshot are written.  `Section` is the
request that is inside and how far it has come.  The transaction of `set_policy`
is an immediate one, which SQLite serialises, and no other statement writes the
row `'policy'`, so that other connections can only delay a request or make it
fail.  A failure rolls the transaction back; a crash (`restart`) also loses the
snapshot, which `start` reads again.

`policy_updates_are_linearizable` says that the clients see a `Register`.
-/

import Railwatch.General.Register
import Railwatch.Ipc.Requests
import Railwatch.Runtime.Daemon

namespace Railwatch

open Register

/-- How far a request has come in `SetPolicy`. The stages are the statements of
`set_policy`, with the lock around them. -/
inductive Stage where
  | locked
  | opened
  | validated
  | begun
  | checked
  | inserted
  | committed
  | published
  deriving DecidableEq

/-- The request that holds the mutex. There is one at most. -/
structure Section where
  stage : Stage
  update : PolicyUpdate

/-- The database, the snapshot, the requests that wait for the mutex, and the
one that has it. -/
structure PolicyServer where
  /-- The database. -/
  db : Database
  /-- The snapshot. -/
  shared : Snapshot
  /-- The requests that wait for the mutex. -/
  waiting : List PolicyUpdate := []
  /-- The one that has it. -/
  inside : Option Section := none

/-- `start` reads the policy. -/
def PolicyServer.start (db : Database) : PolicyServer where
  db := db
  shared := { policyRevision := db.currentPolicy.1, policy := db.currentPolicy.2 }

/-- What may happen: a request comes, takes the lock or its next step, a reader looks,
or the process starts again. -/
inductive PolicyOp where
  | submit (update : PolicyUpdate)
  | lock (n : ℕ)
  | openStore
  | validate
  | beginImmediate
  | check
  | insert
  | commit
  | publish
  | unlock
  | fail
  | readSnapshot
  | readPolicy
  | sync
  | restart

/-- The request inside goes on. -/
def PolicyServer.goto (s : PolicyServer) (stage : Stage) (update : PolicyUpdate) : PolicyServer :=
  { s with inside := some ⟨stage, update⟩ }

/-- The request inside returns, and gives up its transaction and the mutex. -/
def PolicyServer.leave (s : PolicyServer) : PolicyServer := { s with inside := none }

/-- The checks of `set_policy` inside its transaction. -/
def PolicyUpdate.passes (update : PolicyUpdate) (db : Database) : Prop :=
  db.currentPolicy.1 = update.expectedRevision ∧ update.expectedRevision + 1 < 2 ^ 64

instance (update : PolicyUpdate) (db : Database) : Decidable (update.passes db) := by
  unfold PolicyUpdate.passes
  infer_instance

/-- A database error is possible at this stage: in `History::open`, when the
transaction begins, in its query and its statement, and when it commits. -/
def Stage.mayFail : Stage → Bool
  | .locked | .validated | .begun | .checked | .inserted => true
  | _ => false

/-- One step of a request, a reader or a crash. A request takes the lock of the
snapshot, opens the store, and goes through `set_policy` statement by statement to the
commit; then it writes the snapshot and lets go of the lock. It may fail on the way, and
the process may be started again at any moment. -/
def PolicyServer.step (s : PolicyServer) : PolicyOp → PolicyServer
  | .submit update => { s with waiting := s.waiting ++ [update] }
  | .lock n =>
      match s.inside, s.waiting[n]? with
      | none, some update => { s with waiting := s.waiting.eraseIdx n }.goto .locked update
      | _, _ => s
  | .openStore =>
      match s.inside with
      | some ⟨.locked, update⟩ => s.goto .opened update
      | _ => s
  | .validate =>
      match s.inside with
      | some ⟨.opened, update⟩ =>
          match update.policy.validate with
          | .ok () => s.goto .validated update
          | .error _ => s.leave
      | _ => s
  | .beginImmediate =>
      match s.inside with
      | some ⟨.validated, update⟩ => s.goto .begun update
      | _ => s
  | .check =>
      match s.inside with
      | some ⟨.begun, update⟩ => if update.passes s.db then s.goto .checked update else s.leave
      | _ => s
  | .insert =>
      match s.inside with
      | some ⟨.checked, update⟩ => s.goto .inserted update
      | _ => s
  | .commit =>
      match s.inside with
      | some ⟨.inserted, update⟩ =>
          { s with db := { s.db with
              policy := some (update.expectedRevision + 1, update.policy) } }.goto .committed update
      | _ => s
  | .publish =>
      match s.inside with
      | some ⟨.committed, update⟩ =>
          { s with shared := { s.shared with
              policy := update.policy
              policyRevision := update.expectedRevision + 1 } }.goto .published update
      | _ => s
  | .unlock =>
      match s.inside with
      | some ⟨.published, _⟩ => s.leave
      | _ => s
  | .fail =>
      match s.inside with
      | some ⟨stage, _⟩ => if stage.mayFail then s.leave else s
      | none => s
  | .readSnapshot | .readPolicy | .sync => s
  | .restart => PolicyServer.start s.db

/-- What the clients see: an update is accepted when it commits and rejected when
a check refuses it; `Snapshot` requests and the monitor read the snapshot when
they have the mutex, `Policy` requests read the database. -/
def PolicyServer.emits (s : PolicyServer) : PolicyOp → List (Event Policy)
  | .validate =>
      match s.inside with
      | some ⟨.opened, update⟩ =>
          match update.policy.validate with
          | .ok () => []
          | .error _ => [.rejected update.expectedRevision update.policy]
      | _ => []
  | .check =>
      match s.inside with
      | some ⟨.begun, update⟩ =>
          if update.passes s.db then [] else [.rejected update.expectedRevision update.policy]
      | _ => []
  | .commit =>
      match s.inside with
      | some ⟨.inserted, update⟩ =>
          [.accepted update.expectedRevision update.policy (update.expectedRevision + 1)]
      | _ => []
  | .readSnapshot | .sync =>
      match s.inside with
      | none => [.read s.shared.policyRevision s.shared.policy]
      | some _ => []
  | .readPolicy => [.read s.db.currentPolicy.1 s.db.currentPolicy.2]
  | _ => []

/-- The server after a sequence of steps. -/
def PolicyServer.run (s : PolicyServer) (ops : List PolicyOp) : PolicyServer :=
  Transition.run PolicyServer.step s ops

/-- What the clients see in a run. -/
def PolicyServer.history (s : PolicyServer) (ops : List PolicyOp) : List (Event Policy) :=
  Transition.outputs PolicyServer.step PolicyServer.emits s ops

/-! ### One step -/

/-- `validate` accepts the policy. -/
def Policy.Valid (p : Policy) : Prop := p.validate = .ok ()

/-- The snapshot shows the policy that is stored. -/
def PolicyServer.Agrees (s : PolicyServer) : Prop :=
  (s.shared.policyRevision, s.shared.policy) = s.db.currentPolicy

/-- What is known at each stage: the snapshot agrees with the database, except
between a commit and the publication; and what was checked stays true. -/
def PolicyServer.StandsAt (s : PolicyServer) (update : PolicyUpdate) : Stage → Prop
  | .locked | .opened | .published => s.Agrees
  | .validated | .begun => s.Agrees ∧ update.policy.Valid
  | .checked | .inserted => s.Agrees ∧
      Takes (2 ^ 64) Policy.Valid s.db.currentPolicy update.expectedRevision update.policy
  | .committed => s.db.currentPolicy = (update.expectedRevision + 1, update.policy)

/-- What is known between two steps. -/
def PolicyServer.Stands (s : PolicyServer) : Prop :=
  match s.inside with
  | none => s.Agrees
  | some request => s.StandsAt request.update request.stage

/-- Nobody is between a commit and its publication. -/
theorem PolicyServer.Stands.of_none {s : PolicyServer} (h : s.Stands) (hinside : s.inside = none) :
    s.Agrees := by
  rwa [PolicyServer.Stands, hinside] at h

/-- What is known of the request that has the mutex. -/
theorem PolicyServer.Stands.of_some {s : PolicyServer} (h : s.Stands) {stage : Stage}
    {update : PolicyUpdate} (hinside : s.inside = some ⟨stage, update⟩) :
    s.StandsAt update stage := by
  rwa [PolicyServer.Stands, hinside] at h

/-- A request can only fail while the snapshot agrees. -/
theorem PolicyServer.StandsAt.agrees {s : PolicyServer} {update : PolicyUpdate} {stage : Stage}
    (h : s.StandsAt update stage) (hfail : stage.mayFail) : s.Agrees := by
  cases stage with
  | locked => exact h
  | validated => exact h.1
  | begun => exact h.1
  | checked => exact h.1
  | inserted => exact h.1
  | opened => cases hfail
  | committed => cases hfail
  | published => cases hfail

/-- A step keeps what is known, and its events are what a register does that
stands at the stored policy before and after. -/
structure PolicyServer.Serves (s s' : PolicyServer) (events : List (Event Policy)) : Prop where
  /-- The server stands after the step. -/
  stands : s'.Stands
  /-- A register would have done the same. -/
  legal : Legal (2 ^ 64) Policy.Valid s.db.currentPolicy events
  /-- And has the policy that is stored then. -/
  stored : after s.db.currentPolicy events = s'.db.currentPolicy

/-- A step that does not touch the policy serves nothing. -/
theorem PolicyServer.Serves.quiet {s s' : PolicyServer} (hdb : s'.db = s.db) (h : s'.Stands) :
    s.Serves s' [] :=
  ⟨h, trivial, congrArg Database.currentPolicy hdb.symm⟩

/-- A request that is refused changes nothing, and a register would have refused it. -/
theorem PolicyServer.Serves.rejects {s s' : PolicyServer} {update : PolicyUpdate}
    (hdb : s'.db = s.db) (h : s'.Stands)
    (hno : ¬Takes (2 ^ 64) Policy.Valid s.db.currentPolicy update.expectedRevision update.policy) :
    s.Serves s' [.rejected update.expectedRevision update.policy] :=
  ⟨h, ⟨hno, trivial⟩, congrArg Database.currentPolicy hdb.symm⟩

/-- A read returns the policy that is stored. -/
theorem PolicyServer.Serves.reads {s : PolicyServer} (h : s.Stands) :
    s.Serves s [.read s.db.currentPolicy.1 s.db.currentPolicy.2] :=
  ⟨h, ⟨rfl, trivial⟩, rfl⟩

/-- A `Snapshot` reply and the monitor's copy show the stored policy. -/
theorem PolicyServer.Stands.serves_snapshot {s : PolicyServer} (h : s.Stands)
    (hinside : s.inside = none) :
    s.Serves s [.read s.shared.policyRevision s.shared.policy] := by
  have hagrees := h.of_none hinside
  obtain ⟨hrevision, hpolicy⟩ := Prod.mk.inj hagrees
  rw [hrevision, hpolicy]
  exact .reads h

/-- **Every step serves a register.** The commit is the point at which an update takes
effect, and a start reads what was committed last. -/
theorem PolicyServer.Stands.step {s : PolicyServer} (h : s.Stands) (op : PolicyOp) :
    s.Serves (s.step op) (s.emits op) := by
  cases op with
  | submit update => exact .quiet rfl h
  | lock n =>
      simp only [PolicyServer.step, PolicyServer.emits]
      split
      · rename_i update hinside hwaiting
        exact .quiet rfl (h.of_none hinside)
      · exact .quiet rfl h
  | openStore =>
      simp only [PolicyServer.step, PolicyServer.emits]
      split
      · rename_i update hinside
        exact .quiet rfl (h.of_some hinside)
      · exact .quiet rfl h
  | validate =>
      simp only [PolicyServer.step, PolicyServer.emits]
      split
      · rename_i update hinside
        have hagrees : s.Agrees := h.of_some hinside
        cases hvalid : update.policy.validate with
        | ok => exact .quiet rfl ⟨hagrees, hvalid⟩
        | error e =>
            refine .rejects rfl hagrees fun htakes => ?_
            exact nomatch hvalid.symm.trans htakes.2.1
      · exact .quiet rfl h
  | beginImmediate =>
      simp only [PolicyServer.step, PolicyServer.emits]
      split
      · rename_i update hinside
        exact .quiet rfl (h.of_some hinside)
      · exact .quiet rfl h
  | check =>
      simp only [PolicyServer.step, PolicyServer.emits]
      split
      · rename_i update hinside
        obtain ⟨hagrees, hvalid⟩ := h.of_some hinside
        split_ifs with hpasses
        · exact .quiet rfl ⟨hagrees, hpasses.1.symm, hvalid, hpasses.2⟩
        · exact .rejects rfl hagrees fun htakes => hpasses ⟨htakes.1.symm, htakes.2.2⟩
      · exact .quiet rfl h
  | insert =>
      simp only [PolicyServer.step, PolicyServer.emits]
      split
      · rename_i update hinside
        exact .quiet rfl (h.of_some hinside)
      · exact .quiet rfl h
  -- the update takes place here, for the store and for the specification
  | commit =>
      simp only [PolicyServer.step, PolicyServer.emits]
      split
      · rename_i update hinside
        obtain ⟨-, htakes⟩ := h.of_some hinside
        exact ⟨rfl, ⟨⟨htakes, rfl⟩, trivial⟩, rfl⟩
      · exact .quiet rfl h
  | publish =>
      simp only [PolicyServer.step, PolicyServer.emits]
      split
      · rename_i update hinside
        have hstored := h.of_some hinside
        exact .quiet rfl hstored.symm
      · exact .quiet rfl h
  | unlock =>
      simp only [PolicyServer.step, PolicyServer.emits]
      split
      · rename_i update hinside
        exact .quiet rfl (h.of_some hinside)
      · exact .quiet rfl h
  -- before the commit nothing has changed, and after it nothing can fail
  | fail =>
      simp only [PolicyServer.step, PolicyServer.emits]
      split
      · rename_i stage update hinside
        split_ifs with hfail
        · exact .quiet rfl ((h.of_some hinside).agrees hfail)
        · exact .quiet rfl h
      · exact .quiet rfl h
  | readSnapshot =>
      simp only [PolicyServer.step, PolicyServer.emits]
      split
      · exact h.serves_snapshot ‹_›
      · exact .quiet rfl h
  | sync =>
      simp only [PolicyServer.step, PolicyServer.emits]
      split
      · exact h.serves_snapshot ‹_›
      · exact .quiet rfl h
  | readPolicy => exact .reads h
  | restart => exact .quiet rfl rfl

/-- **The transaction is `set_policy`**: when it commits, the database is what the
request makes of it in one action. -/
theorem PolicyServer.Stands.commit_eq {s : PolicyServer} (h : s.Stands) {update : PolicyUpdate}
    (hinside : s.inside = some ⟨.inserted, update⟩) :
    s.db.setPolicy update.expectedRevision update.policy =
      .ok (update.expectedRevision + 1, (s.step .commit).db) := by
  obtain ⟨-, hrevision, hvalid, hnext⟩ := h.of_some hinside
  have hstep : (s.step .commit).db = { s.db with
      policy := some (update.expectedRevision + 1, update.policy) } := by
    simp only [PolicyServer.step, hinside, PolicyServer.goto]
  have hvalid : update.policy.validate = .ok () := hvalid
  rw [Database.setPolicy, hvalid, hstep]
  dsimp only
  rw [if_neg (not_not.2 hrevision.symm), if_neg hnext.not_ge]

/-- Only a commit changes the database, and it accepts an update. The insertion before
it is a part of the transaction, which nobody else can read yet. -/
theorem PolicyServer.step_db (s : PolicyServer) (op : PolicyOp) :
    (s.step op).db = s.db ∨ ∃ update, s.inside = some ⟨.inserted, update⟩ ∧ op = .commit := by
  cases op with
  | commit =>
      cases hinside : s.inside with
      | none => exact Or.inl (by simp only [PolicyServer.step, hinside])
      | some request =>
          obtain ⟨stage, update⟩ := request
          cases stage with
          | inserted => exact Or.inr ⟨update, rfl, rfl⟩
          | _ => exact Or.inl (by simp only [PolicyServer.step, hinside])
  | _ =>
      refine Or.inl ?_
      simp only [PolicyServer.step]
      repeat' split
      all_goals rfl

/-- Only a publication, after a commit, and a new start change the snapshot: the first
shows the policy that has been stored, the second what the database has. -/
theorem PolicyServer.step_shared (s : PolicyServer) (op : PolicyOp) :
    (s.step op).shared = s.shared ∨ op = .restart ∨
      ∃ update, s.inside = some ⟨.committed, update⟩ ∧ op = .publish := by
  cases op with
  | restart => exact Or.inr (Or.inl rfl)
  | publish =>
      cases hinside : s.inside with
      | none => exact Or.inl (by simp only [PolicyServer.step, hinside])
      | some request =>
          obtain ⟨stage, update⟩ := request
          cases stage with
          | committed => exact Or.inr (Or.inr ⟨update, rfl, rfl⟩)
          | _ => exact Or.inl (by simp only [PolicyServer.step, hinside])
  | _ =>
      refine Or.inl ?_
      simp only [PolicyServer.step]
      repeat' split
      all_goals rfl

/-! ### Runs -/

/-- A server starts with the stored policy in its snapshot. -/
theorem PolicyServer.stands_start (db : Database) : (PolicyServer.start db).Stands := rfl

/-- A run and one more step. -/
theorem PolicyServer.run_concat (s : PolicyServer) (ops : List PolicyOp) (op : PolicyOp) :
    s.run (ops ++ [op]) = (s.run ops).step op := Transition.run_concat ..

/-- **Every run serves a register.** By induction on the steps, of which each one
appends its events to the history. -/
theorem PolicyServer.Stands.run {s : PolicyServer} (h : s.Stands) (ops : List PolicyOp) :
    s.Serves (s.run ops) (s.history ops) := by
  induction ops using List.reverseRecOn with
  | nil => exact .quiet rfl h
  | append_singleton ops op ih =>
      have hstep := ih.stands.step op
      have hhistory : s.history (ops ++ [op]) = s.history ops ++ (s.run ops).emits op :=
        Transition.outputs_concat ..
      rw [PolicyServer.run_concat, hhistory]
      refine ⟨hstep.stands, legal_append ih.legal (ih.stored ▸ hstep.legal), ?_⟩
      rw [after, Transition.run_append]
      change after (after _ _) _ = _
      rw [ih.stored, hstep.stored]

/-- The steps of a request that has the mutex and meets no database error, up to
its verdict. -/
def verdictOps : List PolicyOp :=
  [.openStore, .validate, .beginImmediate, .check, .insert, .commit]

/-- **A request without a database error is judged as a register would.** Nobody else
writes the policy while it holds the lock, so the revision it checks is still the
current one when it commits. -/
theorem PolicyServer.verdict {s : PolicyServer} {update : PolicyUpdate}
    (hinside : s.inside = some ⟨.locked, update⟩) :
    let takes := Takes (2 ^ 64) Policy.Valid s.db.currentPolicy update.expectedRevision
      update.policy
    (takes ∧ s.history verdictOps =
        [.accepted update.expectedRevision update.policy (update.expectedRevision + 1)]) ∨
      (¬takes ∧ s.history verdictOps = [.rejected update.expectedRevision update.policy]) := by
  intro takes
  cases hvalid : update.policy.validate with
  | error e =>
      have hno : ¬takes := fun htakes => nomatch hvalid.symm.trans htakes.2.1
      refine Or.inr ⟨hno, ?_⟩
      simp [PolicyServer.history, verdictOps, Transition.outputs, PolicyServer.step,
        PolicyServer.emits, PolicyServer.goto, PolicyServer.leave, hinside, hvalid]
  | ok =>
      by_cases hpasses : update.passes s.db
      · have htakes : takes := ⟨hpasses.1.symm, hvalid, hpasses.2⟩
        refine Or.inl ⟨htakes, ?_⟩
        simp [PolicyServer.history, verdictOps, Transition.outputs, PolicyServer.step,
          PolicyServer.emits, PolicyServer.goto, hinside, hvalid, hpasses]
      · have hno : ¬takes := fun htakes => hpasses ⟨htakes.1.symm, htakes.2.2⟩
        refine Or.inr ⟨hno, ?_⟩
        simp [PolicyServer.history, verdictOps, Transition.outputs, PolicyServer.step,
          PolicyServer.emits, PolicyServer.goto, PolicyServer.leave, hinside, hvalid, hpasses]

/-- What holds in a state that clients have brought about, seeing `events`. The events
are a legal history, and the database and the snapshot have its last value. -/
structure PolicyServer.Linearized (s : PolicyServer) (events : List (Event Policy)) : Prop where
  /-- Updates are accepted and rejected, and the policy is read, as from a
  register that first holds the default policy at revision 0. -/
  legal : Legal (2 ^ 64) Policy.Valid (0, default) events
  /-- The accepted revisions are 1, 2, 3 and so on. -/
  revisions : events.filterMap Event.revision? =
    List.range' 1 (events.filterMap Event.revision?).length
  /-- The stored policy is the one accepted last. -/
  stored : s.db.currentPolicy = after (0, default) events
  /-- Whoever takes the mutex finds it in the snapshot. -/
  shown : s.inside = none →
    (s.shared.policyRevision, s.shared.policy) = after (0, default) events
  /-- Every policy that was read has been validated. -/
  validated : ∀ revision policy, .read revision policy ∈ events → policy.Valid
  /-- A request that has the mutex and meets no database error is accepted or
  rejected, as its revision and its policy say. -/
  judged : ∀ update, s.inside = some ⟨.locked, update⟩ →
    let takes := Takes (2 ^ 64) Policy.Valid s.db.currentPolicy update.expectedRevision
      update.policy
    (takes ∧ s.history verdictOps =
        [.accepted update.expectedRevision update.policy (update.expectedRevision + 1)]) ∨
      (¬takes ∧ s.history verdictOps = [.rejected update.expectedRevision update.policy])
  /-- The database changes when an update is accepted, by `set_policy`. -/
  database : ∀ op, (s.step op).db = s.db ∨ ∃ update : PolicyUpdate,
    s.emits op =
        [.accepted update.expectedRevision update.policy (update.expectedRevision + 1)] ∧
      s.db.setPolicy update.expectedRevision update.policy =
        .ok (update.expectedRevision + 1, (s.step op).db)
  /-- The snapshot changes when the request whose update is stored publishes it,
  or when a new process reads it. -/
  snapshot : ∀ op, (s.step op).shared = s.shared ∨ op = .restart ∨ op = .publish ∧
    ∃ update, s.inside = some ⟨.committed, update⟩ ∧
      s.db.currentPolicy = (update.expectedRevision + 1, update.policy)

/-- `Policy::default` passes its own check. -/
theorem Policy.valid_default : (default : Policy).Valid := rfl

/-- **Policy updates are a linearizable compare-and-swap, and the snapshot
follows them.**  This holds after any steps of any clients, with any database
errors and crashes, over a database in which no policy was stored. -/
theorem policy_updates_are_linearizable (db : Database) (ops : List PolicyOp) :
    let s := PolicyServer.start { db with policy := none }
    (s.run ops).Linearized (s.history ops) := by
  intro s
  have hserves := (PolicyServer.stands_start { db with policy := none }).run ops
  have hlegal : Legal (2 ^ 64) Policy.Valid (0, default) (s.history ops) := hserves.legal
  refine ⟨hlegal, hlegal.revisions, hserves.stored.symm, fun hinside => ?_, fun revision policy =>
    hlegal.reads_good Policy.valid_default, fun update => PolicyServer.verdict, fun op => ?_,
    fun op => ?_⟩
  · exact (hserves.stands.of_none hinside).trans hserves.stored.symm
  · rcases (s.run ops).step_db op with hsame | ⟨update, hinside, rfl⟩
    · exact Or.inl hsame
    · refine Or.inr ⟨update, ?_, hserves.stands.commit_eq hinside⟩
      simp only [PolicyServer.emits, hinside]
  · rcases (s.run ops).step_shared op with hsame | hrestart | ⟨update, hinside, rfl⟩
    · exact Or.inl hsame
    · exact Or.inr (Or.inl hrestart)
    · exact Or.inr (Or.inr ⟨rfl, update, hinside, hserves.stands.of_some hinside⟩)

/-- An update from its arrival to its reply. -/
def updateOps (update : PolicyUpdate) : List PolicyOp :=
  .submit update :: .lock 0 :: verdictOps ++ [.publish, .unlock]

/-- An update that the register takes, while nobody else is there. -/
theorem PolicyServer.run_updateOps {s : PolicyServer} (hinside : s.inside = none)
    (hwaiting : s.waiting = []) {update : PolicyUpdate}
    (htakes : Takes (2 ^ 64) Policy.Valid s.db.currentPolicy update.expectedRevision
      update.policy) :
    let s' := s.run (updateOps update)
    s'.inside = none ∧ s'.waiting = [] ∧
      s'.db.currentPolicy = (update.expectedRevision + 1, update.policy) := by
  have hpasses : update.passes s.db := ⟨htakes.1.symm, htakes.2.2⟩
  have hvalid : update.policy.validate = .ok () := htakes.2.1
  simp [PolicyServer.run, updateOps, verdictOps, PolicyServer.step, PolicyServer.goto,
    PolicyServer.leave, hinside, hwaiting, hvalid, hpasses, Database.currentPolicy]

/-- Any revision can be reached. -/
theorem PolicyServer.exists_revision {n : ℕ} (hn : n < 2 ^ 64) :
    ∃ ops, let s := (PolicyServer.start {}).run ops
      s.inside = none ∧ s.waiting = [] ∧ s.db.currentPolicy = (n, default) := by
  induction n with
  | zero => exact ⟨[], rfl, rfl, rfl⟩
  | succ n ih =>
      obtain ⟨ops, hinside, hwaiting, hstored⟩ := ih (by omega)
      refine ⟨ops ++ updateOps ⟨n, default⟩, ?_⟩
      have hrun : (PolicyServer.start {}).run (ops ++ updateOps ⟨n, default⟩) =
          ((PolicyServer.start {}).run ops).run (updateOps ⟨n, default⟩) :=
        Transition.run_append ..
      rw [hrun]
      refine PolicyServer.run_updateOps hinside hwaiting ⟨?_, Policy.valid_default, hn⟩
      rw [hstored]

/-- An update that expects the stored revision, when there is no next one. -/
theorem PolicyServer.emits_overflow {s : PolicyServer} (hinside : s.inside = none)
    (hwaiting : s.waiting = []) {n : ℕ} (hstored : s.db.currentPolicy = (n, default))
    (hn : ¬n + 1 < 2 ^ 64) :
    let s' := s.run
      (.submit ⟨n, default⟩ :: .lock 0 :: [.openStore, .validate, .beginImmediate])
    s'.db.currentPolicy = (n, default) ∧ s'.emits .check = [.rejected n default] := by
  have hvalid : (default : Policy).validate = .ok () := Policy.valid_default
  have hpasses : ¬PolicyUpdate.passes ⟨n, default⟩ s.db := fun h => hn h.2
  simp [PolicyServer.run, PolicyServer.step, PolicyServer.emits, PolicyServer.goto, hinside,
    hwaiting, hvalid, hpasses, hstored]

/-- A valid update that expects the stored revision is rejected when that is the
last one of 64 bits, and one that meets a database error is not accepted. -/
theorem matching_update_is_rejected :
    (∃ ops, let s := (PolicyServer.start {}).run ops
      s.db.currentPolicy = (2 ^ 64 - 1, default) ∧ (default : Policy).Valid ∧
      s.emits .check = [.rejected (2 ^ 64 - 1) default]) ∧
    let ops := .submit ⟨0, default⟩ :: .lock 0 :: verdictOps.take 4 ++ [.fail]
    let s := PolicyServer.start {}
    s.history ops = [] ∧ (s.run ops).inside = none ∧
      (s.run ops).db.currentPolicy = (0, default) := by
  refine ⟨?_, rfl, rfl, rfl⟩
  obtain ⟨ops, hinside, hwaiting, hstored⟩ :=
    PolicyServer.exists_revision (n := 2 ^ 64 - 1) (by omega)
  have hjudged := PolicyServer.emits_overflow hinside hwaiting hstored (by omega)
  rw [PolicyServer.run, PolicyServer.run, ← Transition.run_append] at hjudged
  exact ⟨_, hjudged.1, Policy.valid_default, hjudged.2⟩

/-! ### The monitor -/

/-- Every policy the daemon knows has been validated: that of the database, and the one
it shows. -/
structure Daemon.PolicyChecked (d : Daemon) : Prop where
  /-- The policy of the snapshot. -/
  shared : d.shared.policy.Valid
  /-- That of the database. -/
  stored : ∀ p, d.history.db.policy = some p → p.2.Valid
  /-- And that which a sample is looked at under. -/
  synced : ∀ t policy, d.monitor.phase = .synced t policy → policy.Valid

/-- No write of a batch touches the policy, so the storage thread takes no part in the
order of the updates. -/
theorem Persist.write_policy {scan : List (String × String × ℤ) → List (String × String × ℤ)}
    {item : Persist} {next : ℕ} {w : History → Except String History} {h h' : History}
    (hw : (item.writes scan)[next]? = some w) (hok : w h = .ok h') :
    h'.db.policy = h.db.policy := by
  rcases item.writes_cases scan hw with ⟨-, rfl⟩ | ⟨j, event, -, -, rfl⟩ | ⟨j, v, -, -, rfl⟩ |
    ⟨-, rfl⟩
  · have hstep : h.step (.record item.sample maxGapMs) = h' :=
      congrArg (fun r => (Except.toOption r).getD h) hok
    rw [← hstep]
    rcases h.step_record item.sample maxGapMs with ⟨-, hsame⟩ | ⟨-, hnew⟩
    · rw [hsame]
    · rw [hnew]
  · rw [← Except.ok.inj hok]; rfl
  · rw [← Except.ok.inj hok]; rfl
  · rw [← Except.ok.inj hok]; rfl

/-- The policy that is read is valid, also where none is stored: the default is. -/
theorem Database.currentPolicy_valid {db : Database} (h : ∀ p, db.policy = some p → p.2.Valid) :
    db.currentPolicy.2.Valid := by
  unfold Database.currentPolicy
  cases hp : db.policy with
  | none => exact Policy.valid_default
  | some p => exact h p hp

/-- The end of a poll does not touch the policy. -/
theorem Daemon.PolicyChecked.publish {d : Daemon} (h : d.PolicyChecked) (t : Telemetry)
    (full : Bool) : (d.publish t full).PolicyChecked := by
  unfold Daemon.publish
  dsimp only
  split <;> exact ⟨h.shared, h.stored, fun _ _ hphase => by cases hphase⟩

/-- A failed poll changes no policy. -/
theorem Daemon.PolicyChecked.pollFailed {d : Daemon} (h : d.PolicyChecked) (error : String)
    (event : Option Incident) (engine : AlertEngine) (full : Bool) :
    (d.pollFailed error event engine full).PolicyChecked := by
  unfold Daemon.pollFailed
  dsimp only
  split
  · exact ⟨h.shared, h.stored, h.synced⟩
  · split <;> exact ⟨h.shared, h.stored, h.synced⟩

/-- **The engine only runs with a validated policy**: every action of the daemon
keeps this. -/
theorem Daemon.PolicyChecked.step {d : Daemon} (h : d.PolicyChecked) (op : DaemonOp) :
    (d.step op).PolicyChecked := by
  rcases d.step_does op with hsame | hdoes
  · rwa [hsame]
  generalize d.step op = d' at hdoes
  cases hdoes with
  | restart hstart =>
      rw [Daemon.start_eq] at hstart
      obtain rfl := Except.ok.inj hstart
      exact ⟨Database.currentPolicy_valid h.stored, h.stored, fun _ _ hphase => by cases hphase⟩
  | @openDevice info session readable =>
      by_cases hid : d.monitor.currentId = info.id
      · rw [Daemon.openDevice_same hid]
        exact ⟨h.shared, h.stored, h.synced⟩
      · rw [Daemon.openDevice_other hid]
        exact ⟨h.shared, h.stored, h.synced⟩
  | sync =>
      refine ⟨h.shared, h.stored, fun t policy hphase => ?_⟩
      obtain ⟨-, rfl⟩ := Phase.synced.inj hphase
      exact h.shared
  | observe => exact ⟨h.shared, h.stored, fun _ _ hphase => by cases hphase⟩
  | bound =>
      refine ⟨?_, ?_, ?_⟩ <;> simp only [Daemon.boundPending]
      · exact h.shared
      · exact h.stored
      · exact fun _ _ hphase => by cases hphase
  | publish => exact h.publish _ _
  | pollFailed => exact h.pollFailed _ _ _ _
  | write hstoring hw hok =>
      exact ⟨h.shared, by rw [Persist.write_policy hw hok]; exact h.stored, h.synced⟩
  | ackCommit hdb =>
      obtain ⟨-, rfl⟩ := Database.acknowledge_ok hdb
      exact ⟨h.shared, h.stored, h.synced⟩
  | setPolicy hdb =>
      obtain ⟨hvalid, rfl⟩ := Database.setPolicy_ok hdb
      refine ⟨hvalid, fun p hp => ?_, h.synced⟩
      obtain rfl := Option.some.inj hp
      exact hvalid
  | _ => exact ⟨h.shared, h.stored, h.synced⟩

/-- The policy of the daemon is valid in every run. -/
theorem Daemon.policyChecked_run {db : Database} (hdb : ∀ p, db.policy = some p → p.2.Valid)
    {issued : List Incident} {simulate : Bool} {session : String} {at_ : ℤ} {d : Daemon}
    (hstart : Daemon.start db issued simulate session at_ = .ok d) (ops : List DaemonOp) :
    (d.run ops).PolicyChecked := by
  rw [Daemon.start_eq] at hstart
  obtain rfl := Except.ok.inj hstart
  refine Transition.run_induction Daemon.step ⟨?_, hdb, ?_⟩ (fun d op h => h.step op) ops
  · exact Database.currentPolicy_valid hdb
  · exact fun _ _ hphase => by cases hphase

end Railwatch
