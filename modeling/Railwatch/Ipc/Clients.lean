/-
# The clients of the daemon

The loop of `main` in `src/bin/daemon.rs` that accepts connections, with the threads that
serve them.

The loop loads the counter, looks at the peer's credentials, and then adds to the counter; a
thread serves its client and then subtracts from it.  These are steps of their own, so that
clients may go while another one is let in.  A thread that panics subtracts nothing.  The
requests are those of `serve_client`: a stream asks with `admin = false`, whatever its
socket.  What the monitor and the storage thread do to the service is an input.

`Sound` is the invariant: the counter is the number of threads that have not ended well,
it never passes the limit, and whoever has a thread on the control socket was let in by
the check.
-/

import Railwatch.General.Transition
import Railwatch.Ipc.Dispatch

namespace Railwatch

open Effects

/-- The number of clients at a time. -/
def maxClients : ℕ := 32

/-- A client that has been let in: its socket, its user, and whether its thread still
serves it. -/
structure Client where
  /-- The number of the connection. -/
  id : ℕ
  /-- Whether it is connected to the control socket. -/
  admin : Bool
  /-- Its user. -/
  uid : ℕ
  /-- Whether its thread still serves it. -/
  serving : Bool := true
  deriving DecidableEq, Repr

/-- The daemon as its clients see it: whether there is a control group, its own user, the
service, the counter, the connection that has passed the load of the counter, the clients,
the threads that have panicked, and the clients so far. -/
structure Server where
  /-- Whether there is a group that may control. -/
  controlGroup : Bool
  /-- The user of the daemon. -/
  euid : ℕ
  /-- What its clients share. -/
  service : Service
  /-- `clients` in the source. -/
  counter : ℕ := 0
  /-- A connection between the check and its thread. -/
  arriving : Option (Bool × ℕ) := none
  /-- Those with a thread. -/
  clients : List Client := []
  /-- The threads that ended without counting themselves out. -/
  panicked : ℕ := 0
  /-- How many there have been. -/
  admitted : ℕ := 0

/-- Who may use a socket: anybody who can open it, but for the control socket without a
group, which is for root and for the user of the daemon. -/
def Server.admits (s : Server) (admin : Bool) (uid : ℕ) : Bool :=
  !admin || s.controlGroup || uid = 0 || uid = s.euid

/-- What may happen: a connection comes over one of the sockets, and is let in or not; a
client makes a request, in a stream or not; its thread has served it, subtracts from the
counter, or panics; and other threads change the service. -/
inductive ServerOp where
  | arrive (admin : Bool) (uid : ℕ)
  | enter (credentials : Bool)
  | request (id : ℕ) (env : Environment) (request : Request) (stream : Bool)
  | served (id : ℕ)
  | release (id : ℕ)
  | panics (id : ℕ)
  | others (f : Service → Service)

/-- One step. A client is accepted unless 32 are counted, and admitted unless it came
over the control socket of a daemon without a group and is neither root nor the daemon's
own user. Its thread counts it out when it returns, which a thread that panics never
does. -/
def Server.step (s : Server) : ServerOp → Server
  | .arrive admin uid =>
      match s.arriving with
      | some _ => s
      | none => if maxClients ≤ s.counter then s else { s with arriving := some (admin, uid) }
  | .enter credentials =>
      match s.arriving with
      | none => s
      | some (admin, uid) =>
          if admin ∧ s.controlGroup = false ∧ ¬(credentials ∧ (uid = 0 ∨ uid = s.euid)) then
            { s with arriving := none }
          else
            { s with
              arriving := none
              counter := s.counter + 1
              clients := s.clients ++ [{ id := s.admitted, admin := admin, uid := uid }]
              admitted := s.admitted + 1 }
  | .request id env request stream =>
      match s.clients.find? fun c => c.id = id && c.serving with
      | none => s
      | some c => { s with service := s.service.after env request (c.admin && !stream) }
  | .served id =>
      { s with
        clients := s.clients.map fun c => if c.id = id then { c with serving := false } else c }
  | .release id =>
      match s.clients.find? fun c => c.id = id && !c.serving with
      | none => s
      | some c => { s with counter := s.counter - 1, clients := s.clients.erase c }
  | .panics id =>
      match s.clients.find? fun c => c.id = id && c.serving with
      | none => s
      | some c => { s with clients := s.clients.erase c, panicked := s.panicked + 1 }
  | .others f => { s with service := f s.service }

/-- The daemon before its first client. -/
def Server.start (controlGroup : Bool) (euid : ℕ) (service : Service) : Server :=
  { controlGroup := controlGroup, euid := euid, service := service }

/-- A number of steps. -/
def Server.run (s : Server) (ops : List ServerOp) : Server := Transition.run Server.step s ops

/-! ### The invariant -/

/-- The counter is right, and below the limit where it has been looked at; and every client
on the control socket may use it. -/
structure Server.Sound (s : Server) : Prop where
  /-- A thread counts itself out when it ends, unless it panics. -/
  counter : s.counter = s.clients.length + s.panicked
  /-- At most 32 connections have a thread. -/
  limit : s.counter ≤ maxClients
  /-- Who has passed the check still fits, since one thread accepts. -/
  arriving : s.arriving.isSome → s.counter < maxClients
  /-- The control socket has admitted its clients. -/
  admitted : ∀ c ∈ s.clients, s.admits c.admin c.uid

namespace Server.Sound

variable {s : Server}

/-- A connection is let in, or turned away by the check of a control socket without a
group. There is room for it, since nobody else can have been let in after it arrived. -/
theorem enter (h : s.Sound) (credentials : Bool) : (s.step (.enter credentials)).Sound := by
  simp only [Server.step]
  cases harriving : s.arriving with
  | none => exact h
  | some peer =>
      obtain ⟨admin, uid⟩ := peer
      have hbelow : s.counter < maxClients := h.arriving (by rw [harriving]; rfl)
      dsimp only
      split_ifs with hrefused
      · exact ⟨h.counter, h.limit, nofun, h.admitted⟩
      · refine ⟨?_, hbelow, nofun, fun c hc => ?_⟩
        · have := h.counter
          simp only [List.length_append, List.length_singleton]
          omega
        · rcases List.mem_append.1 hc with hc | hc
          · exact h.admitted c hc
          · rw [List.mem_singleton.1 hc]
            show s.admits admin uid = true
            unfold Server.admits
            cases admin with
            | false => rfl
            | true =>
                cases hgroup : s.controlGroup with
                | true => rfl
                | false =>
                    have hpeer := not_not.1 fun hno => hrefused ⟨rfl, hgroup, hno⟩
                    simpa using hpeer.2

/-- A client goes. -/
theorem erase (h : s.Sound) {c : Client} (hc : c ∈ s.clients) :
    (∀ c' ∈ s.clients.erase c, s.admits c'.admin c'.uid) ∧
      (s.clients.erase c).length + 1 = s.clients.length := by
  refine ⟨fun c' hc' => h.admitted c' (List.mem_of_mem_erase hc'), ?_⟩
  rw [List.length_erase_of_mem hc]
  have := List.length_pos_of_mem hc
  omega

/-- **Every step keeps the counter and the authority.** The counter is looked at, and
raised, by the one thread that accepts; a client's own thread can only lower it. -/
theorem step (h : s.Sound) (op : ServerOp) : (s.step op).Sound := by
  cases op with
  | enter credentials => exact h.enter credentials
  | arrive admin uid =>
      simp only [Server.step]
      cases harriving : s.arriving with
      | some peer => exact h
      | none =>
          dsimp only
          split_ifs with hfull
          · exact h
          · exact ⟨h.counter, h.limit, fun _ => not_le.1 hfull, h.admitted⟩
  | request id env request stream =>
      simp only [Server.step]
      split
      · exact h
      · exact ⟨h.counter, h.limit, h.arriving, h.admitted⟩
  | served id =>
      refine ⟨?_, h.limit, h.arriving, fun c hc => ?_⟩
      · rw [Server.step, List.length_map]
        exact h.counter
      · obtain ⟨c', hc', rfl⟩ := List.mem_map.1 hc
        have hadmits := h.admitted c' hc'
        split_ifs
        · exact hadmits
        · exact hadmits
  | release id =>
      simp only [Server.step]
      cases hfound : s.clients.find? fun c => c.id = id && !c.serving with
      | none => exact h
      | some c =>
          obtain ⟨hadmitted, hlength⟩ := h.erase (List.mem_of_find?_eq_some hfound)
          have hcounter := h.counter
          have hlimit := h.limit
          refine ⟨?_, ?_, fun harriving => ?_, hadmitted⟩
          · dsimp only
            omega
          · dsimp only
            omega
          · have := h.arriving harriving
            dsimp only
            omega
  -- the place of a client whose thread panics is not given back
  | panics id =>
      simp only [Server.step]
      cases hfound : s.clients.find? fun c => c.id = id && c.serving with
      | none => exact h
      | some c =>
          obtain ⟨hadmitted, hlength⟩ := h.erase (List.mem_of_find?_eq_some hfound)
          refine ⟨?_, h.limit, h.arriving, hadmitted⟩
          have := h.counter
          dsimp only
          omega
  | others f => exact ⟨h.counter, h.limit, h.arriving, h.admitted⟩

end Server.Sound

/-- A server is sound in every run. -/
theorem Server.sound_run (controlGroup : Bool) (euid : ℕ) (service : Service)
    (ops : List ServerOp) : ((Server.start controlGroup euid service).run ops).Sound :=
  Transition.run_induction Server.step ⟨rfl, Nat.zero_le _, nofun, nofun⟩
    (fun _ op h => h.step op) ops

/-- **At most 32 clients.**  However connections, requests and the ends of threads
interleave, the counter is the number of clients that are in and of threads that have
panicked, and never above 32; and a connection that has passed the check finds a place. -/
theorem clients_are_limited (controlGroup : Bool) (euid : ℕ) (service : Service)
    (ops : List ServerOp) :
    let s := (Server.start controlGroup euid service).run ops
    s.clients.length + s.panicked = s.counter ∧ s.counter ≤ 32 ∧
      (s.arriving.isSome → s.counter < 32) := by
  intro s
  have h : s.Sound := Server.sound_run controlGroup euid service ops
  exact ⟨h.counter.symm, h.limit, h.arriving⟩

/-! ### Authority -/

/-- The methods that write, or use the device. -/
def Request.writes (request : Request) : Bool :=
  match request.target with
  | some .acknowledge | some .setTariff | some .setPolicy | some .inspect => true
  | _ => false

/-- A method that does not write leaves the service alone. -/
theorem Service.eq_of_changes {s s' : Service} {request : Request}
    (h : s.Changes s' request.target ∨ s.Survives s' request.target)
    (hwrites : request.writes = false) : s' = s := by
  unfold Request.writes at hwrites
  cases htarget : request.target with
  | none =>
      rw [htarget] at h
      exact h.elim id id
  | some method =>
      rw [htarget] at h hwrites
      cases method with
      | acknowledge | setTariff | setPolicy | inspect => cases hwrites
      | _ => exact h.elim id id

/-- What `dispatch` may do to the service: nothing for a client that may only read, and
for another one what its method changes. -/
structure Service.Obeys (s : Service) (request : Request) (admin : Bool) (s' : Service) : Prop where
  /-- Without authority nothing is written. -/
  authority : admin = false → s' = s
  /-- A method writes what is its own. -/
  target : s.Changes s' request.target ∨ s.Survives s' request.target
  /-- A request that streams, or wants no reply, is refused before. -/
  regular : (!request.more && !request.oneway) = false → s' = s

/-- What `dispatch` does to the service depends on its request and on the authority
alone: without it nothing is written. -/
theorem dispatch_obeys (env : Environment) (request : Request) (admin : Bool) (s : Service) :
    Ensures (dispatch env request admin) s (fun _ s' => s.Obeys request admin s')
      (fun _ s' => s.Obeys request admin s') := by
  have hreads : ∀ {x : Action Reply}, Reads x → Ensures x s
      (fun _ s' => s.Obeys request admin s') (fun _ s' => s.Obeys request admin s') := by
    intro x hx
    refine (hx s).mono ?_ ?_
    · rintro _ s' rfl
      exact ⟨fun _ => rfl, .inl (.refl _ _), fun _ => rfl⟩
    · rintro _ s' rfl
      exact ⟨fun _ => rfl, .inl (.refl _ _), fun _ => rfl⟩
  unfold dispatch
  cases hregular : !request.more && !request.oneway with
  | false => exact ensures_bind (ensures_throw ⟨fun _ => rfl, .inl (.refl _ _), fun _ => rfl⟩)
  | true =>
      refine ensures_bind (ensures_pure ?_)
      split_ifs
      · exact hreads (reads_params _ _ fun _ => reads_pure _)
      · exact hreads (reads_params _ _ fun _ => (reads_ensure _ _).bind fun _ => reads_pure _)
      · cases hstrip : stripPrefix (interface ++ ".") request.method with
        | none => exact hreads (reads_throw _)
        | some name =>
            dsimp only
            cases hmethod : Method.parse name with
            | none => exact hreads (reads_throw _)
            | some method =>
                have htarget : request.target = some method := by
                  rw [Request.target, hstrip]
                  exact hmethod
                refine (method.call_inOrder env admin request.parameters s).mono ?_ ?_
                · rintro _ s' ⟨hauthority, hchanges⟩
                  refine ⟨hauthority, .inl (htarget ▸ hchanges), fun hno => ?_⟩
                  rw [hregular] at hno
                  cases hno
                · rintro _ s' ⟨hauthority, hsurvives⟩
                  refine ⟨hauthority, .inr (htarget ▸ hsurvives), fun hno => ?_⟩
                  rw [hregular] at hno
                  cases hno

/-- So does the service after it, whether it succeeds or fails. -/
theorem Service.obeys_after (s : Service) (env : Environment) (request : Request) (admin : Bool) :
    s.Obeys request admin (s.after env request admin) := by
  have h := dispatch_obeys env request admin s
  unfold Ensures at h
  unfold Service.after
  cases hcall : dispatch env request admin s with
  | ok _ s' =>
      rw [hcall] at h
      exact h
  | error _ s' =>
      rw [hcall] at h
      exact h

/-- The configuration stays: the group of the control socket and the user of the daemon
are read once, and no step of a client touches them. -/
theorem Server.config_run (controlGroup : Bool) (euid : ℕ) (service : Service)
    (ops : List ServerOp) :
    ((Server.start controlGroup euid service).run ops).controlGroup = controlGroup ∧
      ((Server.start controlGroup euid service).run ops).euid = euid := by
  refine Transition.run_induction (I := fun s => s.controlGroup = controlGroup ∧ s.euid = euid)
    Server.step ⟨rfl, rfl⟩ (fun s op h => ?_) ops
  cases op with
  | served | others => exact h
  | arrive admin uid =>
      simp only [Server.step]
      split
      · exact h
      · split <;> exact h
  | enter credentials =>
      simp only [Server.step]
      split
      · exact h
      · split <;> exact h
  | _ =>
      simp only [Server.step]
      split <;> exact h

/-- **Only authorised clients write.**  Take any run, with any clients, requests and other
threads, and one more step.  It leaves the service alone, unless it is one of another thread,
or a regular request outside a stream for `Acknowledge`, `SetTariff`, `SetPolicy` or
`Inspect` by a client that is connected over the control socket, and that without a control
group is root or the user of the daemon. -/
theorem only_authorised_clients_write (controlGroup : Bool) (euid : ℕ) (service : Service)
    (ops : List ServerOp) (op : ServerOp) :
    let s := (Server.start controlGroup euid service).run ops
    (s.step op).service = s.service ∨ (∃ f, op = .others f) ∨
      ∃ env request c, op = .request c.id env request false ∧ c ∈ s.clients ∧ c.serving = true ∧
        c.admin = true ∧ (controlGroup = true ∨ c.uid = 0 ∨ c.uid = euid) ∧
        request.writes = true ∧ request.more = false ∧ request.oneway = false := by
  intro s
  have h : s.Sound := Server.sound_run controlGroup euid service ops
  obtain ⟨hgroup, heuid⟩ : s.controlGroup = controlGroup ∧ s.euid = euid :=
    Server.config_run controlGroup euid service ops
  cases op with
  | others f => exact .inr (.inl ⟨f, rfl⟩)
  | request id env request stream =>
      cases hfound : s.clients.find? fun c => c.id = id && c.serving with
      | none => exact .inl (by simp only [Server.step, hfound])
      | some c =>
          have hmem := List.mem_of_find?_eq_some hfound
          obtain ⟨rfl, hserving⟩ : c.id = id ∧ c.serving = true := by
            simpa using List.find?_some hfound
          have hstep : (s.step (.request c.id env request stream)).service =
              s.service.after env request (c.admin && !stream) := by
            simp only [Server.step, hfound]
          rw [hstep]
          have hobeys := s.service.obeys_after env request (c.admin && !stream)
          cases hauthority : c.admin && !stream with
          | false => exact .inl (hauthority ▸ hobeys.authority hauthority)
          | true =>
              obtain ⟨hadmin, hstream⟩ : c.admin = true ∧ stream = false := by
                simpa using hauthority
              cases hwrites : request.writes with
              | false => exact .inl (hauthority ▸ Service.eq_of_changes hobeys.target hwrites)
              | true =>
                  cases hregular : !request.more && !request.oneway with
                  | false => exact .inl (hauthority ▸ hobeys.regular hregular)
                  | true =>
                      refine .inr (.inr ⟨env, request, c, by rw [hstream], hmem, hserving, hadmin,
                        ?_, hwrites, by simpa using hregular⟩)
                      have hadmits := h.admitted c hmem
                      simpa [Server.admits, hadmin, hgroup, heuid, or_assoc] using hadmits
  | arrive admin uid =>
      refine .inl ?_
      simp only [Server.step]
      split
      · rfl
      · split <;> rfl
  | enter credentials =>
      refine .inl ?_
      simp only [Server.step]
      split
      · rfl
      · split <;> rfl
  | served id => exact .inl rfl
  | _ =>
      refine .inl ?_
      simp only [Server.step]
      split <;> rfl

end Railwatch
