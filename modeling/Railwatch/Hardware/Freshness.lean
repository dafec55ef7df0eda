/-
# Which answers are fresh

An exchange returns a report that answers it.  Reports that were in the queue
before are drained, 32 of them; what stood further back is looked at like what
arrives later.  `exchange_is_fresh_iff` says for which queues an answer can be
stale: those where, behind the first 32 reports, an answer is reached past
reports that are only skipped.

`Holds` is the invariant of a descriptor during an exchange: first what is left of the
old reports, then what has arrived since.  A read takes the oldest report, so an old
one, as long as there are any; therefore the exchange is fresh if the drain comes to
their end, and also if what is left of them is only skipped.

The other direction needs a device.  For a queue with a stale answer one that says
nothing more is enough: the drain takes 32 reports, the exchange skips the next ones and
returns the answer that was there before it began (`stale_is_returned`).
-/

import Railwatch.Hardware.Exchange

namespace Railwatch

open Wire Effects

/-- The bytes are a report that answers a request: they have the form of one, echo the
request, and are not the busy pattern. -/
structure Answers (opcode command : UInt8) (bytes : Bytes) : Prop where
  /-- 64 bytes, or 65 with a zero in front. -/
  report : IsReport bytes
  /-- It repeats the opcode and the command. -/
  echoes : Echoes (body bytes) opcode command
  /-- The device does not say that it is busy. -/
  notBusy : busyPattern (body bytes) = false

/-- The bytes are a report to another request, which the loop skips. It skips nothing
else. -/
structure Skipped (opcode command : UInt8) (bytes : Bytes) : Prop where
  /-- It has the length of a report. -/
  report : IsReport bytes
  /-- It is an answer to something else. -/
  other : ¬Echoes (body bytes) opcode command

/-- An answer that was in the queue is reached: the first 32 reports can be
drained, and behind them an answer comes after reports that are skipped. -/
def StaleAnswer (opcode command : UInt8) (payload : Bytes) (queue : List Report) : Prop :=
  payload.length ≤ 62 ∧ (∀ r ∈ queue.take 32, r.bytes ≠ []) ∧
    ∃ before r after, queue.drop 32 = before ++ r :: after ∧
      (∀ r' ∈ before, Skipped opcode command r'.read.bytes) ∧
      Answers opcode command r.read.bytes

/-! ### What is left of the queue -/

/-- A queue that starts with the reports `old`, all later ones being stamped from
`start` on. -/
structure Holds (start : ℕ) (old : List Report) (f : Descriptor) : Prop where
  /-- The old reports are still in front. -/
  queue : ∃ fresh, f.queue = old ++ fresh ∧ ∀ r ∈ fresh, start ≤ r.stamp
  /-- Later reports get later stamps. -/
  arrived : start ≤ f.arrived

/-- A report that arrives goes behind the old ones. -/
theorem Holds.arrive {start : ℕ} {old : List Report} {f : Descriptor} (h : Holds start old f)
    (bytes : Bytes) : Holds start old (f.arrive bytes) := by
  obtain ⟨fresh, hqueue, hfresh⟩ := h.queue
  unfold Descriptor.arrive
  split_ifs with hlt
  · refine ⟨⟨fresh ++ [⟨f.arrived, bytes⟩], ?_, fun r hr => ?_⟩, Nat.le_succ_of_le h.arrived⟩
    · dsimp only
      rw [hqueue, List.append_assoc]
    · rcases List.mem_append.1 hr with hr | hr
      · exact hfresh r hr
      · rw [List.mem_singleton.1 hr]
        exact h.arrived
  · exact ⟨h.queue, Nat.le_succ_of_le h.arrived⟩

/-- The same of several reports. -/
theorem Holds.arriveAll {start : ℕ} {old : List Report} {f : Descriptor} (h : Holds start old f)
    (reports : List Bytes) : Holds start old (reports.foldl Descriptor.arrive f) := by
  induction reports generalizing f with
  | nil => exact h
  | cons bytes reports ih => exact ih (h.arrive bytes)

/-- The oldest report is an old one, as long as there are any. After the last of them
every report that is taken has come since the start. -/
theorem Holds.pop {start : ℕ} {old : List Report} {f f' : Descriptor} {r : Report}
    (h : Holds start old f) (hpop : f.pop = some (r, f')) :
    (∃ rest, old = r :: rest ∧ Holds start rest f') ∨
      (old = [] ∧ start ≤ r.stamp ∧ Holds start [] f') := by
  obtain ⟨fresh, hqueue, hfresh⟩ := h.queue
  obtain ⟨hcons, harrived⟩ := Descriptor.queue_of_pop hpop
  have hstart : start ≤ f'.arrived := harrived ▸ h.arrived
  rw [hcons] at hqueue
  cases old with
  | nil =>
      rw [List.nil_append] at hqueue
      have hr : r ∈ fresh := hqueue ▸ List.mem_cons_self
      refine .inr ⟨rfl, hfresh r hr, ⟨f'.queue, rfl, fun r' hr' => hfresh r' ?_⟩, hstart⟩
      exact hqueue ▸ List.mem_cons_of_mem r hr'
  | cons r' rest =>
      obtain ⟨rfl, hrest⟩ := List.cons.inj hqueue
      exact .inl ⟨rest, rfl, ⟨fresh, hrest, hfresh⟩, hstart⟩

/-- When the queue is empty no old report is left. -/
theorem Holds.eq_nil {start : ℕ} {old : List Report} {f : Descriptor} (h : Holds start old f)
    (hpop : f.pop = none) : old = [] := by
  obtain ⟨fresh, hqueue, -⟩ := h.queue
  rw [Descriptor.pop_eq_none hpop] at hqueue
  exact (List.append_eq_nil_iff.1 hqueue.symm).1

/-- An error that is not an index outside a slice. -/
def InRange (e : DeviceError) (_ : HidDevice) : Prop := e ≠ .outOfRange

/-- A result of the wire format that is never out of range. -/
theorem ensures_ofWire {α : Type} {r : Result α} {s : HidDevice} {Q : α → HidDevice → Prop}
    (hok : ∀ a, r = .ok a → Q a s) (hrange : r ≠ .error .outOfRange) :
    Ensures (ofWire r) s Q InRange := by
  match r with
  | .ok a => exact hok a rfl
  | .error (.error e) => exact DeviceError.noConfusion
  | .error .outOfRange => exact absurd rfl hrange

/-- No index of the framing leaves the report. -/
theorem framing_inRange (r : Bytes) (opcode command : UInt8) (payload : Bytes) :
    request opcode command payload ≠ .error .outOfRange ∧ Wire.normalize r ≠ .error .outOfRange ∧
      (IsReport r → echoMismatch (body r) opcode command ≠ .error .outOfRange) := by
  refine ⟨?_, ?_, fun hreport => ?_⟩
  · unfold request
    split_ifs <;> simp
  · rw [Wire.normalize_eq]
    split_ifs <;> simp
  · rw [echoMismatch_eq (length_body hreport)]
    simp

section Loops

variable {start : ℕ} {old : List Report} {h : HidDevice}

/-- The old reports stay in front of those that arrive. -/
theorem arrive_ensures (hold : Holds start old h.file) (reports : List Bytes) :
    Ensures (arrive reports) h (fun _ h' => Holds start old h'.file) InRange :=
  ensures_modify (hold.arriveAll reports)

/-- **One read** takes the oldest report; an old one, as long as there are any. A
failure of the call takes none of them. -/
theorem readFile_ensures (hold : Holds start old h.file) (turn : ReadTurn) :
    Ensures (readFile turn) h
      (fun read h' => match read with
        | none => old = [] ∧ Holds start [] h'.file
        | some reply => (∃ r rest, old = r :: rest ∧ reply = r.read ∧ Holds start rest h'.file) ∨
            (old = [] ∧ start ≤ reply.stamp ∧ Holds start [] h'.file))
      InRange := by
  refine ensures_bind ((arrive_ensures hold turn.arrivals).mono ?_ fun _ _ he => he)
  intro _ h' hold
  cases turn.error with
  | some e => exact ensures_throw DeviceError.noConfusion
  | none =>
      refine ensures_bind (ensures_get ?_)
      cases hpop : h'.file.pop with
      | none =>
          obtain rfl := hold.eq_nil hpop
          exact ensures_pure ⟨rfl, hold⟩
      | some popped =>
          obtain ⟨r, file⟩ := popped
          refine ensures_bind (ensures_set (ensures_pure ?_))
          rcases hold.pop hpop with ⟨rest, hrest, hold⟩ | ⟨hnil, hfresh, hold⟩
          · exact .inl ⟨r, rest, hrest, rfl, hold⟩
          · exact .inr ⟨hnil, hfresh, hold⟩

/-- Writing a request reads nothing, so the old reports are still there. -/
theorem writeAll_ensures (hold : Holds start old h.file) (turn : ReadTurn) :
    Ensures (writeAll turn) h (fun _ h' => Holds start old h'.file) InRange := by
  refine ensures_bind ((arrive_ensures hold turn.arrivals).mono ?_ fun _ _ he => he)
  intro _ h' hold'
  cases turn.error with
  | some e => exact ensures_throw DeviceError.noConfusion
  | none => exact ensures_pure hold'

/-- The drain takes its number of old reports, none of them empty. If there are fewer it
goes on with what has come since, and ends at the first moment at which nothing waits. -/
theorem drain_ensures (hold : Holds start old h.file) (turn : ℕ → ReadTurn) (n : ℕ) :
    Ensures (drain turn n) h
      (fun _ h' => Holds start (old.drop n) h'.file ∧ ∀ r ∈ old.take n, r.bytes ≠ [])
      InRange := by
  induction n generalizing old h with
  | zero => exact ensures_pure ⟨hold, by simp⟩
  | succ n ih =>
      refine ensures_bind ((readFile_ensures hold (turn n)).mono ?_ fun _ _ he => he)
      rintro (_ | reply) h' hread
      · obtain ⟨rfl, hold'⟩ := hread
        exact ensures_pure ⟨by simpa using hold', by simp⟩
      · dsimp only
        split_ifs with hempty
        · exact ensures_throw DeviceError.noConfusion
        · rcases hread with ⟨r, rest, rfl, rfl, hold⟩ | ⟨rfl, -, hold⟩
          · refine (ih hold).mono (fun _ h'' ⟨hold, hne⟩ => ⟨hold, fun r' hr' => ?_⟩)
              fun _ _ he => he
            rcases List.mem_cons.1 hr' with rfl | hr'
            · intro hnil
              exact hempty (by rw [Report.read, hnil]; rfl)
            · exact hne r' hr'
          · refine (ih hold).mono (fun _ h'' ⟨hold, _⟩ => ⟨by simpa using hold, by simp⟩)
              fun _ _ he => he

/-- **The loop returns an answer** that is fresh, or an old report that stands
behind reports which are skipped. -/
theorem awaitReply_ensures (hold : Holds start old h.file) (opcode command : UInt8)
    (turns : List PollTurn) :
    Ensures (awaitReply opcode command turns) h
      (fun reply _ => Answers opcode command reply.bytes ∧ (start ≤ reply.stamp ∨
        ∃ before r after, old = before ++ r :: after ∧
          (∀ r' ∈ before, Skipped opcode command r'.read.bytes) ∧ reply = r.read))
      InRange := by
  induction turns generalizing old h with
  | nil => exact ensures_throw DeviceError.noConfusion
  | cons turn turns ih =>
      refine ensures_bind ((arrive_ensures hold turn.arrivals).mono ?_ fun _ _ he => he)
      intro _ h' hold
      cases turn.poll with
      | interrupted => exact ih hold
      | failed e => exact ensures_throw DeviceError.noConfusion
      | timeout => exact ensures_throw DeviceError.noConfusion
      | hangup => exact ensures_throw DeviceError.noConfusion
      | ready =>
          refine ensures_bind ((readFile_ensures hold turn.read).mono ?_ fun _ _ he => he)
          rintro (_ | reply) h'' hread
          · obtain ⟨rfl, hold'⟩ := hread
            exact ih hold'
          · dsimp only
            split_ifs with hempty
            · exact ensures_throw DeviceError.noConfusion
            · refine ensures_bind (ensures_ofWire (fun n hn => ?_)
                (framing_inRange reply.bytes opcode command []).2.1)
              rw [Wire.normalize_eq] at hn
              split_ifs at hn with hreport
              obtain rfl := Except.ok.inj hn
              refine ensures_bind (ensures_ofWire (fun other hother => ?_)
                ((framing_inRange reply.bytes opcode command []).2.2 hreport))
              rw [echoMismatch_eq (length_body hreport)] at hother
              obtain rfl := Except.ok.inj hother
              split_ifs with hskip hbusy
              -- it is of another command, and was skipped, be it old or new
              · have hskipped : Skipped opcode command reply.bytes :=
                  ⟨hreport, of_decide_eq_true hskip⟩
                rcases hread with ⟨r, rest, rfl, rfl, hold'⟩ | ⟨rfl, -, hold'⟩
                · refine (ih hold').mono (fun reply _ ⟨hanswer, hfresh⟩ => ⟨hanswer, ?_⟩)
                    fun _ _ he => he
                  refine hfresh.imp_right ?_
                  rintro ⟨before, r', after, rfl, hbefore, hreply⟩
                  refine ⟨r :: before, r', after, rfl, fun r'' hr'' => ?_, hreply⟩
                  rcases List.mem_cons.1 hr'' with rfl | hr''
                  · exact hskipped
                  · exact hbefore r'' hr''
                · exact ih hold'
              · exact ensures_throw DeviceError.noConfusion
              · refine ensures_bind (ensures_modify (ensures_pure ⟨⟨hreport, ?_, ?_⟩, ?_⟩))
                · simpa using hskip
                · simpa using hbusy
                · rcases hread with ⟨r, rest, rfl, rfl, -⟩ | ⟨-, hfresh, -⟩
                  · exact .inr ⟨[], r, rest, rfl, by simp, rfl⟩
                  · exact .inl hfresh

end Loops

/-- **What an exchange returns** answers the request, and is fresh unless the
queue held a stale answer. -/
theorem exchange_ensures (opcode command : UInt8) (payload : Bytes) (script : Script)
    (h : HidDevice) :
    Ensures (exchange opcode command payload script) h
      (fun reply _ => Answers opcode command reply.bytes ∧ (h.file.arrived ≤ reply.stamp ∨
        StaleAnswer opcode command payload h.file.queue))
      InRange := by
  have hold : Holds h.file.arrived h.file.queue h.file := ⟨⟨[], by simp, by simp⟩, le_rfl⟩
  refine ensures_bind ((drain_ensures hold script.drain 32).mono ?_ fun _ _ he => he)
  rintro _ h' ⟨hold', hne⟩
  refine ensures_bind (ensures_ofWire (fun tx htx => ?_)
    (framing_inRange [] opcode command payload).1)
  have hpayload : payload.length ≤ 62 := by
    unfold request at htx
    split_ifs at htx with hlong
    omega
  refine ensures_bind ((writeAll_ensures hold' script.write).mono ?_ fun _ _ he => he)
  intro _ h'' hold''
  refine (awaitReply_ensures hold'' opcode command script.turns).mono ?_ fun _ _ he => he
  rintro reply h₃ ⟨hanswer, hfresh⟩
  refine ⟨hanswer, hfresh.imp_right ?_⟩
  rintro ⟨before, r, after, hdrop, hbefore, rfl⟩
  exact ⟨hpayload, hne, before, r, after, hdrop, hbefore, hanswer⟩

/-! ### The stale answer is returned -/

/-- A read on which nothing happens takes the oldest report: none arrives meanwhile, and
it is neither late nor interrupted. -/
theorem readFile_quiet {h : HidDevice} {r : Report} {rest : List Report}
    (hqueue : h.file.queue = r :: rest) :
    ∃ h', readFile {} h = .ok (some r.read) h' ∧ h'.file.queue = rest := by
  cases hpop : h.file.pop with
  | none => rw [Descriptor.pop_eq_none hpop] at hqueue; cases hqueue
  | some popped =>
      obtain ⟨r', file⟩ := popped
      have hcons := (Descriptor.queue_of_pop hpop).1
      obtain ⟨rfl, hrest⟩ := List.cons.inj (hcons.symm.trans hqueue)
      refine ⟨{ h with file := file }, ?_, hrest⟩
      have harrive : arrive [] h = .ok () h := rfl
      have hget : (get : Io HidDevice) h = .ok h h := rfl
      rw [readFile, bind_of_ok harrive]
      dsimp only
      rw [bind_of_ok hget, hpop]
      rfl

/-- A quiet drain takes as many reports as it may. So those behind the first 32 are
still there when the request is written. -/
theorem drain_quiet {h : HidDevice} {n : ℕ} (hlen : n ≤ h.file.queue.length)
    (hne : ∀ r ∈ h.file.queue.take n, r.bytes ≠ []) :
    ∃ h', drain (fun _ => {}) n h = .ok () h' ∧ h'.file.queue = h.file.queue.drop n := by
  induction n generalizing h with
  | zero => exact ⟨h, rfl, rfl⟩
  | succ n ih =>
      obtain ⟨r, rest, hqueue⟩ : ∃ r rest, h.file.queue = r :: rest :=
        List.exists_cons_of_length_pos (by omega)
      obtain ⟨h', hread, hqueue'⟩ := readFile_quiet hqueue
      rw [hqueue, List.length_cons] at hlen
      have hne' : r.read.bytes ≠ [] := by
        rw [Report.read, Ne, List.take_eq_nil_iff]
        exact fun hnil => hne r (by simp [hqueue]) (hnil.resolve_left (by decide))
      obtain ⟨h'', hdrain, hqueue''⟩ := ih (h := h') (by rw [hqueue']; omega) fun r' hr' =>
        hne r' (by
          rw [hqueue, List.take_succ_cons]
          rw [hqueue'] at hr'
          exact List.mem_cons_of_mem r hr')
      refine ⟨h'', ?_, by rw [hqueue'', hqueue', hqueue, List.drop_succ_cons]⟩
      have hrun : drain (fun _ => {}) (n + 1) h = (readFile {} >>= fun read => match read with
          | none => pure ()
          | some r => if r.bytes = [] then throw (.error "PSU disconnected")
              else drain (fun _ => {}) n : Io Unit) h := rfl
      rw [hrun, bind_of_ok hread]
      dsimp only
      rw [if_neg hne', hdrain]

/-- A turn in which there is something to read. -/
def readyTurn : PollTurn := { poll := .ready }

/-- What such a turn makes of a report: one of another command is skipped, a busy
pattern is an error, and an answer is captured and returned. It is not asked when the
report came. -/
theorem awaitReply_ready (opcode command : UInt8) {h h' : HidDevice} {r : Report}
    (hread : readFile {} h = .ok (some r) h') (hreport : IsReport r.bytes)
    (turns : List PollTurn) :
    awaitReply opcode command (readyTurn :: turns) h =
      (if ¬Echoes (body r.bytes) opcode command then awaitReply opcode command turns
        else if busyPattern (body r.bytes) then
          throw (.error ("device returned busy/error sentinel for command 0x" ++
            lowerHex command))
        else do
          capture command r.bytes
          pure r) h' := by
  have hempty : r.bytes ≠ [] := by
    rintro hnil
    rw [hnil] at hreport
    rcases hreport with hlen | ⟨hlen, -⟩ <;> cases hlen
  have hrun : awaitReply opcode command (readyTurn :: turns) h =
      (readFile {} >>= fun read => match read with
        | none => awaitReply opcode command turns
        | some r =>
            if r.bytes = [] then throw (.error "PSU disconnected")
            else do
              let body ← ofWire (Wire.normalize r.bytes)
              if ← ofWire (echoMismatch body opcode command) then awaitReply opcode command turns
              else if busyPattern body then
                throw (.error ("device returned busy/error sentinel for command 0x" ++
                  lowerHex command))
              else do
                capture command r.bytes
                pure r : Io Report) h := rfl
  rw [hrun, bind_of_ok hread]
  dsimp only
  rw [if_neg hempty, Wire.normalize_eq, if_pos hreport]
  change (ofWire (echoMismatch (body r.bytes) opcode command) >>= _ : Io Report) h' = _
  rw [echoMismatch_eq (length_body hreport)]
  by_cases hecho : Echoes (body r.bytes) opcode command
  · rw [if_neg (not_not.2 hecho), decide_eq_false (not_not.2 hecho)]
    rfl
  · rw [if_pos hecho, decide_eq_true hecho]
    rfl

/-- A quiet wait skips reports and returns the first answer, at the turn after them,
without anything having arrived. -/
theorem awaitReply_quiet {opcode command : UInt8} {h : HidDevice} {before after : List Report}
    {r : Report} (hqueue : h.file.queue = before ++ r :: after)
    (hbefore : ∀ r' ∈ before, Skipped opcode command r'.read.bytes)
    (hanswer : Answers opcode command r.read.bytes) :
    ∃ h', awaitReply opcode command (List.replicate (before.length + 1) readyTurn) h =
      .ok r.read h' := by
  induction before generalizing h with
  | nil =>
      obtain ⟨h', hread, -⟩ := readFile_quiet hqueue
      have hstep := awaitReply_ready opcode command hread hanswer.report []
      rw [if_neg (not_not.2 hanswer.echoes), if_neg (by simp [hanswer.notBusy])] at hstep
      exact ⟨_, hstep⟩
  | cons r' before ih =>
      obtain ⟨h', hread, hqueue'⟩ := readFile_quiet hqueue
      have hskipped := hbefore r' List.mem_cons_self
      obtain ⟨h'', hrun⟩ := ih hqueue' fun r'' hr'' => hbefore r'' (List.mem_cons_of_mem r' hr'')
      refine ⟨h'', ?_⟩
      rw [List.length_cons, List.replicate_succ,
        awaitReply_ready opcode command hread hskipped.report, if_pos hskipped.other, hrun]

/-- A stale answer in the queue is returned by some exchange: a quiet one, in which the
drain ends before the answer and the wait skips what stands between them. So the
condition on the queue is exact. -/
theorem stale_is_returned {opcode command : UInt8} {payload : Bytes} {h : HidDevice}
    (hstale : StaleAnswer opcode command payload h.file.queue) :
    ∃ script reply h', exchange opcode command payload script h = .ok reply h' ∧
      reply.stamp ∈ h.file.queue.map Report.stamp := by
  obtain ⟨hpayload, hne, before, r, after, hdrop, hbefore, hanswer⟩ := hstale
  have hlen : 32 ≤ h.file.queue.length := by
    have := congrArg List.length hdrop
    rw [List.length_drop, List.length_append, List.length_cons] at this
    omega
  obtain ⟨h', hdrain, hqueue⟩ := drain_quiet hlen hne
  obtain ⟨h'', hawait⟩ := awaitReply_quiet (h := h') (hqueue.trans hdrop) hbefore hanswer
  obtain ⟨tx, htx⟩ : ∃ tx, request opcode command payload = .ok tx := ⟨_, if_neg (by omega)⟩
  refine ⟨{ turns := List.replicate (before.length + 1) readyTurn }, r.read, h'', ?_, ?_⟩
  · rw [exchange, bind_of_ok hdrain, htx]
    exact hawait
  · have hmem : r ∈ h.file.queue.drop 32 := by
      rw [hdrop]
      exact List.mem_append_right _ List.mem_cons_self
    exact List.mem_map.2 ⟨r, List.mem_of_mem_drop hmem, rfl⟩

/-- **An exchange never returns a stale answer exactly if the queue holds none
that is reached.**  What it returns answers the request in any case. -/
theorem exchange_is_fresh_iff (h : HidDevice) (opcode command : UInt8) (payload : Bytes) :
    (∀ script reply h', exchange opcode command payload script h = .ok reply h' →
      reply.stamp ∉ h.file.queue.map Report.stamp ∧ Echoes (body reply.bytes) opcode command ∧
        busyPattern (body reply.bytes) = false) ↔
      ¬StaleAnswer opcode command payload h.file.queue := by
  constructor
  · intro hfresh hstale
    obtain ⟨script, reply, h', hrun, hmem⟩ := stale_is_returned hstale
    exact (hfresh script reply h' hrun).1 hmem
  · intro hno script reply h' hrun
    have hensures := exchange_ensures opcode command payload script h
    rw [Ensures, hrun] at hensures
    obtain ⟨hanswer, hstamp⟩ := hensures
    refine ⟨fun hmem => ?_, hanswer.echoes, hanswer.notBusy⟩
    obtain ⟨r, hr, hreply⟩ := List.mem_map.1 hmem
    have hle := hstamp.resolve_right hno
    have hlt := h.file.stamped r hr
    omega

/-- A device with 32 unsolicited reports and, behind them, a late answer. The drain
reads 32 reports at most, so that it leaves exactly the last one. -/
def lateDevice : HidDevice where
  file :=
    { queue := (List.range 32).map (fun n => ⟨n, List.replicate 64 0⟩) ++
        [⟨32, readOp :: 0xe0 :: List.replicate 62 0⟩]
      arrived := 33
      limit := by decide
      stamped := by decide }
  info := ⟨"psu", "MPG", 0, none, none, "/dev/hidraw0", "hidraw", false, []⟩
  captures := []

/-- The stamp of what an exchange returns. -/
def replyStamp : EStateM.Result DeviceError HidDevice Report → Option ℕ
  | .ok reply _ => some reply.stamp
  | .error .. => none

/-- The late answer is returned to a new request although nothing arrives. -/
theorem late_answer_is_returned :
    ∃ reply h', exchange readOp 0xe0 [] { turns := [readyTurn] } lateDevice = .ok reply h' ∧
      reply.stamp ∈ lateDevice.file.queue.map Report.stamp := by
  have hstamp : replyStamp (exchange readOp 0xe0 [] { turns := [readyTurn] } lateDevice) =
      some 32 := by decide +kernel
  cases hrun : exchange readOp 0xe0 [] { turns := [readyTurn] } lateDevice with
  | ok reply h' =>
      rw [hrun] at hstamp
      refine ⟨reply, h', rfl, ?_⟩
      rw [Option.some.inj hstamp]
      decide
  | error e h' =>
      rw [hrun] at hstamp
      cases hstamp

end Railwatch
