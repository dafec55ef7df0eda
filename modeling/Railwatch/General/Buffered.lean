/-
# Buffered readers

The part of `std::io` that reads up to a delimiter: `BufReader`, `Take` and the
loop of `read_until`.

A reader has a buffer, and its source has deliveries to come: some elements, an
interruption, or a failure; behind the last one the stream has ended.  `upTo`
says what `read_until` is for, without buffers and deliveries, and
`Take.readUntil_spec` that the loop does this for any deliveries.

The number of rounds is not bounded by the length of the stream, since an interruption
may come at any time; each round uses up a delivery or an element, and that is the
measure of the loop (`Take.weight_of_retry`, `Take.weight_of_took`).
-/

import Mathlib

namespace Buffered

variable {α ε : Type}

/-! ### Readers -/

/-- What a read of the source meets.  There is no delivery of no elements, which
would be the end of the stream. -/
inductive Delivery (α ε : Type) where
  | elements (head : α) (tail : List α)
  | interrupted
  | failed (reason : ε)

/-- The elements of a delivery. -/
def Delivery.content : Delivery α ε → List α
  | .elements head tail => head :: tail
  | .interrupted => []
  | .failed _ => []

/-- `BufReader`: the elements that are buffered, and the source. The source lists what
its reads will return, one delivery a read. -/
structure Reader (α ε : Type) where
  buffer : List α
  source : List (Delivery α ε)

/-- All elements that a reader has. -/
def Reader.content (r : Reader α ε) : List α := r.buffer ++ r.source.flatMap Delivery.content

/-- A bound on the reads to come. -/
def Reader.weight (r : Reader α ε) : ℕ := r.content.length + r.source.length

/-- A reader delivers some elements, without a failure. -/
def Reader.Delivers (r : Reader α ε) (elements : List α) : Prop :=
  r.content = elements ∧ ∀ reason, .failed reason ∉ r.source

/-- What `fill_buf` returns: what is available, which is empty at the end of the stream,
or an error. -/
inductive Filled (α ε : Type) where
  | available (elements : List α)
  | interrupted
  | failed (reason : ε)

/-- `fill_buf` of `BufReader`: it reads if nothing is buffered. A portion is never
empty, so that nothing available means the end of the source; a failure leaves the
buffer empty and is consumed, and the next call reads on. -/
def Reader.fillBuf (r : Reader α ε) : Filled α ε × Reader α ε :=
  if r.buffer ≠ [] then (.available r.buffer, r)
  else
    match r.source with
    | [] => (.available [], r)
    | .elements head tail :: source => (.available (head :: tail), ⟨head :: tail, source⟩)
    | .interrupted :: source => (.interrupted, ⟨[], source⟩)
    | .failed reason :: source => (.failed reason, ⟨[], source⟩)

/-- `consume` of `BufReader`. -/
def Reader.consume (r : Reader α ε) (amount : ℕ) : Reader α ε :=
  { r with buffer := r.buffer.drop amount }

/-- `Take`: a reader, and how much may still be read from it. Nothing is available when
that is zero, whatever the reader has. -/
structure Take (α ε : Type) where
  inner : Reader α ε
  limit : ℕ

/-- `fill_buf` of `Take`: at the limit the reader is not asked. -/
def Take.fillBuf (t : Take α ε) : Filled α ε × Take α ε :=
  if t.limit = 0 then (.available [], t)
  else
    match t.inner.fillBuf with
    | (.available elements, inner) =>
        (.available (elements.take t.limit), { t with inner := inner })
    | (filled, inner) => (filled, { t with inner := inner })

/-- `consume` of `Take`. -/
def Take.consume (t : Take α ε) (amount : ℕ) : Take α ε where
  inner := t.inner.consume (min amount t.limit)
  limit := t.limit - min amount t.limit

/-! ### Filling and consuming -/

/-- **What `fill_buf` does.**  No element is lost, and only the end of the stream
leaves nothing available. -/
theorem Reader.fillBuf_spec {r r' : Reader α ε} {filled : Filled α ε}
    (h : r.fillBuf = (filled, r')) :
    r'.content = r.content ∧ r'.source <:+ r.source ∧
      (filled = .available r'.buffer ∧ (r'.buffer = [] → r.content = []) ∨
        filled = .interrupted ∧ r'.source.length < r.source.length ∨
        ∃ reason, filled = .failed reason ∧ .failed reason ∈ r.source) := by
  obtain ⟨buffer, source⟩ := r
  unfold fillBuf at h
  dsimp only at h
  split_ifs at h with hbuffer
  · obtain ⟨rfl, rfl⟩ := Prod.mk.inj h
    exact ⟨rfl, List.suffix_rfl, .inl ⟨rfl, fun hnil => absurd hnil hbuffer⟩⟩
  obtain rfl : buffer = [] := not_not.1 hbuffer
  cases source with
  | nil =>
      obtain ⟨rfl, rfl⟩ := Prod.mk.inj h
      exact ⟨rfl, List.suffix_rfl, .inl ⟨rfl, fun _ => rfl⟩⟩
  | cons delivery source =>
      cases delivery with
      | elements head tail =>
          obtain ⟨rfl, rfl⟩ := Prod.mk.inj h
          exact ⟨rfl, List.suffix_cons .., .inl ⟨rfl, fun hnil => absurd hnil (by simp)⟩⟩
      | interrupted =>
          obtain ⟨rfl, rfl⟩ := Prod.mk.inj h
          exact ⟨rfl, List.suffix_cons .., .inr (.inl ⟨rfl, Nat.lt_succ_self _⟩)⟩
      | failed reason =>
          obtain ⟨rfl, rfl⟩ := Prod.mk.inj h
          exact ⟨rfl, List.suffix_cons .., .inr (.inr ⟨reason, rfl, List.mem_cons_self⟩)⟩

/-- What is consumed is what was buffered. -/
theorem Reader.content_consume (r : Reader α ε) (amount : ℕ) :
    r.content = r.buffer.take amount ++ (r.consume amount).content := by
  rw [content, content, consume, ← List.append_assoc, List.take_append_drop]

/-- The same below a limit, which leaves nothing available when it is reached. What is
available is a beginning of the buffer, so an empty portion means the limit or the end
of the content. -/
theorem Take.fillBuf_spec {t t' : Take α ε} {filled : Filled α ε} (h : t.fillBuf = (filled, t')) :
    t'.limit = t.limit ∧ t'.inner.content = t.inner.content ∧ t'.inner.source <:+ t.inner.source ∧
      (filled = .available (t'.inner.buffer.take t.limit) ∧
          (t'.inner.buffer.take t.limit = [] → t.limit = 0 ∨ t.inner.content = []) ∨
        filled = .interrupted ∧ t'.inner.source.length < t.inner.source.length ∨
        ∃ reason, filled = .failed reason ∧ .failed reason ∈ t.inner.source) := by
  unfold fillBuf at h
  split_ifs at h with hlimit
  · obtain ⟨rfl, rfl⟩ := Prod.mk.inj h
    exact ⟨rfl, rfl, List.suffix_rfl, .inl ⟨by rw [hlimit, List.take_zero], fun _ => .inl hlimit⟩⟩
  obtain ⟨found, inner, hfound⟩ : ∃ found inner, t.inner.fillBuf = (found, inner) :=
    ⟨_, _, rfl⟩
  obtain ⟨hcontent, hsource, ⟨rfl, hend⟩ | ⟨rfl, hread⟩ | ⟨reason, rfl, hfailed⟩⟩ :=
    Reader.fillBuf_spec hfound
  all_goals
    rw [hfound] at h
    obtain ⟨rfl, rfl⟩ := Prod.mk.inj h
  · refine ⟨rfl, hcontent, hsource, .inl ⟨rfl, fun hnil => .inr (hend ?_)⟩⟩
    exact (List.take_eq_nil_iff.1 hnil).resolve_left hlimit
  · exact ⟨rfl, hcontent, hsource, .inr (.inl ⟨rfl, hread⟩)⟩
  · exact ⟨rfl, hcontent, hsource, .inr (.inr ⟨reason, rfl, hfailed⟩)⟩

/-- Consuming elements that are available. -/
theorem Take.consume_spec (t : Take α ε) (amount : ℕ)
    (h : amount ≤ (t.inner.buffer.take t.limit).length) :
    t.inner.content =
        (t.inner.buffer.take t.limit).take amount ++ (t.consume amount).inner.content ∧
      t.limit = ((t.inner.buffer.take t.limit).take amount).length + (t.consume amount).limit := by
  rw [List.length_take] at h
  have hmin : min amount t.limit = amount := by omega
  have htake : (t.inner.buffer.take t.limit).take amount = t.inner.buffer.take amount := by
    rw [List.take_take, hmin]
  have hleft : (t.consume amount).limit = t.limit - amount := by rw [consume, hmin]
  refine ⟨?_, by rw [htake, hleft, List.length_take]; omega⟩
  rw [htake, consume, hmin]
  exact t.inner.content_consume amount

/-! ### Reading up to a delimiter -/

section ReadUntil

variable [DecidableEq α]

/-- What one round of the loop of `read_until` comes to: it tries again, fails, or takes
some elements, with the delimiter or not. -/
inductive Round (α ε : Type) where
  | retry (rest : Take α ε)
  | failed (reason : ε) (rest : Take α ε)
  | took (used : List α) (done : Bool) (rest : Take α ε)

/-- One round of the loop: what is available up to the delimiter is consumed. An
interruption is tried again, and a failure ends the loop with what has been collected so
far. -/
def Take.round (t : Take α ε) (delimiter : α) : Round α ε :=
  match t.fillBuf with
  | (.interrupted, t) => .retry t
  | (.failed reason, t) => .failed reason t
  | (.available available, t) =>
      match available.idxOf? delimiter with
      | some i => .took (available.take (i + 1)) true (t.consume (i + 1))
      | none => .took available false (t.consume available.length)

/-- What a round takes: the elements up to the delimiter, or others. -/
def Taken (delimiter : α) (used : List α) : Bool → Prop
  | true => ∃ before, used = before ++ [delimiter] ∧ delimiter ∉ before
  | false => delimiter ∉ used

/-- What a round can come to.  It takes nothing at the limit and at the end of the
stream only. -/
inductive Take.Rounds (t : Take α ε) (delimiter : α) : Round α ε → Prop where
  | retry {t' : Take α ε} (hcontent : t'.inner.content = t.inner.content)
      (hlimit : t'.limit = t.limit) (hsource : t'.inner.source <:+ t.inner.source)
      (hread : t'.inner.source.length < t.inner.source.length) : t.Rounds delimiter (.retry t')
  | failed {reason : ε} {t' : Take α ε} (hcontent : t'.inner.content = t.inner.content)
      (hsource : t'.inner.source <:+ t.inner.source)
      (hfailed : .failed reason ∈ t.inner.source) : t.Rounds delimiter (.failed reason t')
  | took {used : List α} {done : Bool} {t' : Take α ε}
      (hcontent : t.inner.content = used ++ t'.inner.content)
      (hlimit : t.limit = used.length + t'.limit) (hsource : t'.inner.source <:+ t.inner.source)
      (htaken : Taken delimiter used done)
      (hend : used = [] → t.limit = 0 ∨ t.inner.content = []) :
      t.Rounds delimiter (.took used done t')

/-- What a round of the loop does, one case for each of its ends: it took a portion,
which ends in the delimiter or has none; it was interrupted and is to be made again; or
the reader failed. The position of the delimiter in the portion decides how much is
taken. -/
theorem Take.rounds_round (t : Take α ε) (delimiter : α) :
    t.Rounds delimiter (t.round delimiter) := by
  obtain ⟨filled, t', hfilled⟩ : ∃ filled t', t.fillBuf = (filled, t') := ⟨_, _, rfl⟩
  obtain ⟨hlimit, hcontent, hsource, ⟨rfl, hend⟩ | ⟨rfl, hread⟩ | ⟨reason, rfl, hfailed⟩⟩ :=
    Take.fillBuf_spec hfilled
  · have hconsume := t'.consume_spec
    rw [hlimit, hcontent] at hconsume
    unfold round
    rw [hfilled]
    dsimp only
    cases hindex : (t'.inner.buffer.take t.limit).idxOf? delimiter with
    | none =>
        obtain ⟨hconsumed, hleft⟩ := hconsume _ le_rfl
        rw [List.take_length] at hconsumed hleft
        exact .took hconsumed hleft hsource (List.idxOf?_eq_none_iff.1 hindex) hend
    | some i =>
        obtain ⟨hi, hat, hbefore⟩ := List.idxOf?_eq_some_iff.1 hindex
        obtain ⟨hconsumed, hleft⟩ := hconsume _ hi
        have htaken : Taken delimiter ((t'.inner.buffer.take t.limit).take (i + 1)) true := by
          refine ⟨(t'.inner.buffer.take t.limit).take i, ?_, fun hmem => ?_⟩
          · rw [List.take_succ_eq_append_getElem hi, hat]
          · obtain ⟨j, hj, hmem⟩ := List.mem_iff_getElem.1 hmem
            rw [List.getElem_take] at hmem
            rw [List.length_take] at hj
            exact hbefore j (by omega) hmem
        refine .took hconsumed hleft hsource htaken fun hnil => ?_
        obtain ⟨before, hbefore, -⟩ := htaken
        simp [hbefore] at hnil
  · rw [round, hfilled]
    exact .retry hcontent hlimit hsource hread
  · rw [round, hfilled]
    exact .failed hcontent hsource hfailed

/-- An interrupted read costs the reader one of the interruptions before it. -/
theorem Take.weight_of_retry {t t' : Take α ε} {delimiter : α}
    (h : t.round delimiter = .retry t') : t'.inner.weight < t.inner.weight := by
  have hround := t.rounds_round delimiter
  rw [h] at hround
  cases hround with
  | retry hcontent hlimit hsource hread =>
      rw [Reader.weight, Reader.weight, hcontent]
      omega

/-- What a round takes is no longer in front of the reader. -/
theorem Take.weight_of_took {t t' : Take α ε} {delimiter : α} {used : List α} {done : Bool}
    (h : t.round delimiter = .took used done t') :
    t'.inner.weight + used.length ≤ t.inner.weight := by
  have hround := t.rounds_round delimiter
  rw [h] at hround
  cases hround with
  | took hcontent hlimit hsource htaken hend =>
      have hlength := hsource.length_le
      rw [Reader.weight, Reader.weight, hcontent, List.length_append]
      omega

/-- What `read_until` leaves: its result, the bytes with those it has added, and the
reader. -/
structure Outcome (α ε : Type) where
  result : Except ε ℕ
  bytes : List α
  rest : Take α ε

/-- The loop of `read_until`, which ends with the delimiter, or with nothing
available. -/
def Take.readUntil (t : Take α ε) (delimiter : α) (bytes : List α) (read : ℕ) : Outcome α ε :=
  match _h : t.round delimiter with
  | .retry t' => t'.readUntil delimiter bytes read
  | .failed reason t' => ⟨.error reason, bytes, t'⟩
  | .took used done t' =>
      if done ∨ used.length = 0 then ⟨.ok (read + used.length), bytes ++ used, t'⟩
      else t'.readUntil delimiter (bytes ++ used) (read + used.length)
termination_by t.inner.weight
decreasing_by
  · exact weight_of_retry _h
  · have hless := weight_of_took _h
    omega

/-! ### What the loop does -/

/-- The elements up to the first delimiter, and no more than a number of them. -/
def upTo (delimiter : α) : ℕ → List α → List α
  | 0, _ => []
  | _ + 1, [] => []
  | limit + 1, a :: l => if a = delimiter then [a] else a :: upTo delimiter limit l

/-- There is nothing to take from nothing. -/
@[simp] theorem upTo_nil (delimiter : α) (limit : ℕ) : upTo delimiter limit [] = [] := by
  cases limit <;> rfl

/-- Elements that are no delimiter are passed. -/
theorem upTo_append {delimiter : α} {before : List α} (h : delimiter ∉ before) (limit : ℕ)
    (l : List α) :
    upTo delimiter (before.length + limit) (before ++ l) = before ++ upTo delimiter limit l := by
  induction before with
  | nil => rw [List.length_nil, Nat.zero_add, List.nil_append, List.nil_append]
  | cons a before ih =>
      obtain ⟨hne, hrest⟩ := List.ne_and_not_mem_of_not_mem_cons h
      rw [List.length_cons, Nat.add_right_comm, List.cons_append, upTo, if_neg hne.symm, ih hrest,
        List.cons_append]

/-- At the first delimiter it ends. -/
theorem upTo_delimiter {delimiter : α} {before : List α} (h : delimiter ∉ before) (limit : ℕ)
    (l : List α) :
    upTo delimiter ((before ++ [delimiter]).length + limit) (before ++ [delimiter] ++ l) =
      before ++ [delimiter] := by
  rw [List.length_append, Nat.add_assoc, List.append_assoc, upTo_append h, List.length_singleton,
    Nat.add_comm, List.singleton_append, upTo, if_pos rfl]

/-- **`upTo` ends at the delimiter, at the limit, or with the list.** In the last two
cases it has no delimiter, which is what tells them from the first one. -/
theorem upTo_cases (delimiter : α) (limit : ℕ) (l : List α) :
    (∃ before after, l = before ++ delimiter :: after ∧ delimiter ∉ before ∧
      before.length < limit ∧ upTo delimiter limit l = before ++ [delimiter]) ∨
    delimiter ∉ l.take limit ∧ upTo delimiter limit l = l.take limit := by
  induction limit generalizing l with
  | zero => exact .inr ⟨List.not_mem_nil, rfl⟩
  | succ limit ih =>
      cases l with
      | nil => exact .inr ⟨List.not_mem_nil, rfl⟩
      | cons a l =>
          by_cases ha : a = delimiter
          · subst ha
            exact .inl ⟨[], l, rfl, List.not_mem_nil, Nat.succ_pos _, by rw [upTo, if_pos rfl]; rfl⟩
          rw [upTo, if_neg ha]
          obtain ⟨before, after, rfl, hnot, hlength, heq⟩ | ⟨hnot, heq⟩ := ih l
          · refine .inl ⟨a :: before, after, rfl, ?_, by simpa using hlength, by rw [heq]; rfl⟩
            exact List.not_mem_cons_of_ne_of_not_mem (Ne.symm ha) hnot
          · rw [heq]
            exact .inr ⟨List.not_mem_cons_of_ne_of_not_mem (Ne.symm ha) hnot, rfl⟩

/-- What is taken is a beginning of what there is. -/
theorem upTo_prefix (delimiter : α) (limit : ℕ) (l : List α) : upTo delimiter limit l <+: l := by
  obtain ⟨before, after, rfl, -, -, heq⟩ | ⟨-, heq⟩ := upTo_cases delimiter limit l
  · rw [heq]
    exact ⟨after, List.append_cons .. |>.symm⟩
  · exact heq ▸ List.take_prefix ..

/-- It finds something where there is something. -/
theorem upTo_eq_nil {delimiter : α} {limit : ℕ} {l : List α}
    (h : upTo delimiter (limit + 1) l = []) : l = [] := by
  cases l with
  | nil => rfl
  | cons a l =>
      rw [upTo] at h
      split_ifs at h

/-- It is not longer than the limit. -/
theorem length_upTo_le (delimiter : α) (limit : ℕ) (l : List α) :
    (upTo delimiter limit l).length ≤ limit := by
  obtain ⟨before, after, rfl, -, hlength, heq⟩ | ⟨-, heq⟩ := upTo_cases delimiter limit l <;>
    rw [heq]
  · rwa [List.length_append, List.length_singleton]
  · exact List.length_take_le ..

/-- No element is taken behind the first delimiter. -/
theorem not_mem_dropLast_of_prefix_upTo {delimiter : α} {limit : ℕ} {l taken : List α}
    (h : taken <+: upTo delimiter limit l) : delimiter ∉ taken.dropLast := by
  obtain ⟨rest, hrest⟩ := h
  intro hmem
  have hupto : delimiter ∈ (upTo delimiter limit l).dropLast := by
    rw [← hrest, List.dropLast_append]
    split_ifs
    · exact hmem
    · exact List.mem_append_left _ (List.mem_of_mem_dropLast hmem)
  obtain ⟨before, after, rfl, hnot, -, heq⟩ | ⟨hnot, heq⟩ := upTo_cases delimiter limit l
  · rw [heq, List.dropLast_concat] at hupto
    exact hnot hupto
  · rw [heq] at hupto
    exact hnot (List.mem_of_mem_dropLast hupto)

/-- **What `read_until` does.**  Whatever is delivered, it consumes a part of
`upTo`; if it succeeds this is all of it, and it fails only as its source does. -/
theorem Take.readUntil_spec (t : Take α ε) (delimiter : α) (bytes : List α) (read : ℕ) :
    ∃ consumed, (t.readUntil delimiter bytes read).bytes = bytes ++ consumed ∧
      t.inner.content = consumed ++ (t.readUntil delimiter bytes read).rest.inner.content ∧
      consumed <+: upTo delimiter t.limit t.inner.content ∧
      (t.readUntil delimiter bytes read).rest.inner.source <:+ t.inner.source ∧
      (∀ n, (t.readUntil delimiter bytes read).result = .ok n →
        n = read + consumed.length ∧ consumed = upTo delimiter t.limit t.inner.content) ∧
      ∀ reason, (t.readUntil delimiter bytes read).result = .error reason →
        .failed reason ∈ t.inner.source := by
  fun_induction t.readUntil delimiter bytes read with
  | case1 t bytes read t' h ih =>
      cases h ▸ t.rounds_round delimiter with
      | retry hcontent hlimit hsource hread =>
          rw [hcontent, hlimit] at ih
          obtain ⟨consumed, hbytes, hrest, hupto, hleft, hok, hfailed⟩ := ih
          exact ⟨consumed, hbytes, hrest, hupto, hleft.trans hsource, hok,
            fun reason hreason => hsource.mem (hfailed reason hreason)⟩
  | case2 t bytes read reason t' h =>
      cases h ▸ t.rounds_round delimiter with
      | failed hcontent hsource hfailed =>
          refine ⟨[], (List.append_nil _).symm, hcontent.symm, List.nil_prefix, hsource,
            fun _ hok => ?_, fun _ herror => ?_⟩
          · cases hok
          · cases herror
            exact hfailed
  | case3 t bytes read used done t' h hend =>
      cases h ▸ t.rounds_round delimiter with
      | took hcontent hlimit hsource htaken hnothing =>
          have hupto : used = upTo delimiter t.limit t.inner.content := by
            cases done with
            | true =>
                obtain ⟨before, rfl, hbefore⟩ := htaken
                rw [hcontent, hlimit, upTo_delimiter hbefore]
            | false =>
                have hnil : used = [] := List.length_eq_zero_iff.1 (hend.resolve_left (by simp))
                rcases hnothing hnil with hzero | hempty
                · rw [hzero, hnil, upTo]
                · rw [hempty, hnil, upTo_nil]
          refine ⟨used, rfl, hcontent, hupto ▸ List.prefix_rfl, hsource, fun n hn => ?_,
            fun _ herror => ?_⟩
          · cases hn
            exact ⟨rfl, hupto⟩
          · cases herror
  -- the portion has no delimiter: it is taken whole, and the rest is read on
  | case4 t bytes read used done t' h hend ih =>
      cases h ▸ t.rounds_round delimiter with
      | took hcontent hlimit hsource htaken hnothing =>
          obtain ⟨consumed, hbytes, hrest, hupto, hleft, hok, hfailed⟩ := ih
          obtain ⟨hdone, -⟩ := not_or.1 hend
          rw [Bool.not_eq_true] at hdone
          subst hdone
          rw [hlimit, hcontent, upTo_append htaken]
          refine ⟨used ++ consumed, by rw [hbytes, List.append_assoc],
            by rw [List.append_assoc, hrest], (List.prefix_append_right_inj _).2 hupto,
            hleft.trans hsource, fun n hn => ?_,
            fun reason hreason => hsource.mem (hfailed reason hreason)⟩
          obtain ⟨rfl, heq⟩ := hok n hn
          exact ⟨by rw [List.length_append, Nat.add_assoc], by rw [heq]⟩

end ReadUntil

end Buffered
