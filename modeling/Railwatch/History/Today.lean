/-
# The local day

`calendar::start_of_day` and `calendar::today` of `crates/core`, from which the
clients take the range of today's energy.

A zone is a function from UTC minutes to offsets; the earliest instant that shows
a local reading is found by search (`earliest_eq_some`).  What `today`
returns are the earliest instants that show the least reading of the date and of
the next date that is shown at all.  `today_is_the_local_day_iff` says when these
are the ends of the date: not if the clock is set back over a midnight
(`today_ends_before_now`).
-/

import Railwatch.History.Summary

namespace Railwatch

open Calendar

/-- A time zone: the offset from UTC, in minutes, at each UTC minute.  It is
within a day, and changes finitely often. -/
structure ClockZone where
  name : String
  /-- Minutes from UTC. -/
  offset : ℤ → ℤ
  /-- A day at most. -/
  bounded : ∀ u, -1440 ≤ offset u ∧ offset u ≤ 1440
  /-- There are finitely many changes. -/
  finite : {u | offset u ≠ offset (u - 1)}.Finite

/-- The offset at each instant, in milliseconds. -/
def ClockZone.zone (z : ClockZone) : Zone := fun at_ => z.offset (at_ / 60000)

/-- The local minute that the clock shows at a UTC minute. -/
def ClockZone.reading (z : ClockZone) (u : ℤ) : ℤ := u + z.offset u

/-- The local date that the clock shows at a UTC minute. -/
def ClockZone.date (z : ClockZone) (u : ℤ) : ℤ := z.reading u / 1440

/-- The first integer with a property, from some start on. -/
def firstFrom (start : ℤ) (n : ℕ) (p : ℤ → Bool) : Option ℤ :=
  ((List.range n).find? fun i : ℕ => p (start + i)).map fun i : ℕ => start + i

/-- `and_local_timezone(tz).earliest()`: the earliest UTC minute that shows a
local one. -/
def ClockZone.earliest (z : ClockZone) (local_ : ℤ) : Option ℤ :=
  firstFrom (local_ - 1440) 2881 fun u => z.reading u = local_

/-- `start_of_day`. -/
@[irreducible] def ClockZone.startOfDay (z : ClockZone) (date : ℤ) : Except String ℤ :=
  match (List.range 1440).findSome? fun minute : ℕ => z.earliest (date * 1440 + minute) with
  | some u => .ok (u * 60000)
  | none => .error ("calendar date does not exist in " ++ z.name)

/-- A day has a `NaiveDate`. -/
def dateInRange (d : ℤ) : Bool := daysBeforeYear (-262143) ≤ d && d < daysBeforeYear 262143

/-- `succ_opt`. -/
def succDate (d : ℤ) : Except String ℤ :=
  if dateInRange (d + 1) then .ok (d + 1) else .error "date overflow"

/-- The loop of `today` over the next dates. The first one that has a beginning ends the
interval; a date that the zone skips has none. Only then is the beginning of the day
itself looked up. -/
def ClockZone.todayUntil (z : ClockZone) (date : ℤ) : ℕ → ℤ → Except String (ℤ × ℤ)
  | 0, _ => .error ("cannot determine the next calendar day in " ++ z.name)
  | n + 1, next =>
      match z.startOfDay next with
      | .ok stop => do
          let start ← z.startOfDay date
          return (start, stop)
      | .error _ => do
          let next ← succDate next
          z.todayUntil date n next

/-- `today`.  A local time that has no `NaiveDateTime` is a panic in the source. -/
def ClockZone.today (z : ClockZone) (now : ℤ) : Except String (ℤ × ℤ) := do
  let date := localDay z.zone now
  if dateInRange date then do
    let next ← succDate date
    z.todayUntil date 3 next
  else throw "Local time out of range for NaiveDateTime"

/-! ### Searching -/

/-- A search that finds something has found the first. -/
theorem firstFrom_eq_some {start u : ℤ} {n : ℕ} {p : ℤ → Bool}
    (h : firstFrom start n p = some u) :
    p u = true ∧ ∀ v, start ≤ v → v < u → p v = false := by
  obtain ⟨i, hi, rfl⟩ := Option.map_eq_some_iff.1 h
  obtain ⟨hp, -, hbefore⟩ := List.find?_range_eq_some.1 hi
  refine ⟨hp, fun v hv hlt => ?_⟩
  obtain ⟨j, hj⟩ := Int.eq_ofNat_of_zero_le (sub_nonneg.2 hv)
  have := hbefore j (by omega)
  rwa [← hj, add_sub_cancel, Bool.not_eq_true'] at this

/-- And one that finds nothing has looked at every place. -/
theorem firstFrom_eq_none {start : ℤ} {n : ℕ} {p : ℤ → Bool} (h : firstFrom start n p = none)
    (v : ℤ) (hv : start ≤ v) (hlt : v < start + n) : p v = false := by
  obtain ⟨j, hj⟩ := Int.eq_ofNat_of_zero_le (sub_nonneg.2 hv)
  have := List.find?_range_eq_none.1 (Option.map_eq_none_iff.1 h) j (by omega)
  rwa [← hj, add_sub_cancel, Bool.not_eq_true'] at this

/-- The first of some numbers for which a function is defined: it is defined for this
one, and for none below it. -/
theorem findSome?_range {α : Type} {f : ℕ → Option α} {n : ℕ} {a : α}
    (h : (List.range n).findSome? f = some a) :
    ∃ i < n, f i = some a ∧ ∀ j < i, f j = none := by
  obtain ⟨before, i, after, hsplit, hi, hbefore⟩ := List.findSome?_eq_some_iff.1 h
  have hlt : i < n := List.mem_range.1 (by rw [hsplit]; simp)
  refine ⟨i, hlt, hi, fun j hj => hbefore j ?_⟩
  have hmem : j ∈ before ++ i :: after := by
    rw [← hsplit]
    exact List.mem_range.2 (hj.trans hlt)
  have hsorted := List.pairwise_lt_range (n := n)
  rw [hsplit, List.pairwise_append] at hsorted
  rcases List.mem_append.1 hmem with hmem | hmem
  · exact hmem
  · rcases List.mem_cons.1 hmem with rfl | hmem
    · exact absurd hj (lt_irrefl j)
    · exact absurd hj (List.rel_of_pairwise_cons hsorted.2.1 hmem).asymm

/-! ### What the clock shows -/

/-- The local date of an instant is that of its minute. -/
theorem ClockZone.localDay_eq (z : ClockZone) (at_ : ℤ) :
    localDay z.zone at_ = z.date (at_ / 60000) := by
  unfold localDay localMs ClockZone.zone ClockZone.date ClockZone.reading
  omega

/-- The clock shows a reading less than a day away from it, or a day. -/
theorem ClockZone.near (z : ClockZone) (u : ℤ) :
    z.reading u - 1440 ≤ u ∧ u ≤ z.reading u + 1440 := by
  have := z.bounded u
  unfold ClockZone.reading
  omega

/-- **The search finds the earliest minute that shows a reading.** It need not look
further than a day around, since no offset is more than that. -/
theorem ClockZone.earliest_eq_some {z : ClockZone} {local_ u : ℤ}
    (h : z.earliest local_ = some u) : IsLeast {v | z.reading v = local_} u := by
  obtain ⟨hu, hbefore⟩ := firstFrom_eq_some h
  refine ⟨of_decide_eq_true hu, fun v hv => not_lt.1 fun hlt => ?_⟩
  have hnear := z.near v
  rw [hv] at hnear
  exact of_decide_eq_false (hbefore v hnear.1 hlt) hv

/-- A reading that the search does not find is never shown. -/
theorem ClockZone.reading_ne_of_earliest {z : ClockZone} {local_ : ℤ}
    (h : z.earliest local_ = none) (v : ℤ) : z.reading v ≠ local_ := by
  intro hv
  have hnear := z.near v
  rw [hv] at hnear
  exact of_decide_eq_false (firstFrom_eq_none h v hnear.1 (by omega)) hv

/-- A minute opens a date: it shows the least reading of the date that is ever
shown, and no earlier one does. -/
structure ClockZone.Opens (z : ClockZone) (date u : ℤ) : Prop where
  /-- It shows the date. -/
  date_eq : z.date u = date
  /-- No minute of the date reads earlier. -/
  least : ∀ v, z.date v = date → z.reading u ≤ z.reading v
  /-- None before it reads the same. -/
  first : ∀ v, z.reading v = z.reading u → u ≤ v

/-- **What `start_of_day` finds.** It tries the readings of the date from midnight on,
and takes the first one that is ever shown, where it is shown first. -/
theorem ClockZone.startOfDay_ok {z : ClockZone} {date start : ℤ}
    (h : z.startOfDay date = .ok start) : ∃ u, start = u * 60000 ∧ z.Opens date u := by
  unfold ClockZone.startOfDay at h
  split at h
  · next u hu =>
      obtain ⟨i, hi, hfound, hbefore⟩ := findSome?_range hu
      obtain ⟨hreading, hfirst⟩ := ClockZone.earliest_eq_some hfound
      change z.reading u = date * 1440 + i at hreading
      refine ⟨u, (Except.ok.inj h).symm, ?_, fun v hv => ?_, fun v hv => ?_⟩
      · unfold ClockZone.date
        omega
      · unfold ClockZone.date at hv
        by_contra hlt
        obtain ⟨j, hj⟩ := Int.eq_ofNat_of_zero_le (by omega : 0 ≤ z.reading v - date * 1440)
        exact z.reading_ne_of_earliest (hbefore j (by omega)) v (by omega)
      · exact hfirst (hv.trans hreading)
  · cases h

/-- A date without a start is never shown. -/
theorem ClockZone.startOfDay_error {z : ClockZone} {date : ℤ} {e : String}
    (h : z.startOfDay date = .error e) (v : ℤ) : z.date v ≠ date := by
  unfold ClockZone.startOfDay at h
  split at h
  · cases h
  · next hnone =>
      intro hv
      unfold ClockZone.date at hv
      obtain ⟨j, hj⟩ := Int.eq_ofNat_of_zero_le (by omega : 0 ≤ z.reading v - date * 1440)
      have hmissing := List.findSome?_eq_none_iff.1 hnone j (List.mem_range.2 (by omega))
      exact z.reading_ne_of_earliest hmissing v (by omega)

/-- **What the loop of `today` finds**: the start of the date, and that of the next
date that is shown. -/
theorem ClockZone.todayUntil_ok {z : ClockZone} {date start stop : ℤ} {n : ℕ} {next : ℤ}
    (h : z.todayUntil date n next = .ok (start, stop)) :
    z.startOfDay date = .ok start ∧ ∃ later, next ≤ later ∧ z.startOfDay later = .ok stop ∧
      ∀ v, next ≤ z.date v → later ≤ z.date v := by
  induction n generalizing next with
  | zero =>
      rw [ClockZone.todayUntil] at h
      cases h
  | succ n ih =>
      rw [ClockZone.todayUntil] at h
      cases hnext : z.startOfDay next with
      | ok stop' =>
          cases hdate : z.startOfDay date with
          | error e => simp [hnext, hdate] at h
          | ok start' =>
              rw [hnext, hdate] at h
              obtain ⟨rfl, rfl⟩ := Prod.mk.inj (Except.ok.inj h)
              exact ⟨rfl, next, le_rfl, hnext, fun _ hv => hv⟩
      | error e =>
          have hnever := ClockZone.startOfDay_error hnext
          rw [hnext] at h
          unfold succDate at h
          split_ifs at h
          · obtain ⟨hstart, later, hle, hstop, hlater⟩ := ih h
            refine ⟨hstart, later, by omega, hstop, fun v hv => hlater v ?_⟩
            have := hnever v
            omega
          · cases h

/-- What `today` finds: the first minute of today's date, and the first minute of the
next date that has one. Dates that the zone skips are passed over, so the later one need
not be tomorrow's. -/
theorem ClockZone.today_ok {z : ClockZone} {now start stop : ℤ}
    (h : z.today now = .ok (start, stop)) :
    ∃ a b later, start = a * 60000 ∧ stop = b * 60000 ∧ z.Opens (z.date (now / 60000)) a ∧
      z.Opens later b ∧ z.date (now / 60000) < later ∧
        ∀ v, z.date (now / 60000) < z.date v → later ≤ z.date v := by
  rw [ClockZone.today, z.localDay_eq] at h
  unfold succDate at h
  split_ifs at h with hdate hnext
  · simp only [bind, Except.bind] at h
    obtain ⟨hstart, later, hlater, hstop, hnone⟩ := ClockZone.todayUntil_ok h
    obtain ⟨a, rfl, ha⟩ := ClockZone.startOfDay_ok hstart
    obtain ⟨b, rfl, hb⟩ := ClockZone.startOfDay_ok hstop
    exact ⟨a, b, later, rfl, rfl, ha, hb, Int.add_one_le_iff.1 hlater,
      fun v hv => hnone v (Int.add_one_le_iff.2 hv)⟩
  · cases h

/-! ### When the range is the date -/

/-- The clock shows a date from one minute on up to another one, the least reading
of the date first, and it shows the least reading of all later dates at the other
one for the first time. -/
structure ClockZone.InOrder (z : ClockZone) (date a b : ℤ) : Prop where
  /-- The minutes of the date are those from `a` on, up to `b`. -/
  shown : ∀ u, z.date u = date ↔ a ≤ u ∧ u < b
  /-- The first one has the least reading. -/
  opens : ∀ u, z.date u = date → z.reading a ≤ z.reading u
  /-- The next date is a later one. -/
  later : date < z.date b
  /-- It begins with the least reading of all later dates. -/
  closes : ∀ u, date < z.date u → z.reading b ≤ z.reading u
  /-- And that is read for the first time. -/
  first : ∀ u, z.reading u = z.reading b → b ≤ u

/-- A range of instants is the local day of an instant. -/
def IsLocalDay (zone : Zone) (now start stop : ℤ) : Prop :=
  (start ≤ now ∧ now < stop) ∧
    ∀ at_, (start ≤ at_ ∧ at_ < stop) ↔ localDay zone at_ = localDay zone now

/-- The same, in minutes. -/
theorem ClockZone.isLocalDay_iff (z : ClockZone) (now a b : ℤ) :
    IsLocalDay z.zone now (a * 60000) (b * 60000) ↔
      ∀ u, z.date u = z.date (now / 60000) ↔ a ≤ u ∧ u < b := by
  have hrange (at_ : ℤ) : (a * 60000 ≤ at_ ∧ at_ < b * 60000) ↔
      a ≤ at_ / 60000 ∧ at_ / 60000 < b := by omega
  simp only [IsLocalDay, z.localDay_eq, hrange]
  constructor
  · rintro ⟨-, hday⟩ u
    have := hday (u * 60000)
    rw [Int.mul_ediv_cancel u (by norm_num)] at this
    exact this.symm
  · intro hday
    exact ⟨(hday _).1 rfl, fun at_ => (hday _).symm⟩

/-- **`today` is the local day exactly if the clock shows the day in order.** The first
reading of the date has to come before all other ones, and that of the next date after
all of them. -/
theorem today_is_the_local_day_iff (z : ClockZone) (now start stop : ℤ)
    (htoday : z.today now = .ok (start, stop)) :
    IsLocalDay z.zone now start stop ↔ ∃ a b, z.InOrder (localDay z.zone now) a b := by
  obtain ⟨a, b, later, rfl, rfl, ha, hb, hlater, hnone⟩ := ClockZone.today_ok htoday
  rw [z.isLocalDay_iff, z.localDay_eq]
  constructor
  · intro hshown
    refine ⟨a, b, hshown, ha.least, by rw [hb.date_eq]; exact hlater, fun u hu => ?_, hb.first⟩
    rcases (hnone u hu).eq_or_lt with heq | hlt
    · exact hb.least u heq.symm
    · have := hb.date_eq
      unfold ClockZone.date at this hlt
      omega
  · rintro ⟨a', b', hday⟩
    have hfirst : a' = a := by
      have hnow := (hday.shown _).1 rfl
      have ha' := (hday.shown a').2 ⟨le_rfl, by omega⟩
      have hreading := le_antisymm (hday.opens a ha.date_eq) (ha.least a' ha')
      exact le_antisymm ((hday.shown a).1 ha.date_eq).1 (ha.first a' hreading)
    have hlast : b' = b := by
      have hle := hday.closes b (by rw [hb.date_eq]; exact hlater)
      have hdate : z.date b' = later := by
        refine le_antisymm ?_ (hnone b' hday.later)
        rw [← hb.date_eq]
        exact Int.ediv_le_ediv (by norm_num) hle
      have hreading := le_antisymm hle (hb.least b' hdate)
      exact le_antisymm (hday.first b hreading.symm) (hb.first b' hreading)
    rw [← hfirst, ← hlast]
    exact hday.shown

/-- A zone whose clock is changed once, at a minute, from one offset to another. The
offsets are in minutes and at most a day. -/
def ClockZone.changing (name : String) (before after change : ℤ)
    (h : (-1440 ≤ before ∧ before ≤ 1440) ∧ (-1440 ≤ after ∧ after ≤ 1440)) : ClockZone where
  name := name
  offset u := if u < change then before else after
  bounded u := by
    split_ifs
    · exact h.1
    · exact h.2
  finite := by
    refine (Set.finite_singleton change).subset fun u hu => ?_
    by_contra hne
    refine hu ?_
    split_ifs <;> first | rfl | exact absurd (show u = change by omega) hne

/-- `America/New_York`, with the end of daylight saving time in November 2025. -/
def newYork : ClockZone :=
  .changing "America/New_York" (-240) (-300) 29367720 (by decide)

/-- The day on which daylight saving time ends has 25 hours, and `today` gives its
beginning and end. -/
theorem newYork_day_is_today :
    ∃ start stop, newYork.today 1762084800000 = .ok (start, stop) ∧
      stop - start = 25 * 3600000 ∧ IsLocalDay newYork.zone 1762084800000 start stop := by
  have htoday : newYork.today 1762084800000 = .ok (1762056000000, 1762146000000) := by
    decide +kernel
  have hdate : localDay newYork.zone 1762084800000 = 20394 := by decide +kernel
  refine ⟨_, _, htoday, by decide, (today_is_the_local_day_iff newYork _ _ _ htoday).2
    ⟨29367600, 29369100, ?_⟩⟩
  rw [hdate]
  constructor <;> simp only [ClockZone.date, ClockZone.reading, newYork, ClockZone.changing]
  · intro u
    split_ifs <;> omega
  · intro u hu
    split_ifs at hu ⊢ <;> omega
  · norm_num
  · intro u hu
    split_ifs at hu ⊢ <;> omega
  · intro u hu
    split_ifs at hu ⊢ <;> omega

/-- `America/St_Johns`, with the end of daylight saving time in November 2010: the
clock is set back from 00:01 to 23:01. -/
def stJohns : ClockZone :=
  .changing "America/St_Johns" (-150) (-210) 21484951 (by decide)

/-- **The day ends before now**: at the second 23:30 of 6 November, the earliest
instant to show the next midnight has passed. -/
theorem today_ends_before_now :
    ∃ start stop, stJohns.today 1289098800000 = .ok (start, stop) ∧
      stop ≤ 1289098800000 ∧ ¬IsLocalDay stJohns.zone 1289098800000 start stop := by
  have htoday : stJohns.today 1289098800000 = .ok (1289010600000, 1289097000000) := by
    decide +kernel
  exact ⟨_, _, htoday, by decide, fun hday => absurd hday.1.2 (by decide)⟩

end Railwatch
