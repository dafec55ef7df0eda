/-
# Cutting an interval of time

Half-open intervals of whole ticks.  `cut` cuts `[a, b)` at the multiples of a
width `w`; its pieces tile the interval (`tiles_cut`) and each lies in one cell
of the grid (`inCell_of_mem_cut`).  Over a tiling every difference telescopes
(`Tiles.sum_sub`), and the pieces in one cell add up to what the interval and
the cell have in common (`Tiles.sum_in_cell`).

Intervals that are pairwise apart cover no tick twice, so what they have in
common with any interval is at most its length (`sum_overlap_le`).

`cut` is defined by recursion on what is left of the interval, which each piece makes
shorter.
-/

import Mathlib

namespace Intervals

/-- The ticks from `start`, before `stop`. A piece whose stop is not behind its start
has none. -/
structure Piece where
  start : ℤ
  stop : ℤ
  deriving DecidableEq, Repr

/-- The number of ticks of an interval that runs forward. -/
def Piece.length (p : Piece) : ℤ := p.stop - p.start

/-- The number of ticks two intervals have in common. -/
def Piece.overlap (p q : Piece) : ℤ := max 0 (min p.stop q.stop - max p.start q.start)

/-- Intervals overlap if they have a tick in common. -/
theorem Piece.overlap_pos_iff {p q : Piece} : 0 < p.overlap q ↔
    ∃ x, (p.start ≤ x ∧ x < p.stop) ∧ q.start ≤ x ∧ x < q.stop := by
  unfold Piece.overlap
  constructor
  · intro h
    exact ⟨max p.start q.start, by omega, by omega⟩
  · rintro ⟨x, hp, hq⟩
    omega

/-- One interval ends before the other starts. -/
def Piece.Apart (p q : Piece) : Prop := p.stop ≤ q.start ∨ q.stop ≤ p.start

/-- Two comparisons decide it. -/
instance : DecidableRel Piece.Apart := fun p q =>
  inferInstanceAs (Decidable (p.stop ≤ q.start ∨ q.stop ≤ p.start))

/-- The first tick of the cell of a tick, in a grid of width `w`. -/
def cell (w x : ℤ) : ℤ := x / w * w

/-- A cell starts at or below each of its points, also below zero, where the quotient is
rounded down. -/
theorem cell_le {w : ℤ} (hw : 0 < w) (x : ℤ) : cell w x ≤ x := Int.ediv_mul_le x hw.ne'

/-- And it ends above them. -/
theorem lt_cell_add {w : ℤ} (hw : 0 < w) (x : ℤ) : x < cell w x + w := by
  have h := Int.lt_ediv_add_one_mul_self x hw
  rwa [add_mul, one_mul] at h

/-- It starts at a multiple of its width. -/
theorem cell_emod {w : ℤ} (x : ℤ) : cell w x % w = 0 := Int.mul_emod_left _ _

/-- The tick a cell starts with is in that cell. -/
theorem cell_eq_of_le_of_lt {w m x : ℤ} (hw : 0 < w) (hm : m % w = 0) (h : m ≤ x)
    (h' : x < m + w) : cell w x = m := by
  obtain ⟨k, rfl⟩ := Int.dvd_of_emod_eq_zero hm
  have hk : x / w = k := by
    apply le_antisymm
    · have := (Int.ediv_lt_iff_lt_mul hw (a := x) (b := k + 1)).2 (by linarith)
      omega
    · exact (Int.le_ediv_iff_mul_le hw).2 (by linarith)
  rw [cell, hk, mul_comm]

/-- Consecutive intervals from `a` to `b`, none of them empty. -/
def Tiles : List Piece → ℤ → ℤ → Prop
  | [], a, b => a = b
  | p :: ps, a, b => p.start = a ∧ a < p.stop ∧ Tiles ps p.stop b

/-- The interval lies in the cell of its first tick. -/
def InCell (w : ℤ) (p : Piece) : Prop := cell w p.start ≤ p.start ∧ p.stop ≤ cell w p.start + w

/-- `[a, b)`, cut at the multiples of `w`. Each piece ends with its cell, or with the
interval, and the next one starts there; the pieces are as many as the cells that the
interval meets. -/
def cut (w : ℤ) (hw : 0 < w) (a b : ℤ) : List Piece :=
  if a < b then
    ⟨a, min (cell w a + w) b⟩ :: cut w hw (min (cell w a + w) b) b
  else []
termination_by (b - a).toNat
decreasing_by
  have := lt_cell_add hw a
  omega

section Cut

variable {w : ℤ} (hw : 0 < w)
include hw

/-- The pieces of an interval tile it. -/
theorem tiles_cut {a b : ℤ} (h : a ≤ b) : Tiles (cut w hw a b) a b := by
  fun_induction cut w hw a b with
  | case1 a hab ih =>
      exact ⟨rfl, lt_min (lt_cell_add hw a) hab, ih (min_le_right _ _)⟩
  | case2 a hab => exact le_antisymm h (not_lt.1 hab)

/-- Each of them lies in one cell. -/
theorem inCell_of_mem_cut {a b : ℤ} {p : Piece} (h : p ∈ cut w hw a b) : InCell w p := by
  fun_induction cut w hw a b with
  | case1 a hab ih =>
      rcases List.mem_cons.1 h with rfl | h
      · exact ⟨cell_le hw a, min_le_left _ _⟩
      · exact ih h
  | case2 a hab => cases h

/-- A piece ends with its cell, or with the interval. -/
theorem stop_of_mem_cut {a b : ℤ} {p : Piece} (h : p ∈ cut w hw a b) :
    p.stop = min (cell w p.start + w) b := by
  fun_induction cut w hw a b with
  | case1 a hab ih =>
      rcases List.mem_cons.1 h with rfl | h
      · rfl
      · exact ih h
  | case2 a hab => cases h

/-- Every piece has a tick. -/
theorem length_cut_le (a b : ℤ) : (cut w hw a b).length ≤ (b - a).toNat := by
  fun_induction cut w hw a b with
  | case1 a hab ih =>
      have hlt := lt_cell_add hw a
      rw [List.length_cons]
      omega
  | case2 a hab => exact Nat.zero_le _

end Cut

section Tiles

/-- What is tiled has its end behind its start, or is empty. -/
theorem Tiles.le : ∀ {ps : List Piece} {a b : ℤ}, Tiles ps a b → a ≤ b
  | [], _, _, h => le_of_eq h
  | _ :: _, _, _, ⟨_, hp, h⟩ => hp.le.trans h.le

/-- A tile is not empty, and lies inside of what is tiled. -/
theorem Tiles.mem_bounds {ps : List Piece} {a b : ℤ} (h : Tiles ps a b) {p : Piece}
    (hp : p ∈ ps) : a ≤ p.start ∧ p.start < p.stop ∧ p.stop ≤ b := by
  induction ps generalizing a with
  | nil => cases hp
  | cons q ps ih =>
      obtain ⟨hstart, hlt, hrest⟩ := h
      rcases List.mem_cons.1 hp with rfl | hp
      · exact ⟨hstart.ge, by omega, hrest.le⟩
      · obtain ⟨h₁, h₂, h₃⟩ := ih hrest hp
        exact ⟨by omega, h₂, h₃⟩

/-- What is left of an interval after its first piece is in other cells. -/
theorem cell_ne_of_mem_cut {w : ℤ} (hw : 0 < w) {a b : ℤ} {p : Piece}
    (h : p ∈ cut w hw (min (cell w a + w) b) b) : cell w p.start ≠ cell w a := by
  obtain ⟨h₁, h₂, h₃⟩ := (tiles_cut hw (min_le_right _ _)).mem_bounds h
  have hlt := lt_cell_add hw p.start
  omega

/-- **Differences telescope over a tiling.** Each tile starts where the one before
stops, so that only the ends of the interval are left. -/
theorem Tiles.sum_sub {M : Type*} [AddCommGroup M] (F : ℤ → M) {ps : List Piece} {a b : ℤ}
    (h : Tiles ps a b) : (ps.map fun p => F p.stop - F p.start).sum = F b - F a := by
  induction ps generalizing a with
  | nil =>
      obtain rfl : a = b := h
      simp
  | cons p ps ih =>
      obtain ⟨rfl, -, hrest⟩ := h
      rw [List.map_cons, List.sum_cons, ih hrest]
      abel

/-- The lengths of the tiles add up to that of the interval. -/
theorem Tiles.sum_length {ps : List Piece} {a b : ℤ} (h : Tiles ps a b) :
    (ps.map Piece.length).sum = b - a := h.sum_sub fun x => x

/-- The overlap with an interval is the sum of the overlaps with its tiles. -/
theorem Tiles.sum_overlap {ps : List Piece} {a b : ℤ} (h : Tiles ps a b) (q : Piece) :
    (ps.map (Piece.overlap · q)).sum = Piece.overlap ⟨a, b⟩ q := by
  induction ps generalizing a with
  | nil =>
      obtain rfl : a = b := h
      simp only [List.map_nil, List.sum_nil, Piece.overlap]
      omega
  | cons p ps ih =>
      obtain ⟨rfl, hlt, hrest⟩ := h
      have hle := hrest.le
      rw [List.map_cons, List.sum_cons, ih hrest]
      simp only [Piece.overlap]
      omega

/-- A tile in a cell overlaps that cell in whole and any other not at all. The cells of
a grid of one width are disjoint, so the length of the tile is counted once. -/
theorem InCell.overlap_eq {w : ℤ} (hw : 0 < w) {p : Piece} (h : InCell w p)
    (hp : p.start ≤ p.stop) {m : ℤ} (hm : m % w = 0) :
    p.overlap ⟨m, m + w⟩ = if cell w p.start = m then p.length else 0 := by
  obtain ⟨h₁, h₂⟩ := h
  split_ifs with heq
  · rw [heq] at h₁ h₂
    simp only [Piece.overlap, Piece.length]
    omega
  · -- the cells of a grid do not meet
    have hapart : cell w p.start + w ≤ m ∨ m + w ≤ cell w p.start := by
      by_contra hno
      rw [not_or, not_le, not_le] at hno
      rcases le_total m (cell w p.start) with hle | hle
      · have hself : cell w (cell w p.start) = cell w p.start :=
          cell_eq_of_le_of_lt hw (cell_emod _) le_rfl (by omega)
        exact heq (hself.symm.trans (cell_eq_of_le_of_lt hw hm hle hno.2))
      · have hself : cell w m = m := cell_eq_of_le_of_lt hw hm le_rfl (by omega)
        exact heq ((cell_eq_of_le_of_lt hw (cell_emod _) hle hno.1).symm.trans hself)
    simp only [Piece.overlap]
    omega

/-- **The tiles in a cell add up to the overlap of the interval with it.** A tile that
is in a cell lies in it completely, and the other tiles do not meet it. -/
theorem Tiles.sum_in_cell {w : ℤ} (hw : 0 < w) {ps : List Piece} {a b : ℤ} (h : Tiles ps a b)
    (hcell : ∀ p ∈ ps, InCell w p) {m : ℤ} (hm : m % w = 0) :
    (ps.map fun p => if cell w p.start = m then p.length else 0).sum =
      Piece.overlap ⟨a, b⟩ ⟨m, m + w⟩ := by
  rw [← h.sum_overlap]
  refine congrArg List.sum (List.map_congr_left fun p hp => ?_)
  exact ((hcell p hp).overlap_eq hw (h.mem_bounds hp).2.1.le hm).symm

end Tiles

/-! ### Intervals apart from each other -/

/-- The ticks of an interval. -/
noncomputable def Piece.ticks (p : Piece) : Finset ℤ := Finset.Ico p.start p.stop

/-- Two pieces have as many ticks in common as their overlap is long. -/
theorem card_inter_ticks (p q : Piece) : ((p.ticks ∩ q.ticks).card : ℤ) = p.overlap q := by
  rw [Piece.ticks, Piece.ticks, Finset.Ico_inter_Ico, Int.card_Ico, Piece.overlap]
  omega

/-- Pieces that are apart have no tick in common. -/
theorem Piece.Apart.disjoint {p q : Piece} (h : p.Apart q) : Disjoint p.ticks q.ticks := by
  rw [Finset.disjoint_left]
  intro x hx hx'
  rw [Piece.ticks, Finset.mem_Ico] at hx hx'
  rcases h with h | h <;> omega

/-- Disjoint sets have at most a set's elements in common with it. -/
theorem sum_card_inter_le {α : Type*} [DecidableEq α] {l : List (Finset α)}
    (h : l.Pairwise Disjoint) (c : Finset α) : (l.map fun s => (s ∩ c).card).sum ≤ c.card := by
  induction l generalizing c with
  | nil => exact Nat.zero_le _
  | cons s l ih =>
      obtain ⟨hs, hl⟩ := List.pairwise_cons.1 h
      have hrest : (l.map fun s' => (s' ∩ c).card) = l.map fun s' => (s' ∩ (c \ s)).card := by
        refine List.map_congr_left fun s' hs' => ?_
        rw [← Finset.inter_sdiff_assoc, Finset.sdiff_eq_self_of_disjoint]
        exact ((hs s' hs').symm).mono_left Finset.inter_subset_left
      rw [List.map_cons, List.sum_cons, hrest]
      calc (s ∩ c).card + (l.map fun s' => (s' ∩ (c \ s)).card).sum
          ≤ (s ∩ c).card + (c \ s).card := Nat.add_le_add_left (ih hl _) _
        _ = c.card := by rw [Finset.inter_comm, Finset.card_inter_add_card_sdiff]

/-- **Intervals apart from each other cover no tick of an interval twice.** By induction
on the list: what the first one covers is left out of what the others can cover. -/
theorem sum_overlap_le {ps : List Piece} (h : ps.Pairwise Piece.Apart) {q : Piece}
    (hq : q.start ≤ q.stop) : (ps.map (Piece.overlap · q)).sum ≤ q.length := by
  have hdisjoint : (ps.map Piece.ticks).Pairwise Disjoint :=
    List.pairwise_map.2 (h.imp Piece.Apart.disjoint)
  have hle := sum_card_inter_le hdisjoint q.ticks
  have hcard : ((q.ticks).card : ℤ) = q.length := by
    rw [Piece.ticks, Int.card_Ico, Piece.length]
    omega
  have hsum (l : List Piece) : (((l.map Piece.ticks).map fun s => (s ∩ q.ticks).card).sum : ℤ) =
      (l.map (Piece.overlap · q)).sum := by
    induction l with
    | nil => rfl
    | cons p l ih =>
        simp only [List.map_cons, List.sum_cons, Nat.cast_add, card_inter_ticks, ih]
  rw [← hsum, ← hcard]
  exact_mod_cast hle

/-- An interval inside another one overlaps it in whole. -/
theorem Piece.overlap_eq_length {p q : Piece} (h : q.start ≤ p.start) (h' : p.stop ≤ q.stop)
    (hp : p.start ≤ p.stop) : p.overlap q = p.length := by
  simp only [Piece.overlap, Piece.length]
  omega

end Intervals
