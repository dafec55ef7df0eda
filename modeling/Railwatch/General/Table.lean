/-
# Tables with a primary key

What a program sees of one SQL table: rows in the order they were inserted, no
two of them with the same primary key.  `upsert` is `INSERT … ON CONFLICT(key)
DO UPDATE`, `insertOrIgnore` is `INSERT OR IGNORE`, `modify` is `UPDATE … WHERE
key = …`, `deleteWhere` is `DELETE … WHERE …`.

A table is determined by its keys in order and by the row of each key
(`ext_find`), so a law about statements is proved by comparing these two, with
the rules `keys_*` and `find?_*`.  `total` adds a column up, and
`total_upsert` says what an accumulating upsert does to such a sum.
-/

import Mathlib

namespace Sql

/-- A table whose rows have distinct primary keys. The rows are in the order in which
they were inserted, and no statement depends on that order but by asking for it. -/
@[ext]
structure Table (κ ρ : Type*) where
  rows : List (κ × ρ)
  primary : (rows.map Prod.fst).Nodup
  deriving DecidableEq

/-- An upsert: its key, its row, and what it makes of a row that is there. This is
`INSERT` with `ON CONFLICT` and `DO UPDATE`. -/
structure Upsert (κ ρ : Type*) where
  /-- The key of its row. -/
  key : κ
  /-- The row that it inserts. -/
  row : ρ
  /-- What it makes of one that is there. -/
  merge : ρ → ρ

namespace Table

variable {κ ρ : Type*}

instance : EmptyCollection (Table κ ρ) := ⟨⟨[], List.nodup_nil⟩⟩

instance : Inhabited (Table κ ρ) := ⟨∅⟩

/-- The primary keys, in the order of insertion. -/
def keys (t : Table κ ρ) : List κ := t.rows.map Prod.fst

/-- `DELETE`: drop the rows that satisfy `p`. -/
def deleteWhere (t : Table κ ρ) (p : κ → ρ → Bool) : Table κ ρ where
  rows := t.rows.filter fun kr => !p kr.1 kr.2
  primary := t.primary.sublist (List.filter_sublist.map _)

/-- Add up a column. -/
def total {M : Type*} [AddCommMonoid M] (t : Table κ ρ) (f : κ → ρ → M) : M :=
  (t.rows.map fun kr => f kr.1 kr.2).sum

variable [DecidableEq κ]

/-- The row of a key. -/
def find? (t : Table κ ρ) (k : κ) : Option ρ := (t.rows.find? fun kr => kr.1 = k).map Prod.snd

/-- `UPDATE … WHERE key = k`. -/
def modify (t : Table κ ρ) (k : κ) (f : ρ → ρ) : Table κ ρ where
  rows := t.rows.map fun kr => (kr.1, if kr.1 = k then f kr.2 else kr.2)
  primary := by
    rw [List.map_map]
    exact t.primary

/-- Append a row, if its key is new. A row whose key is taken is dropped without an
error, and the row that is there stays as it is: this is what `INSERT OR IGNORE` does. -/
def insertOrIgnore (t : Table κ ρ) (k : κ) (r : ρ) : Table κ ρ :=
  if h : k ∈ t.keys then t
  else
    { rows := t.rows ++ [(k, r)]
      primary := by
        rw [List.map_append, List.nodup_append]
        refine ⟨t.primary, List.nodup_singleton k, fun a ha b hb => ?_⟩
        rintro rfl
        simp only [List.map_cons, List.map_nil, List.mem_singleton] at hb
        exact h (hb ▸ ha) }

/-- `INSERT … ON CONFLICT(key) DO UPDATE`: append the row, or merge it into the
one that has its key. -/
def upsert (t : Table κ ρ) (k : κ) (r : ρ) (merge : ρ → ρ) : Table κ ρ :=
  if k ∈ t.keys then t.modify k merge else t.insertOrIgnore k r

/-! ### Rows and keys -/

omit [DecidableEq κ] in
/-- A key has one row. -/
theorem eq_of_mem_rows {t : Table κ ρ} {k : κ} {r r' : ρ} (h : (k, r) ∈ t.rows)
    (h' : (k, r') ∈ t.rows) : r = r' := by
  obtain ⟨i, hi, hri⟩ := List.mem_iff_getElem.1 h
  obtain ⟨j, hj, hrj⟩ := List.mem_iff_getElem.1 h'
  have hij : i = j := by
    have hi' : i < (t.rows.map Prod.fst).length := by rwa [List.length_map]
    have hj' : j < (t.rows.map Prod.fst).length := by rwa [List.length_map]
    refine (@List.Nodup.getElem_inj_iff _ _ t.primary i hi' j hj').1 ?_
    rw [List.getElem_map, List.getElem_map, hri, hrj]
  subst hij
  exact congrArg Prod.snd (hri.symm.trans hrj)

/-- What is found under a key is the row that is stored there. -/
theorem find?_eq_some_iff {t : Table κ ρ} {k : κ} {r : ρ} :
    t.find? k = some r ↔ (k, r) ∈ t.rows := by
  unfold find?
  rw [Option.map_eq_some_iff]
  constructor
  · rintro ⟨⟨k', r'⟩, h, rfl⟩
    obtain rfl : k' = k := by simpa using List.find?_some h
    exact List.mem_of_find?_eq_some h
  · intro h
    cases hf : t.rows.find? fun kr => kr.1 = k with
    | none => exact absurd (by simp) (List.find?_eq_none.1 hf (k, r) h)
    | some kr =>
        obtain rfl : kr.1 = k := by simpa using List.find?_some hf
        exact ⟨kr, rfl, eq_of_mem_rows (List.mem_of_find?_eq_some hf) h⟩

/-- Something is found under each key of the table. -/
theorem find?_isSome_iff {t : Table κ ρ} {k : κ} : (t.find? k).isSome ↔ k ∈ t.keys := by
  rw [Option.isSome_iff_exists, keys, List.mem_map]
  constructor
  · rintro ⟨r, hr⟩
    exact ⟨(k, r), find?_eq_some_iff.1 hr, rfl⟩
  · rintro ⟨⟨k', r⟩, hkr, rfl⟩
    exact ⟨r, find?_eq_some_iff.2 hkr⟩

/-- And nothing under any other. -/
theorem find?_eq_none_iff {t : Table κ ρ} {k : κ} : t.find? k = none ↔ k ∉ t.keys := by
  rw [← find?_isSome_iff, Option.not_isSome_iff_eq_none]

/-- **A table is its keys, in order, and the row of each.** No key occurs twice, so that
the row at a position is the one that is found under its key. -/
theorem ext_find {t t' : Table κ ρ} (hk : t.keys = t'.keys) (h : ∀ k, t.find? k = t'.find? k) :
    t = t' := by
  refine Table.ext (List.ext_getElem ?_ fun i hi hi' => ?_)
  · simpa [keys] using congrArg List.length hk
  · have hkey : t.rows[i].1 = t'.rows[i].1 := by
      have := List.getElem_of_eq hk (i := i) (by rwa [keys, List.length_map])
      simpa [keys] using this
    refine Prod.ext hkey ?_
    have h₁ : t.find? t.rows[i].1 = some t.rows[i].2 :=
      find?_eq_some_iff.2 (List.getElem_mem hi)
    have h₂ : t'.find? t'.rows[i].1 = some t'.rows[i].2 :=
      find?_eq_some_iff.2 (List.getElem_mem hi')
    rw [h, hkey, h₂] at h₁
    exact (Option.some.inj h₁).symm

/-! ### The statements -/

/-- An `UPDATE` changes no key. -/
@[simp] theorem keys_modify (t : Table κ ρ) (k : κ) (f : ρ → ρ) :
    (t.modify k f).keys = t.keys := by
  simp [keys, modify]

/-- An insertion adds its key behind the others, if it is new. -/
@[simp] theorem keys_insertOrIgnore (t : Table κ ρ) (k : κ) (r : ρ) :
    (t.insertOrIgnore k r).keys = if k ∈ t.keys then t.keys else t.keys ++ [k] := by
  unfold insertOrIgnore
  split_ifs with h
  · rfl
  · simp [keys]

/-- So does an upsert. -/
@[simp] theorem keys_upsert (t : Table κ ρ) (k : κ) (r : ρ) (merge : ρ → ρ) :
    (t.upsert k r merge).keys = if k ∈ t.keys then t.keys else t.keys ++ [k] := by
  unfold upsert
  split_ifs with h
  · exact keys_modify t k merge
  · rw [keys_insertOrIgnore, if_neg h]

/-- An `UPDATE` changes the row under its key, if there is one, and no other row. -/
theorem find?_modify (t : Table κ ρ) (k k' : κ) (f : ρ → ρ) :
    (t.modify k f).find? k' = if k' = k then (t.find? k').map f else t.find? k' := by
  unfold find? modify
  rw [List.find?_map, Option.map_map, Option.map_map]
  cases h : List.find? (fun kr => decide (kr.1 = k')) t.rows with
  | none =>
      have : List.find? ((fun kr => decide (kr.1 = k')) ∘ fun kr =>
          (kr.1, if kr.1 = k then f kr.2 else kr.2)) t.rows = none := h
      rw [this]
      split_ifs <;> rfl
  | some kr =>
      have : List.find? ((fun kr => decide (kr.1 = k')) ∘ fun kr =>
          (kr.1, if kr.1 = k then f kr.2 else kr.2)) t.rows = some kr := h
      obtain rfl : kr.1 = k' := by simpa using List.find?_some h
      rw [this]
      split_ifs with hk <;> simp [hk]

/-- An insertion keeps a row that is there: under its key there is the old row, or else
the new one, and under other keys what there was. -/
theorem find?_insertOrIgnore (t : Table κ ρ) (k k' : κ) (r : ρ) :
    (t.insertOrIgnore k r).find? k' =
      if k' = k then some ((t.find? k').getD r) else t.find? k' := by
  unfold insertOrIgnore
  split_ifs with h hk hk
  · subst hk
    obtain ⟨r', hr'⟩ := Option.isSome_iff_exists.1 (find?_isSome_iff.2 h)
    rw [hr']
    rfl
  · rfl
  · subst hk
    rw [find?_eq_none_iff.2 h]
    exact find?_eq_some_iff.2 (by simp)
  · unfold find?
    rw [List.find?_append]
    cases List.find? (fun kr => decide (kr.1 = k')) t.rows with
    | none => simp [Ne.symm hk]
    | some kr => rfl

/-- An upsert merges with it. -/
theorem find?_upsert (t : Table κ ρ) (k k' : κ) (r : ρ) (merge : ρ → ρ) :
    (t.upsert k r merge).find? k' =
      if k' = k then some ((t.find? k').elim r merge) else t.find? k' := by
  unfold upsert
  split_ifs with h hk hk
  · subst hk
    obtain ⟨r', hr'⟩ := Option.isSome_iff_exists.1 (find?_isSome_iff.2 h)
    rw [find?_modify, if_pos rfl, hr']
    rfl
  · rw [find?_modify, if_neg hk]
  · subst hk
    rw [find?_insertOrIgnore, if_pos rfl, find?_eq_none_iff.2 h]
    rfl
  · rw [find?_insertOrIgnore, if_neg hk]

/-- Only what the upsert makes of the row that is there matters. -/
theorem upsert_congr {t : Table κ ρ} {k : κ} {merge merge' : ρ → ρ}
    (h : ∀ r, t.find? k = some r → merge r = merge' r) (r : ρ) :
    t.upsert k r merge = t.upsert k r merge' := by
  refine ext_find (by rw [keys_upsert, keys_upsert]) fun k' => ?_
  rw [find?_upsert, find?_upsert]
  split_ifs with hk
  · subst hk
    cases hfind : t.find? k' with
    | none => rfl
    | some old => exact congrArg some (h old hfind)
  · rfl

/-- A row that is there is not inserted again. -/
theorem insertOrIgnore_of_mem {t : Table κ ρ} {k : κ} (h : k ∈ t.keys) (r : ρ) :
    t.insertOrIgnore k r = t := by
  rw [insertOrIgnore, dif_pos h]

/-- **An accumulating upsert adds to a column's total what it brings.** This is the same
whether it inserts the row or merges with the one that is there. -/
theorem total_upsert {M : Type*} [AddCommMonoid M] {t : Table κ ρ} {k : κ} {r : ρ}
    {merge : ρ → ρ} {f : κ → ρ → M} {d : M} (hnew : f k r = d)
    (hmerge : ∀ r', f k (merge r') = f k r' + d) :
    (t.upsert k r merge).total f = t.total f + d := by
  unfold upsert total
  split_ifs with h
  · obtain ⟨r', hr'⟩ := Option.isSome_iff_exists.1 (find?_isSome_iff.2 h)
    obtain ⟨before, after, hrows⟩ := List.append_of_mem (find?_eq_some_iff.1 hr')
    have hprimary := t.primary
    rw [hrows, List.map_append, List.map_cons, List.nodup_append, List.nodup_cons] at hprimary
    obtain ⟨-, ⟨hafter, -⟩, hbefore⟩ := hprimary
    -- the other rows have other keys
    have hsame (l : List (κ × ρ)) (hl : ∀ kr ∈ l, kr.1 ≠ k) :
        l.map (fun kr => f kr.1 (if kr.1 = k then merge kr.2 else kr.2)) =
          l.map fun kr => f kr.1 kr.2 :=
      List.map_congr_left fun kr hkr => by rw [if_neg (hl kr hkr)]
    simp only [modify, hrows, List.map_map, List.map_append, List.map_cons, List.sum_append,
      List.sum_cons, Function.comp_def, if_pos, hmerge]
    rw [hsame before fun kr hkr hk =>
        hbefore kr.1 (List.mem_map_of_mem hkr) k (List.mem_cons_self ..) hk,
      hsame after fun kr hkr hk => hafter (List.mem_map.2 ⟨kr, hkr, hk⟩)]
    abel
  · simp [insertOrIgnore, dif_neg h, hnew]

/-! ### Statements run again -/

/-- Run an upsert. -/
def exec (t : Table κ ρ) (u : Upsert κ ρ) : Table κ ρ := t.upsert u.key u.row u.merge

/-- An insertion is the upsert that merges nothing. -/
theorem insertOrIgnore_eq_exec (t : Table κ ρ) (k : κ) (r : ρ) :
    t.insertOrIgnore k r = t.exec ⟨k, r, id⟩ := by
  unfold exec upsert
  split_ifs with h
  · rw [insertOrIgnore_of_mem h]
    refine ext_find (keys_modify ..).symm fun k' => ?_
    rw [find?_modify]
    split_ifs <;> simp
  · rfl

/-- The keys after a statement. -/
theorem keys_exec (t : Table κ ρ) (u : Upsert κ ρ) :
    (t.exec u).keys = if u.key ∈ t.keys then t.keys else t.keys ++ [u.key] :=
  keys_upsert ..

/-- A statement adds its key, and takes none away. -/
theorem mem_keys_exec {t : Table κ ρ} {u : Upsert κ ρ} {k : κ} :
    k ∈ (t.exec u).keys ↔ k = u.key ∨ k ∈ t.keys := by
  rw [keys_exec]
  split_ifs with h
  · exact ⟨Or.inr, fun h' => h'.elim (fun heq => heq ▸ h) fun h' => h'⟩
  · rw [List.mem_append, List.mem_singleton, or_comm]

/-- The rows after a statement. -/
theorem find?_exec (t : Table κ ρ) (u : Upsert κ ρ) (k : κ) :
    (t.exec u).find? k =
      if k = u.key then some ((t.find? k).elim u.row u.merge) else t.find? k :=
  find?_upsert ..

/-- What a later upsert of the key overwrites makes no difference. -/
theorem exec_exec_of_mem {t : Table κ ρ} {u u' : Upsert κ ρ} (hkey : u.key = u'.key)
    (hmerge : ∀ r, u'.merge (u.merge r) = u'.merge r) (h : u.key ∈ t.keys) :
    (t.exec u).exec u' = t.exec u' := by
  refine ext_find ?_ fun k => ?_
  · rw [keys_exec, keys_exec, keys_exec, if_pos h, ← hkey, if_pos h]
  · rw [find?_exec, find?_exec, find?_exec, hkey]
    split_ifs with hk
    · obtain ⟨r, hr⟩ := Option.isSome_iff_exists.1 (find?_isSome_iff.2 h)
      rw [hk, ← hkey, hr]
      simp [hmerge]
    · rfl

/-- Nor does running an upsert twice. -/
theorem exec_exec_self {t : Table κ ρ} {u : Upsert κ ρ} (hrow : u.merge u.row = u.row)
    (hmerge : ∀ r, u.merge (u.merge r) = u.merge r) : (t.exec u).exec u = t.exec u := by
  refine ext_find ?_ fun k => ?_
  · rw [keys_exec, if_pos (mem_keys_exec.2 (Or.inl rfl))]
  · rw [find?_exec, find?_exec]
    split_ifs with hk
    · cases t.find? k <;> simp [hrow, hmerge]
    · rfl

/-- Upserts of different keys commute, if one of the rows is there. -/
theorem exec_comm {t : Table κ ρ} {u u' : Upsert κ ρ} (hne : u.key ≠ u'.key)
    (h : u'.key ∈ t.keys) : (t.exec u).exec u' = (t.exec u').exec u := by
  refine ext_find ?_ fun k => ?_
  · have hkeys : (t.exec u').keys = t.keys := by rw [keys_exec, if_pos h]
    rw [keys_exec (t.exec u), if_pos (mem_keys_exec.2 (Or.inr h)), keys_exec (t.exec u'), hkeys,
      keys_exec]
  · rw [find?_exec, find?_exec, find?_exec, find?_exec]
    split_ifs with h₁ h₂ h₂
    · exact absurd (h₂.symm.trans h₁) hne
    · rfl
    · rfl
    · rfl

/-- **Running an upsert before a list that holds it changes nothing**, once the
upserts before it in the list have been run. -/
theorem foldl_exec_rerun {t : Table κ ρ} {u : Upsert κ ρ} {before after : List (Upsert κ ρ)}
    (hrow : u.merge u.row = u.row)
    (hmerge : ∀ u' ∈ u :: before, u'.key = u.key → ∀ r, u'.merge (u.merge r) = u'.merge r)
    (h : ∀ u' ∈ before, u'.key ∈ t.keys) :
    (before ++ u :: after).foldl exec (t.exec u) = (before ++ u :: after).foldl exec t := by
  induction before generalizing t with
  | nil =>
      simp only [List.nil_append, List.foldl_cons]
      rw [exec_exec_self hrow (hmerge u (List.mem_cons_self ..) rfl)]
  | cons u' before ih =>
      have hu' := h u' (List.mem_cons_self ..)
      simp only [List.cons_append, List.foldl_cons]
      by_cases hkey : u'.key = u.key
      · rw [exec_exec_of_mem hkey.symm (hmerge u' (by simp) hkey) (hkey ▸ hu')]
      · rw [exec_comm (Ne.symm hkey) hu']
        refine ih (fun u'' hu'' => hmerge u'' ?_) fun u'' hu'' =>
          mem_keys_exec.2 (Or.inr (h u'' (List.mem_cons_of_mem _ hu'')))
        rcases List.mem_cons.1 hu'' with rfl | hu''
        · exact List.mem_cons_self ..
        · exact List.mem_cons_of_mem _ (List.mem_cons_of_mem _ hu'')

/-- An upsert commutes with an update of columns it leaves alone. -/
theorem exec_modify_comm {t : Table κ ρ} {u : Upsert κ ρ} {k : κ} {f : ρ → ρ} (h : k ∈ t.keys)
    (hmerge : ∀ r, u.merge (f r) = f (u.merge r)) :
    (t.modify k f).exec u = (t.exec u).modify k f := by
  refine ext_find ?_ fun k' => ?_
  · rw [keys_exec, keys_modify, keys_modify, keys_exec]
  · rw [find?_exec, find?_modify, find?_modify, find?_exec]
    split_ifs with h₁ h₂ h₂
    · obtain ⟨r, hr⟩ := Option.isSome_iff_exists.1 (find?_isSome_iff.2 h)
      rw [h₂, hr]
      simp [hmerge]
    all_goals rfl

end Table

end Sql
