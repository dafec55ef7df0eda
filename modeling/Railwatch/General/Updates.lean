/-
# Updates of many rows

`UPDATE` with a condition.  One that leaves the primary keys alone is
`updateWhere`.  One that sets them is `rekey`: the engine goes through the rows in
an order of its own, checks each new key against the rows as they are then, and
gives up at the first that is taken.

A renaming that is injective and leads out of the keys it selects meets no key on
its way that was not there before, so neither its outcome nor its result depends
on the order: `rekey_spec`.

The order in which SQLite visits the rows is that of an index or of the row ids, and is
a parameter here (`scan`): any permutation of the keys.
-/

import Railwatch.General.Table

namespace Sql

namespace Table

variable {κ ρ : Type*}

/-- `UPDATE … WHERE …` of columns that are no part of the key. -/
def updateWhere (t : Table κ ρ) (p : ρ → Bool) (g : ρ → ρ) : Table κ ρ where
  rows := t.rows.map fun kr => (kr.1, if p kr.2 then g kr.2 else kr.2)
  primary := by
    rw [List.map_map]
    exact t.primary

/-- A map that changes no row. -/
theorem eq_of_rows_map {t t' : Table κ ρ} {f : κ × ρ → κ × ρ} (h : t'.rows = t.rows.map f)
    (hf : ∀ kr ∈ t.rows, f kr = kr) : t' = t :=
  Table.ext (h.trans ((List.map_congr_left hf).trans (List.map_id _)))

variable [DecidableEq κ]

/-- What the keys become if one of them does. -/
theorem nodup_map_ite {l : List κ} (hl : l.Nodup) {k k' : κ} (h : ¬(k' ∈ l ∧ k' ≠ k)) :
    (l.map fun a => if a = k then k' else a).Nodup := by
  refine hl.map_on fun a ha b hb heq => ?_
  split_ifs at heq with hak hbk hbk
  · exact hak.trans hbk.symm
  · exact absurd ⟨heq ▸ hb, fun hk => hbk (heq.symm.trans hk)⟩ h
  · exact absurd ⟨heq ▸ ha, fun hk => hak (heq.trans hk)⟩ h
  · exact heq

/-- One row of an `UPDATE` that sets the key. The other rows and the order of all of
them stay, and the statement fails if another row has the new key. -/
def moveRow (t : Table κ ρ) (k k' : κ) (g : ρ → ρ) : Option (Table κ ρ) :=
  if h : k' ∈ t.keys ∧ k' ≠ k then none
  else some {
    rows := t.rows.map fun kr => if kr.1 = k then (k', g kr.2) else kr
    primary := by
      have hkeys : ((t.rows.map fun kr => if kr.1 = k then (k', g kr.2) else kr).map Prod.fst) =
          t.keys.map fun a => if a = k then k' else a := by
        rw [keys, List.map_map, List.map_map]
        refine List.map_congr_left fun kr _ => ?_
        simp only [Function.comp_apply]
        split_ifs <;> rfl
      rw [hkeys]
      exact nodup_map_ite t.primary h }

/-- `UPDATE … WHERE …` that sets the key; the keys are scanned in some order. -/
def rekey (t : Table κ ρ) (scan : List κ) (p : κ → Bool) (f : κ → κ) (g : κ → ρ → ρ) :
    Option (Table κ ρ) :=
  (scan.filter p).foldlM (fun t k => t.moveRow k (f k) (g k)) t

/-! ### One row -/

/-- A row cannot be moved to a key that is taken, and to any other it can. -/
theorem moveRow_eq_none_iff {t : Table κ ρ} {k k' : κ} {g : ρ → ρ} (hne : k' ≠ k) :
    t.moveRow k k' g = none ↔ k' ∈ t.keys := by
  unfold moveRow
  split_ifs with h
  · exact ⟨fun _ => h.1, fun _ => rfl⟩
  · exact ⟨fun hsome => (by cases hsome), fun hk => absurd ⟨hk, hne⟩ h⟩

/-- After a move the row is where it was, under its new key. -/
theorem rows_of_moveRow {t t' : Table κ ρ} {k k' : κ} {g : ρ → ρ}
    (h : t.moveRow k k' g = some t') :
    t'.rows = t.rows.map fun kr => if kr.1 = k then (k', g kr.2) else kr := by
  unfold moveRow at h
  split_ifs at h
  rw [← Option.some.inj h]

/-- The other keys are those from before, but for the one that is left. -/
theorem mem_keys_of_moveRow {t t' : Table κ ρ} {k k' : κ} {g : ρ → ρ}
    (h : t.moveRow k k' g = some t') {a : κ} (hne : a ≠ k') :
    a ∈ t'.keys ↔ a ∈ t.keys ∧ a ≠ k := by
  simp only [keys, rows_of_moveRow h, List.map_map, List.mem_map, Function.comp_apply]
  constructor
  · rintro ⟨kr, hkr, rfl⟩
    split_ifs at hne ⊢ with hk
    · exact absurd rfl hne
    · exact ⟨⟨kr, hkr, rfl⟩, hk⟩
  · rintro ⟨⟨kr, hkr, rfl⟩, hk⟩
    exact ⟨kr, hkr, by rw [if_neg hk]⟩

/-! ### All rows -/

section Rekey

variable {p : κ → Bool} {f : κ → κ} (g : κ → ρ → ρ)
  (hinj : ∀ a b, p a = true → p b = true → f a = f b → a = b)
  (hfresh : ∀ a, p a = true → p (f a) = false)

include hinj hfresh

/-- **The rows that are left to a run.** The statement visits the rows one by one, and
the keys that were set before are no keys of rows that are still to be visited; so it
fails exactly if a new key was there at the start. -/
theorem foldlM_moveRow {t : Table κ ρ} {l : List κ} (hl : l.Nodup)
    (hmem : ∀ k ∈ l, p k = true ∧ k ∈ t.keys) :
    (l.foldlM (fun t k => t.moveRow k (f k) (g k)) t = none ↔ ∃ k ∈ l, f k ∈ t.keys) ∧
      ∀ t', l.foldlM (fun t k => t.moveRow k (f k) (g k)) t = some t' →
        t'.rows = t.rows.map fun kr => if kr.1 ∈ l then (f kr.1, g kr.1 kr.2) else kr := by
  induction l generalizing t with
  | nil =>
      refine ⟨⟨fun h => (by cases h), fun h => (by simp at h)⟩, fun t' h => ?_⟩
      obtain rfl : t = t' := Option.some.inj h
      simp
  | cons k l ih =>
      obtain ⟨hk, hl⟩ := List.nodup_cons.1 hl
      obtain ⟨hpk, -⟩ := hmem k List.mem_cons_self
      have hne {a b : κ} (ha : p a = true) (hb : p b = true) : f a ≠ b := fun h =>
        Bool.false_ne_true ((hfresh a ha).symm.trans (h ▸ hb))
      rw [List.foldlM_cons]
      cases hmove : t.moveRow k (f k) (g k) with
      | none =>
          have htaken := (moveRow_eq_none_iff (hne hpk hpk)).1 hmove
          exact ⟨⟨fun _ => ⟨k, List.mem_cons_self, htaken⟩, fun _ => rfl⟩, fun t' h => by cases h⟩
      | some t₁ =>
          -- it does not: the rest of the run meets the same keys as before it
          have hfree : f k ∉ t.keys := fun h => by
            rw [(moveRow_eq_none_iff (hne hpk hpk)).2 h] at hmove
            cases hmove
          have hl₁ (a : κ) (ha : a ∈ l) : p a = true ∧ a ∈ t₁.keys := by
            obtain ⟨hpa, hat⟩ := hmem a (List.mem_cons_of_mem _ ha)
            refine ⟨hpa, (mem_keys_of_moveRow hmove (hne hpk hpa).symm).2 ⟨hat, ?_⟩⟩
            rintro rfl
            exact hk ha
          obtain ⟨hnone, hrows⟩ := ih hl hl₁
          refine ⟨hnone.trans ?_, fun t' h => ?_⟩
          · rw [List.exists_mem_cons_iff, or_iff_right hfree]
            refine exists_congr fun a => and_congr_right fun ha => ?_
            obtain ⟨hpa, -⟩ := hmem a (List.mem_cons_of_mem _ ha)
            have hfa : f a ≠ f k := fun h => hk (hinj a k hpa hpk h ▸ ha)
            rw [mem_keys_of_moveRow hmove hfa, and_iff_left (hne hpa hpk)]
          · rw [hrows t' h, rows_of_moveRow hmove, List.map_map]
            refine List.map_congr_left fun kr _ => ?_
            simp only [Function.comp_apply, List.mem_cons]
            by_cases hkr : kr.1 = k
            · have hfk : f k ∉ l := fun hmem' => hne hpk (hl₁ _ hmem').1 rfl
              rw [if_pos hkr, if_neg hfk, if_pos (Or.inl hkr), hkr]
            · rw [if_neg hkr]
              simp only [hkr, false_or]

variable {t : Table κ ρ} {scan : List κ} (hscan : scan.Perm t.keys)

include hscan

/-- **What such an update does.**  It fails exactly if a new key is there already;
otherwise each row that it selects has its new key, and all are where they were. -/
theorem rekey_spec :
    (t.rekey scan p f g = none ↔ ∃ k ∈ t.keys, p k = true ∧ f k ∈ t.keys) ∧
      ∀ t', t.rekey scan p f g = some t' →
        t'.rows = t.rows.map fun kr => if p kr.1 then (f kr.1, g kr.1 kr.2) else kr := by
  have hnodup : (scan.filter p).Nodup := (hscan.nodup_iff.2 t.primary).filter _
  have hmem (k : κ) : k ∈ scan.filter p ↔ k ∈ t.keys ∧ p k = true := by
    rw [List.mem_filter, hscan.mem_iff]
  obtain ⟨hnone, hrows⟩ := foldlM_moveRow g hinj hfresh hnodup fun k hk =>
    ((hmem k).1 hk).symm
  refine ⟨hnone.trans ?_, fun t' h => (hrows t' h).trans ?_⟩
  · simp only [hmem, and_assoc]
  · refine List.map_congr_left fun kr hkr => ?_
    have hkey : kr.1 ∈ t.keys := List.mem_map_of_mem hkr
    simp only [hmem, hkey, true_and]

end Rekey

end Table

end Sql
