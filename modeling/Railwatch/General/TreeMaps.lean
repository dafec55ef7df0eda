/-
# Lookups in a tree map

What a statement on a map does at its own key and at the others, for keys whose
order is lawful: `insert`, `erase`, `insertIfNew` and `modify`.

The library states lookups with a comparison of keys in them.  Here each is split into
the two cases in which it is used, so that a proof says which key it is about.
-/

import Mathlib

namespace TreeMaps

open Std (TreeMap)

variable {κ β : Type*} [Ord κ] [Std.TransOrd κ]

/-- A map has a key if there is something under it. -/
theorem contains_eq_isSome {m : TreeMap κ β} (k : κ) : m.contains k = m[k]?.isSome :=
  Std.TreeMap.contains_eq_isSome_getElem?

/-- `entry(k).or_insert(v)` leaves the old value, or `v` when there was none. -/
theorem getElem?_insertIfNew_self {m : TreeMap κ β} (k : κ) (v : β) :
    (m.insertIfNew k v)[k]? = some (m[k]?.getD v) := by
  rw [Std.TreeMap.getElem?_insertIfNew]
  by_cases h : k ∈ m
  · rw [if_neg (fun hk => hk.2 h), Std.TreeMap.getElem?_eq_some_getElem h]
    rfl
  · rw [if_pos ⟨Std.ReflCmp.compare_self, h⟩, Std.TreeMap.getElem?_eq_none h]
    rfl

variable [Std.LawfulEqOrd κ]

/-- An insertion changes nothing under other keys; here one that keeps what is there. -/
theorem getElem?_insertIfNew_of_ne {m : TreeMap κ β} {k k' : κ} (h : k' ≠ k) (v : β) :
    (m.insertIfNew k v)[k']? = m[k']? := by
  rw [Std.TreeMap.getElem?_insertIfNew, if_neg]
  exact fun hk => h (Std.LawfulEqCmp.eq_of_compare hk.1).symm

/-- Here one that replaces it. -/
theorem getElem?_insert_of_ne {m : TreeMap κ β} {k k' : κ} (h : k' ≠ k) (v : β) :
    (m.insert k v)[k']? = m[k']? := by
  rw [Std.TreeMap.getElem?_insert, if_neg]
  exact fun hk => h (Std.LawfulEqCmp.eq_of_compare hk).symm

/-- Neither does a removal. -/
theorem getElem?_erase_of_ne {m : TreeMap κ β} {k k' : κ} (h : k' ≠ k) :
    (m.erase k)[k']? = m[k']? := by
  rw [Std.TreeMap.getElem?_erase, if_neg]
  exact fun hk => h (Std.LawfulEqCmp.eq_of_compare hk).symm

/-- Nor a change in place. -/
theorem getElem?_modify_of_ne {m : TreeMap κ β} {k k' : κ} (h : k' ≠ k) (f : β → β) :
    (m.modify k f)[k']? = m[k']? := by
  rw [Std.TreeMap.getElem?_modify, if_neg]
  exact fun hk => h (Std.LawfulEqCmp.eq_of_compare hk).symm

end TreeMaps
