/-
# Grouping into keyed buckets

A list is read from the left; each element is added to the bucket of its key,
which is opened at the first element with that key.  At most `cap` buckets may
be open, and an element that would open one more ends the reading.

`foldlM_put` says what this leaves: if the list has at most `cap` keys, the
bucket of each key, filled from the elements with that key, in order.

Readings whose buckets correspond through a map `φ` take agreeing steps
(`Maps.put`), and their buckets, listed by key, correspond through `φ`
(`Maps.toList_eq`).
-/

import Railwatch.General.Loops

namespace Buckets

open Std (TreeMap)

variable {α β ε κ : Type*} [Ord κ] (cap : ℕ) (full : ε) (key : α → κ) (start : κ → β)
  (add : β → α → β)

/-- Add an element to the bucket of its key. -/
def put (m : TreeMap κ β) (a : α) : Except ε (TreeMap κ β) :=
  if m.size < cap ∨ m.contains (key a) then
    .ok (m.insert (key a) (add (m[key a]?.getD (start (key a))) a))
  else .error full

section Keys

variable [DecidableEq κ]

omit [Ord κ]

/-- The bucket of a key. -/
def bucket (l : List α) (k : κ) : Option β :=
  if k ∈ l.map key then some ((l.filter fun a => key a = k).foldl add (start k)) else none

/-- The number of keys. -/
def keyCount (l : List α) : ℕ := (l.map key).toFinset.card

/-- One more element is a new key, or counts to one that is there. -/
theorem keyCount_concat (l : List α) (a : α) :
    keyCount key (l ++ [a]) = keyCount key l + if key a ∈ l.map key then 0 else 1 := by
  have hset : ((l ++ [a]).map key).toFinset = insert (key a) (l.map key).toFinset := by
    ext k
    simp [eq_comm]
  unfold keyCount
  rw [hset]
  split_ifs with h
  · rw [Finset.insert_eq_of_mem (List.mem_toFinset.2 h), add_zero]
  · rw [Finset.card_insert_of_notMem (mt List.mem_toFinset.1 h)]

/-- There is a bucket for each key of the list, and for no other. -/
theorem bucket_isSome (l : List α) (k : κ) :
    (bucket key start add l k).isSome = decide (k ∈ l.map key) := by
  unfold bucket
  split_ifs with h <;> simp [h]

/-- One more element goes to the bucket of its key, which may be new. -/
theorem bucket_concat (l : List α) (a : α) (k : κ) :
    bucket key start add (l ++ [a]) k =
      if key a = k then some (add ((bucket key start add l k).getD (start k)) a)
      else bucket key start add l k := by
  unfold bucket
  by_cases hk : key a = k
  · subst hk
    by_cases hmem : key a ∈ l.map key
    · simp [hmem, List.filter_append]
    · have hnil : l.filter (fun b => key b = key a) = [] := by
        refine List.filter_eq_nil_iff.2 fun b hb heq => hmem ?_
        exact List.mem_map.2 ⟨b, hb, of_decide_eq_true heq⟩
      simp [hmem, hnil, List.filter_append]
  · simp [hk, Ne.symm hk, List.filter_append]

end Keys

variable [DecidableEq κ] [Std.TransOrd κ] [Std.LawfulEqOrd κ]

/-- The buckets after the elements of a list: a bucket is there exactly if an element
has its key, and holds the fold of those that do. -/
structure Holds (l : List α) (m : TreeMap κ β) : Prop where
  /-- There is one bucket for each key. -/
  size : m.size = keyCount key l
  /-- It has what the elements of its key add up to. -/
  get : ∀ k, m[k]? = bucket key start add l k

omit ε in
/-- An element added to the bucket of its key. There is one key more if the key is new,
and every other bucket stays as it is. -/
theorem Holds.insert {l : List α} {m : TreeMap κ β} (h : Holds key start add l m) (a : α) :
    Holds key start add (l ++ [a])
      (m.insert (key a) (add (m[key a]?.getD (start (key a))) a)) := by
  constructor
  · have hmem : m.contains (key a) = true ↔ key a ∈ l.map key := by
      rw [Std.TreeMap.contains_eq_isSome_getElem?, h.get, bucket_isSome, decide_eq_true_iff]
    rw [Std.TreeMap.size_insert, h.size, keyCount_concat]
    by_cases hkey : key a ∈ l.map key
    · rw [if_pos (hmem.2 hkey), if_pos hkey, add_zero]
    · rw [if_neg (mt hmem.1 hkey), if_neg hkey]
  · intro k
    rw [Std.TreeMap.getElem?_insert, bucket_concat, h.get, h.get]
    by_cases hk : key a = k
    · subst hk
      rw [if_pos Std.ReflCmp.compare_self, if_pos rfl]
    · rw [if_neg fun heq => hk (Std.LawfulEqCmp.eq_of_compare heq), if_neg hk]

omit ε [Std.LawfulEqOrd κ] [Std.TransOrd κ] in
/-- The bucket that the next element with a key is added to. -/
theorem Holds.getD {l : List α} {m : TreeMap κ β} (h : Holds key start add l m) (k : κ) :
    m[k]?.getD (start k) = (l.filter fun a => key a = k).foldl add (start k) := by
  rw [h.get, bucket]
  split_ifs with hk
  · rfl
  · have hnil : l.filter (fun a => key a = k) = [] :=
      List.filter_eq_nil_iff.2 fun a ha heq =>
        hk (List.mem_map.2 ⟨a, ha, of_decide_eq_true heq⟩)
    rw [hnil]
    rfl

omit [Std.LawfulEqOrd κ] in
/-- An element fits if it does not bring one key too many. A key that is there has its
bucket already, so a full table still takes elements of the keys it has. -/
theorem Holds.put_eq {l : List α} {m : TreeMap κ β} (h : Holds key start add l m)
    (hle : keyCount key l ≤ cap) (a : α) :
    put cap full key start add m a = if keyCount key (l ++ [a]) ≤ cap then
      .ok (m.insert (key a) (add (m[key a]?.getD (start (key a))) a)) else .error full := by
  have hcontains : m.contains (key a) = decide (key a ∈ l.map key) := by
    rw [Std.TreeMap.contains_eq_isSome_getElem?, h.get, bucket_isSome]
  unfold put
  rw [h.size, hcontains, keyCount_concat]
  by_cases hkey : key a ∈ l.map key
  · rw [if_pos (Or.inr (decide_eq_true hkey)), if_pos hkey, if_pos (by omega)]
  · have hiff : keyCount key l < cap ∨ decide (key a ∈ l.map key) = true ↔
        keyCount key l + 1 ≤ cap := by
      simp [hkey]
    rw [if_neg hkey]
    simp only [hiff]

/-- **Reading a list into buckets.** The loop fails exactly if the list has more keys
than the limit allows, wherever they stand in it; otherwise every key has the fold of
its own elements, in their order. -/
theorem foldlM_put (l : List α) :
    if keyCount key l ≤ cap then
      ∃ m, l.foldlM (put cap full key start add) ∅ = .ok m ∧ Holds key start add l m
    else l.foldlM (put cap full key start add) ∅ = .error full := by
  induction l using List.reverseRecOn with
  | nil =>
      rw [if_pos (by simp [keyCount])]
      refine ⟨∅, rfl, Std.TreeMap.size_emptyc, fun k => ?_⟩
      rw [Std.TreeMap.getElem?_emptyc, bucket, if_neg (by simp)]
  | append_singleton l a ih =>
      have hcount := keyCount_concat key l a
      rw [List.foldlM_append]
      by_cases hcap : keyCount key l ≤ cap
      · rw [if_pos hcap] at ih
        obtain ⟨m, hm, hholds⟩ := ih
        have hstep : (l.foldlM (put cap full key start add) ∅ >>= fun m =>
            [a].foldlM (put cap full key start add) m) = put cap full key start add m a := by
          rw [hm]
          change (put cap full key start add m a >>= pure) = _
          rw [bind_pure]
        rw [hstep, hholds.put_eq cap full key start add hcap a]
        split_ifs with hfits
        · exact ⟨_, rfl, hholds.insert key start add a⟩
        · rfl
      · rw [if_neg hcap] at ih
        rw [if_neg (by omega), ih]
        rfl

omit [Std.LawfulEqOrd κ] [DecidableEq κ] in
/-- The entries of a map are under different keys. -/
theorem nodup_toList (m : TreeMap κ β) : m.toList.Nodup :=
  Std.TreeMap.distinct_keys_toList.imp fun hne heq =>
    hne (by rw [heq]; exact Std.ReflCmp.compare_self)

/-! ### Readings that correspond -/

/-- The buckets of `m'` are those of `m` under `φ`, key by key. -/
structure Maps {γ : Type*} (φ : β → γ) (m : TreeMap κ β) (m' : TreeMap κ γ) : Prop where
  /-- No bucket is lost. -/
  size : m'.size = m.size
  /-- Each is under the same key. -/
  get : ∀ k : κ, m'[k]? = m[k]?.map φ

section Maps

variable {γ : Type*} {φ : β → γ} {m : TreeMap κ β} {m' : TreeMap κ γ} (h : Maps φ m m')

omit [DecidableEq κ] [Std.TransOrd κ] [Std.LawfulEqOrd κ] in
/-- The empty map is the image of the empty one. -/
theorem maps_empty : Maps φ (∅ : TreeMap κ β) ∅ := ⟨rfl, fun _ => rfl⟩

include h

omit [DecidableEq κ] [Std.LawfulEqOrd κ] in
/-- A map and its image have the same keys. -/
theorem Maps.contains_eq (k : κ) : m'.contains k = m.contains k := by
  rw [Std.TreeMap.contains_eq_isSome_getElem?, Std.TreeMap.contains_eq_isSome_getElem?, h.get,
    Option.isSome_map]

omit [DecidableEq κ] [Std.LawfulEqOrd κ] in
/-- Adding an element respects the correspondence, if `start` and `add` do. -/
theorem Maps.put {start' : κ → γ} {add' : γ → α → γ} (hstart : ∀ k, start' k = φ (start k))
    (hadd : ∀ b a, add' (φ b) a = φ (add b a)) (a : α) :
    Loops.Agree (Maps φ) (put cap full key start add m a) (put cap full key start' add' m' a) := by
  unfold Buckets.put
  rw [h.size, h.contains_eq]
  split_ifs
  · constructor
    · rw [Std.TreeMap.size_insert, Std.TreeMap.size_insert, h.size, h.contains_eq]
    · intro k
      rw [Std.TreeMap.getElem?_insert, Std.TreeMap.getElem?_insert, h.get, h.get]
      split_ifs
      · cases m[key a]? <;> simp [hstart, hadd]
      · rfl
  · exact rfl

omit [DecidableEq κ] in
/-- **The buckets, listed by key, correspond.** Both lists are sorted and have the same
keys, so that they agree position by position. -/
theorem Maps.toList_eq : m'.toList = m.toList.map fun kb => (kb.1, φ kb.2) := by
  have hequiv : Std.TreeMap.Equiv m' (m.map fun _ b => φ b) := by
    refine .of_toList_perm ((List.perm_ext_iff_of_nodup (nodup_toList _) (nodup_toList _)).2 ?_)
    rintro ⟨k, b⟩
    rw [Std.TreeMap.mem_toList_iff_getElem?_eq_some, Std.TreeMap.mem_toList_iff_getElem?_eq_some,
      h.get, Std.TreeMap.getElem?_map]
  rw [hequiv.toList_eq, Std.TreeMap.toList_map]

end Maps

end Buckets
