/-
# Files that are replaced

A disk has files and a directory of their names.  What is written to a file is on the disk
when the file has been synced; what happens to the directory is on the disk at some later
time, one change after the other.  A loss of power therefore brings back one of the
directories since the last one, and leaves anything in a file that was not synced.

A file is replaced by writing another one, under a temporary name, which is synced and
renamed.  `Replaces` is what holds of the disk at every moment of this, and `Replaces.read`
what it is for: the file is never there in part.

A rename is atomic, and nothing is assumed about bytes that were not synced: a loss of
power may leave them, lose them or put others in their place.
-/

import Mathlib

namespace Files

variable {Name β : Type*}

/-- A file, and whether what is in it is on the disk. A file that was not synced may
hold anything after a loss of power. -/
structure File (β : Type*) where
  bytes : List β
  /-- Whether a loss of power leaves it. -/
  synced : Bool
  deriving DecidableEq, Repr

/-- A directory. -/
abbrev Directory (Name : Type*) := Name → Option ℕ

/-- A disk: its files by number, the next number that is free, the directory, and those
that it had since power was lost. -/
structure Disk (Name β : Type*) where
  /-- The files by their numbers. -/
  file : ℕ → File β := fun _ => ⟨[], true⟩
  /-- The next number. -/
  next : ℕ := 0
  /-- The directory. -/
  dir : Directory Name := fun _ => none
  /-- What it may be after a loss of power, too. -/
  earlier : List (Directory Name) := []

/-- The directories that a loss of power can bring back. -/
def Disk.dirs (d : Disk Name β) : List (Directory Name) := d.dir :: d.earlier

/-- `read`. -/
def Disk.read (d : Disk Name β) (name : Name) : Option (List β) :=
  (d.dir name).map fun i => (d.file i).bytes

/-- The disk with another directory. -/
def Disk.setDir (d : Disk Name β) (dir : Directory Name) : Disk Name β :=
  { d with dir := dir, earlier := d.dirs }

/-- The disk with other bytes in a file. -/
def Disk.setFile (d : Disk Name β) (i : ℕ) (file : File β) : Disk Name β :=
  { d with file := Function.update d.file i file }

/-- A new name for a new file. -/
def Disk.enter [DecidableEq Name] (d : Disk Name β) (name : Name) : Disk Name β :=
  { d with next := d.next + 1 }.setDir (Function.update d.dir name (some d.next))

/-- `open` with `create` and `truncate`: the disk and the number of the file. -/
def Disk.create [DecidableEq Name] (d : Disk Name β) (name : Name) : Disk Name β × ℕ :=
  match d.dir name with
  | some i => (d.setFile i ⟨[], false⟩, i)
  | none => ((d.enter name).setFile d.next ⟨[], false⟩, d.next)

/-- `write` at the end of an open file. -/
def Disk.write (d : Disk Name β) (i : ℕ) (bytes : List β) : Disk Name β :=
  d.setFile i ⟨(d.file i).bytes ++ bytes, false⟩

/-- `fsync` of an open file. -/
def Disk.sync (d : Disk Name β) (i : ℕ) : Disk Name β := d.setFile i ⟨(d.file i).bytes, true⟩

/-- `rename`, which fails if there is no such file. -/
def Disk.rename [DecidableEq Name] (d : Disk Name β) (a b : Name) : Option (Disk Name β) :=
  (d.dir a).map fun i => d.setDir (Function.update (Function.update d.dir a none) b (some i))

/-- Power is lost: the directory is `back` changes old, and a file that was not synced
holds anything. -/
def Disk.lose (d : Disk Name β) (back : ℕ) (left : ℕ → List β) : Disk Name β where
  file i := if (d.file i).synced then d.file i else ⟨left i, true⟩
  next := d.next
  dir := d.dirs[back]?.getD d.dir
  earlier := []

/-! ### Small facts -/

/-- Writing to a file changes no name. -/
@[simp] theorem dir_setFile (d : Disk Name β) (i : ℕ) (file : File β) :
    (d.setFile i file).dir = d.dir := rfl

/-- Nor any of the directories that may be on the disk. -/
@[simp] theorem dirs_setFile (d : Disk Name β) (i : ℕ) (file : File β) :
    (d.setFile i file).dirs = d.dirs := rfl

/-- It changes the file. -/
@[simp] theorem file_setFile (d : Disk Name β) (i : ℕ) (file : File β) :
    (d.setFile i file).file i = file := Function.update_self ..

/-- It changes no other file. -/
theorem file_setFile_of_ne (d : Disk Name β) {i j : ℕ} (file : File β) (h : j ≠ i) :
    (d.setFile i file).file j = d.file j := Function.update_of_ne h ..

/-- What another file holds is not read. -/
theorem read_setFile (d : Disk Name β) {i : ℕ} (file : File β) {name : Name}
    (h : d.dir name ≠ some i) : (d.setFile i file).read name = d.read name := by
  unfold Disk.read
  rw [dir_setFile]
  cases hname : d.dir name with
  | none => rfl
  | some j =>
      have hne : j ≠ i := by
        rintro rfl
        exact h hname
      rw [Option.map_some, Option.map_some, file_setFile_of_ne d file hne]

/-- The directory that a loss of power brings back was there before. -/
theorem dir_lose_mem (d : Disk Name β) (back : ℕ) (left : ℕ → List β) :
    (d.lose back left).dir ∈ d.dirs := by
  show d.dirs[back]?.getD d.dir ∈ d.dirs
  cases hback : d.dirs[back]? with
  | none => exact List.mem_cons_self
  | some dir => exact List.mem_of_getElem? hback

/-- What was synced is still there. -/
theorem file_lose {d : Disk Name β} {i : ℕ} (h : (d.file i).synced = true) (back : ℕ)
    (left : ℕ → List β) : (d.lose back left).file i = d.file i := if_pos h

/-! ### A file that is replaced -/

/-- At every moment the file `name` is whole, and the temporary file is another one. The
same holds of all directories that a loss of power can bring back. -/
structure Replaces (d : Disk Name β) (tmp name : Name) (P : List β → Prop) : Prop where
  /-- Whatever directory the disk comes back with, the file under `name` was synced, and
  its bytes have `P`. -/
  whole : ∀ dir ∈ d.dirs, ∀ i, dir name = some i →
    i < d.next ∧ (d.file i).synced = true ∧ P (d.file i).bytes
  /-- The temporary file is never the file under `name`. -/
  apart : ∀ dir ∈ d.dirs, ∀ i, dir tmp = some i → i < d.next ∧ dir name ≠ some i
  /-- Nor is the temporary file of now, in any directory the disk may come back with. -/
  current : ∀ dir ∈ d.dirs, ∀ i, d.dir tmp = some i → dir name ≠ some i

variable {d : Disk Name β} {tmp name : Name} {P : List β → Prop}

/-- **The file is never there in part.** Whatever is read under the name has been put
there by a rename, and what is renamed has been written as a whole and synced. -/
theorem Replaces.read (h : Replaces d tmp name P) {bytes : List β}
    (hread : d.read name = some bytes) : P bytes := by
  obtain ⟨i, hi, rfl⟩ := Option.map_eq_some_iff.1 hread
  exact (h.whole d.dir List.mem_cons_self i hi).2.2

/-- What the bytes are known to be may be weakened. -/
theorem Replaces.mono (h : Replaces d tmp name P) {Q : List β → Prop}
    (hPQ : ∀ bytes, P bytes → Q bytes) : Replaces d tmp name Q where
  whole dir hdir i hi :=
    have hwhole := h.whole dir hdir i hi
    ⟨hwhole.1, hwhole.2.1, hPQ _ hwhole.2.2⟩
  apart := h.apart
  current := h.current

/-- On an empty disk there is no file. -/
theorem Replaces.empty : Replaces ({} : Disk Name β) tmp name P := by
  have hnone : ∀ dir ∈ ({} : Disk Name β).dirs, dir = fun _ => none :=
    fun dir hdir => List.mem_singleton.1 hdir
  refine ⟨fun dir hdir i hi => ?_, fun dir hdir i hi => ?_, fun dir _ i hi => ?_⟩
  · rw [hnone dir hdir] at hi
    cases hi
  · rw [hnone dir hdir] at hi
    cases hi
  · cases hi

/-- The temporary file may be written. -/
theorem Replaces.setFile (h : Replaces d tmp name P) {i : ℕ} (hi : d.dir tmp = some i)
    (file : File β) : Replaces (d.setFile i file) tmp name P where
  whole dir hdir j hj := by
    have hne : j ≠ i := by
      rintro rfl
      exact h.current dir hdir j hi hj
    rw [file_setFile_of_ne d file hne]
    exact h.whole dir hdir j hj
  apart := h.apart
  current := h.current

/-- Another directory, with the file as it was or whole, and with the temporary file
apart from it. This is the one way in which the name of a file may change its meaning,
and the rules below are cases of it. -/
theorem Replaces.setDir (h : Replaces d tmp name P) {dir : Directory Name}
    (hwhole : ∀ i, dir name = some i → i < d.next ∧ (d.file i).synced = true ∧ P (d.file i).bytes)
    (hapart : ∀ i, dir tmp = some i → i < d.next ∧ dir name ≠ some i)
    (hcurrent : ∀ dir' ∈ d.dirs, ∀ i, dir tmp = some i → dir' name ≠ some i) :
    Replaces (d.setDir dir) tmp name P := by
  have hdirs : ∀ dir' ∈ (d.setDir dir).dirs, dir' = dir ∨ dir' ∈ d.dirs :=
    fun dir' hdir' => List.mem_cons.1 hdir'
  refine ⟨fun dir' hdir' => ?_, fun dir' hdir' => ?_, fun dir' hdir' i hi => ?_⟩
  · obtain rfl | hdir' := hdirs dir' hdir'
    · exact hwhole
    · exact h.whole dir' hdir'
  · obtain rfl | hdir' := hdirs dir' hdir'
    · exact hapart
    · exact h.apart dir' hdir'
  · obtain rfl | hdir' := hdirs dir' hdir'
    · exact (hapart i hi).2
    · exact hcurrent dir' hdir' i hi

/-- A temporary file that is whole and synced may be renamed. The name then stands for
the new file in the current directory, and for an old one in those that a loss of power
may bring back. -/
theorem Replaces.rename [DecidableEq Name] (h : Replaces d tmp name P) (hne : tmp ≠ name) {i : ℕ}
    (hi : d.dir tmp = some i) (hsynced : (d.file i).synced = true) (hP : P (d.file i).bytes) :
    ∃ d', d.rename tmp name = some d' ∧ Replaces d' tmp name P ∧
      d'.read name = some (d.file i).bytes := by
  let dir := Function.update (Function.update d.dir tmp none) name (some i)
  have hrename : d.rename tmp name = some (d.setDir dir) := by
    rw [Disk.rename, hi]
    rfl
  have hname : dir name = some i := Function.update_self ..
  have htmp : dir tmp = none := (Function.update_of_ne hne ..).trans (Function.update_self ..)
  refine ⟨d.setDir dir, hrename,
    h.setDir (fun j hj => ?_) (fun j hj => ?_) (fun _ _ j hj => ?_), ?_⟩
  · obtain rfl := Option.some.inj (hname.symm.trans hj)
    exact ⟨(h.apart d.dir List.mem_cons_self i hi).1, hsynced, hP⟩
  · exact absurd (htmp.symm.trans hj).symm (Option.some_ne_none j)
  · exact absurd (htmp.symm.trans hj).symm (Option.some_ne_none j)
  · show (dir name).map _ = _
    rw [hname]
    rfl

/-- The temporary file may be created. If it exists it is emptied, which touches no file
of the name; else it gets a number that no directory has, so it is apart from all the
files that the name stands for. -/
theorem Replaces.create [DecidableEq Name] (h : Replaces d tmp name P) (hne : tmp ≠ name) :
    Replaces (d.create tmp).1 tmp name P ∧
      (d.create tmp).1.dir tmp = some (d.create tmp).2 ∧
      (d.create tmp).1.file (d.create tmp).2 = ⟨[], false⟩ ∧
      (d.create tmp).1.read name = d.read name := by
  unfold Disk.create
  cases htmp : d.dir tmp with
  | some i =>
      exact ⟨h.setFile htmp ⟨[], false⟩, htmp, file_setFile ..,
        read_setFile d _ (h.current d.dir List.mem_cons_self i htmp)⟩
  | none =>
      -- the new number is in no directory for `name`
      have hfresh : ∀ dir ∈ d.dirs, dir name ≠ some d.next := fun dir hdir hnext =>
        absurd (h.whole dir hdir d.next hnext).1 (lt_irrefl _)
      have hname : (d.enter tmp).dir name = d.dir name := Function.update_of_ne hne.symm ..
      have hself : (d.enter tmp).dir tmp = some d.next := Function.update_self ..
      have hnext : Replaces { d with next := d.next + 1 } tmp name P :=
        ⟨fun dir hdir i hi =>
          have hwhole := h.whole dir hdir i hi
          ⟨hwhole.1.trans (Nat.lt_succ_self _), hwhole.2⟩,
        fun dir hdir i hi =>
          have hapart := h.apart dir hdir i hi
          ⟨hapart.1.trans (Nat.lt_succ_self _), hapart.2⟩, h.current⟩
      have henter : Replaces (d.enter tmp) tmp name P := by
        refine hnext.setDir (fun i hi => ?_) (fun i hi => ?_) (fun dir hdir i hi => ?_)
        · exact hnext.whole d.dir List.mem_cons_self i (hname.symm.trans hi)
        · obtain rfl := Option.some.inj (hself.symm.trans hi)
          exact ⟨Nat.lt_succ_self _, fun hi' =>
            hfresh d.dir List.mem_cons_self (hname.symm.trans hi')⟩
        · obtain rfl := Option.some.inj (hself.symm.trans hi)
          exact hfresh dir hdir
      refine ⟨henter.setFile hself ⟨[], false⟩, hself, file_setFile .., ?_⟩
      have hread : ((d.enter tmp).setFile d.next ⟨[], false⟩).read name = (d.enter tmp).read name :=
        read_setFile _ _ (henter.current _ List.mem_cons_self d.next hself)
      rw [hread, Disk.read, hname]
      rfl

/-- The file outlives a loss of power. -/
theorem Replaces.lose (h : Replaces d tmp name P) (back : ℕ) (left : ℕ → List β) :
    Replaces (d.lose back left) tmp name P := by
  have hdir := dir_lose_mem d back left
  have hdirs : ∀ dir ∈ (d.lose back left).dirs, dir = (d.lose back left).dir :=
    fun dir hdir => List.mem_singleton.1 hdir
  refine ⟨fun dir hdir' i hi => ?_, fun dir hdir' i hi => ?_, fun dir hdir' i hi => ?_⟩
  · rw [hdirs dir hdir'] at hi
    have hwhole := h.whole _ hdir i hi
    rw [file_lose hwhole.2.1]
    exact hwhole
  · rw [hdirs dir hdir'] at hi ⊢
    exact h.apart _ hdir i hi
  · rw [hdirs dir hdir']
    exact (h.apart _ hdir i hi).2

end Files
