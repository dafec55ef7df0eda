/-
# Opening and closing

A history in which things are opened and closed, one at a time: an entry opens
one where none is open, or closes the one that is.  `Alternates a l b` says that
the list `l` does so, from `a` open at the start to `b` open at the end.

The alternation is one of the whole list, so it can be cut anywhere, and put together
from parts that fit (`Alternates.append`).
-/

import Mathlib

namespace Brackets

variable {α : Type*} {Opens : α → Prop} {Closes : α → α → Prop}

/-- The entries open and close in turn. What is open is a value, so that a closing entry
can be held against the one that opened it. -/
inductive Alternates (Opens : α → Prop) (Closes : α → α → Prop) :
    Option α → List α → Option α → Prop where
  | nil (a : Option α) : Alternates Opens Closes a [] a
  | opens {i : α} {l : List α} {b : Option α} (h : Opens i)
      (rest : Alternates Opens Closes (some i) l b) : Alternates Opens Closes none (i :: l) b
  | closes {i entry : α} {l : List α} {b : Option α} (h : Closes i entry)
      (rest : Alternates Opens Closes none l b) : Alternates Opens Closes (some i) (entry :: l) b

/-- Two alternating sequences that fit make one. -/
theorem Alternates.append {a b c : Option α} {l l' : List α} (h : Alternates Opens Closes a l b)
    (h' : Alternates Opens Closes b l' c) : Alternates Opens Closes a (l ++ l') c := by
  induction h with
  | nil => exact h'
  | opens h _ ih => exact .opens h (ih h')
  | closes h _ ih => exact .closes h (ih h')

end Brackets
