/-!
# Nesting

How deep the parts of a pattern stand inside one another.  Groups, repetitions, sets,
operations between sets, and every sequence or choice of two or more parts count one level
each; a part that holds no other counts none.

Main results:

- Theorem `depthOf_le`: what holds parts stands one level deeper than the deepest, at most.
-/

namespace TagSearch.Regex

/-- A part of a pattern with the number of levels in it. -/
structure Nested (α : Type) where
  value : α
  depth : Nat

namespace Nested

/-- The most levels in a pattern. -/
def maxDepth : Nat := 250

/-- The number of levels of what holds parts with the given numbers of levels.  A single
part stands for itself. -/
def depthOf (depths : List Nat) : Nat :=
  match depths with
  | [] => 0
  | [d] => d
  | depths => depths.foldl max 0 + 1

/-- Puts a part into one that surrounds it. -/
def surround {α β : Type} (x : Nested α) (f : α → β) : Nested β :=
  ⟨f x.value, x.depth + 1⟩

theorem foldl_max_le {most least : Nat} {depths : List Nat} (h : ∀ d ∈ depths, d ≤ most)
    (hleast : least ≤ most) : depths.foldl max least ≤ most := by
  induction depths generalizing least with
  | nil => exact hleast
  | cons d rest ih =>
    obtain ⟨hd, hrest⟩ := List.forall_mem_cons.mp h
    exact ih hrest (Nat.max_le.mpr ⟨hleast, hd⟩)

theorem depthOf_le {most : Nat} {depths : List Nat} (h : ∀ d ∈ depths, d ≤ most) :
    depthOf depths ≤ most + 1 := by
  match depths, h with
  | [], _ => exact Nat.zero_le _
  | [d], h => exact Nat.le_succ_of_le (h d (List.mem_singleton_self d))
  | _ :: _ :: _, h => exact Nat.succ_le_succ (foldl_max_le h (Nat.zero_le most))

end Nested

end TagSearch.Regex
