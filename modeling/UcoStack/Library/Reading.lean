import Mathlib.Data.List.Sort

/-!
# Reading unordered collections

A program that enumerates an unordered collection gets its elements in some
order.  A `Reading` is one such choice; what a program computes from the elements
after sorting them does not depend on it.
-/

namespace UcoStack

/-- One order in which the elements of a collection are read. -/
structure Reading (α : Type) where
  read : List α → List α
  perm : ∀ elements, (read elements).Perm elements

namespace Reading

variable {α : Type}

/-- The elements as they are stored. -/
def stored : Reading α := ⟨id, List.Perm.refl⟩

def backwards : Reading α := ⟨List.reverse, List.reverse_perm⟩

/-- Sorting by a total order undoes every reading. -/
theorem insertionSort_read (reading : Reading α) (r : α → α → Prop) [DecidableRel r]
    [Std.Total r] [IsTrans α r] [Std.Antisymm r] (elements : List α) :
    (reading.read elements).insertionSort r = elements.insertionSort r := by
  have sorted (xs : List α) : (xs.insertionSort r).Pairwise r := List.pairwise_insertionSort r xs
  have same : ((reading.read elements).insertionSort r).Perm (elements.insertionSort r) :=
    (List.perm_insertionSort r _).trans
      ((reading.perm elements).trans (List.perm_insertionSort r elements).symm)
  exact same.eq_of_pairwise' (sorted _) (sorted _)

theorem isEmpty_read (reading : Reading α) (elements : List α) :
    (reading.read elements).isEmpty = elements.isEmpty :=
  (reading.perm elements).isEmpty_eq

end Reading

end UcoStack
