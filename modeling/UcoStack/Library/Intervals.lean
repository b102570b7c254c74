import Mathlib.Data.List.Chain
import Mathlib.Order.Lattice

/-!
# Intervals with an optional end

Intervals of a linear order that may be open to the right.  In a list sorted by
the starts, comparing every interval with the next one decides whether any two
of them meet.  A lookup in which the last match wins is then the unique match.
-/

namespace UcoStack

/-- The points from a start to an end, or from a start on. -/
structure Interval (α : Type) where
  start : α
  last : Option α

namespace Interval

variable {α : Type} [LinearOrder α]

def Contains (i : Interval α) (x : α) : Prop := i.start ≤ x ∧ ∀ last ∈ i.last, x ≤ last

/-- The end, if there is one, is not before the start. -/
def Proper (i : Interval α) : Prop := ∀ last ∈ i.last, i.start ≤ last

/-- No point in common. -/
def Apart (i j : Interval α) : Prop := ∀ x, ¬ (i.Contains x ∧ j.Contains x)

/-- The first interval ends before the second one starts. -/
def Before (i j : Interval α) : Prop := ∃ last ∈ i.last, last < j.start

theorem Proper.contains_start {i : Interval α} (proper : i.Proper) : i.Contains i.start :=
  ⟨le_refl _, proper⟩

/-- An interval is proper exactly if it has a point. -/
theorem proper_iff {i : Interval α} : i.Proper ↔ ∃ x, i.Contains x := by
  constructor
  · intro proper
    exact ⟨i.start, proper.contains_start⟩
  · rintro ⟨x, after, before⟩ last ends
    exact le_trans after (before last ends)

theorem Before.apart {i j : Interval α} (order : i.Before j) : i.Apart j := by
  obtain ⟨last, ends, early⟩ := order
  rintro x ⟨⟨_, before⟩, ⟨after, _⟩⟩
  have late : last < x := lt_of_lt_of_le early after
  exact absurd (before last ends) (not_le.mpr late)

/-- The start of the later interval is the point to look at. -/
theorem Apart.before {i j : Interval α} (apart : i.Apart j) (order : i.start ≤ j.start)
    (proper : j.Proper) : i.Before j := by
  by_contra overlap
  refine apart j.start ⟨⟨order, ?_⟩, proper.contains_start⟩
  intro last ends
  by_contra late
  exact overlap ⟨last, ends, not_le.mp late⟩

theorem Before.trans {i j k : Interval α} (first : i.Before j) (second : j.Before k)
    (proper : j.Proper) : i.Before k := by
  obtain ⟨last, ends, early⟩ := first
  obtain ⟨middle, endsMiddle, late⟩ := second
  have long : j.start ≤ middle := proper middle endsMiddle
  exact ⟨last, ends, lt_trans (lt_of_lt_of_le early long) late⟩

/-- The comparison of neighbours reaches every later interval. -/
theorem IsChain.before_all {i : Interval α} {rest : List (Interval α)}
    (chain : (i :: rest).IsChain Before) (proper : ∀ j ∈ rest, j.Proper) :
    ∀ j ∈ rest, i.Before j := by
  induction rest generalizing i with
  | nil =>
      intro j member
      cases member
  | cons next rest ih =>
      obtain ⟨first, others⟩ := List.isChain_cons_cons.mp chain
      have later := ih others fun j member => proper j (List.mem_cons_of_mem next member)
      intro j member
      rcases List.mem_cons.mp member with rfl | inRest
      · exact first
      · exact first.trans (later j inRest) (proper next List.mem_cons_self)

/-- In a list sorted by the starts the neighbours decide. -/
theorem isChain_before_iff {xs : List (Interval α)}
    (sorted : xs.Pairwise fun i j => i.start ≤ j.start) (proper : ∀ i ∈ xs, i.Proper) :
    xs.IsChain Before ↔ xs.Pairwise Apart := by
  induction xs with
  | nil => exact ⟨fun _ => List.Pairwise.nil, fun _ => List.IsChain.nil⟩
  | cons i rest ih =>
      obtain ⟨startsFirst, sortedRest⟩ := List.pairwise_cons.mp sorted
      have properRest : ∀ j ∈ rest, j.Proper :=
        fun j member => proper j (List.mem_cons_of_mem i member)
      have others := ih sortedRest properRest
      rw [List.pairwise_cons, List.isChain_cons, others]
      constructor
      · rintro ⟨next, apartRest⟩
        have chain : (i :: rest).IsChain Before :=
          List.isChain_cons.mpr ⟨next, others.mpr apartRest⟩
        exact ⟨fun j member => (IsChain.before_all chain properRest j member).apart, apartRest⟩
      · rintro ⟨apartFirst, apartRest⟩
        refine ⟨fun j head => ?_, apartRest⟩
        have member : j ∈ rest := List.mem_of_mem_head? head
        exact (apartFirst j member).before (startsFirst j member) (properRest j member)

end Interval

/-! ## A lookup in which the last match wins -/

namespace LastMatch

variable {α β : Type} (matched : α → Bool) (value : α → β)

/-- The value of the last matching element, or a default. -/
def lookup (default : β) (xs : List α) : β :=
  xs.foldl (fun found x => if matched x then value x else found) default

theorem lookup_of_none {default : β} {xs : List α} (unmatched : ∀ x ∈ xs, matched x = false) :
    lookup matched value default xs = default := by
  induction xs with
  | nil => rfl
  | cons x rest ih =>
      have here : matched x = false := unmatched x List.mem_cons_self
      have later := ih fun y member => unmatched y (List.mem_cons_of_mem x member)
      unfold lookup at later ⊢
      rw [List.foldl_cons, here]
      exact later

/-- If no two elements match together, the one that matches is found wherever it
stands in the list. -/
theorem lookup_of_unique {default : β} {xs : List α} {x : α}
    (unique : xs.Pairwise fun y z => ¬ (matched y = true ∧ matched z = true))
    (member : x ∈ xs) (here : matched x = true) :
    lookup matched value default xs = value x := by
  induction xs generalizing default with
  | nil => cases member
  | cons y rest ih =>
      obtain ⟨alone, uniqueRest⟩ := List.pairwise_cons.mp unique
      unfold lookup at ih ⊢
      rw [List.foldl_cons]
      rcases List.mem_cons.mp member with rfl | inRest
      · have unmatched : ∀ z ∈ rest, matched z = false := fun z inRest =>
          Bool.eq_false_iff.mpr fun found => alone z inRest ⟨here, found⟩
        rw [if_pos here]
        exact lookup_of_none matched value unmatched
      · exact ih uniqueRest inRest

end LastMatch

end UcoStack
