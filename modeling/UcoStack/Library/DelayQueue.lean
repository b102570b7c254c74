import Mathlib.Data.List.TakeWhile

/-!
# Queues with due times

A first-in first-out queue whose elements are due at a certain tick: at each tick
a block of elements enters, then elements leave at the front as long as they are
due.  An element that is not due holds back everything behind it.
-/

namespace UcoStack.DelayQueue

variable {α : Type} (due : α → Nat) (blocks : Nat → List α)

/-- What is in the queue before a tick. -/
def waiting : Nat → List α
  | 0 => []
  | tick + 1 => (waiting tick ++ blocks tick).dropWhile fun x => due x ≤ tick

/-- What leaves at a tick. -/
def released (tick : Nat) : List α :=
  (waiting due blocks tick ++ blocks tick).takeWhile fun x => due x ≤ tick

/-- Everything that entered before a tick, in order. -/
def queued (ticks : Nat) : List α := (List.range ticks).flatMap blocks

theorem queued_succ (tick : Nat) : queued blocks (tick + 1) = queued blocks tick ++ blocks tick := by
  unfold queued
  rw [List.range_succ, List.flatMap_append, List.flatMap_singleton]

/-- A block is queued in front of everything that enters later. -/
theorem queued_eq {tick ticks : Nat} (before : tick < ticks) :
    ∃ later, queued blocks ticks = queued blocks tick ++ blocks tick ++ later := by
  induction ticks with
  | zero => exact absurd before (Nat.not_lt_zero tick)
  | succ last ih =>
      rw [queued_succ]
      by_cases same : tick = last
      · subst same
        exact ⟨[], (List.append_nil _).symm⟩
      · obtain ⟨later, split⟩ := ih (by omega)
        rw [split]
        exact ⟨later ++ blocks last, List.append_assoc _ _ _⟩

theorem mem_queued {x : α} {ticks : Nat} :
    x ∈ queued blocks ticks ↔ ∃ tick < ticks, x ∈ blocks tick := by
  unfold queued
  simp only [List.mem_flatMap, List.mem_range]

/-- What entered has left, in the order in which it entered, or is still there. -/
theorem released_append_waiting (ticks : Nat) :
    (List.range ticks).flatMap (released due blocks) ++ waiting due blocks ticks =
      queued blocks ticks := by
  induction ticks with
  | zero => rfl
  | succ tick ih =>
      rw [List.range_succ, List.flatMap_append, List.flatMap_singleton, queued_succ, ← ih,
        List.append_assoc, List.append_assoc]
      congr 1
      exact List.takeWhile_append_dropWhile

theorem dropWhile_dropWhile_append {p q : α → Bool} (weaker : ∀ x, p x = true → q x = true)
    (xs ys : List α) : (xs.dropWhile p ++ ys).dropWhile q = (xs ++ ys).dropWhile q := by
  induction xs with
  | nil => rfl
  | cons x xs ih =>
      rw [List.dropWhile_cons]
      cases here : p x with
      | true =>
          rw [if_pos rfl, ih, List.cons_append, List.dropWhile_cons, if_pos (weaker x here)]
      | false => rw [if_neg Bool.false_ne_true]

/-- An element still waits if it, or one in front of it, was not due before. -/
theorem waiting_eq (ticks : Nat) :
    waiting due blocks ticks = (queued blocks ticks).dropWhile fun x => due x < ticks := by
  induction ticks with
  | zero => rfl
  | succ tick ih =>
      rw [waiting, ih, queued_succ, dropWhile_dropWhile_append]
      · congr 1
        funext x
        exact decide_eq_decide.mpr Nat.lt_succ_iff.symm
      · intro x early
        have before : due x < tick := of_decide_eq_true early
        exact decide_eq_true (Nat.le_of_lt before)

theorem mem_takeWhile_split {p : α → Bool} {front back : List α} {x : α} (fresh : x ∉ front) :
    x ∈ (front ++ x :: back).takeWhile p ↔ (∀ y ∈ front, p y = true) ∧ p x = true := by
  induction front with
  | nil =>
      rw [List.nil_append, List.takeWhile_cons]
      cases p x with
      | true => simp
      | false => simp
  | cons y front ih =>
      have other : x ≠ y := fun same => fresh (same ▸ List.mem_cons_self)
      have later := ih fun member => fresh (List.mem_cons_of_mem y member)
      rw [List.cons_append, List.takeWhile_cons, List.forall_mem_cons]
      cases p y with
      | true =>
          rw [if_pos rfl, List.mem_cons, later]
          simp [other]
      | false => simp

/-- What has left by the end of a tick. -/
theorem takeWhile_queued (tick : Nat) :
    ((queued blocks (tick + 1)).takeWhile fun x => due x ≤ tick) =
      ((queued blocks tick).takeWhile fun x => due x < tick) ++ released due blocks tick := by
  have early : ∀ x ∈ (queued blocks tick).takeWhile (fun x => due x < tick),
      decide (due x ≤ tick) = true := by
    intro x member
    have before : due x < tick := by simpa using List.mem_takeWhile_imp member
    exact decide_eq_true (Nat.le_of_lt before)
  have split : queued blocks (tick + 1) =
      ((queued blocks tick).takeWhile fun x => due x < tick) ++
        (waiting due blocks tick ++ blocks tick) := by
    rw [queued_succ, waiting_eq, ← List.append_assoc, List.takeWhile_append_dropWhile]
  rw [split, List.takeWhile_append_of_pos early]
  rfl

/-- An element leaves when it is due, unless one that entered before it is due later. -/
theorem mem_released_due {tick : Nat} {x : α} {front back : List α}
    (entered : blocks tick = front ++ x :: back) (late : tick ≤ due x)
    (fresh : x ∉ queued blocks tick ++ front) :
    x ∈ released due blocks (due x) ↔ ∀ y ∈ queued blocks tick ++ front, due y ≤ due x := by
  obtain ⟨later, split⟩ := queued_eq blocks (Nat.lt_succ_of_le late)
  have order : queued blocks (due x + 1) =
      (queued blocks tick ++ front) ++ x :: (back ++ later) := by
    rw [split, entered]
    simp
  have notEarly : x ∉ (queued blocks (due x)).takeWhile fun y => due y < due x := by
    intro member
    have before : due x < due x := by simpa using List.mem_takeWhile_imp member
    exact Nat.lt_irrefl _ before
  have whole := takeWhile_queued due blocks (due x)
  rw [order] at whole
  have left : x ∈ ((queued blocks tick ++ front) ++ x :: (back ++ later)).takeWhile
      (fun y => decide (due y ≤ due x)) ↔ _ := mem_takeWhile_split fresh
  rw [whole, List.mem_append, or_iff_right notEarly] at left
  simpa using left

end UcoStack.DelayQueue
