import Mathlib.Data.List.Perm.Basic

/-!
# Reversal in chunks

A list is cut into consecutive chunks and each chunk is reversed.  `Chunked` is
the invariant of doing so one element at a time: full chunks have left, the rest
waits in a buffer.
-/

namespace UcoStack.Chunks

variable {α : Type}

/-- Consecutive chunks of `size` elements, the last possibly shorter; a size of zero
counts as one. -/
def chunks (size : Nat) : List α → List (List α)
  | [] => []
  | x :: xs => (x :: xs.take (size - 1)) :: chunks size (xs.drop (size - 1))
termination_by xs => xs.length
decreasing_by
  rw [List.length_drop, List.length_cons]
  omega

theorem chunks_nil (size : Nat) : chunks size ([] : List α) = [] := by
  rw [chunks]

theorem chunks_cons (size : Nat) (x : α) (xs : List α) :
    chunks size (x :: xs) = (x :: xs.take (size - 1)) :: chunks size (xs.drop (size - 1)) := by
  rw [chunks]

theorem chunks_max_one (size : Nat) (xs : List α) : chunks (max size 1) xs = chunks size xs := by
  induction xs using chunks.induct size with
  | case1 => rw [chunks_nil, chunks_nil]
  | case2 x xs ih =>
      have same : max size 1 - 1 = size - 1 := by omega
      rw [chunks_cons, chunks_cons, same, ih]

theorem chunks_flatten (size : Nat) (xs : List α) : (chunks size xs).flatten = xs := by
  induction xs using chunks.induct size with
  | case1 => rw [chunks_nil, List.flatten_nil]
  | case2 x xs ih => rw [chunks_cons, List.flatten_cons, ih, List.cons_append, List.take_append_drop]

/-- A list that fits is one chunk. -/
theorem chunks_of_length_le {size : Nat} {x : α} {xs : List α} (fits : xs.length + 1 ≤ size) :
    chunks size (x :: xs) = [x :: xs] := by
  rw [chunks_cons, List.take_of_length_le (by omega), List.drop_of_length_le (by omega), chunks_nil]

/-- Full chunks stay what they are when more elements follow. -/
theorem chunks_append {size : Nat} (positive : 0 < size) (xs ys : List α)
    (full : size ∣ xs.length) : chunks size (xs ++ ys) = chunks size xs ++ chunks size ys := by
  induction xs using chunks.induct size with
  | case1 => rw [chunks_nil, List.nil_append, List.nil_append]
  | case2 x xs ih =>
      have enough : size - 1 ≤ xs.length := by
        have le := Nat.le_of_dvd (Nat.succ_pos xs.length) full
        omega
      have rest : size ∣ (xs.drop (size - 1)).length := by
        have whole : xs.length + 1 = (xs.drop (size - 1)).length + size := by
          rw [List.length_drop]
          omega
        rw [List.length_cons, whole] at full
        exact (Nat.dvd_add_left (Nat.dvd_refl size)).mp full
      rw [List.cons_append, chunks_cons, chunks_cons, List.take_append_of_le_length enough,
        List.drop_append_of_le_length enough, ih rest, List.cons_append]

def reverseChunks (size : Nat) (xs : List α) : List α := (chunks size xs).flatMap List.reverse

theorem reverseChunks_max_one (size : Nat) (xs : List α) :
    reverseChunks (max size 1) xs = reverseChunks size xs := by
  unfold reverseChunks
  rw [chunks_max_one]

theorem reverseChunks_perm (size : Nat) (xs : List α) : (reverseChunks size xs).Perm xs := by
  have each : (reverseChunks size xs).Perm ((chunks size xs).flatMap id) :=
    List.Perm.flatMap_left _ fun chunk _ => List.reverse_perm chunk
  rwa [List.flatMap_id, chunks_flatten] at each

theorem reverseChunks_of_length_le {size : Nat} {xs : List α} (fits : xs.length ≤ size) :
    reverseChunks size xs = xs.reverse := by
  unfold reverseChunks
  cases xs with
  | nil => rw [chunks_nil, List.flatMap_nil, List.reverse_nil]
  | cons x xs => rw [chunks_of_length_le fits, List.flatMap_singleton]

theorem reverseChunks_append {size : Nat} (positive : 0 < size) {xs : List α} (ys : List α)
    (full : size ∣ xs.length) :
    reverseChunks size (xs ++ ys) = reverseChunks size xs ++ reverseChunks size ys := by
  unfold reverseChunks
  rw [chunks_append positive xs ys full, List.flatMap_append]

/-! ## One element at a time -/

/-- Of the elements `xs` the full chunks have left as `out`, the others wait in `buffer`. -/
structure Chunked (size : Nat) (xs buffer out : List α) : Prop where
  small : buffer.length < size
  full : ∃ left, xs = left ++ buffer ∧ size ∣ left.length ∧ out = reverseChunks size left

namespace Chunked

variable {size : Nat} {xs buffer out : List α}

theorem nil (positive : 0 < size) : Chunked size ([] : List α) [] [] where
  small := positive
  full := ⟨[], rfl, Nat.dvd_zero size, by unfold reverseChunks; rw [chunks_nil, List.flatMap_nil]⟩

theorem wait (chunked : Chunked size xs buffer out) (x : α) (small : buffer.length + 1 < size) :
    Chunked size (xs ++ [x]) (buffer ++ [x]) out where
  small := by
    rw [List.length_append, List.length_singleton]
    exact small
  full := by
    obtain ⟨left, rfl, full, rfl⟩ := chunked.full
    exact ⟨left, List.append_assoc left buffer [x], full, rfl⟩

/-- The element that fills the buffer. -/
theorem leave (chunked : Chunked size xs buffer out) (x : α) (fills : buffer.length + 1 = size) :
    Chunked size (xs ++ [x]) [] (out ++ (buffer ++ [x]).reverse) where
  small := by
    rw [List.length_nil]
    omega
  full := by
    obtain ⟨left, rfl, full, rfl⟩ := chunked.full
    have length : (buffer ++ [x]).length = size := by
      rw [List.length_append, List.length_singleton, fills]
    refine ⟨left ++ (buffer ++ [x]), ?_, ?_, ?_⟩
    · rw [List.append_nil, List.append_assoc]
    · rw [List.length_append, length]
      exact Nat.dvd_add full (Nat.dvd_refl size)
    · rw [reverseChunks_append (by omega) _ full, reverseChunks_of_length_le (Nat.le_of_eq length)]

/-- At the end the buffer leaves as well. -/
theorem finish (chunked : Chunked size xs buffer out) :
    out ++ buffer.reverse = reverseChunks size xs := by
  obtain ⟨left, rfl, full, rfl⟩ := chunked.full
  have small := chunked.small
  rw [reverseChunks_append (by omega) _ full, reverseChunks_of_length_le (Nat.le_of_lt small)]

end Chunked

end UcoStack.Chunks
