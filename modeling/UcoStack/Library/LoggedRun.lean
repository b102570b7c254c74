import Mathlib.Data.List.Basic

/-!
# Logged runs

A fold whose state keeps a log.  When every step adds the names of some entries to the
log, the run adds the names of all entries of its steps.
-/

namespace UcoStack

variable {σ α β γ : Type}

/-- The entries of the steps of a run. -/
def logged (step : σ → α → σ) (entries : σ → α → List β) : σ → List α → List β
  | _, [] => []
  | s, x :: xs => entries s x ++ logged step entries (step s x) xs

variable {step : σ → α → σ} (log : σ → List γ) (name : β → γ)

theorem foldl_logged {entries : σ → α → List β}
    (adds : ∀ s x, log (step s x) = log s ++ (entries s x).map name) (s : σ) (xs : List α) :
    log (xs.foldl step s) = log s ++ (logged step entries s xs).map name := by
  induction xs generalizing s with
  | nil => exact (List.append_nil _).symm
  | cons x xs ih =>
      rw [List.foldl_cons, ih, adds, logged, List.map_append, List.append_assoc]

/-- Entries that do not depend on the state. -/
theorem foldl_logged_each {entries : α → List β}
    (adds : ∀ s x, log (step s x) = log s ++ (entries x).map name) (s : σ) (xs : List α) :
    log (xs.foldl step s) = log s ++ (xs.flatMap entries).map name := by
  induction xs generalizing s with
  | nil => exact (List.append_nil _).symm
  | cons x xs ih =>
      rw [List.foldl_cons, ih, adds, List.flatMap_cons, List.map_append, List.append_assoc]

end UcoStack
