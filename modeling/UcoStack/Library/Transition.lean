/-!
# Labelled transition systems

Runs of a transition relation whose steps carry lists of labels.  The labels of
a run are those of its steps, joined; `Run.history` is the invariant rule for
statements about a state and the labels that led to it.
-/

namespace UcoStack

variable {σ τ α : Type}

/-- The finite runs of `Step`, with all their labels. -/
inductive Run (Step : σ → List α → σ → Prop) : σ → List α → σ → Prop where
  | refl (s : σ) : Run Step s [] s
  | head {s middle t : σ} {first rest : List α} (step : Step s first middle)
      (run : Run Step middle rest t) : Run Step s (first ++ rest) t

namespace Run

variable {Step : σ → List α → σ → Prop} {s t u : σ} {first second : List α}

theorem single (step : Step s first t) : Run Step s first t := by
  have run := Run.head step (.refl t)
  rwa [List.append_nil] at run

theorem trans (left : Run Step s first t) (right : Run Step t second u) :
    Run Step s (first ++ second) u := by
  induction left with
  | refl s => exact right
  | head step _ ih =>
      rw [List.append_assoc]
      exact .head step (ih right)

theorem snoc (left : Run Step s first t) (step : Step t second u) :
    Run Step s (first ++ second) u :=
  left.trans (single step)

/-- A property of the labels so far and the state reached, kept by every step. -/
theorem history {Inv : List α → σ → Prop}
    (keeps : ∀ past s labels t, Inv past s → Step s labels t → Inv (past ++ labels) t)
    {past : List α} (start : Inv past s) (run : Run Step s first t) :
    Inv (past ++ first) t := by
  induction run generalizing past with
  | refl s => rwa [List.append_nil]
  | head step _ ih =>
      rw [← List.append_assoc]
      exact ih (keeps past _ _ _ start step)

theorem invariant {Inv : σ → Prop} (keeps : ∀ s labels t, Inv s → Step s labels t → Inv t)
    (start : Inv s) (run : Run Step s first t) : Inv t := by
  induction run with
  | refl s => exact start
  | head step _ ih => exact ih (keeps _ _ _ start step)

theorem mono {Other : σ → List α → σ → Prop}
    (weaker : ∀ s labels t, Step s labels t → Other s labels t) (run : Run Step s first t) :
    Run Other s first t := by
  induction run with
  | refl s => exact .refl s
  | head step _ ih => exact .head (weaker _ _ _ step) ih

end Run

end UcoStack
