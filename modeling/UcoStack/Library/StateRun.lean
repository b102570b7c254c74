import Mathlib.Order.Defs.Unbundled

/-!
# Computations over a state that may fail

Rules for `EStateM`, whose failures keep the state reached.  `bind_ok` takes a
successful run apart at its binds; `Moves` relates the first state to the final
one whether the computation succeeds or fails.
-/

namespace UcoStack.StateRun

variable {ε σ α β : Type}

/-- The final state of a run, successful or not. -/
def finalState : EStateM.Result ε σ α → σ
  | .ok _ s => s
  | .error _ s => s

def succeeds : EStateM.Result ε σ α → Bool
  | .ok _ _ => true
  | .error _ _ => false

theorem exists_ok {r : EStateM.Result ε σ α} (ok : succeeds r = true) : ∃ a s, r = .ok a s := by
  cases r with
  | ok a s => exact ⟨a, s, rfl⟩
  | error e s => cases ok

theorem ok_finalState {r : EStateM.Result ε σ Unit} (ok : succeeds r = true) :
    r = .ok () (finalState r) := by
  cases r with
  | ok a s => rfl
  | error e s => cases ok

@[simp] theorem finalState_ok (a : α) (s : σ) :
    finalState (.ok a s : EStateM.Result ε σ α) = s :=
  rfl

@[simp] theorem finalState_error (e : ε) (s : σ) :
    finalState (.error e s : EStateM.Result ε σ α) = s :=
  rfl

@[simp] theorem pure_apply (a : α) (s : σ) : (pure a : EStateM ε σ α) s = .ok a s :=
  rfl

@[simp] theorem throw_apply (e : ε) (s : σ) :
    (throw e : EStateM ε σ α) s = .error e s :=
  rfl

@[simp] theorem get_apply (s : σ) : (get : EStateM ε σ σ) s = .ok s s :=
  rfl

theorem bind_apply (x : EStateM ε σ α) (f : α → EStateM ε σ β) (s : σ) :
    (x >>= f) s =
      match x s with
      | .ok a m => f a m
      | .error e m => .error e m :=
  rfl

theorem bind_of_ok {x : EStateM ε σ α} {s m : σ} {a : α} (first : x s = .ok a m)
    (f : α → EStateM ε σ β) : (x >>= f) s = f a m := by
  rw [bind_apply, first]

@[simp] theorem get_bind (f : σ → EStateM ε σ β) (s : σ) : (get >>= f) s = f s s :=
  rfl

@[simp] theorem pure_bind_apply (a : α) (f : α → EStateM ε σ β) (s : σ) :
    (pure a >>= f) s = f a s :=
  rfl

/-- A successful bind runs both parts successfully. -/
theorem bind_ok {x : EStateM ε σ α} {f : α → EStateM ε σ β} {s s' : σ} {b : β} :
    (x >>= f) s = .ok b s' ↔ ∃ a m, x s = .ok a m ∧ f a m = .ok b s' := by
  rw [bind_apply]
  cases x s with
  | ok a m => simp [and_assoc]
  | error e m => simp

/-! ## Every outcome -/

/-- However the computation ends, its final state is related to its first one. -/
def Moves (R : σ → σ → Prop) (x : EStateM ε σ α) : Prop := ∀ s, R s (finalState (x s))

section Moves

variable {R : σ → σ → Prop} [IsPreorder σ R]

/-- The second part runs only after the first succeeded. -/
theorem moves_bind {x : EStateM ε σ α} {f : α → EStateM ε σ β} {s : σ}
    (first : R s (finalState (x s)))
    (rest : ∀ a m, x s = .ok a m → R m (finalState (f a m))) : R s (finalState ((x >>= f) s)) := by
  rw [bind_apply]
  cases ran : x s with
  | ok a m =>
      rw [ran] at first
      exact trans_of R first (rest a m ran)
  | error e m =>
      rw [ran] at first
      exact first

namespace Moves

theorem pure (a : α) : Moves R (Pure.pure a : EStateM ε σ α) := fun s => refl_of R s

theorem throw (e : ε) : Moves R (MonadExcept.throw e : EStateM ε σ α) := fun s => refl_of R s

theorem bind {x : EStateM ε σ α} {f : α → EStateM ε σ β} (first : Moves R x)
    (rest : ∀ a, Moves R (f a)) : Moves R (x >>= f) :=
  fun s => moves_bind (first s) fun a m _ => rest a m

omit [IsPreorder σ R] in
theorem get_bind {f : σ → EStateM ε σ β} (rest : ∀ s, R s (finalState (f s s))) :
    Moves R (get >>= f) :=
  rest

theorem forM_mem {xs : List α} {f : α → EStateM ε σ Unit} (body : ∀ x ∈ xs, Moves R (f x)) :
    Moves R (xs.forM f) := by
  induction xs with
  | nil => exact pure ()
  | cons x rest ih =>
      have later := ih fun y member => body y (List.mem_cons_of_mem x member)
      exact bind (body x List.mem_cons_self) fun _ => later

theorem forM {xs : List α} {f : α → EStateM ε σ Unit} (body : ∀ x, Moves R (f x)) :
    Moves R (xs.forM f) :=
  forM_mem fun x _ => body x

theorem foldlM {xs : List α} {f : β → α → EStateM ε σ β} (body : ∀ b x, Moves R (f b x)) (b : β) :
    Moves R (xs.foldlM f b) := by
  induction xs generalizing b with
  | nil => exact pure b
  | cons x rest ih =>
      rw [List.foldlM_cons]
      exact bind (body b x) ih

end Moves

end Moves

/-! ## Failures -/

/-- A failing bind fails in its first part or, after that succeeded, in its second. -/
theorem bind_error {x : EStateM ε σ α} {f : α → EStateM ε σ β} {s s' : σ} {e : ε} :
    (x >>= f) s = .error e s' ↔
      x s = .error e s' ∨ ∃ a m, x s = .ok a m ∧ f a m = .error e s' := by
  rw [bind_apply]
  cases x s with
  | ok a m => simp [and_assoc]
  | error error m => simp

/-- All failures of a computation satisfy `P`. -/
def Fails (P : ε → Prop) (x : EStateM ε σ α) : Prop := ∀ s e s', x s = .error e s' → P e

namespace Fails

variable {P : ε → Prop}

theorem pure (a : α) : Fails P (Pure.pure a : EStateM ε σ α) := fun _ _ _ ran => by cases ran

theorem bind {x : EStateM ε σ α} {f : α → EStateM ε σ β} (first : Fails P x)
    (rest : ∀ a, Fails P (f a)) : Fails P (x >>= f) := by
  intro s e s' ran
  rcases bind_error.mp ran with early | ⟨a, m, _, late⟩
  · exact first s e s' early
  · exact rest a m e s' late

theorem get_bind {f : σ → EStateM ε σ β} (rest : ∀ s, Fails P (f s)) : Fails P (get >>= f) :=
  fun s e s' ran => rest s s e s' ran

theorem forM {xs : List α} {f : α → EStateM ε σ Unit} (body : ∀ x, Fails P (f x)) :
    Fails P (xs.forM f) := by
  induction xs with
  | nil => exact pure ()
  | cons x rest ih => exact bind (body x) fun _ => ih

end Fails

end UcoStack.StateRun
