import Mathlib.Data.List.Forall2

/-!
# Computations that may fail

Rules for `Except`: a successful bind, loop or fold taken apart, and the
induction rule of a fold that keeps an invariant.
-/

namespace UcoStack.ExceptRun

variable {ε α β : Type}

theorem exists_ok {x : Except ε α} (succeeds : x.isOk = true) : ∃ a, x = .ok a := by
  cases x with
  | ok a => exact ⟨a, rfl⟩
  | error e => cases succeeds

/-- A successful bind runs both parts successfully. -/
theorem bind_ok {x : Except ε α} {f : α → Except ε β} {b : β} :
    (x >>= f) = .ok b ↔ ∃ a, x = .ok a ∧ f a = .ok b := by
  cases x with
  | ok a =>
      constructor
      · intro run
        exact ⟨a, rfl, run⟩
      · rintro ⟨_, same, run⟩
        cases same
        exact run
  | error e =>
      constructor
      · intro run
        cases run
      · rintro ⟨_, same, _⟩
        cases same

theorem map_ok {x : Except ε α} {f : α → β} {b : β} :
    x.map f = .ok b ↔ ∃ a, x = .ok a ∧ f a = b := by
  cases x with
  | ok a =>
      constructor
      · intro same
        exact ⟨a, rfl, Except.ok.inj same⟩
      · rintro ⟨_, same, rfl⟩
        cases same
        rfl
  | error e =>
      constructor
      · intro run
        cases run
      · rintro ⟨_, same, _⟩
        cases same

/-- A failed bind fails in its first part or in its second. -/
theorem bind_error {x : Except ε α} {f : α → Except ε β} {e : ε}
    (failed : (x >>= f) = .error e) : x = .error e ∨ ∃ a, x = .ok a ∧ f a = .error e := by
  cases x with
  | ok a => exact .inr ⟨a, rfl, failed⟩
  | error other =>
      cases failed
      exact .inl rfl

/-- Every result of the computation satisfies `Post`, every error is a `Fault`. -/
def Yields (x : Except ε α) (Post : α → Prop) (Fault : ε → Prop) : Prop :=
  (∀ a, x = .ok a → Post a) ∧ ∀ e, x = .error e → Fault e

namespace Yields

variable {Post : α → Prop} {Fault : ε → Prop}

theorem ok {a : α} (holds : Post a) : Yields (.ok a) Post Fault := by
  constructor
  · rintro _ ⟨⟩
    exact holds
  · rintro _ ⟨⟩

theorem error {e : ε} (fault : Fault e) : Yields (.error e) Post Fault := by
  constructor
  · rintro _ ⟨⟩
  · rintro _ ⟨⟩
    exact fault

theorem mono {x : Except ε α} {Post' : α → Prop} {Fault' : ε → Prop}
    (yields : Yields x Post Fault) (post : ∀ a, Post a → Post' a)
    (fault : ∀ e, Fault e → Fault' e) : Yields x Post' Fault' :=
  ⟨fun a ran => post a (yields.1 a ran), fun e failed => fault e (yields.2 e failed)⟩

theorem bind {x : Except ε α} {f : α → Except ε β} {Final : β → Prop}
    (first : Yields x Post Fault) (second : ∀ a, Post a → Yields (f a) Final Fault) :
    Yields (x >>= f) Final Fault := by
  constructor
  · intro b ran
    obtain ⟨a, begins, ends⟩ := bind_ok.mp ran
    exact (second a (first.1 a begins)).1 b ends
  · intro e failed
    rcases bind_error failed with begins | ⟨a, begins, ends⟩
    · exact first.2 e begins
    · exact (second a (first.1 a begins)).2 e ends

/-- A check establishes its condition, whatever was known before. -/
theorem check {x : Except ε Unit} {y : Except ε β} {Good : Prop} {Final : β → Prop}
    (first : Yields x (fun _ => Good) Fault) (second : Good → Yields y Final Fault) :
    Yields (x >>= fun _ => y) Final Fault :=
  first.bind fun _ => second

theorem forM {xs : List α} {f : α → Except ε Unit} {Good : α → Prop}
    (each : ∀ x ∈ xs, Yields (f x) (fun _ => Good x) Fault) :
    Yields (xs.forM f) (fun _ => ∀ x ∈ xs, Good x) Fault := by
  induction xs with
  | nil => exact .ok fun _ member => absurd member List.not_mem_nil
  | cons x rest ih =>
      refine (each x List.mem_cons_self).bind fun _ good => ?_
      exact (ih fun y member => each y (List.mem_cons_of_mem x member)).mono
        (fun _ others => List.forall_mem_cons.mpr ⟨good, others⟩) fun _ fault => fault

/-- A computation whose faults exclude `Good` succeeds if `Good` holds. -/
theorem succeeds {x : Except ε α} {Good : Prop} (yields : Yields x Post Fault)
    (excluded : ∀ e, Fault e → ¬Good) (good : Good) : ∃ a, x = .ok a := by
  cases x with
  | ok a => exact ⟨a, rfl⟩
  | error e => exact absurd good (excluded e (yields.2 e rfl))

end Yields

theorem toOption_eq_some {x : Except ε α} {a : α} : x.toOption = some a ↔ x = .ok a := by
  cases x with
  | ok b => exact ⟨fun same => by cases same; rfl, fun same => by cases same; rfl⟩
  | error e => exact ⟨fun same => (by cases same), fun same => (by cases same)⟩

theorem toOption_bind {x : Except ε α} {f : α → Except ε β} :
    (x >>= f).toOption = x.toOption.bind fun a => (f a).toOption := by
  cases x <;> rfl

theorem toOption_bind_congr {δ : Type} {x : Except ε α} {y : Except δ α} {f : α → Except ε β}
    {g : α → Except δ β} (first : x.toOption = y.toOption)
    (second : ∀ a, (f a).toOption = (g a).toOption) :
    (x >>= f).toOption = (y >>= g).toOption := by
  rw [toOption_bind, toOption_bind, first]
  exact Option.bind_congr fun a _ => second a

theorem toOption_map {x : Except ε α} {f : α → β} : (x.map f).toOption = x.toOption.map f := by
  cases x <;> rfl

theorem mapError_bind {δ : Type} {x : Except ε α} {f : α → Except ε β} {g : ε → δ} :
    (x >>= f).mapError g = x.mapError g >>= fun a => (f a).mapError g := by
  cases x <;> rfl

/-- A successful check is a successful bind whose value is not used. -/
theorem check_ok {x : Except ε Unit} {y : Except ε β} {b : β} :
    (x >>= fun _ => y) = .ok b ↔ x = .ok () ∧ y = .ok b := by
  rw [bind_ok]
  exact ⟨fun ⟨_, first, second⟩ => ⟨first, second⟩, fun ⟨first, second⟩ => ⟨(), first, second⟩⟩

/-- A check that throws succeeds exactly if its condition is not met. -/
theorem unless_throw_ok {c : Prop} [Decidable c] {error : ε} :
    (if c then throw error else pure ()) = (Except.ok () : Except ε Unit) ↔ ¬ c := by
  by_cases met : c
  · rw [if_pos met]
    exact ⟨fun threw => (by cases threw), fun unmet => absurd met unmet⟩
  · rw [if_neg met]
    exact ⟨fun _ => met, fun _ => rfl⟩

theorem forM_ok {xs : List α} {f : α → Except ε Unit} :
    xs.forM f = .ok () ↔ ∀ x ∈ xs, f x = .ok () := by
  induction xs with
  | nil => exact ⟨fun _ x member => absurd member List.not_mem_nil, fun _ => rfl⟩
  | cons x rest ih =>
      change (f x >>= fun _ => rest.forM f) = .ok () ↔ _
      rw [check_ok, ih]
      exact ⟨fun ⟨first, others⟩ y member => by
          rcases List.mem_cons.mp member with rfl | later
          · exact first
          · exact others y later,
        fun every => ⟨every x List.mem_cons_self,
          fun y member => every y (List.mem_cons_of_mem x member)⟩⟩

/-- A fold whose steps all succeed succeeds. -/
theorem foldlM_succeeds {xs : List α} {f : β → α → Except ε β}
    (step : ∀ x ∈ xs, ∀ b, ∃ b', f b x = .ok b') (b : β) : ∃ b', xs.foldlM f b = .ok b' := by
  induction xs generalizing b with
  | nil => exact ⟨b, rfl⟩
  | cons x rest ih =>
      obtain ⟨middle, first⟩ := step x List.mem_cons_self b
      obtain ⟨final, others⟩ := ih (fun y member => step y (List.mem_cons_of_mem x member)) middle
      refine ⟨final, ?_⟩
      rw [List.foldlM_cons]
      exact bind_ok.mpr ⟨middle, first, others⟩

/-- The invariant rule for a fold that is known to have succeeded. -/
theorem foldlM_inv (Inv : List α → β → Prop) {xs : List α} {f : β → α → Except ε β}
    (step : ∀ seen x b b', Inv seen b → f b x = .ok b' → Inv (seen ++ [x]) b')
    {seen : List α} {b b' : β} (start : Inv seen b) (ran : xs.foldlM f b = .ok b') :
    Inv (seen ++ xs) b' := by
  induction xs generalizing seen b with
  | nil =>
      cases ran
      simpa using start
  | cons x rest ih =>
      rw [List.foldlM_cons] at ran
      obtain ⟨middle, first, others⟩ := bind_ok.mp ran
      have done := ih (step seen x b middle start first) others
      simpa using done

theorem mapM_of_forall {xs : List α} {f : α → Except ε β} {g : α → β}
    (each : ∀ x ∈ xs, f x = .ok (g x)) : xs.mapM f = .ok (xs.map g) := by
  induction xs with
  | nil => rfl
  | cons x rest ih =>
      rw [List.mapM_cons, each x List.mem_cons_self,
        ih fun y member => each y (List.mem_cons_of_mem x member)]
      rfl

/-- The results of a successful loop stand in the order of its inputs. -/
theorem mapM_ok {xs : List α} {f : α → Except ε β} {ys : List β} (ran : xs.mapM f = .ok ys) :
    List.Forall₂ (fun x y => f x = .ok y) xs ys := by
  induction xs generalizing ys with
  | nil =>
      cases ran
      exact .nil
  | cons x rest ih =>
      rw [List.mapM_cons] at ran
      obtain ⟨y, first, ran⟩ := bind_ok.mp ran
      obtain ⟨others, later, ran⟩ := bind_ok.mp ran
      cases ran
      exact .cons first (ih later)

theorem forall_iff_of_forall₂ {R : α → β → Prop} {P : α → Prop} {Q : β → Prop}
    {xs : List α} {ys : List β} (related : List.Forall₂ R xs ys)
    (same : ∀ x y, y ∈ ys → R x y → (P x ↔ Q y)) : (∀ x ∈ xs, P x) ↔ ∀ y ∈ ys, Q y := by
  induction related with
  | nil => exact ⟨fun _ _ member => (by cases member), fun _ _ member => (by cases member)⟩
  | cons first _ ih =>
      rw [List.forall_mem_cons, List.forall_mem_cons, same _ _ List.mem_cons_self first,
        ih fun x y member => same x y (List.mem_cons_of_mem _ member)]

theorem mem_of_forall₂ {R : α → β → Prop} {xs : List α} {ys : List β}
    (related : List.Forall₂ R xs ys) :
    (∀ x ∈ xs, ∃ y ∈ ys, R x y) ∧ ∀ y ∈ ys, ∃ x ∈ xs, R x y := by
  induction related with
  | nil => exact ⟨fun _ member => (by cases member), fun _ member => (by cases member)⟩
  | cons first _ ih =>
      rw [List.forall_mem_cons, List.forall_mem_cons]
      obtain ⟨left, right⟩ := ih
      refine ⟨⟨⟨_, List.mem_cons_self, first⟩, fun x member => ?_⟩,
        ⟨_, List.mem_cons_self, first⟩, fun y member => ?_⟩
      · obtain ⟨y, inside, holds⟩ := left x member
        exact ⟨y, List.mem_cons_of_mem _ inside, holds⟩
      · obtain ⟨x, inside, holds⟩ := right y member
        exact ⟨x, List.mem_cons_of_mem _ inside, holds⟩

end UcoStack.ExceptRun
