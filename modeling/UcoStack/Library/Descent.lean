import Mathlib.Logic.Relation

/-!
# Descent

Chains of parents that end at a root.  When an element has at most one parent and
roots have none, the length of the chain and the root are determined, so they may
be stored in the elements and compared locally.  Where instead a partial function
gives the parents and a measure falls along it, every walk ends.
-/

namespace UcoStack

variable {α : Type}

/-- `Descends Root Parent x n root`: the chain of `n` parents of `x` ends at `root`. -/
inductive Descends (Root : α → Prop) (Parent : α → α → Prop) : α → Nat → α → Prop where
  | root {x : α} (isRoot : Root x) : Descends Root Parent x 0 x
  | child {x parent root : α} {n : Nat} (isParent : Parent x parent)
      (up : Descends Root Parent parent n root) : Descends Root Parent x (n + 1) root

namespace Descends

variable {Root Root' : α → Prop} {Parent Parent' : α → α → Prop} {x root root' : α} {n n' : Nat}

theorem mono (roots : ∀ x, Root x → Root' x) (parents : ∀ x y, Parent x y → Parent' x y)
    (descends : Descends Root Parent x n root) : Descends Root' Parent' x n root := by
  induction descends with
  | root isRoot => exact .root (roots _ isRoot)
  | child isParent _ ih => exact .child (parents _ _ isParent) ih

section Unique

variable (rootless : ∀ x y, Root x → ¬Parent x y)
  (functional : ∀ x y z, Parent x y → Parent x z → y = z)

include rootless functional

theorem unique (first : Descends Root Parent x n root) (second : Descends Root Parent x n' root') :
    n = n' ∧ root = root' := by
  induction first generalizing n' with
  | root isRoot =>
      cases second with
      | root _ => exact ⟨rfl, rfl⟩
      | child isParent _ => exact absurd isParent (rootless _ _ isRoot)
  | child isParent _ ih =>
      cases second with
      | root isRoot => exact absurd isParent (rootless _ _ isRoot)
      | child isParent' up =>
          cases functional _ _ _ isParent isParent'
          obtain ⟨rfl, rfl⟩ := ih up
          exact ⟨rfl, rfl⟩

/-- Nothing that descends from a root is its own parent. -/
theorem irrefl (descends : Descends Root Parent x n root) : ¬Parent x x := by
  intro self
  have once := unique rootless functional descends (.child self descends)
  omega

/-- What is above has a shorter chain to the same root. -/
theorem above {y : α} (descends : Descends Root Parent x n root)
    (ancestor : Relation.TransGen Parent x y) : ∃ m < n, Descends Root Parent y m root := by
  induction ancestor using Relation.TransGen.head_induction_on generalizing n with
  | single isParent =>
      cases descends with
      | root isRoot => exact absurd isParent (rootless _ _ isRoot)
      | child isParent' up =>
          cases functional _ _ _ isParent isParent'
          exact ⟨_, Nat.lt_succ_self _, up⟩
  | head isParent _ ih =>
      cases descends with
      | root isRoot => exact absurd isParent (rootless _ _ isRoot)
      | child isParent' up =>
          cases functional _ _ _ isParent isParent'
          obtain ⟨m, shorter, higher⟩ := ih up
          exact ⟨m, Nat.lt_succ_of_lt shorter, higher⟩

/-- Nothing that descends from a root is above itself. -/
theorem acyclic (descends : Descends Root Parent x n root) : ¬Relation.TransGen Parent x x := by
  intro cycle
  obtain ⟨m, shorter, again⟩ := above rootless functional descends cycle
  obtain ⟨same, _⟩ := unique rootless functional descends again
  omega

end Unique

end Descends

/-! ## Walking to a root -/

/-- At most `steps` steps along a partial function, with the start. -/
def walk (next : α → Option α) : Nat → α → List α
  | 0, x => [x]
  | steps + 1, x =>
      match next x with
      | none => [x]
      | some y => x :: walk next steps y

/-- Every step stays among the good elements and lowers a measure. -/
structure Lowers (next : α → Option α) (Good : α → Prop) (measure : α → Nat) : Prop where
  keeps : ∀ x y, Good x → next x = some y → Good y
  lower : ∀ x y, Good x → next x = some y → measure y < measure x

namespace Lowers

variable {next : α → Option α} {Good : α → Prop} {measure : α → Nat}
  (lowers : Lowers next Good measure)

include lowers

theorem walk_good {x : α} (good : Good x) (steps : Nat) : ∀ y ∈ walk next steps x, Good y := by
  induction steps generalizing x with
  | zero =>
      intro y member
      cases List.mem_singleton.mp member
      exact good
  | succ steps ih =>
      intro y member
      unfold walk at member
      cases step : next x with
      | none =>
          rw [step] at member
          cases List.mem_singleton.mp member
          exact good
      | some z =>
          rw [step] at member
          cases member with
          | head => exact good
          | tail _ later => exact ih (lowers.keeps x z good step) y later

theorem walk_le {x : α} (good : Good x) (steps : Nat) :
    ∀ y ∈ walk next steps x, measure y ≤ measure x := by
  induction steps generalizing x with
  | zero =>
      intro y member
      cases List.mem_singleton.mp member
      exact Nat.le_refl _
  | succ steps ih =>
      intro y member
      unfold walk at member
      cases step : next x with
      | none =>
          rw [step] at member
          cases List.mem_singleton.mp member
          exact Nat.le_refl _
      | some z =>
          rw [step] at member
          cases member with
          | head => exact Nat.le_refl _
          | tail _ later =>
              have below := ih (lowers.keeps x z good step) y later
              exact Nat.le_trans below (Nat.le_of_lt (lowers.lower x z good step))

/-- No walk comes back. -/
theorem walk_nodup {x : α} (good : Good x) (steps : Nat) : (walk next steps x).Nodup := by
  induction steps generalizing x with
  | zero => exact List.pairwise_singleton _ x
  | succ steps ih =>
      unfold walk
      cases step : next x with
      | none => exact List.pairwise_singleton _ x
      | some z =>
          have kept := lowers.keeps x z good step
          refine List.nodup_cons.mpr ⟨fun again => ?_, ih kept⟩
          have below := lowers.walk_le kept steps x again
          have lower := lowers.lower x z good step
          omega

/-- As many steps as the measure lead to an end. -/
theorem walk_ends {x : α} (good : Good x) {steps : Nat} (enough : measure x ≤ steps) :
    ∃ last, (walk next steps x).getLast? = some last ∧ next last = none := by
  induction steps generalizing x with
  | zero =>
      refine ⟨x, rfl, ?_⟩
      cases step : next x with
      | none => rfl
      | some z =>
          have lower := lowers.lower x z good step
          omega
  | succ steps ih =>
      unfold walk
      cases step : next x with
      | none => exact ⟨x, rfl, step⟩
      | some z =>
          have lower := lowers.lower x z good step
          obtain ⟨last, isLast, ends⟩ := ih (lowers.keeps x z good step) (by omega)
          refine ⟨last, ?_, ends⟩
          rw [List.getLast?_cons, isLast]
          rfl

/-- What every step keeps is constant along a walk. -/
theorem walk_constant {β : Type} (value : α → β)
    (same : ∀ x y, Good x → next x = some y → value y = value x) {x : α} (good : Good x)
    (steps : Nat) : ∀ y ∈ walk next steps x, value y = value x := by
  induction steps generalizing x with
  | zero =>
      intro y member
      cases List.mem_singleton.mp member
      rfl
  | succ steps ih =>
      intro y member
      unfold walk at member
      cases step : next x with
      | none =>
          rw [step] at member
          cases List.mem_singleton.mp member
          rfl
      | some z =>
          rw [step] at member
          cases member with
          | head => rfl
          | tail _ later =>
              rw [ih (lowers.keeps x z good step) y later]
              exact same x z good step

end Lowers

end UcoStack
