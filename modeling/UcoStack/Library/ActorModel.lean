import Mathlib.Algebra.BigOperators.Group.Multiset.Basic
import Mathlib.Algebra.Order.Monoid.Defs
import Mathlib.Data.Multiset.AddSub
import Mathlib.Logic.Function.Basic
import UcoStack.Library.Transition

/-!
# Actors and their mail

Actors live at places.  The mail is a multiset of addressed letters, and a step hands
any one of them to the actor it is addressed to, which moves to a new state and sends
further letters.  Nothing is said about the order of deliveries, so what is proved here
holds for every order, and an undelivered letter is as good as a lost one.

A run is labelled with the mail it delivers.  Three rules cover it: assertions on
states and letters that every reaction keeps, weights of letters that pay for what
their delivery sends, and the state at a place as a fold over its own letters.
-/

namespace UcoStack

/-- How the actor at a place reacts to a letter: its next state, and the mail it sends. -/
structure ActorModel (Place State Letter : Type) where
  react : Place → State → Letter → State × List (Place × Letter)

namespace ActorModel

variable {Place State Letter : Type}

structure Configuration (Place State Letter : Type) where
  state : Place → State
  mail : Multiset (Place × Letter)

variable [DecidableEq Place] (model : ActorModel Place State Letter)

/-- The letter to `place` has been taken out of the mail, which leaves `rest`. -/
def deliver (config : Configuration Place State Letter) (place : Place) (letter : Letter)
    (rest : Multiset (Place × Letter)) : Configuration Place State Letter :=
  { state := Function.update config.state place (model.react place (config.state place) letter).1
    mail := rest + ((model.react place (config.state place) letter).2 : Multiset _) }

@[simp] theorem deliver_state_self (config : Configuration Place State Letter) (place : Place)
    (letter : Letter) (rest : Multiset (Place × Letter)) :
    (model.deliver config place letter rest).state place =
      (model.react place (config.state place) letter).1 :=
  Function.update_self place _ config.state

theorem deliver_state_of_ne (config : Configuration Place State Letter) {place other : Place}
    (different : other ≠ place) (letter : Letter) (rest : Multiset (Place × Letter)) :
    (model.deliver config place letter rest).state other = config.state other :=
  Function.update_of_ne different _ config.state

inductive Step : Configuration Place State Letter → List (Place × Letter) →
    Configuration Place State Letter → Prop where
  | deliver {config : Configuration Place State Letter} (place : Place) (letter : Letter)
      (rest : Multiset (Place × Letter)) (mail : config.mail = (place, letter) ::ₘ rest) :
      Step config [(place, letter)] (model.deliver config place letter rest)

variable {model} {config final : Configuration Place State Letter}
  {delivered : List (Place × Letter)}

/-! ## Assertions -/

section Assertions

variable (Good : Place → State → Prop) (Fit : Place → Letter → Prop)

/-- The assertions hold of every state and of every letter under way. -/
structure Configuration.Satisfies (config : Configuration Place State Letter) : Prop where
  state : ∀ place, Good place (config.state place)
  mail : ∀ sent ∈ config.mail, Fit sent.1 sent.2

/-- A reaction to a fit letter keeps the state good and sends fit letters. -/
def Keeps (model : ActorModel Place State Letter) : Prop :=
  ∀ place state letter, Good place state → Fit place letter →
    Good place (model.react place state letter).1 ∧
      ∀ sent ∈ (model.react place state letter).2, Fit sent.1 sent.2

variable {Good Fit}

theorem Step.satisfies (keeps : Keeps Good Fit model) (start : config.Satisfies Good Fit)
    (step : model.Step config delivered final) :
    final.Satisfies Good Fit ∧ ∀ sent ∈ delivered, Fit sent.1 sent.2 := by
  cases step with
  | deliver place letter rest mail =>
      have here : Fit place letter :=
        start.mail (place, letter) (mail ▸ Multiset.mem_cons_self _ rest)
      obtain ⟨good, fit⟩ := keeps place (config.state place) letter (start.state place) here
      refine ⟨⟨fun other => ?_, fun sent member => ?_⟩, fun sent member => ?_⟩
      · by_cases same : other = place
        · subst same
          rw [deliver_state_self]
          exact good
        · rw [deliver_state_of_ne model config same]
          exact start.state other
      · rcases Multiset.mem_add.mp member with old | new
        · exact start.mail sent (mail ▸ Multiset.mem_cons_of_mem old)
        · exact fit sent (Multiset.mem_coe.mp new)
      · cases List.mem_singleton.mp member
        exact here

/-- Assertions that every reaction keeps hold throughout a run. -/
theorem run_satisfies (keeps : Keeps Good Fit model) (start : config.Satisfies Good Fit)
    (run : Run model.Step config delivered final) :
    final.Satisfies Good Fit ∧ ∀ sent ∈ delivered, Fit sent.1 sent.2 := by
  induction run with
  | refl config => exact ⟨start, fun _ member => absurd member List.not_mem_nil⟩
  | head step _ ih =>
      obtain ⟨middle, first⟩ := step.satisfies keeps start
      obtain ⟨last, rest⟩ := ih middle
      exact ⟨last, fun sent member => (List.mem_append.mp member).elim (first sent) (rest sent)⟩

end Assertions

/-! ## Weights -/

section Weights

variable {M : Type} [AddCommMonoid M] [PartialOrder M] [IsOrderedAddMonoid M]
  {cost weight : Place × Letter → M} {Good : Place → State → Prop} {Fit : Place → Letter → Prop}

/-- The weight of a fit letter pays for its delivery and for what its delivery sends. -/
def Pays (model : ActorModel Place State Letter) (Good : Place → State → Prop)
    (Fit : Place → Letter → Prop) (cost weight : Place × Letter → M) : Prop :=
  ∀ place state letter, Good place state → Fit place letter →
    cost (place, letter) + ((model.react place state letter).2.map weight).sum ≤
      weight (place, letter)

theorem Step.pays (pays : model.Pays Good Fit cost weight) (start : config.Satisfies Good Fit)
    (step : model.Step config delivered final) :
    (delivered.map cost).sum + (final.mail.map weight).sum ≤ (config.mail.map weight).sum := by
  cases step with
  | deliver place letter rest mail =>
      have here : Fit place letter :=
        start.mail (place, letter) (mail ▸ Multiset.mem_cons_self _ rest)
      have paid := pays place (config.state place) letter (start.state place) here
      have after : (model.deliver config place letter rest).mail =
          rest + ((model.react place (config.state place) letter).2 : Multiset _) := rfl
      rw [after, mail, Multiset.map_add, Multiset.sum_add, Multiset.map_cons, Multiset.sum_cons,
        Multiset.map_coe, Multiset.sum_coe, List.map_cons, List.map_nil, List.sum_cons,
        List.sum_nil, add_zero, add_left_comm, add_comm (weight (place, letter))]
      exact add_le_add_right paid _

/-- The mail at the start pays for all deliveries of a run and for the mail at its end. -/
theorem run_pays (keeps : Keeps Good Fit model) (pays : model.Pays Good Fit cost weight)
    (start : config.Satisfies Good Fit) (run : Run model.Step config delivered final) :
    (delivered.map cost).sum + (final.mail.map weight).sum ≤ (config.mail.map weight).sum := by
  induction run with
  | refl config => simp
  | @head config middle final first rest step _ ih =>
      have here := step.pays pays start
      have later := ih (step.satisfies keeps start).1
      calc ((first ++ rest).map cost).sum + (final.mail.map weight).sum
          = (first.map cost).sum + ((rest.map cost).sum + (final.mail.map weight).sum) := by
            rw [List.map_append, List.sum_append, add_assoc]
        _ ≤ (first.map cost).sum + (middle.mail.map weight).sum := add_le_add_right later _
        _ ≤ (config.mail.map weight).sum := here

end Weights

/-! ## Local histories -/

section Histories

/-- The letters among the delivered mail that went to the place. -/
def lettersTo (place : Place) (delivered : List (Place × Letter)) : List Letter :=
  (delivered.filter fun sent => sent.1 = place).map Prod.snd

theorem lettersTo_append (place : Place) (first second : List (Place × Letter)) :
    lettersTo place (first ++ second) = lettersTo place first ++ lettersTo place second := by
  unfold lettersTo
  rw [List.filter_append, List.map_append]

/-- The state at a place after some letters, one after the other. -/
def stateAfter (model : ActorModel Place State Letter) (place : Place) (state : State)
    (letters : List Letter) : State :=
  letters.foldl (fun state letter => (model.react place state letter).1) state

theorem Step.local_history (step : model.Step config delivered final) (place : Place) :
    final.state place = model.stateAfter place (config.state place) (lettersTo place delivered) := by
  cases step with
  | deliver here letter rest mail =>
      by_cases same : here = place
      · subst same
        have letters : lettersTo here [(here, letter)] = [letter] := by simp [lettersTo]
        rw [letters]
        exact model.deliver_state_self config here letter rest
      · have letters : lettersTo place [(here, letter)] = [] := by simp [lettersTo, same]
        rw [letters]
        exact model.deliver_state_of_ne config (Ne.symm same) letter rest

/-- An actor depends on the others through its letters only. -/
theorem run_local_history (run : Run model.Step config delivered final) (place : Place) :
    final.state place = model.stateAfter place (config.state place) (lettersTo place delivered) := by
  induction run with
  | refl config => rfl
  | head step _ ih =>
      rw [ih, step.local_history place, lettersTo_append]
      exact (List.foldl_append ..).symm

end Histories

end ActorModel

end UcoStack
