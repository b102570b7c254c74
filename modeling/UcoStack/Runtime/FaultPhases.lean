import UcoStack.Library.ExceptRun
import UcoStack.Library.Intervals
import UcoStack.Runtime.State
import Mathlib.Data.List.Sort

/-!
# The timetable of the fault phases

A list of phases is a timetable if every phase has a step and no two phases
share one.  `sort_and_validate_phases` accepts exactly the timetables, in any
order, and the policy of a step is then the policy of the phase it is in.
-/

namespace UcoStack.Runtime

namespace FaultPhase

def interval (phase : FaultPhase) : Interval Nat := ⟨phase.startStep, phase.endStep⟩

theorem isActive_iff {phase : FaultPhase} {step : Nat} :
    phase.isActive step = true ↔ phase.interval.Contains step := by
  obtain ⟨startStep, endStep, policy⟩ := phase
  cases endStep with
  | none => simp [isActive, interval, Interval.Contains]
  | some last => simp [isActive, interval, Interval.Contains]

/-- The phase covers some step. -/
def HasStep (phase : FaultPhase) : Prop := ∃ step, phase.isActive step = true

/-- No step is in both phases. -/
def Disjoint (phase other : FaultPhase) : Prop :=
  ∀ step, ¬ (phase.isActive step = true ∧ other.isActive step = true)

theorem hasStep_iff_proper {phase : FaultPhase} : phase.HasStep ↔ phase.interval.Proper := by
  rw [Interval.proper_iff]
  exact exists_congr fun _ => isActive_iff

theorem disjoint_iff_apart {phase other : FaultPhase} :
    phase.Disjoint other ↔ phase.interval.Apart other.interval :=
  forall_congr' fun _ => not_congr (and_congr isActive_iff isActive_iff)

theorem Disjoint.symm {phase other : FaultPhase} (disjoint : phase.Disjoint other) :
    other.Disjoint phase :=
  fun step both => disjoint step both.symm

end FaultPhase

/-- Every phase has a step and no step is in two of them. -/
structure Timetable (phases : List FaultPhase) : Prop where
  hasStep : ∀ phase ∈ phases, phase.HasStep
  disjoint : phases.Pairwise FaultPhase.Disjoint

theorem Timetable.perm {phases others : List FaultPhase} (timetable : Timetable phases)
    (same : others.Perm phases) : Timetable others where
  hasStep phase member := timetable.hasStep phase (same.mem_iff.mp member)
  disjoint := timetable.disjoint.perm same.symm fun disjoint => disjoint.symm

/-! ## The scan over the sorted phases -/

/-- What a phase owes to the part of the list before it: the first phase nothing,
every other one that the phase before it has ended. -/
def Follows (index : Nat) (previousEnd : Option Nat) (phase : FaultPhase) : Prop :=
  match previousEnd with
  | some last => last < phase.startStep
  | none => index = 0

theorem validatePhase_openEnded {index : Nat} {previousEnd : Option Nat} {phase : FaultPhase}
    (openEnded : phase.endStep = none) :
    validatePhase index previousEnd phase = .ok () ↔ Follows index previousEnd phase := by
  obtain ⟨startStep, endStep, policy⟩ := phase
  cases openEnded
  cases previousEnd with
  | none => exact ExceptRun.unless_throw_ok.trans (Nat.not_lt.trans Nat.le_zero)
  | some last => exact ExceptRun.unless_throw_ok.trans Nat.not_le

theorem validatePhase_ok {index : Nat} {previousEnd : Option Nat} {phase : FaultPhase} :
    validatePhase index previousEnd phase = .ok () ↔
      phase.interval.Proper ∧ Follows index previousEnd phase := by
  obtain ⟨startStep, endStep, policy⟩ := phase
  have neighbour := @validatePhase_openEnded index previousEnd ⟨startStep, none, policy⟩ rfl
  cases endStep with
  | none =>
      have proper : (⟨startStep, none, policy⟩ : FaultPhase).interval.Proper := by
        intro last ends
        cases ends
      exact neighbour.trans (and_iff_right proper).symm
  | some last =>
      by_cases reversed : last < startStep
      · have rejected : validatePhase index previousEnd ⟨startStep, some last, policy⟩ =
            .error (.endBeforeStart index startStep last) := by
          simp only [validatePhase, if_pos reversed]
          rfl
        rw [rejected]
        refine ⟨fun threw => (by cases threw), fun ⟨proper, _⟩ => ?_⟩
        exact absurd (proper last rfl) (Nat.not_le.mpr reversed)
      · -- the check on the end passes, so what is left is the check on the neighbour
        have passed : validatePhase index previousEnd ⟨startStep, some last, policy⟩ =
            validatePhase index previousEnd ⟨startStep, none, policy⟩ := by
          simp only [validatePhase, if_neg reversed]
        have proper : (⟨startStep, some last, policy⟩ : FaultPhase).interval.Proper := by
          intro final ends
          cases ends
          exact Nat.not_lt.mp reversed
        rw [passed]
        exact neighbour.trans (and_iff_right proper).symm

theorem follows_succ_iff {index : Nat} {phase next : FaultPhase} :
    Follows (index + 1) phase.endStep next ↔ phase.interval.Before next.interval := by
  obtain ⟨startStep, endStep, policy⟩ := phase
  cases endStep with
  | none => simp [Follows, FaultPhase.interval, Interval.Before]
  | some last => simp [Follows, FaultPhase.interval, Interval.Before]

/-- The scan compares every phase with the one before it. -/
theorem validatePhases_ok {index : Nat} {previousEnd : Option Nat} {phases : List FaultPhase} :
    validatePhases index previousEnd phases = .ok () ↔
      (∀ phase ∈ phases, phase.interval.Proper) ∧
        (∀ phase ∈ phases.head?, Follows index previousEnd phase) ∧
        (phases.map FaultPhase.interval).IsChain Interval.Before := by
  induction phases generalizing index previousEnd with
  | nil => simp [validatePhases]
  | cons phase rest ih =>
      have neighbours : (∀ next ∈ rest.head?, Follows (index + 1) phase.endStep next) ↔
          ∀ next ∈ (rest.map FaultPhase.interval).head?, phase.interval.Before next := by
        rw [List.head?_map]
        simp [follows_succ_iff]
      rw [validatePhases, ExceptRun.check_ok, validatePhase_ok, ih, neighbours, List.map_cons,
        List.isChain_cons, List.forall_mem_cons]
      simp only [List.head?_cons, Option.mem_some_iff, forall_eq']
      constructor
      · rintro ⟨⟨proper, follows⟩, properRest, next, chain⟩
        exact ⟨⟨proper, properRest⟩, follows, next, chain⟩
      · rintro ⟨⟨proper, properRest⟩, follows, next, chain⟩
        exact ⟨⟨proper, follows⟩, properRest, next, chain⟩

/-- On a sorted list the scan accepts exactly the timetables. -/
theorem validatePhases_sorted {phases : List FaultPhase}
    (sorted : phases.Pairwise fun left right => left.startStep ≤ right.startStep) :
    validatePhases 0 none phases = .ok () ↔ Timetable phases := by
  have proper : (∀ phase ∈ phases, phase.interval.Proper) ↔ ∀ phase ∈ phases, phase.HasStep :=
    forall₂_congr fun _ _ => FaultPhase.hasStep_iff_proper.symm
  have apart : (phases.map FaultPhase.interval).Pairwise Interval.Apart ↔
      phases.Pairwise FaultPhase.Disjoint := by
    rw [List.pairwise_map]
    exact ⟨fun apart => apart.imp FaultPhase.disjoint_iff_apart.mpr,
      fun disjoint => disjoint.imp FaultPhase.disjoint_iff_apart.mp⟩
  have sortedIntervals : (phases.map FaultPhase.interval).Pairwise
      fun i j => i.start ≤ j.start := List.pairwise_map.mpr sorted
  rw [validatePhases_ok]
  constructor
  · rintro ⟨properAll, -, chain⟩
    have properIntervals : ∀ i ∈ phases.map FaultPhase.interval, i.Proper :=
      List.forall_mem_map.mpr properAll
    exact ⟨proper.mp properAll,
      apart.mp ((Interval.isChain_before_iff sortedIntervals properIntervals).mp chain)⟩
  · rintro ⟨hasStep, disjoint⟩
    have properIntervals : ∀ i ∈ phases.map FaultPhase.interval, i.Proper :=
      List.forall_mem_map.mpr (proper.mpr hasStep)
    refine ⟨proper.mpr hasStep, fun _ _ => rfl, ?_⟩
    exact (Interval.isChain_before_iff sortedIntervals properIntervals).mpr (apart.mpr disjoint)

/-! ## Acceptance and lookup -/

namespace FaultConfig

/-- The phases in the order in which they start. -/
def sortedPhases (cfg : FaultConfig) : List FaultPhase :=
  cfg.phases.insertionSort fun left right => left.startStep ≤ right.startStep

theorem sortedPhases_perm (cfg : FaultConfig) : cfg.sortedPhases.Perm cfg.phases :=
  List.perm_insertionSort _ _

theorem sortedPhases_sorted (cfg : FaultConfig) :
    cfg.sortedPhases.Pairwise fun left right => left.startStep ≤ right.startStep := by
  have : Std.Total fun left right : FaultPhase => left.startStep ≤ right.startStep :=
    ⟨fun left right => Nat.le_total left.startStep right.startStep⟩
  have : IsTrans FaultPhase fun left right => left.startStep ≤ right.startStep :=
    ⟨fun _ _ _ first second => Nat.le_trans first second⟩
  exact List.pairwise_insertionSort _ _

theorem sortAndValidatePhases_eq_ok {cfg sorted : FaultConfig} :
    cfg.sortAndValidatePhases = .ok sorted ↔
      Timetable cfg.phases ∧ sorted = { cfg with phases := cfg.sortedPhases } := by
  have unfolded : cfg.sortAndValidatePhases = .ok sorted ↔
      validatePhases 0 none cfg.sortedPhases = .ok () ∧
        Except.ok (ε := PhaseError) { cfg with phases := cfg.sortedPhases } = .ok sorted :=
    ExceptRun.check_ok
  rw [unfolded, validatePhases_sorted cfg.sortedPhases_sorted]
  constructor
  · rintro ⟨timetable, same⟩
    exact ⟨timetable.perm cfg.sortedPhases_perm.symm, (Except.ok.inj same).symm⟩
  · rintro ⟨timetable, rfl⟩
    exact ⟨timetable.perm cfg.sortedPhases_perm, rfl⟩

/-- In a timetable the policy of a step is the one of the phase it is in. -/
theorem policyForStep_of_active {cfg : FaultConfig} (timetable : Timetable cfg.phases)
    {phase : FaultPhase} (member : phase ∈ cfg.phases) {step : Nat}
    (active : phase.isActive step = true) : cfg.policyForStep step = phase.policy :=
  LastMatch.lookup_of_unique (fun phase : FaultPhase => phase.isActive step) FaultPhase.policy
    (timetable.disjoint.imp fun disjoint => disjoint step) member active

theorem policyForStep_of_inactive {cfg : FaultConfig} {step : Nat}
    (inactive : ∀ phase ∈ cfg.phases, phase.isActive step = false) :
    cfg.policyForStep step = cfg.basePolicy :=
  LastMatch.lookup_of_none (fun phase : FaultPhase => phase.isActive step) FaultPhase.policy inactive

/-- The order of the phases does not matter in a timetable. -/
theorem policyForStep_perm {cfg other : FaultConfig} (timetable : Timetable cfg.phases)
    (same : other.phases.Perm cfg.phases) (base : other.basePolicy = cfg.basePolicy)
    (step : Nat) : other.policyForStep step = cfg.policyForStep step := by
  by_cases covered : ∃ phase ∈ cfg.phases, phase.isActive step = true
  · obtain ⟨phase, member, active⟩ := covered
    rw [policyForStep_of_active timetable member active]
    exact policyForStep_of_active (timetable.perm same) (same.mem_iff.mpr member) active
  · have inactive : ∀ phase ∈ cfg.phases, phase.isActive step = false := fun phase member =>
      Bool.eq_false_iff.mpr fun active => covered ⟨phase, member, active⟩
    rw [policyForStep_of_inactive inactive, ← base]
    exact policyForStep_of_inactive fun phase member => inactive phase (same.mem_iff.mp member)

/-- The policies of an accepted configuration are those of the phases as given. -/
theorem policyForStep_accepted {cfg sorted : FaultConfig}
    (accepted : cfg.sortAndValidatePhases = .ok sorted) (step : Nat) :
    sorted.policyForStep step = cfg.policyForStep step := by
  obtain ⟨timetable, rfl⟩ := sortAndValidatePhases_eq_ok.mp accepted
  exact @policyForStep_perm cfg { cfg with phases := cfg.sortedPhases } timetable
    cfg.sortedPhases_perm rfl step

/-- Acceptance is exact: it does not depend on the order in which the phases are
given, and neither does the policy of a step. -/
theorem sortAndValidatePhases_exact (cfg : FaultConfig) :
    ((∃ sorted, cfg.sortAndValidatePhases = .ok sorted) ↔
      (∀ phase ∈ cfg.phases, phase.HasStep) ∧ cfg.phases.Pairwise FaultPhase.Disjoint) ∧
    (∀ sorted, cfg.sortAndValidatePhases = .ok sorted → ∀ step,
      (∀ phase ∈ cfg.phases, phase.isActive step = true →
        sorted.policyForStep step = phase.policy) ∧
      ((∀ phase ∈ cfg.phases, phase.isActive step = false) →
        sorted.policyForStep step = cfg.basePolicy) ∧
      ∀ other : FaultConfig, other.basePolicy = cfg.basePolicy → other.phases.Perm cfg.phases →
        ∃ otherSorted, other.sortAndValidatePhases = .ok otherSorted ∧
          otherSorted.policyForStep step = sorted.policyForStep step) := by
  constructor
  · constructor
    · rintro ⟨sorted, accepted⟩
      obtain ⟨⟨hasStep, disjoint⟩, -⟩ := sortAndValidatePhases_eq_ok.mp accepted
      exact ⟨hasStep, disjoint⟩
    · rintro ⟨hasStep, disjoint⟩
      exact ⟨_, sortAndValidatePhases_eq_ok.mpr ⟨⟨hasStep, disjoint⟩, rfl⟩⟩
  · intro sorted accepted step
    obtain ⟨timetable, -⟩ := sortAndValidatePhases_eq_ok.mp accepted
    rw [policyForStep_accepted accepted]
    refine ⟨fun _ member active => policyForStep_of_active timetable member active,
      policyForStep_of_inactive, fun other sameBase same => ?_⟩
    have otherAccepted : other.sortAndValidatePhases =
        .ok { other with phases := other.sortedPhases } :=
      sortAndValidatePhases_eq_ok.mpr ⟨timetable.perm same, rfl⟩
    refine ⟨_, otherAccepted, ?_⟩
    rw [policyForStep_accepted otherAccepted]
    exact policyForStep_perm timetable same sameBase step

/-- Three phases that touch, given out of order; the last one is open-ended. -/
def touchingPhases : FaultConfig :=
  { default with
    phases := [⟨8, none, ⟨none, 2, 1⟩⟩, ⟨5, some 7, ⟨some 3, 0, 1⟩⟩, ⟨2, some 4, ⟨none, 0, 4⟩⟩] }

/-- The phases are accepted, and the policies are those of the phase in the middle,
of the base and of the open end. -/
theorem touchingPhases_exact :
    ∃ sorted, touchingPhases.sortAndValidatePhases = .ok sorted ∧
      sorted.policyForStep 7 = ⟨some 3, 0, 1⟩ ∧ sorted.policyForStep 1 = .default ∧
      sorted.policyForStep 100 = ⟨none, 2, 1⟩ := by
  obtain ⟨-, lookup⟩ := sortAndValidatePhases_exact touchingPhases
  refine ⟨_, rfl, ?_, ?_, ?_⟩
  · exact (lookup _ rfl 7).1 ⟨5, some 7, ⟨some 3, 0, 1⟩⟩ (by decide) (by decide)
  · exact (lookup _ rfl 1).2.1 (by decide)
  · exact (lookup _ rfl 100).1 ⟨8, none, ⟨none, 2, 1⟩⟩ (by decide) (by decide)

end FaultConfig

end UcoStack.Runtime
