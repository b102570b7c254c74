import UcoStack.Runtime.CommandLine
import UcoStack.Runtime.PolicyTimeline

/-!
# Phase starts in the trace

The scenario script starts a node with fault phases and checks its trace with
`Assert-PhasePolicyTimeline`, which wants a `FaultPolicy` event at the start of
every phase.  The runtime writes one only when the policy changes.  The script
reads all numbers as `Int32` and throws where one does not fit.
-/

namespace UcoStack.Runtime

open UcoStack.Lang StateRun

/-! ## The scenario script -/

/-- The greatest `Int32`. -/
def int32Max : Nat := 2147483647

/-- `[int]` on a number that is not negative. -/
def toInt32 (n : Nat) : Option Int32 := if n ≤ int32Max then some (Int32.ofNat n) else none

/-- `[int]` on texts: it reads an unsigned number as the runtime does, in its own range. -/
def ReadsNumbers (castInt : String → Option Int32) : Prop :=
  ∀ text n, parseU64 text = some n → castInt text = toInt32 n

/-- The result of `Resolve-NodeFaultConfig`. -/
structure NodeFaultConfig where
  delay : Int32
  reorder : Int32
  drop : Int32

/-- The fault settings of the command line that the script builds. -/
def NodeFaultConfig.fault (config : NodeFaultConfig) (phases : List FaultPhase) : FaultConfig :=
  { dropEvery :=
      if config.drop > 0 then some config.drop.toInt.toNat else FaultConfig.default.dropEvery
    delaySteps :=
      if config.delay > 0 then config.delay.toInt.toNat else FaultConfig.default.delaySteps
    reorderWindow :=
      if config.reorder > 1 then config.reorder.toInt.toNat
      else FaultConfig.default.reorderWindow
    phases := phases }

/-- The numbers of a policy as the script compares them. -/
structure PolicyNumbers where
  dropEvery : Int32
  delaySteps : Int32
  reorderWindow : Int32
  deriving DecidableEq

/-- The result of `Parse-PhaseSpec`. -/
structure PhaseDef extends PolicyNumbers where
  spec : String
  startStep : Int32
  endStep : Option Int32

inductive TimelineError where
  | format (spec : String)
  | conversion (value : String)
  | noPolicyEvent
  | noInitialEvent
  | noPhaseEvent (startStep : Int32) (spec : String)
  | mismatch (context : String) (expected actual : PolicyNumbers)
  deriving DecidableEq

def TimelineError.message (nodeName : String) : TimelineError → String
  | .format spec =>
      s!"Invalid fault phase spec {spec} " ++
        "(expected start:end:drop_every:delay_steps:reorder_window)"
  | .conversion value =>
      s!"Cannot convert value \"{value}\" to type \"System.Int32\". " ++
        "Error: \"Value was either too large or too small for an Int32.\""
  | .noPolicyEvent => s!"Expected at least one FaultPolicy event in {nodeName} trace"
  | .noInitialEvent => s!"Expected FaultPolicy step=0 event in {nodeName} trace"
  | .noPhaseEvent startStep spec =>
      s!"Expected FaultPolicy event at phase start step={startStep} in {nodeName} trace " ++
        s!"(phase {spec})"
  | .mismatch context expected actual =>
      s!"{nodeName} policy mismatch in {context}: expected drop={expected.dropEvery} " ++
        s!"delay={expected.delaySteps} reorder={expected.reorderWindow}, " ++
        s!"got drop={actual.dropEvery} delay={actual.delaySteps} reorder={actual.reorderWindow}"

/-- A conversion that throws where it has no result. -/
def converted (value : String) (result : Option Int32) : Except TimelineError Int32 :=
  match result with
  | some n => .ok n
  | none => .error (.conversion value)

def castNumber (n : Nat) : Except TimelineError Int32 := converted (toString n) (toInt32 n)

section Harness

variable (castInt : String → Option Int32)

def castText (text : String) : Except TimelineError Int32 := converted text (castInt text)

def castEndStep (text : String) : Except TimelineError (Option Int32) :=
  if text = "*" then .ok none else (castText castInt text).map some

def parsePhaseSpec (spec : String) : Except TimelineError PhaseDef :=
  match (spec.toList.splitOn ':').map String.ofList with
  | [start, last, drop, delay, window] => do
      let startStep ← castText castInt start
      let endStep ← castEndStep castInt last
      let dropEvery ← castText castInt drop
      let delaySteps ← castText castInt delay
      let reorderWindow ← castText castInt window
      pure ⟨⟨dropEvery, delaySteps, reorderWindow⟩, spec, startStep, endStep⟩
  | _ => .error (.format spec)

end Harness

def getExpectedInitialPolicy (config : NodeFaultConfig) (phaseDefs : List PhaseDef) :
    PolicyNumbers :=
  match phaseDefs.find? fun phase => phase.startStep = 0 with
  | some phase => phase.toPolicyNumbers
  | none => ⟨config.drop, config.delay, config.reorder⟩

def normalizeDropEveryValue : Option Nat → Except TimelineError Int32
  | none => .ok 0
  | some dropEvery => castNumber dropEvery

def assertPolicyEventMatches (event : FaultPolicy) (expected : PolicyNumbers)
    (context : String) : Except TimelineError Unit := do
  let actualDrop ← normalizeDropEveryValue event.dropEvery
  let actualDelay ← castNumber event.delaySteps
  let actualReorder ← castNumber event.reorderWindow
  if actualDrop ≠ expected.dropEvery ∨ actualDelay ≠ expected.delaySteps ∨
      actualReorder ≠ expected.reorderWindow then
    throw (.mismatch context expected ⟨actualDrop, actualDelay, actualReorder⟩)
  else pure ()

/-- The first event of a step; an event is its step and its policy. -/
def firstEventAt (step : Int32) :
    List (Nat × FaultPolicy) → Except TimelineError (Option FaultPolicy)
  | [] => pure none
  | event :: rest => do
      let eventStep ← castNumber event.1
      if eventStep = step then pure (some event.2) else firstEventAt step rest

def assertPhase (policyEvents : List (Nat × FaultPolicy)) (phase : PhaseDef) :
    Except TimelineError Unit := do
  match ← firstEventAt phase.startStep policyEvents with
  | none => throw (.noPhaseEvent phase.startStep phase.spec)
  | some event => assertPolicyEventMatches event phase.toPolicyNumbers s!"phase {phase.spec}"

def assertPhasePolicyTimeline (policyEvents : List (Nat × FaultPolicy)) (config : NodeFaultConfig)
    (phaseDefs : List PhaseDef) : Except TimelineError Unit :=
  if policyEvents.length < 1 then throw .noPolicyEvent
  else do
    match ← firstEventAt 0 policyEvents with
    | none => throw .noInitialEvent
    | some initial =>
        assertPolicyEventMatches initial (getExpectedInitialPolicy config phaseDefs)
          "initial policy"
        phaseDefs.forM (assertPhase policyEvents)

/-- What the script does for a node: it parses the specifications before the run, and
asserts the timeline after it. -/
def checkPhases (castInt : String → Option Int32) (specs : List String)
    (policyEvents : List (Nat × FaultPolicy)) (config : NodeFaultConfig) :
    Except TimelineError Unit := do
  let phaseDefs ← specs.mapM (parsePhaseSpec castInt)
  assertPhasePolicyTimeline policyEvents config phaseDefs

/-! ## The events of a run -/

section Runs

variable {V : Type} [DecidableEq V] {host : Host V} {program : Program} {cfg : Config}
  {inbound : Nat → List (WireEnvelope V)} {st : MainState V}

/-- The `FaultPolicy` events of a run that ended without error are the changes of its
policy. -/
theorem record_policyChanges (ran : record host program cfg inbound = .ok () st) :
    st.recorded.filterMap EventKind.policyChange = cfg.fault.policyChanges cfg.steps := by
  obtain ⟨reached, log, done⟩ := recordFirst_policyLog host program cfg inbound cfg.steps
  have same : recordFirst host program cfg inbound cfg.steps = .ok () st := ran
  rw [same] at log done
  cases done rfl
  exact log.policies

/-- The step begins a change unless the policy before it is the same. -/
theorem changesAt_iff {fault : FaultConfig} {step : Nat} {policy : FaultPolicy}
    (here : fault.policyForStep step = policy) :
    fault.changesAt step = true ↔ step = 0 ∨ fault.policyForStep (step - 1) ≠ policy := by
  subst here
  cases step with
  | zero => exact ⟨fun _ => .inl rfl, fun _ => rfl⟩
  | succ before =>
      simp only [FaultConfig.changesAt, decide_eq_true_eq, Nat.succ_ne_zero, false_or,
        Nat.add_sub_cancel]
      exact ne_comm

end Runs

/-! ## The numbers of the script -/

theorem toInt32_eq_some {n : Nat} {k : Int32} : toInt32 n = some k ↔ k.toInt = n := by
  unfold toInt32 int32Max
  constructor
  · intro converts
    split at converts
    · cases converts
      exact Int32.toInt_ofNat_of_lt (by omega)
    · cases converts
  · intro same
    have range := k.toInt_lt
    rw [if_pos (by omega)]
    apply congrArg some
    apply Int32.toInt.inj
    rw [Int32.toInt_ofNat_of_lt (by omega), same]

theorem exists_toInt_iff {n : Nat} : (∃ k : Int32, k.toInt = n) ↔ n ≤ int32Max := by
  constructor
  · rintro ⟨k, same⟩
    have range := k.toInt_lt
    unfold int32Max
    omega
  · intro fits
    exact ⟨Int32.ofNat n, toInt32_eq_some.mp (if_pos fits)⟩

theorem converted_eq_ok {value : String} {result : Option Int32} {k : Int32} :
    converted value result = .ok k ↔ result = some k := by
  cases result with
  | none => exact ⟨fun failed => (by cases failed), fun failed => (by cases failed)⟩
  | some n => exact ⟨fun same => (by cases same; rfl), fun same => (by cases same; rfl)⟩

theorem castNumber_eq_ok {n : Nat} {k : Int32} : castNumber n = .ok k ↔ k.toInt = n :=
  converted_eq_ok.trans toInt32_eq_some

theorem castText_eq_ok {castInt : String → Option Int32} (lawful : ReadsNumbers castInt)
    {text : String} {n : Nat} (reads : parseU64 text = some n) {k : Int32} :
    castText castInt text = .ok k ↔ k.toInt = n := by
  unfold castText
  rw [converted_eq_ok, lawful text n reads]
  exact toInt32_eq_some


/-- The numbers are those of the policy; no drops are drops every 0. -/
structure PolicyNumbers.Shows (numbers : PolicyNumbers) (policy : FaultPolicy) : Prop where
  dropEvery : numbers.dropEvery.toInt = policy.dropEvery.getD 0
  delaySteps : numbers.delaySteps.toInt = policy.delaySteps
  reorderWindow : numbers.reorderWindow.toInt = policy.reorderWindow

/-- What the script makes of a specification that the runtime reads as a phase. -/
structure PhaseDef.Matches (phaseDef : PhaseDef) (phase : FaultPhase) : Prop where
  startStep : phaseDef.startStep.toInt = phase.startStep
  endStep : phaseDef.endStep.map Int32.toInt = phase.endStep.map Int.ofNat
  shows : phaseDef.toPolicyNumbers.Shows phase.policy

/-- All numbers of the phase are in the range of `[int]`. -/
structure FaultPhase.Fits (phase : FaultPhase) : Prop where
  startStep : phase.startStep ≤ int32Max
  endStep : ∀ last, phase.endStep = some last → last ≤ int32Max
  dropEvery : phase.policy.dropEvery.getD 0 ≤ int32Max
  delaySteps : phase.policy.delaySteps ≤ int32Max
  reorderWindow : phase.policy.reorderWindow ≤ int32Max

/-- The specifications that the script can convert are those whose numbers fit. -/
theorem exists_matches_iff {phase : FaultPhase} (spec : String) :
    (∃ phaseDef : PhaseDef, phaseDef.spec = spec ∧ phaseDef.Matches phase) ↔ phase.Fits := by
  constructor
  · rintro ⟨phaseDef, -, same⟩
    refine ⟨exists_toInt_iff.mp ⟨_, same.startStep⟩, fun last given => ?_,
      exists_toInt_iff.mp ⟨_, same.shows.dropEvery⟩, exists_toInt_iff.mp ⟨_, same.shows.delaySteps⟩,
      exists_toInt_iff.mp ⟨_, same.shows.reorderWindow⟩⟩
    have ends := same.endStep
    rw [given] at ends
    obtain ⟨k, -, value⟩ := Option.map_eq_some_iff.mp ends
    exact exists_toInt_iff.mp ⟨k, value⟩
  · intro fits
    obtain ⟨start, startStep⟩ := exists_toInt_iff.mpr fits.startStep
    obtain ⟨drop, dropEvery⟩ := exists_toInt_iff.mpr fits.dropEvery
    obtain ⟨delay, delaySteps⟩ := exists_toInt_iff.mpr fits.delaySteps
    obtain ⟨window, reorderWindow⟩ := exists_toInt_iff.mpr fits.reorderWindow
    have ends : ∃ last : Option Int32, last.map Int32.toInt = phase.endStep.map Int.ofNat := by
      cases given : phase.endStep with
      | none => exact ⟨none, rfl⟩
      | some last =>
          obtain ⟨k, value⟩ := exists_toInt_iff.mpr (fits.endStep last given)
          exact ⟨some k, congrArg some value⟩
    obtain ⟨last, endStep⟩ := ends
    exact ⟨⟨⟨drop, delay, window⟩, spec, start, last⟩, rfl, startStep, endStep,
      dropEvery, delaySteps, reorderWindow⟩

theorem castEndStep_eq_ok {castInt : String → Option Int32} (lawful : ReadsNumbers castInt)
    {text : String} {last : Option Nat} (parsed : parseEndStep text = .ok last)
    {k : Option Int32} :
    castEndStep castInt text = .ok k ↔ k.map Int32.toInt = last.map Int.ofNat := by
  unfold castEndStep
  unfold parseEndStep at parsed
  split at parsed
  · rename_i star
    rw [if_pos star]
    cases parsed
    cases k with
    | none => exact ⟨fun _ => rfl, fun _ => rfl⟩
    | some k => exact ⟨fun same => (by cases same), fun same => (by cases same)⟩
  · rename_i number
    obtain ⟨n, reads, rfl⟩ := ExceptRun.map_ok.mp parsed
    rw [if_neg number, ExceptRun.map_ok]
    simp only [castText_eq_ok lawful (parseNumber_eq_ok.mp reads)]
    constructor
    · rintro ⟨j, value, rfl⟩
      exact congrArg some value
    · intro value
      obtain ⟨j, same, value⟩ := Option.map_eq_some_iff.mp value
      exact ⟨j, value, same.symm⟩

/-- The texts of the numbers of a phase. -/
theorem parseFaultPhaseSpec_fields {spec : String} {phase : FaultPhase}
    (parsed : parseFaultPhaseSpec spec = .ok phase) :
    ∃ start last drop delay window,
      (spec.toList.splitOn ':').map String.ofList = [start, last, drop, delay, window] ∧
        parseU64 start = some phase.startStep ∧ parseEndStep last = .ok phase.endStep ∧
        parseU64 drop = some (phase.policy.dropEvery.getD 0) ∧
        parseU64 delay = some phase.policy.delaySteps ∧
        parseU64 window = some phase.policy.reorderWindow := by
  unfold parseFaultPhaseSpec at parsed
  split at parsed
  · rename_i start last drop delay window split
    obtain ⟨startStep, startReads, parsed⟩ := ExceptRun.bind_ok.mp parsed
    obtain ⟨endStep, endReads, parsed⟩ := ExceptRun.bind_ok.mp parsed
    obtain ⟨dropEvery, dropReads, parsed⟩ := ExceptRun.bind_ok.mp parsed
    obtain ⟨delaySteps, delayReads, parsed⟩ := ExceptRun.bind_ok.mp parsed
    obtain ⟨reorderWindow, windowReads, parsed⟩ := ExceptRun.bind_ok.mp parsed
    obtain ⟨same, positive, parsed⟩ := ExceptRun.bind_ok.mp parsed
    have window_eq : same = reorderWindow := by
      unfold requireOne at positive
      split at positive
      · cases positive
      · exact (Except.ok.inj positive).symm
    cases parsed
    refine ⟨start, last, drop, delay, window, split, parseNumber_eq_ok.mp startReads, endReads,
      ?_, parseNumber_eq_ok.mp delayReads, ?_⟩
    · rw [parseNumber_eq_ok.mp dropReads]
      by_cases zero : dropEvery = 0
      · simp [dropEveryOf, zero]
      · simp [dropEveryOf, zero]
    · rw [window_eq]
      exact parseNumber_eq_ok.mp windowReads
  · cases parsed

/-- The script reads the phase that the runtime reads, wherever its numbers fit. -/
theorem parsePhaseSpec_eq_ok {castInt : String → Option Int32} (lawful : ReadsNumbers castInt)
    {spec : String} {phase : FaultPhase} (parsed : parseFaultPhaseSpec spec = .ok phase)
    {phaseDef : PhaseDef} :
    parsePhaseSpec castInt spec = .ok phaseDef ↔
      phaseDef.spec = spec ∧ phaseDef.Matches phase := by
  obtain ⟨start, last, drop, delay, window, split, startReads, endReads, dropReads, delayReads,
    windowReads⟩ := parseFaultPhaseSpec_fields parsed
  unfold parsePhaseSpec
  rw [split]
  dsimp only
  simp only [ExceptRun.bind_ok, castEndStep_eq_ok lawful endReads, castText_eq_ok lawful startReads,
    castText_eq_ok lawful dropReads, castText_eq_ok lawful delayReads,
    castText_eq_ok lawful windowReads]
  constructor
  · rintro ⟨startStep, first, endStep, second, dropEvery, third, delaySteps, fourth,
      reorderWindow, fifth, same⟩
    cases same
    exact ⟨rfl, first, second, third, fourth, fifth⟩
  · rintro ⟨rfl, same⟩
    exact ⟨_, same.startStep, _, same.endStep, _, same.shows.dropEvery, _,
      same.shows.delaySteps, _, same.shows.reorderWindow, rfl⟩

/-! ## The script on the events of a run -/

section Script

variable {phaseDef : PhaseDef} {phase : FaultPhase}

/-- The script compares the numbers of the policies. -/
theorem assertPolicyEventMatches_ok {event : FaultPolicy} {expected : PolicyNumbers}
    {context : String} :
    assertPolicyEventMatches event expected context = .ok () ↔ expected.Shows event := by
  have drops {k : Int32} : normalizeDropEveryValue event.dropEvery = .ok k ↔
      k.toInt = event.dropEvery.getD 0 := by
    cases event.dropEvery with
    | none => exact ⟨fun same => (by cases same; rfl), fun same =>
        congrArg Except.ok (Int32.toInt.inj same.symm)⟩
    | some drop => exact castNumber_eq_ok
  unfold assertPolicyEventMatches
  simp only [ExceptRun.bind_ok, drops, castNumber_eq_ok]
  constructor
  · rintro ⟨drop, first, delay, second, window, third, same⟩
    have equal := ExceptRun.unless_throw_ok.mp same
    simp only [ne_eq, not_or, not_not] at equal
    obtain ⟨rfl, rfl, rfl⟩ := equal
    exact ⟨first, second, third⟩
  · intro shows
    refine ⟨_, shows.dropEvery, _, shows.delaySteps, _, shows.reorderWindow, ?_⟩
    apply ExceptRun.unless_throw_ok.mpr
    rintro (differs | differs | differs)
    · exact differs rfl
    · exact differs rfl
    · exact differs rfl

/-- An event is found if the events before it stand at earlier steps, as these fit too. -/
theorem firstEventAt_of_mem {events : List (Nat × FaultPolicy)} {step : Int32} {n : Nat}
    {policy : FaultPolicy} (ordered : events.Pairwise fun earlier later => earlier.1 < later.1)
    (member : (n, policy) ∈ events) (same : step.toInt = n) :
    firstEventAt step events = .ok (some policy) := by
  induction events with
  | nil => cases member
  | cons event rest ih =>
      obtain ⟨before, ordered⟩ := List.pairwise_cons.mp ordered
      rw [firstEventAt]
      rcases List.mem_cons.mp member with rfl | later
      · rw [castNumber_eq_ok.mpr same]
        exact if_pos rfl
      · have earlier : event.1 < n := before _ later
        have fits := exists_toInt_iff.mp ⟨step, same⟩
        obtain ⟨k, value⟩ := exists_toInt_iff.mpr (show event.1 ≤ int32Max by omega)
        rw [castNumber_eq_ok.mpr value]
        refine (if_neg ?_).trans (ih ordered later)
        rintro rfl
        omega

theorem firstEventAt_mem {events : List (Nat × FaultPolicy)} {step : Int32}
    {policy : FaultPolicy} (found : firstEventAt step events = .ok (some policy)) :
    ∃ event ∈ events, step.toInt = event.1 ∧ event.2 = policy := by
  induction events with
  | nil => cases found
  | cons event rest ih =>
      rw [firstEventAt] at found
      obtain ⟨k, value, found⟩ := ExceptRun.bind_ok.mp found
      split at found
      · rename_i here
        cases found
        exact ⟨event, List.mem_cons_self, here ▸ castNumber_eq_ok.mp value, rfl⟩
      · obtain ⟨other, member, holds⟩ := ih found
        exact ⟨other, List.mem_cons_of_mem event member, holds⟩

variable {config : NodeFaultConfig} {fault : FaultConfig} {steps : Nat}

theorem firstEventAt_policyChanges {step : Int32} {n : Nat} (same : step.toInt = n)
    {policy : FaultPolicy} :
    firstEventAt step (fault.policyChanges steps) = .ok (some policy) ↔
      n < steps ∧ fault.changesAt n = true ∧ policy = fault.policyForStep n := by
  rw [← FaultConfig.mem_policyChanges]
  constructor
  · intro found
    obtain ⟨⟨other, _⟩, member, value, rfl⟩ := firstEventAt_mem found
    have steps_eq : n = other := by
      have values : (n : Int) = other := same.symm.trans value
      omega
    rw [steps_eq]
    exact member
  · intro member
    exact firstEventAt_of_mem (fault.policyChanges_ordered steps) member same

/-- The script finds the phase if its start is a step of the run that changes the policy. -/
theorem assertPhase_ok (same : phaseDef.Matches phase)
    (here : fault.policyForStep phase.startStep = phase.policy) :
    assertPhase (fault.policyChanges steps) phaseDef = .ok () ↔
      phase.startStep < steps ∧
        (phase.startStep = 0 ∨ fault.policyForStep (phase.startStep - 1) ≠ phase.policy) := by
  unfold assertPhase
  rw [ExceptRun.bind_ok, ← changesAt_iff here]
  constructor
  · rintro ⟨found, ran, passes⟩
    cases found with
    | none => cases passes
    | some event =>
        obtain ⟨below, changes, -⟩ := (firstEventAt_policyChanges same.startStep).mp ran
        exact ⟨below, changes⟩
  · rintro ⟨below, changes⟩
    refine ⟨some phase.policy, (firstEventAt_policyChanges same.startStep).mpr
      ⟨below, changes, here.symm⟩, ?_⟩
    exact assertPolicyEventMatches_ok.mpr same.shows

/-- The script expects of the base policy what it has given on the command line. -/
structure NodeFaultConfig.Plain (config : NodeFaultConfig) : Prop where
  drop : 0 ≤ config.drop
  delay : 0 ≤ config.delay
  reorder : 0 < config.reorder

/-- A number that is given only above the default is the one in force unless it is below. -/
theorem given_eq_iff {n least : Int32} {default : Nat} (same : least.toInt = default) :
    n.toInt = ((if n > least then n.toInt.toNat else default : Nat) : Int) ↔
      (default : Int) ≤ n.toInt := by
  split
  · rename_i above
    have value := Int32.lt_iff_toInt_lt.mp above
    omega
  · rename_i never
    have value := mt Int32.lt_iff_toInt_lt.mpr never
    omega

theorem NodeFaultConfig.shows_base {phases : List FaultPhase} :
    PolicyNumbers.Shows ⟨config.drop, config.delay, config.reorder⟩
      (config.fault phases).basePolicy ↔ config.Plain := by
  have zero := Int32.toInt_zero
  have drops : config.drop.toInt = (config.fault phases).basePolicy.dropEvery.getD 0 ↔
      0 ≤ config.drop := by
    have drop_eq : (config.fault phases).basePolicy.dropEvery.getD 0 =
        if config.drop > 0 then config.drop.toInt.toNat else 0 :=
      apply_ite (fun drop : Option Nat => drop.getD 0) (config.drop > 0) (some _) none
    rw [drop_eq, given_eq_iff zero, Int32.le_iff_toInt_le, zero]
    rfl
  have delays : config.delay.toInt = (config.fault phases).basePolicy.delaySteps ↔
      0 ≤ config.delay := by
    rw [Int32.le_iff_toInt_le, zero]
    exact given_eq_iff zero
  have reorders : config.reorder.toInt = (config.fault phases).basePolicy.reorderWindow ↔
      0 < config.reorder := by
    rw [Int32.lt_iff_toInt_lt, zero]
    exact given_eq_iff Int32.toInt_one
  exact ⟨fun shows => ⟨drops.mp shows.dropEvery, delays.mp shows.delaySteps,
      reorders.mp shows.reorderWindow⟩,
    fun plain => ⟨drops.mpr plain.drop, delays.mpr plain.delay, reorders.mpr plain.reorder⟩⟩

/-- In a timetable a phase is active at its own start. -/
theorem policyForStep_start {phases : List FaultPhase} (timetable : Timetable phases)
    (same : fault.phases.Perm phases) (member : phase ∈ phases) :
    fault.policyForStep phase.startStep = phase.policy :=
  FaultConfig.policyForStep_of_active (timetable.perm same) (same.mem_iff.mpr member)
    (FaultPhase.isActive_iff.mpr
      (FaultPhase.hasStep_iff_proper.mp (timetable.hasStep phase member)).contains_start)

theorem PhaseDef.Matches.start_zero (same : phaseDef.Matches phase) :
    phaseDef.startStep = 0 ↔ phase.startStep = 0 := by
  rw [← Int32.toInt_inj, same.startStep, Int32.toInt_zero]
  exact Int.natCast_eq_zero

/-- The script expects the policy of the first step if that is the policy of a phase, or
the base policy is plain. -/
theorem initialPolicy_ok {phaseDefs : List PhaseDef} {phases : List FaultPhase}
    {context : String} (matched : List.Forall₂ PhaseDef.Matches phaseDefs phases)
    (timetable : Timetable phases) (same : fault.phases.Perm phases)
    (base : fault.basePolicy = (config.fault phases).basePolicy) :
    assertPolicyEventMatches (fault.policyForStep 0) (getExpectedInitialPolicy config phaseDefs)
        context = .ok () ↔
      config.Plain ∨ ∃ phase ∈ phases, phase.startStep = 0 := by
  obtain ⟨specified, phased⟩ := ExceptRun.mem_of_forall₂ matched
  rw [assertPolicyEventMatches_ok]
  unfold getExpectedInitialPolicy
  cases found : phaseDefs.find? fun phaseDef => phaseDef.startStep = 0 with
  | some phaseDef =>
      obtain ⟨phase, member, matches_⟩ := specified phaseDef (List.mem_of_find?_eq_some found)
      have zero : phase.startStep = 0 :=
        matches_.start_zero.mp (of_decide_eq_true (List.find?_some found :))
      have initial : fault.policyForStep 0 = phase.policy := by
        rw [← zero]
        exact policyForStep_start timetable same member
      rw [initial]
      exact ⟨fun _ => .inr ⟨phase, member, zero⟩, fun _ => matches_.shows⟩
  | none =>
      have late : ∀ phase ∈ phases, phase.startStep ≠ 0 := by
        intro phase member zero
        obtain ⟨phaseDef, inside, matches_⟩ := phased phase member
        have missed := List.find?_eq_none.mp found phaseDef inside
        exact missed (decide_eq_true (matches_.start_zero.mpr zero))
      have inactive : ∀ phase ∈ fault.phases, phase.isActive 0 = false := by
        intro phase member
        have after := Nat.pos_of_ne_zero (late phase (same.mem_iff.mp member))
        unfold FaultPhase.isActive
        rw [if_pos after]
      rw [FaultConfig.policyForStep_of_inactive inactive, base, NodeFaultConfig.shows_base]
      refine ⟨.inl, ?_⟩
      rintro (plain | ⟨phase, member, zero⟩)
      · exact plain
      · exact absurd zero (late phase member)

/-- The script passes after a run of these phases. -/
theorem assertPhasePolicyTimeline_ok {phaseDefs : List PhaseDef} {phases : List FaultPhase}
    (matched : List.Forall₂ PhaseDef.Matches phaseDefs phases) (timetable : Timetable phases)
    (same : fault.phases.Perm phases)
    (base : fault.basePolicy = (config.fault phases).basePolicy) :
    assertPhasePolicyTimeline (fault.policyChanges steps) config phaseDefs = .ok () ↔
      0 < steps ∧ (config.Plain ∨ ∃ phase ∈ phases, phase.startStep = 0) ∧
        ∀ phase ∈ phases, phase.startStep < steps ∧
          (phase.startStep = 0 ∨ fault.policyForStep (phase.startStep - 1) ≠ phase.policy) := by
  have each : (∀ phaseDef ∈ phaseDefs,
      assertPhase (fault.policyChanges steps) phaseDef = .ok ()) ↔ _ :=
    ExceptRun.forall_iff_of_forall₂ matched fun phaseDef phase member matches_ =>
      assertPhase_ok matches_ (policyForStep_start timetable same member)
  unfold assertPhasePolicyTimeline
  cases steps with
  | zero => exact ⟨fun passes => (by cases passes), fun passes => absurd passes.1 (by decide)⟩
  | succ before =>
      have first : firstEventAt 0 (fault.policyChanges (before + 1)) =
          .ok (some (fault.policyForStep 0)) :=
        (firstEventAt_policyChanges Int32.toInt_zero).mpr ⟨before.succ_pos, rfl, rfl⟩
      have nonempty : ¬(fault.policyChanges (before + 1)).length < 1 := by
        have member : (0, fault.policyForStep 0) ∈ fault.policyChanges (before + 1) :=
          FaultConfig.mem_policyChanges.mpr ⟨before.succ_pos, rfl, rfl⟩
        have long := List.length_pos_of_mem member
        omega
      rw [if_neg nonempty, first]
      change (assertPolicyEventMatches _ _ _ >>= fun _ => phaseDefs.forM _) = .ok () ↔ _
      rw [ExceptRun.check_ok, ExceptRun.forM_ok, each,
        initialPolicy_ok matched timetable same base]
      exact (and_iff_right before.succ_pos).symm

/-- The script parses all specifications exactly if their numbers fit. -/
theorem parsePhaseSpecs_ok {castInt : String → Option Int32} (lawful : ReadsNumbers castInt)
    {specs : List String} {phases : List FaultPhase}
    (parsed : List.Forall₂ (fun spec phase => parseFaultPhaseSpec spec = .ok phase) specs phases) :
    ((∃ phaseDefs, specs.mapM (parsePhaseSpec castInt) = .ok phaseDefs) ↔
        ∀ phase ∈ phases, phase.Fits) ∧
      ∀ phaseDefs, specs.mapM (parsePhaseSpec castInt) = .ok phaseDefs →
        List.Forall₂ PhaseDef.Matches phaseDefs phases := by
  induction parsed with
  | nil =>
      refine ⟨⟨fun _ phase member => (by cases member), fun _ => ⟨[], rfl⟩⟩, ?_⟩
      intro phaseDefs ran
      cases ran
      exact .nil
  | @cons spec phase specs phases first _ ih =>
      obtain ⟨exists_iff, matched⟩ := ih
      have here {phaseDef : PhaseDef} : parsePhaseSpec castInt spec = .ok phaseDef ↔ _ :=
        parsePhaseSpec_eq_ok lawful first
      simp only [List.mapM_cons, ExceptRun.bind_ok]
      constructor
      · rw [List.forall_mem_cons, ← exists_iff, ← exists_matches_iff spec]
        constructor
        · rintro ⟨_, phaseDef, ran, others, later, _⟩
          exact ⟨⟨phaseDef, here.mp ran⟩, others, later⟩
        · rintro ⟨⟨phaseDef, same⟩, others, later⟩
          exact ⟨phaseDef :: others, phaseDef, here.mpr same, others, later, rfl⟩
      · rintro _ ⟨phaseDef, ran, others, later, same⟩
        cases same
        exact .cons (here.mp ran).2 (matched others later)

/-- The whole check after a run of these phases. -/
theorem checkPhases_ok {castInt : String → Option Int32} (lawful : ReadsNumbers castInt)
    {specs : List String} {phases : List FaultPhase}
    (parsed : specs.mapM parseFaultPhaseSpec = .ok phases) (timetable : Timetable phases)
    (same : fault.phases.Perm phases)
    (base : fault.basePolicy = (config.fault phases).basePolicy) :
    checkPhases castInt specs (fault.policyChanges steps) config = .ok () ↔
      0 < steps ∧ (config.Plain ∨ ∃ phase ∈ phases, phase.startStep = 0) ∧
        ∀ phase ∈ phases, phase.Fits ∧ phase.startStep < steps ∧
          (phase.startStep = 0 ∨ fault.policyForStep (phase.startStep - 1) ≠ phase.policy) := by
  obtain ⟨exists_iff, matched⟩ := parsePhaseSpecs_ok lawful (ExceptRun.mapM_ok parsed)
  have timeline {phaseDefs : List PhaseDef}
      (ran : specs.mapM (parsePhaseSpec castInt) = .ok phaseDefs) :
      assertPhasePolicyTimeline (fault.policyChanges steps) config phaseDefs = .ok () ↔ _ :=
    assertPhasePolicyTimeline_ok (matched phaseDefs ran) timetable same base
  unfold checkPhases
  rw [ExceptRun.bind_ok, forall₂_and, ← exists_iff]
  constructor
  · rintro ⟨phaseDefs, ran, passes⟩
    obtain ⟨positive, initial, every⟩ := (timeline ran).mp passes
    exact ⟨positive, initial, ⟨phaseDefs, ran⟩, every⟩
  · rintro ⟨positive, initial, ⟨phaseDefs, ran⟩, every⟩
    exact ⟨phaseDefs, ran, (timeline ran).mpr ⟨positive, initial, every⟩⟩

end Script

/-! ## When the script passes -/

section Visible

variable {V : Type} [DecidableEq V] {host : Host V} {program : Program} {cfg : Config}
  {inbound : Nat → List (WireEnvelope V)} {st : MainState V} {given : FaultConfig}

/-- A phase start is visible in the trace of a run exactly if it changes the policy.  The
script passes exactly if every phase starts in the run and changes the policy, the numbers
of the phases fit, and the policy of the first step is that of a phase or a plain base. -/
theorem phaseStart_visible_iff (accepted : given.sortAndValidatePhases = .ok cfg.fault)
    (ran : record host program cfg inbound = .ok () st) :
    (∀ phase ∈ given.phases, phase.startStep < cfg.steps →
      ((∃ kind ∈ st.recorded, kind.policyChange = some (phase.startStep, phase.policy)) ↔
        phase.startStep = 0 ∨ given.policyForStep (phase.startStep - 1) ≠ phase.policy)) ∧
    ∀ castInt, ReadsNumbers castInt → ∀ (config : NodeFaultConfig) (specs : List String),
      specs.mapM parseFaultPhaseSpec = .ok given.phases → given = config.fault given.phases →
      (checkPhases castInt specs (st.recorded.filterMap EventKind.policyChange) config =
          .ok () ↔
        0 < cfg.steps ∧ (config.Plain ∨ ∃ phase ∈ given.phases, phase.startStep = 0) ∧
          ∀ phase ∈ given.phases, phase.Fits ∧ phase.startStep < cfg.steps ∧
            (phase.startStep = 0 ∨
              given.policyForStep (phase.startStep - 1) ≠ phase.policy)) := by
  obtain ⟨timetable, sorted⟩ := FaultConfig.sortAndValidatePhases_eq_ok.mp accepted
  have same : cfg.fault.phases.Perm given.phases := by
    rw [sorted]
    exact given.sortedPhases_perm
  have base : cfg.fault.basePolicy = given.basePolicy := by
    rw [sorted]
    rfl
  have policies := FaultConfig.policyForStep_accepted accepted
  have changes := record_policyChanges ran
  constructor
  · intro phase member below
    have here := policyForStep_start timetable same member
    rw [← policies, ← changesAt_iff here, ← here, ← List.mem_filterMap, changes,
      FaultConfig.mem_policyChanges]
    exact ⟨fun change => change.2.1, fun change => ⟨below, change, rfl⟩⟩
  · intro castInt lawful config specs parsed built
    have baseBuilt : cfg.fault.basePolicy = (config.fault given.phases).basePolicy := by
      rw [base, ← built]
    rw [changes, checkPhases_ok lawful parsed timetable same baseBuilt]
    simp only [policies]

/-- `[int]` on unsigned numbers. -/
def castDigits (text : String) : Option Int32 := (parseU64 text).bind toInt32

theorem castDigits_readsNumbers : ReadsNumbers castDigits := by
  intro text n reads
  unfold castDigits
  rw [reads]
  rfl

/-- The end of the delay is visible, and the script passes. -/
theorem phaseStart_visible_sample :
    ∃ st, record jsonHost sampleProgram timelineConfig sampleInbound = .ok () st ∧
      (∃ kind ∈ st.recorded, kind.policyChange = some (1, .default)) ∧
      checkPhases castDigits ["1:*:0:0:1"] (st.recorded.filterMap EventKind.policyChange)
        ⟨1, 1, 0⟩ = .ok () := by
  have succeeds : succeeds (record jsonHost sampleProgram timelineConfig sampleInbound) = true := by
    decide +kernel
  have ran := ok_finalState succeeds
  have accepted : timelineConfig.fault.sortAndValidatePhases = .ok timelineConfig.fault := rfl
  obtain ⟨visible, script⟩ := phaseStart_visible_iff accepted ran
  refine ⟨_, ran, ?_, ?_⟩
  · exact (visible ⟨1, none, .default⟩ (by decide) (by decide)).mpr (.inr (by decide))
  · apply (script castDigits castDigits_readsNumbers ⟨1, 1, 0⟩ ["1:*:0:0:1"] (by decide +kernel)
      rfl).mpr
    refine ⟨by decide, .inl ⟨by decide, by decide, by decide⟩, ?_⟩
    intro phase member
    cases List.mem_singleton.mp member
    refine ⟨⟨by decide, ?_, by decide, by decide, by decide⟩, by decide, .inr (by decide)⟩
    intro last given
    cases given

/-- The phase has the policy of the base. -/
def repeatingConfig : Config :=
  { sampleConfig 2 with fault := ⟨none, 0, 1, [⟨1, none, .default⟩]⟩ }

/-- The start of the phase leaves no event, and the script stops at it. -/
theorem phaseStart_invisible :
    repeatingConfig.fault.sortAndValidatePhases = .ok repeatingConfig.fault ∧
    ∃ st, record jsonHost sampleProgram repeatingConfig sampleInbound = .ok () st ∧
      (∃ phase ∈ repeatingConfig.fault.phases, phase.startStep < repeatingConfig.steps ∧
        ∀ kind ∈ st.recorded, kind.policyChange ≠ some (phase.startStep, phase.policy)) ∧
      ["1:*:0:0:1"].mapM parseFaultPhaseSpec = .ok repeatingConfig.fault.phases ∧
      checkPhases castDigits ["1:*:0:0:1"] (st.recorded.filterMap EventKind.policyChange)
        ⟨0, 1, 0⟩ ≠ .ok () := by
  have succeeds : succeeds (record jsonHost sampleProgram repeatingConfig sampleInbound) =
      true := by
    decide +kernel
  have changes := record_policyChanges (ok_finalState succeeds)
  rw [show repeatingConfig.fault.policyChanges repeatingConfig.steps = [(0, .default)] by
    decide +kernel] at changes
  refine ⟨rfl, _, ok_finalState succeeds, ?_, by decide +kernel, ?_⟩
  · refine ⟨_, List.mem_singleton_self _, by decide, fun kind member change => ?_⟩
    have listed : (1, FaultPolicy.default) ∈ [(0, FaultPolicy.default)] := by
      rw [← changes]
      exact List.mem_filterMap.mpr ⟨kind, member, change⟩
    exact absurd listed (by decide)
  · rw [changes]
    decide +kernel

end Visible

end UcoStack.Runtime
