import UcoStack.Library.StateRun
import UcoStack.Runtime.Core

/-!
# Configuration and state of a run

`MainState` gathers the variables of `main`.  A failing run keeps the state it
had reached, since the trace already written and the envelopes already handed
to the network outlive the process.
-/

namespace UcoStack.Runtime

inductive Mode where
  | record
  | replay
  deriving DecidableEq, Repr

/-! ## Fault configuration -/

structure FaultPolicy where
  dropEvery : Option Nat
  delaySteps : Nat
  reorderWindow : Nat
  deriving DecidableEq, Repr

def FaultPolicy.default : FaultPolicy := ⟨none, 0, 1⟩

structure FaultPhase where
  startStep : Nat
  endStep : Option Nat
  policy : FaultPolicy
  deriving DecidableEq, Repr

def FaultPhase.isActive (phase : FaultPhase) (step : Nat) : Bool :=
  if step < phase.startStep then false
  else
    match phase.endStep with
    | some last => step ≤ last
    | none => true

structure FaultConfig where
  dropEvery : Option Nat
  delaySteps : Nat
  reorderWindow : Nat
  phases : List FaultPhase
  deriving DecidableEq, Repr

namespace FaultConfig

def default : FaultConfig := ⟨none, 0, 1, []⟩

def basePolicy (cfg : FaultConfig) : FaultPolicy :=
  ⟨cfg.dropEvery, cfg.delaySteps, cfg.reorderWindow⟩

def policyForStep (cfg : FaultConfig) (step : Nat) : FaultPolicy :=
  cfg.phases.foldl (fun policy phase => if phase.isActive step then phase.policy else policy)
    cfg.basePolicy

end FaultConfig

/-- The rejections of `sort_and_validate_phases`. -/
inductive PhaseError where
  | endBeforeStart (index startStep endStep : Nat)
  | overlap (startStep previousEnd : Nat)
  | openEndedNotLast
  deriving DecidableEq, Repr

def PhaseError.message : PhaseError → String
  | .endBeforeStart index startStep endStep =>
      s!"fault phase #{index} has end_step < start_step (start={startStep} end={endStep})"
  | .overlap startStep previousEnd =>
      s!"fault phases overlap at step {startStep} (previous ended at {previousEnd})"
  | .openEndedNotLast => "fault phase with open-ended range must be last"

/-- The checks on one phase; `previousEnd` is the end of the phase before it. -/
def validatePhase (index : Nat) (previousEnd : Option Nat) (phase : FaultPhase) :
    Except PhaseError Unit := do
  match phase.endStep with
  | some last =>
      if last < phase.startStep then throw (.endBeforeStart index phase.startStep last)
  | none => pure ()
  match previousEnd with
  | some last => if phase.startStep ≤ last then throw (.overlap phase.startStep last)
  | none => if index > 0 then throw .openEndedNotLast

def validatePhases : Nat → Option Nat → List FaultPhase → Except PhaseError Unit
  | _, _, [] => .ok ()
  | index, previousEnd, phase :: rest => do
      validatePhase index previousEnd phase
      validatePhases (index + 1) phase.endStep rest

/-- The sort is stable. -/
def FaultConfig.sortAndValidatePhases (cfg : FaultConfig) : Except PhaseError FaultConfig := do
  let phases := cfg.phases.insertionSort fun left right => left.startStep ≤ right.startStep
  validatePhases 0 none phases
  pure { cfg with phases := phases }

/-- The settings of a node.  The mode is not among them: the two drivers of
`main` are separate functions. -/
structure Config where
  nodeId : NodeId
  peers : PeerMap
  bootstrapHello : Bool
  bootstrapBurst : Nat
  steps : Nat
  fault : FaultConfig

/-- The fixed seed of every run. -/
def runSeed : Nat := 12345

/-! ## The variables of a run -/

structure StagedInbound (V : Type) where
  env : WireEnvelope V
  releaseStep : Nat
  deriving DecidableEq, Repr

structure FaultInjector (V : Type) where
  cfg : FaultConfig
  seenInbound : Nat
  activePolicy : FaultPolicy
  policyInitialized : Bool
  reorderBuf : List (StagedInbound V)
  pending : List (StagedInbound V)

def FaultInjector.new {V : Type} (cfg : FaultConfig) : FaultInjector V :=
  { cfg := cfg
    seenInbound := 0
    activePolicy := cfg.policyForStep 0
    policyInitialized := false
    reorderBuf := []
    pending := [] }

/-- The trace being replayed: the events not read yet and the one pushed back. -/
structure ReplayCursor (V : Type) where
  reader : List (TraceEvent V)
  buffered : Option (TraceEvent V)

structure MainState (V : Type) where
  core : Core V
  seq : Nat
  writer : Option (List (TraceEvent V))
  replay : ReplayCursor V
  injector : FaultInjector V
  /-- The envelopes handed to the network so far. -/
  sent : List (WireEnvelope V)

/-- A computation over the variables of `main` that may fail. -/
abbrev MainM (V : Type) := EStateM (RunError V) (MainState V)

section Primitives

variable {V : Type}

/-- Numbered trace records for consecutive events. -/
def stamp (first : Nat) : List (EventKind V) → List (TraceEvent V)
  | [] => []
  | kind :: rest => ⟨first, runSeed, kind⟩ :: stamp (first + 1) rest

/-- The state after recording events. -/
def MainState.logged (st : MainState V) (kinds : List (EventKind V)) : MainState V :=
  { st with
    seq := st.seq + kinds.length
    writer := st.writer.map (· ++ stamp st.seq kinds) }

def MainState.setCore (st : MainState V) (core : Core V) : MainState V := { st with core := core }

def MainState.setInjector (st : MainState V) (injector : FaultInjector V) : MainState V :=
  { st with injector := injector }

def MainState.addSent (st : MainState V) (envs : List (WireEnvelope V)) : MainState V :=
  { st with sent := st.sent ++ envs }

/-- The addition to the sequence number panics on overflow. -/
def recordEvent (kind : EventKind V) : MainM V Unit := fun st =>
  if st.seq = u64Max then .error .counterOverflow st
  else if st.writer.isNone then .error .noTraceWriter { st with seq := st.seq + 1 }
  else .ok () (st.logged [kind])

def updateInjector (change : FaultInjector V → FaultInjector V) : MainM V Unit := fun st =>
  .ok () (st.setInjector (change st.injector))

def updateCore (change : Core V → Core V) : MainM V Unit := fun st =>
  .ok () (st.setCore (change st.core))

/-- The `?` operator on a result that does not depend on the state. -/
def ofExcept {α : Type} (result : Except (RunError V) α) : MainM V α := fun st =>
  match result with
  | .error error => .error error st
  | .ok value => .ok value st

/-- `net::send_envelope`; delivery failures are printed and ignored. -/
def sendEnvelope (env : WireEnvelope V) : MainM V Unit := fun st =>
  .ok () (st.addSent [env])

/-- `ReplayCursor::next`. -/
def nextEvent : MainM V (Option (TraceEvent V)) := fun st =>
  match st.replay.buffered with
  | some ev => .ok (some ev) { st with replay := { st.replay with buffered := none } }
  | none =>
      match st.replay.reader with
      | [] => .ok none st
      | ev :: rest => .ok (some ev) { st with replay := { st.replay with reader := rest } }

/-- `ReplayCursor::unread`; the debug assertion on the buffer panics. -/
def unread (ev : TraceEvent V) : MainM V Unit := fun st =>
  if st.replay.buffered.isSome then .error .bufferOccupied st
  else .ok () { st with replay := { st.replay with buffered := some ev } }

end Primitives

/-! ## Laws of the updates -/

namespace MainState

variable {V : Type} (st : MainState V)

theorem stamp_append (first : Nat) (left right : List (EventKind V)) :
    stamp first (left ++ right) = stamp first left ++ stamp (first + left.length) right := by
  induction left generalizing first with
  | nil => rfl
  | cons kind rest ih =>
      simp only [List.cons_append, stamp, ih, List.length_cons]
      rw [show first + 1 + rest.length = first + (rest.length + 1) by omega]

@[simp] theorem logged_nil : st.logged [] = st := by
  obtain ⟨core, seq, writer, replay, injector, sent⟩ := st
  cases writer <;> simp [logged, stamp]

theorem logged_logged (first second : List (EventKind V)) :
    (st.logged first).logged second = st.logged (first ++ second) := by
  simp only [logged, List.length_append, Nat.add_assoc, Option.map_map, stamp_append]
  congr 1
  cases st.writer <;> simp

@[simp] theorem logged_core (kinds : List (EventKind V)) : (st.logged kinds).core = st.core := rfl

@[simp] theorem logged_injector (kinds : List (EventKind V)) :
    (st.logged kinds).injector = st.injector := rfl

@[simp] theorem logged_sent (kinds : List (EventKind V)) : (st.logged kinds).sent = st.sent := rfl

@[simp] theorem setCore_core (core : Core V) : (st.setCore core).core = core := rfl

@[simp] theorem setCore_injector (core : Core V) : (st.setCore core).injector = st.injector := rfl

@[simp] theorem setCore_sent (core : Core V) : (st.setCore core).sent = st.sent := rfl

@[simp] theorem setCore_self : st.setCore st.core = st := rfl

@[simp] theorem setCore_setCore (first second : Core V) :
    (st.setCore first).setCore second = st.setCore second := rfl

@[simp] theorem setInjector_core (injector : FaultInjector V) :
    (st.setInjector injector).core = st.core := rfl

@[simp] theorem setInjector_injector (injector : FaultInjector V) :
    (st.setInjector injector).injector = injector := rfl

@[simp] theorem setInjector_sent (injector : FaultInjector V) :
    (st.setInjector injector).sent = st.sent := rfl

@[simp] theorem setInjector_self : st.setInjector st.injector = st := rfl

@[simp] theorem setInjector_setInjector (first second : FaultInjector V) :
    (st.setInjector first).setInjector second = st.setInjector second := rfl

/-- Recording goes past the other updates, so they can be collected in one order. -/
@[simp] theorem setCore_logged (core : Core V) (kinds : List (EventKind V)) :
    (st.setCore core).logged kinds = (st.logged kinds).setCore core := rfl

@[simp] theorem setInjector_logged (injector : FaultInjector V) (kinds : List (EventKind V)) :
    (st.setInjector injector).logged kinds = (st.logged kinds).setInjector injector := rfl

@[simp] theorem addSent_core (envs : List (WireEnvelope V)) : (st.addSent envs).core = st.core :=
  rfl

@[simp] theorem addSent_injector (envs : List (WireEnvelope V)) :
    (st.addSent envs).injector = st.injector := rfl

@[simp] theorem addSent_sent (envs : List (WireEnvelope V)) :
    (st.addSent envs).sent = st.sent ++ envs := rfl

@[simp] theorem addSent_nil : st.addSent [] = st := by
  simp [addSent]

@[simp] theorem addSent_addSent (first second : List (WireEnvelope V)) :
    (st.addSent first).addSent second = st.addSent (first ++ second) := by
  simp [addSent]

@[simp] theorem addSent_logged (envs : List (WireEnvelope V)) (kinds : List (EventKind V)) :
    (st.addSent envs).logged kinds = (st.logged kinds).addSent envs := rfl

@[simp] theorem addSent_setCore (envs : List (WireEnvelope V)) (core : Core V) :
    (st.addSent envs).setCore core = (st.setCore core).addSent envs := rfl

@[simp] theorem setInjector_addSent (injector : FaultInjector V)
    (envs : List (WireEnvelope V)) :
    (st.setInjector injector).addSent envs = (st.addSent envs).setInjector injector := rfl

@[simp] theorem setInjector_setCore (injector : FaultInjector V) (core : Core V) :
    (st.setInjector injector).setCore core = (st.setCore core).setInjector injector := rfl

end MainState

end UcoStack.Runtime
