import UcoStack.Runtime.Recording
import UcoStack.Runtime.Safety

/-!
# The trace of a recording

A recording that ended without error wrote its events in order, and the same
events label a run of elementary operations from the initial core to the final
one.
-/

namespace UcoStack.Runtime

open StateRun

section Operations

variable {V : Type} {host : Host V} {site : Site} {Wire : WireEnvelope V → Prop}
  {entryActor : ActorId} {core final : Core V} {kinds : List (EventKind V)}

theorem NodeStep.ops (accepted : Accepted host site.program)
    (hosts : core.Hosts host site.program) (step : NodeStep host site Wire core kinds final) :
    Run (CoreOp host site Wire entryActor) core kinds final := by
  cases step with
  | quiet step => exact step.ops
  | deliver step receiver handled handles =>
      exact handleDelivery_ops accepted hosts.to_hosted handles

theorem nodeRun_ops (accepted : Accepted host site.program)
    (hosts : core.Hosts host site.program)
    (run : Run (NodeStep host site Wire) core kinds final) :
    Run (CoreOp host site Wire entryActor) core kinds final := by
  have keeps (past : List (EventKind V)) (middle : Core V) (labels : List (EventKind V))
      (next : Core V) (before : Run (CoreOp host site Wire entryActor) core past middle)
      (step : NodeStep host site Wire middle labels next) :
      Run (CoreOp host site Wire entryActor) core (past ++ labels) next :=
    before.trans (step.ops accepted (CoreRun.hosts before hosts))
  exact Run.history keeps (.refl core) run

theorem bootRun_ops (run : Run (BootStep host site entryActor) core kinds final) :
    Run (CoreOp host site Wire entryActor) core kinds final := by
  have keeps (past : List (EventKind V)) (middle : Core V) (labels : List (EventKind V))
      (next : Core V) (before : Run (CoreOp host site Wire entryActor) core past middle)
      (step : BootStep host site entryActor middle labels next) :
      Run (CoreOp host site Wire entryActor) core (past ++ labels) next :=
    before.trans step.ops
  exact Run.history keeps (.refl core) run

theorem spawnList_isNote (host : Host V) (nodeId : NodeId) (services : List String) :
    ∀ kind ∈ spawnList host nodeId services, kind.IsNote := by
  intro kind member
  rcases List.mem_cons.mp member with rfl | spawned
  · trivial
  · obtain ⟨service, _, rfl⟩ := List.mem_map.mp spawned
    trivial

end Operations

section Recordings

variable {V : Type} {host : Host V} {program : Program} {cfg : Config}
  {inbound : Nat → List (WireEnvelope V)} {Wire : WireEnvelope V → Prop} {st : MainState V}

/-- Every event of a recording, in order. -/
def Recording.events (recording : Recording host program cfg inbound Wire st) :
    List (EventKind V) :=
  (spawnList host cfg.nodeId program.services ++ recording.boots) ++ recording.kinds

theorem stamp_kind (first : Nat) (kinds : List (EventKind V)) :
    (stamp first kinds).map TraceEvent.kind = kinds := by
  induction kinds generalizing first with
  | nil => rfl
  | cons kind rest ih => exact congrArg (kind :: ·) (ih (first + 1))

theorem Recording.writer (recording : Recording host program cfg inbound Wire st) :
    st.writer = some (stamp 0 recording.events) := by
  have written := congrArg MainState.writer recording.loop.state
  refine written.trans (congrArg some ?_)
  exact (MainState.stamp_append 0 (spawnList host cfg.nodeId program.services ++ recording.boots)
    recording.kinds).symm

theorem Recording.hosts (recording : Recording host program cfg inbound Wire st) :
    (Core.initial recording.launched.actors).Hosts host recording.launched.site.program := by
  have ready := launch_launched recording.launches
  rw [ready.program_eq]
  exact .initial ready.built

theorem Recording.ops (accepted : Accepted host program)
    (recording : Recording host program cfg inbound Wire st) :
    Run (CoreOp host recording.launched.site Wire recording.entryActor)
      (.initial recording.launched.actors) (recording.events) st.core := by
  have ready := launch_launched recording.launches
  have sameProgram : Accepted host recording.launched.site.program := by
    rw [ready.program_eq]
    exact accepted
  have spawns : Run (CoreOp host recording.launched.site Wire recording.entryActor)
      (.initial recording.launched.actors) (spawnList host cfg.nodeId program.services)
      (.initial recording.launched.actors) :=
    notes_ops _ (spawnList_isNote host cfg.nodeId program.services)
  have boots : Run (CoreOp host recording.launched.site Wire recording.entryActor)
      (.initial recording.launched.actors) recording.boots recording.booted :=
    bootRun_ops (bootAll_run host recording.launched.site recording.boot)
  have hosts := CoreRun.hosts boots (recording.hosts)
  exact (spawns.trans boots).trans (nodeRun_ops sameProgram hosts recording.loop.run)

end Recordings

/-! ## A sample run -/

/-- A node without peers. -/
def sampleConfig (steps : Nat) : Config :=
  { nodeId := 7
    peers := ∅
    bootstrapHello := false
    bootstrapBurst := 1
    steps := steps
    fault := .default }

/-- A message of node 9 that arrives in the first step. -/
def sampleEnvelope : WireEnvelope JsonDoc :=
  { fromNode := 9
    toNode := 7
    toActor := actorIdForService jsonHost "Gateway"
    msgId := 10
    payload := JsonDoc.ofMessage { sampleStart with fromNode := UuidText.print 9 } }

def sampleInbound (step : Nat) : List (WireEnvelope JsonDoc) :=
  if step = 0 then [sampleEnvelope] else []

/-- Two steps leave messages in the inbox, eight do not. -/
theorem sampleRecord_succeeds :
    ∃ a st, record jsonHost sampleProgram (sampleConfig 2) sampleInbound = .ok a st :=
  exists_ok (by decide +kernel)

def sampleRecorded : List (TraceEvent JsonDoc) :=
  (finalState (record jsonHost sampleProgram (sampleConfig 8) sampleInbound)).writer.getD []

end UcoStack.Runtime
