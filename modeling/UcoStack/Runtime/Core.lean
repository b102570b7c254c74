import UcoStack.Runtime.Execute

/-!
# The core of a node

`Core` is the part of a node that record and replay mode share: the actor
system, the two identifier counters and the pending timers.  The functions here
are the pieces of `main`, `dispatch_outgoing` and `build_actor_system` that
work on it alone, so both modes call them unchanged.

Four components are history variables: `Core.history`, `Core.delivered`,
`Core.timersCreated` and `PendingTimer.cause`.  They are written and never read;
statements about runs refer to them.
-/

namespace UcoStack.Runtime

/-- The failures of `main` and of the functions it calls. -/
inductive RunError (V : Type) where
  | noServices
  | missingStateMap (service : String)
  | missingActorMapping (service : String)
  | entryServiceNotFound (service : String)
  | entryActorMissing
  | unknownLocalTarget (service : String)
  | unknownRemoteTarget (service : String)
  | actorMissing
  | unknownActor (actor : ActorId)
  | emptyInbox (actor : ActorId)
  | undecodable (service : String)
  | action (service : String) (error : ActionError)
  | counterOverflow
  | noTraceWriter
  | bufferOccupied
  | loopBound
  | replayMsgIdMismatch (actor : ActorId) (traced popped : MsgId)
  | replayUnexpectedEmit (event : EventKind V)
  | replayUnknownTimer (timer : Uuid)
  | replayEndedAfterTimer (timer : Uuid) (expected : EventKind V)
  | replayTimerMismatch (timer : Uuid) (expected actual : EventKind V)
  | replayEndedExpecting (index : Nat) (expected : EventKind V)
  | replayEmitMismatch (index : Nat) (expected actual : EventKind V)
  | replayExtraEmit (event : EventKind V)
  | replayUndelivered (pending : Nat)
  | replayStoppedEarly (steps : Nat) (next : EventKind V)
  deriving DecidableEq, Repr

/-- The text of a failure.  Every text of the replay checks starts with the node
id in brackets; `debug` is the derived `Debug` form of an event. -/
def RunError.message {V : Type} (uuidToString : Uuid → String) (debug : EventKind V → String)
    (nodeId : NodeId) : RunError V → String
  | .noServices => "program has no services"
  | .missingStateMap _ => "validated program should include state map for every service"
  | .missingActorMapping service => s!"missing actor mapping for service `{service}`"
  | .entryServiceNotFound service => s!"entry service `{service}` not found"
  | .entryActorMissing => "entry actor id missing from actor system"
  | .unknownLocalTarget service => s!"unknown local target service `{service}`"
  | .unknownRemoteTarget service => s!"unknown remote target service `{service}`"
  | .actorMissing => "actor missing for known service mapping"
  | .unknownActor actor => s!"unknown actor id {uuidToString actor}"
  | .emptyInbox actor => s!"empty inbox for actor {uuidToString actor}"
  | .undecodable service => s!"decode inbound message for service `{service}`"
  | .action service error => s!"execute service `{service}`: {error.message}"
  | .counterOverflow => "attempt to add with overflow"
  | .noTraceWriter => "internal error: record mode without trace writer"
  | .bufferOccupied => "replay cursor buffer already occupied"
  | .loopBound => "unreachable: a loop passed its bound"
  | .replayMsgIdMismatch actor traced popped =>
      s!"[{uuidToString nodeId}] replay msg_id mismatch for actor {uuidToString actor} " ++
        s!"(trace={uuidToString traced}, runtime={uuidToString popped})"
  | .replayUnexpectedEmit event =>
      s!"[{uuidToString nodeId}] replay encountered unexpected emitted event while " ++
        s!"awaiting delivery: {debug event}"
  | .replayUnknownTimer timer =>
      s!"[{uuidToString nodeId}] replay TimerFired referenced unknown pending timer " ++
        uuidToString timer
  | .replayEndedAfterTimer timer expected =>
      s!"[{uuidToString nodeId}] replay trace ended after TimerFired {uuidToString timer} " ++
        s!"while expecting emitted event {debug expected}"
  | .replayTimerMismatch timer expected actual =>
      s!"[{uuidToString nodeId}] replay timer emission mismatch for timer " ++
        s!"{uuidToString timer}: expected {debug expected}, got {debug actual}"
  | .replayEndedExpecting index expected =>
      s!"[{uuidToString nodeId}] replay trace ended while expecting emitted event " ++
        s!"{index}: {debug expected}"
  | .replayEmitMismatch index expected actual =>
      s!"[{uuidToString nodeId}] replay emitted event mismatch at index {index}: " ++
        s!"expected {debug expected}, got {debug actual}"
  | .replayExtraEmit event =>
      s!"[{uuidToString nodeId}] replay observed unexpected additional emitted event: " ++
        debug event
  | .replayUndelivered pending =>
      s!"[{uuidToString nodeId}] replay trace exhausted with {pending} undelivered " ++
        "inbox message(s)"
  | .replayStoppedEarly steps next =>
      s!"[{uuidToString nodeId}] replay stopped early after {steps} steps " ++
        s!"(next trace event: {debug next})"

structure Actor (V : Type) where
  id : ActorId
  service : String
  state : StateMap
  inbox : List (MsgId × V)

abbrev ActorSystem (V : Type) := HashMap ActorId (Actor V)

abbrev ServiceActors := HashMap String ActorId

structure PendingTimer (V : Type) where
  dueStep : Nat
  timerId : Uuid
  fromActor : ActorId
  target : Target
  payload : V
  /-- History variable: the message whose handler created the timer. -/
  cause : MsgId × V

/-- History record of one allocated message. -/
structure Produced (V : Type) where
  msgId : MsgId
  payload : V
  /-- The delivered message whose handler created this one; `none` at startup. -/
  cause : Option (MsgId × V)
  /-- The envelope of a remote message. -/
  envelope : Option (WireEnvelope V)

structure Core (V : Type) where
  actors : ActorSystem V
  msgCounter : Nat
  timerCounter : Nat
  pendingTimers : List (PendingTimer V)
  history : List (Produced V)
  delivered : List (MsgId × V)
  timersCreated : Nat

/-- What a node is given once and for all. -/
structure Site where
  program : Program
  serviceToActor : ServiceActors
  nodeId : NodeId
  peers : PeerMap

/-! ## Identifiers -/

/-- The identifier and the advanced counter. -/
def nextDeterministicMsgId (nodeId : Uuid) (counter : Nat) : Uuid × Nat :=
  (nodeId + BitVec.ofNat 128 counter, saturatingAdd counter 1)

def nextDeterministicTimerId (nodeId : Uuid) (counter : Nat) : Uuid × Nat :=
  (nodeId + BitVec.ofNat 128 (2 ^ 96) + BitVec.ofNat 128 counter, saturatingAdd counter 1)

namespace Core

variable {V : Type}

def setActor (core : Core V) (id : ActorId) (actor : Actor V) : Core V :=
  { core with actors := core.actors.insert id actor }

/-- Append one message to the inbox of `actor`, stored under `id`. -/
def enqueue (core : Core V) (id : ActorId) (actor : Actor V) (msgId : MsgId) (payload : V) :
    Core V :=
  core.setActor id { actor with inbox := actor.inbox ++ [(msgId, payload)] }

/-- A message from the network; an unknown actor loses it. -/
def receive (core : Core V) (id : ActorId) (msgId : MsgId) (payload : V) : Core V :=
  match core.actors.lookup id with
  | some actor => core.enqueue id actor msgId payload
  | none => core

/-- Take the next message identifier. -/
def allocate (core : Core V) (nodeId : NodeId) : MsgId × Core V :=
  let next := nextDeterministicMsgId nodeId core.msgCounter
  (next.1, { core with msgCounter := next.2 })

def produce (core : Core V) (msgId : MsgId) (payload : V) (cause : Option (MsgId × V))
    (envelope : Option (WireEnvelope V)) : Core V :=
  { core with history := core.history ++ [⟨msgId, payload, cause, envelope⟩] }

/-- Take the first message out of an inbox; `rest` are the others. -/
def pop (core : Core V) (id : ActorId) (actor : Actor V) (message : MsgId × V)
    (rest : List (MsgId × V)) : Core V :=
  { core.setActor id { actor with inbox := rest } with
    delivered := core.delivered ++ [message] }

def setTimers (core : Core V) (timers : List (PendingTimer V)) : Core V :=
  { core with pendingTimers := timers }

/-- `pending_inbox_messages`. -/
def pendingInboxMessages (core : Core V) : Nat :=
  HashMap.total (fun actor => actor.inbox.length) core.actors

end Core

/-! ## The actor system -/

section Startup

variable {V : Type} (host : Host V)

/-- The loop body of `build_actor_system`. -/
def addService (program : Program) (sys : ActorSystem V × ServiceActors) (service : String) :
    Except (RunError V) (ActorSystem V × ServiceActors) :=
  let actorId := actorIdForService host service
  match program.serviceInitialState.lookup service with
  | none => .error (.missingStateMap service)
  | some state =>
      .ok (sys.1.insert actorId ⟨actorId, service, state, []⟩, sys.2.insert service actorId)

def buildActorSystem (program : Program) :
    Except (RunError V) (ActorSystem V × ServiceActors) :=
  program.services.foldlM (addService host program) (∅, ∅)

end Startup

/-! ## Dispatching and scheduling -/

/-- A dispatched message: the event it leaves and, for a remote target, the
envelope for the network. -/
structure Dispatched (V : Type) where
  event : EventKind V
  envelope : Option (WireEnvelope V)
  core : Core V

section Dispatch

variable {V : Type} (site : Site)

/-- `dispatch_outgoing` up to the network call. -/
def routeOutgoing (fromActor : ActorId) (target : Target) (payload : V)
    (cause : MsgId × V) (core : Core V) : Except (RunError V) (Dispatched V) :=
  match target with
  | .localService service =>
      match site.serviceToActor.lookup service with
      | none => .error (.unknownLocalTarget service)
      | some toActorId =>
          let next := core.allocate site.nodeId
          match next.2.actors.lookup toActorId with
          | none => .error .actorMissing
          | some toActor =>
              .ok
                { event := .send fromActor toActorId next.1 payload
                  envelope := none
                  core := (next.2.enqueue toActorId toActor next.1 payload).produce next.1
                    payload (some cause) none }
  | .remoteService node service =>
      match site.serviceToActor.lookup service with
      | none => .error (.unknownRemoteTarget service)
      | some toActorId =>
          let next := core.allocate site.nodeId
          let envelope : WireEnvelope V := ⟨site.nodeId, node, toActorId, next.1, payload⟩
          .ok
            { event := .netSend site.nodeId node fromActor next.1 payload
              envelope := some envelope
              core := next.2.produce next.1 payload (some cause) (some envelope) }

/-- The two ways to dispatch a message: into an inbox of this node, or as an envelope. -/
theorem routeOutgoing_ok {fromActor : ActorId} {target : Target} {payload : V}
    {cause : MsgId × V} {core : Core V} {dispatched : Dispatched V} :
    routeOutgoing site fromActor target payload cause core = .ok dispatched ↔
      (∃ service toActorId toActor, target = .localService service ∧
        site.serviceToActor.lookup service = some toActorId ∧
        core.actors.lookup toActorId = some toActor ∧
        dispatched =
          { event := .send fromActor toActorId (core.allocate site.nodeId).1 payload
            envelope := none
            core := ((core.allocate site.nodeId).2.enqueue toActorId toActor
              (core.allocate site.nodeId).1 payload).produce (core.allocate site.nodeId).1
              payload (some cause) none }) ∨
      (∃ node service toActorId, target = .remoteService node service ∧
        site.serviceToActor.lookup service = some toActorId ∧
        dispatched =
          { event := .netSend site.nodeId node fromActor (core.allocate site.nodeId).1 payload
            envelope := some ⟨site.nodeId, node, toActorId, (core.allocate site.nodeId).1, payload⟩
            core := (core.allocate site.nodeId).2.produce (core.allocate site.nodeId).1 payload
              (some cause)
              (some ⟨site.nodeId, node, toActorId, (core.allocate site.nodeId).1, payload⟩) }) := by
  constructor
  · intro routed
    cases target with
    | localService service =>
        simp only [routeOutgoing] at routed
        split at routed
        · cases routed
        · rename_i toActorId mapped
          split at routed
          · cases routed
          · rename_i toActor found
            cases routed
            exact .inl ⟨service, toActorId, toActor, rfl, mapped, found, rfl⟩
    | remoteService node service =>
        simp only [routeOutgoing] at routed
        split at routed
        · cases routed
        · rename_i toActorId mapped
          cases routed
          exact .inr ⟨node, service, toActorId, rfl, mapped, rfl⟩
  · rintro (⟨service, toActorId, toActor, rfl, mapped, found, rfl⟩ |
      ⟨node, service, toActorId, rfl, mapped, rfl⟩)
    · have kept : (core.allocate site.nodeId).2.actors.lookup toActorId = some toActor := found
      simp only [routeOutgoing, mapped, kept]
    · simp only [routeOutgoing, mapped]

/-- Routing neither reads nor changes the pending timers. -/
theorem routeOutgoing_setTimers {fromActor : ActorId} {target : Target} {payload : V}
    {cause : MsgId × V} {core : Core V} {dispatched : Dispatched V}
    (timers : List (PendingTimer V))
    (routed : routeOutgoing site fromActor target payload cause core = .ok dispatched) :
    routeOutgoing site fromActor target payload cause (core.setTimers timers) =
        .ok { dispatched with core := dispatched.core.setTimers timers } ∧
      dispatched.core.pendingTimers = core.pendingTimers := by
  rcases (routeOutgoing_ok site).mp routed with
    ⟨service, toActorId, toActor, rfl, mapped, found, rfl⟩ |
    ⟨node, service, toActorId, rfl, mapped, rfl⟩
  · exact ⟨(routeOutgoing_ok site).mpr
      (.inl ⟨service, toActorId, toActor, rfl, mapped, found, rfl⟩), rfl⟩
  · exact ⟨(routeOutgoing_ok site).mpr (.inr ⟨node, service, toActorId, rfl, mapped, rfl⟩), rfl⟩

/-- The timer branch of the outbox loop of `main`. -/
def scheduleTimer (step : Nat) (actorId : ActorId) (cause : MsgId × V) (out : Outgoing V)
    (core : Core V) : Core V :=
  let next := nextDeterministicTimerId site.nodeId core.timerCounter
  { core with
    timerCounter := next.2
    timersCreated := core.timersCreated + 1
    pendingTimers := core.pendingTimers ++
      [{ dueStep := saturatingAdd step out.delaySteps
         timerId := next.1
         fromActor := actorId
         target := out.target
         payload := out.payload
         cause := cause }] }

end Dispatch

end UcoStack.Runtime
