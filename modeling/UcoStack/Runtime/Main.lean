import UcoStack.Runtime.Network
import UcoStack.Runtime.Replay

/-!
# The two drivers

`record` and `replay` are the two modes of `main`.  Both start the actor system,
enqueue the bootstrap messages and deliver one message in a step; a recorded
step drains the network, fires due timers and lets the scheduler choose, a
replayed step follows the trace.
-/

namespace UcoStack.Runtime

/-! ## The scheduler -/

/-- The comparison of `delivery_key` tuples. -/
def deliveryKeyLe (left right : PendingDelivery) : Prop :=
  left.node < right.node ∨ left.node = right.node ∧
    (left.receiver < right.receiver ∨ left.receiver = right.receiver ∧ left.msgId ≤ right.msgId)

instance (left right : PendingDelivery) : Decidable (deliveryKeyLe left right) := by
  unfold deliveryKeyLe
  infer_instance

def chooseNextDeterministic (pending : List PendingDelivery) : Option PendingDelivery :=
  (pending.insertionSort deliveryKeyLe).head?

/-- One candidate for every actor whose inbox is not empty. -/
def pendingDeliveries {V : Type} (nodeId : NodeId) (core : Core V) : List PendingDelivery :=
  core.actors.entries.filterMap fun entry =>
    entry.2.inbox.head?.map fun message => ⟨nodeId, entry.1, message.1⟩

/-! ## Timers -/

section Timers

variable {V : Type} (site : Site)

def PendingTimer.firedEvent (timer : PendingTimer V) : EventKind V :=
  .timerFired site.nodeId timer.fromActor timer.timerId

def fireTimer (timer : PendingTimer V) : MainM V Unit := do
  recordEvent (timer.firedEvent site)
  let event ← dispatchOutgoing site .record timer.fromActor timer.target timer.payload timer.cause
  recordEvent event

def timerDue (step : Nat) (timer : PendingTimer V) : Bool := timer.dueStep ≤ step

/-- The due timers in firing order. -/
def dueTimers (step : Nat) (timers : List (PendingTimer V)) : List (PendingTimer V) :=
  (timers.filter (timerDue step)).insertionSort fun left right => left.timerId ≤ right.timerId

def fireDueTimers (step : Nat) : MainM V Unit := do
  let st ← get
  updateCore fun core =>
    core.setTimers (core.pendingTimers.filter fun timer => !timerDue step timer)
  (dueTimers step st.core.pendingTimers).forM (fireTimer site)

end Timers

/-! ## Delivering a message -/

section Delivering

variable {V : Type} (host : Host V) (site : Site) (mode : Mode)

/-- `if let Mode::Record = cfg.mode { record_event(..) }`. -/
def recordIn (event : EventKind V) : MainM V Unit :=
  match mode with
  | .record => recordEvent event
  | .replay => pure ()

/-- Record mode writes an emitted event, replay mode appends it to the expected ones. -/
def emit (expected : List (EventKind V)) (event : EventKind V) : MainM V (List (EventKind V)) :=
  match mode with
  | .record => do
      recordEvent event
      pure expected
  | .replay => pure (expected ++ [event])

/-- One item of the outbox: a timer, or a message that leaves at once. -/
def sendOutgoing (step : Nat) (actorId : ActorId) (cause : MsgId × V)
    (expected : List (EventKind V)) (out : Outgoing V) : MainM V (List (EventKind V)) :=
  if out.delaySteps > 0 then do
    updateCore (scheduleTimer site step actorId cause out)
    pure expected
  else do
    let event ← dispatchOutgoing site mode actorId out.target out.payload cause
    emit mode expected event

/-- A message taken out of an inbox, with the actor it was taken from. -/
structure Popped (V : Type) where
  actorId : ActorId
  service : String
  msgId : MsgId
  payload : V

def popInbox (receiver : ActorId) : MainM V (Popped V) := do
  let st ← get
  match st.core.actors.lookup receiver with
  | none => throw (.unknownActor receiver)
  | some actor =>
      match actor.inbox with
      | [] => throw (.emptyInbox actor.id)
      | (msgId, payload) :: rest => do
          updateCore fun core => core.pop receiver actor (msgId, payload) rest
          pure ⟨actor.id, actor.service, msgId, payload⟩

/-- Run the handler of a popped message on the state map of its actor. -/
def runHandler (popped : Popped V) (incoming : RuntimeMessage) : MainM V (Executed V) := do
  let st ← get
  match st.core.actors.lookup popped.actorId with
  | none => throw (.unknownActor popped.actorId)
  | some actor =>
      match executeActions host popped.service popped.msgId incoming site.peers site.program
          actor.state (.new site.nodeId) with
      | .error error => throw (.action popped.service error)
      | .ok executed => do
          updateCore fun core =>
            core.setActor popped.actorId { actor with state := executed.state }
          pure executed

/-- `effect_vec`: the recorded effect kinds in `BTreeSet` order. -/
def effectKind : Lang.HandlerEffect → EffectKind
  | .log => .log
  | .stateRead => .stateRead
  | .stateWrite => .stateWrite
  | .sendLocal => .sendLocal
  | .sendRemote => .sendRemote
  | .timerLocal => .timerLocal
  | .timerRemote => .timerRemote

def effectVec (effects : Finset Lang.HandlerEffect) : List EffectKind :=
  (sortedEffects effects).map effectKind

def observedEvent (popped : Popped V) (incoming : RuntimeMessage) (effects : ExecutedEffects) :
    EventKind V :=
  .effectObserved site.nodeId popped.actorId popped.service incoming.msgType popped.msgId
    (effectVec effects.declared) (effectVec effects.observed)

def logEvent (popped : Popped V) (log : LogEmission) : EventKind V :=
  .log site.nodeId popped.actorId log.service log.text

/-- Everything a delivered message emits: effects, logs and outgoing messages. -/
def emitExecuted (step : Nat) (popped : Popped V) (incoming : RuntimeMessage)
    (executed : Executed V) : MainM V (List (EventKind V)) := do
  let expected ← emit mode [] (observedEvent site popped incoming executed.effects)
  let expected ← executed.ctx.logs.foldlM
    (fun expected log => emit mode expected (logEvent site popped log)) expected
  executed.ctx.outbox.foldlM
    (sendOutgoing site mode step popped.actorId (popped.msgId, popped.payload)) expected

/-- Take the chosen message, run its handler and emit; the result is what replay
mode expects in the trace. -/
def processMessage (step : Nat) (chosen : PendingDelivery) : MainM V (List (EventKind V)) := do
  let popped ← popInbox chosen.receiver
  if mode = .replay ∧ popped.msgId ≠ chosen.msgId then
    throw (.replayMsgIdMismatch chosen.receiver chosen.msgId popped.msgId)
  else
    match decodeMsg host popped.payload with
    | none => throw (.undecodable popped.service)
    | some incoming => do
        let executed ← runHandler host site popped incoming
        emitExecuted site mode step popped incoming executed

def PendingDelivery.event (chosen : PendingDelivery) : EventKind V :=
  .deliver chosen.node chosen.receiver chosen.msgId

variable [DecidableEq V]

/-- The part of a step after the scheduler's choice. -/
def deliver (step : Nat) (chosen : PendingDelivery) : MainM V Unit :=
  match mode with
  | .record => do
      recordEvent chosen.event
      let _ ← processMessage host site .record step chosen
  | .replay => do
      let expected ← processMessage host site .replay step chosen
      verifyReplayEmits expected

end Delivering

/-! ## Startup -/

section Startup

variable {V : Type} (host : Host V) (site : Site) (mode : Mode)

def spawnEvent (service : String) : Except (RunError V) (EventKind V) :=
  match site.serviceToActor.lookup service with
  | none => .error (.missingActorMapping service)
  | some actor => .ok (.spawn site.nodeId actor service)

def spawnEvents : Except (RunError V) (List (EventKind V)) := do
  let spawned ← site.program.services.mapM (spawnEvent site)
  pure (.spawn site.nodeId (systemActorId host) "System" :: spawned)

def bootstrapMessage (index : Nat) (msgId : MsgId) : RuntimeMessage :=
  { msgType := "start"
    fromNode := host.uuidToString site.nodeId
    fromService := "System"
    text := s!"bootstrap #{index + 1}"
    provenance := some
      { originNode := host.uuidToString site.nodeId
        originService := "System"
        originMsgId := host.uuidToString msgId
        parentNode := host.uuidToString site.nodeId
        parentMsgId := host.uuidToString msgId
        hops := 0 } }

/-- One round of the loop of `enqueue_bootstrap`. -/
def bootstrapOne (entryActor : ActorId) (emitted : List (EventKind V)) (index : Nat) :
    MainM V (List (EventKind V)) := do
  let st ← get
  let next := st.core.allocate site.nodeId
  let payload := encodeMsg host (bootstrapMessage host site index next.1)
  match next.2.actors.lookup entryActor with
  | none => throw .entryActorMissing
  | some actor => do
      updateCore fun _ =>
        (next.2.enqueue entryActor actor next.1 payload).produce next.1 payload none none
      let event := EventKind.send (systemActorId host) entryActor next.1 payload
      recordIn mode event
      pure (emitted ++ [event])

def bootstrapCount (cfg : Config) : Nat := if cfg.bootstrapHello then cfg.bootstrapBurst else 1

def enqueueBootstrap (cfg : Config) (entryService : String) : MainM V (List (EventKind V)) :=
  match site.serviceToActor.lookup entryService with
  | none => throw (.entryServiceNotFound entryService)
  | some entryActor =>
      (List.range (bootstrapCount cfg)).foldlM (bootstrapOne host site mode entryActor) []

variable [DecidableEq V]

def startup (cfg : Config) (entryService : String) : MainM V Unit := do
  let spawned ← ofExcept (spawnEvents host site)
  spawned.forM (recordIn mode)
  let bootstraps ← enqueueBootstrap host site mode cfg entryService
  match mode with
  | .record => pure ()
  | .replay => verifyReplayEmits (spawned ++ bootstraps)

end Startup

/-! ## The loops -/

section Running

variable {V : Type} (host : Host V) [DecidableEq V]

/-- One iteration of the main loop in record mode. -/
def recordStep (site : Site) (step : Nat) (batch : List (WireEnvelope V)) : MainM V Unit := do
  drainNetwork site.nodeId step batch
  fireDueTimers site step
  let st ← get
  match chooseNextDeterministic (pendingDeliveries site.nodeId st.core) with
  | none => pure ()
  | some chosen => deliver host site .record step chosen

/-- The iterations from `step` on; `inbound` gives what arrives in each. -/
def recordLoop (site : Site) (inbound : Nat → List (WireEnvelope V)) : (step count : Nat) →
    MainM V Unit
  | _, 0 => pure ()
  | step, count + 1 => do
      recordStep host site step (inbound step)
      recordLoop site inbound (step + 1) count

/-- One iteration in replay mode; `true` when the trace is exhausted. -/
def replayStep (site : Site) (step : Nat) : MainM V Bool := do
  drainReplayInbound site
  match ← nextReplayDelivery site with
  | none => do
      let st ← get
      if st.core.pendingInboxMessages > 0 then
        throw (.replayUndelivered st.core.pendingInboxMessages)
      pure true
  | some chosen => do
      deliver host site .replay step chosen
      pure false

def replayLoop (site : Site) : (step count : Nat) → MainM V Bool
  | _, 0 => pure false
  | step, count + 1 => do
      if ← replayStep host site step then pure true
      else replayLoop site (step + 1) count

/-- The checks after the loop when the trace was not exhausted in it. -/
def replayEnd (steps : Nat) : MainM V Unit := do
  match ← nextEvent with
  | some next => throw (.replayStoppedEarly steps next.kind)
  | none => do
      let st ← get
      if st.core.pendingInboxMessages > 0 then
        throw (.replayUndelivered st.core.pendingInboxMessages)

/-- What `main` prepares before it opens the trace. -/
structure Launch (V : Type) where
  site : Site
  entryService : String
  actors : ActorSystem V

/-- The service the bootstrap messages go to. -/
def chooseEntryService (program : Program) (serviceToActor : ServiceActors) :
    Except (RunError V) String :=
  if (serviceToActor.lookup "Gateway").isSome then .ok "Gateway"
  else
    match program.services.head? with
    | some service => .ok service
    | none => .error .noServices

def launch (program : Program) (cfg : Config) : Except (RunError V) (Launch V) := do
  let system ← buildActorSystem host program
  let entryService ← chooseEntryService program system.2
  pure
    { site := ⟨program, system.2, cfg.nodeId, cfg.peers⟩
      entryService := entryService
      actors := system.1 }

def Core.initial (actors : ActorSystem V) : Core V :=
  { actors := actors
    msgCounter := 1
    timerCounter := 1
    pendingTimers := []
    history := []
    delivered := []
    timersCreated := 0 }

def MainState.initial (mode : Mode) (cfg : Config) (actors : ActorSystem V)
    (trace : List (TraceEvent V)) : MainState V :=
  { core := .initial actors
    seq := 0
    writer := match mode with
      | .record => some []
      | .replay => none
    replay := ⟨trace, none⟩
    injector := .new cfg.fault
    sent := [] }

/-- `main` in record mode, from the state in which the loop's variables are set up. -/
def recordMain (launched : Launch V) (cfg : Config) (inbound : Nat → List (WireEnvelope V)) :
    MainM V Unit := do
  startup host launched.site .record cfg launched.entryService
  recordLoop host launched.site inbound 0 cfg.steps

def replayMain (launched : Launch V) (cfg : Config) : MainM V Unit := do
  startup host launched.site .replay cfg launched.entryService
  if ← replayLoop host launched.site 0 cfg.steps then pure ()
  else replayEnd cfg.steps

/-- A whole run in record mode. -/
def record (program : Program) (cfg : Config) (inbound : Nat → List (WireEnvelope V)) :
    EStateM.Result (RunError V) (MainState V) Unit :=
  match launch host program cfg with
  | .error error => .error error (.initial .record cfg ∅ [])
  | .ok launched =>
      recordMain host launched cfg inbound (.initial .record cfg launched.actors [])

/-- A whole run in replay mode on a trace. -/
def replay (program : Program) (cfg : Config) (trace : List (TraceEvent V)) :
    EStateM.Result (RunError V) (MainState V) Unit :=
  match launch host program cfg with
  | .error error => .error error (.initial .replay cfg ∅ trace)
  | .ok launched =>
      replayMain host launched cfg (.initial .replay cfg launched.actors trace)

end Running

end UcoStack.Runtime
