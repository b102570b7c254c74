import UcoStack.Runtime.State

/-!
# Following a trace

The replay half of a step.  Replay takes its inbound messages, timer firings and
deliveries from the trace and compares every event it emits itself with the
trace.  The loops end when the trace does, so the number of unread events bounds
them.
-/

namespace UcoStack.Runtime

/-- What the scheduler hands to the step: one message to deliver. -/
structure PendingDelivery where
  node : NodeId
  receiver : ActorId
  msgId : MsgId
  deriving DecidableEq, Repr

/-- The events a cursor has not handed out yet. -/
def ReplayCursor.remaining {V : Type} (cursor : ReplayCursor V) : List (TraceEvent V) :=
  cursor.buffered.toList ++ cursor.reader

section Dispatching

variable {V : Type} (site : Site)

/-- `dispatch_outgoing`.  In record mode the envelope of a remote message goes to
the network when the peer has an address. -/
def dispatchOutgoing (mode : Mode) (fromActor : ActorId) (target : Target) (payload : V)
    (cause : MsgId × V) : MainM V (EventKind V) := do
  let st ← get
  let dispatched ← ofExcept (routeOutgoing site fromActor target payload cause st.core)
  updateCore fun _ => dispatched.core
  match mode, dispatched.envelope with
  | .record, some env =>
      if (site.peers.lookup env.toNode).isSome then sendEnvelope env else pure ()
  | _, _ => pure ()
  pure dispatched.event

end Dispatching

section Following

variable {V : Type} (site : Site)

def injectReplayNetrecv (node : NodeId) (receiver : ActorId) (msgId : MsgId) (payload : V) :
    MainM V Unit :=
  if node = site.nodeId then updateCore fun core => core.receive receiver msgId payload
  else pure ()

/-- The loop of `drain_replay_inbound`. -/
def drainReplayLoop : (fuel : Nat) → MainM V Unit
  | 0 => throw .loopBound
  | fuel + 1 => do
      match ← nextEvent with
      | none => pure ()
      | some ev =>
          match ev.kind with
          | .netRecv node _ receiver msgId payload => do
              injectReplayNetrecv site node receiver msgId payload
              drainReplayLoop fuel
          | .faultInjected .. | .faultPolicy .. => drainReplayLoop fuel
          | _ => unread ev

def drainReplayInbound : MainM V Unit := do
  let st ← get
  drainReplayLoop site (st.replay.remaining.length + 1)

variable [DecidableEq V]

/-- `Vec::swap_remove`: the last element takes the freed place. -/
def swapRemove {α : Type} (xs : List α) (index : Nat) : List α :=
  match xs.getLast? with
  | none => xs
  | some last => (xs.set index last).dropLast

def replayFireTimer (node : NodeId) (fromActor : ActorId) (timerId : Uuid) : MainM V Unit :=
  if node ≠ site.nodeId then pure ()
  else do
    let st ← get
    let wanted (timer : PendingTimer V) : Bool :=
      timer.timerId = timerId && timer.fromActor = fromActor
    match st.core.pendingTimers.find? wanted with
    | none => throw (.replayUnknownTimer timerId)
    | some timer => do
        let index := st.core.pendingTimers.findIdx wanted
        updateCore fun core => core.setTimers (swapRemove core.pendingTimers index)
        let expected ← dispatchOutgoing site .replay timer.fromActor timer.target timer.payload
          timer.cause
        match ← nextEvent with
        | none => throw (.replayEndedAfterTimer timerId expected)
        | some actual =>
            if actual.kind ≠ expected then
              throw (.replayTimerMismatch timerId expected actual.kind)
            else pure ()

/-- The loop of `next_replay_delivery`. -/
def nextReplayLoop : (fuel : Nat) → MainM V (Option PendingDelivery)
  | 0 => throw .loopBound
  | fuel + 1 => do
      match ← nextEvent with
      | none => pure none
      | some ev =>
          match ev.kind with
          | .netRecv node _ receiver msgId payload => do
              injectReplayNetrecv site node receiver msgId payload
              nextReplayLoop fuel
          | .deliver node receiver msgId =>
              if node = site.nodeId then pure (some ⟨node, receiver, msgId⟩)
              else nextReplayLoop fuel
          | .faultInjected .. | .faultPolicy .. => nextReplayLoop fuel
          | .timerFired node fromActor timerId => do
              replayFireTimer site node fromActor timerId
              nextReplayLoop fuel
          | .send .. | .netSend .. | .spawn .. | .log .. | .effectObserved .. =>
              throw (.replayUnexpectedEmit ev.kind)

def nextReplayDelivery : MainM V (Option PendingDelivery) := do
  let st ← get
  nextReplayLoop site (st.replay.remaining.length + 1)

/-- The first loop of `verify_replay_emits`, from the given index on. -/
def compareReplayEmits : Nat → List (EventKind V) → MainM V Unit
  | _, [] => pure ()
  | index, expected :: rest => do
      match ← nextEvent with
      | none => throw (.replayEndedExpecting index expected)
      | some actual =>
          if actual.kind ≠ expected then
            throw (.replayEmitMismatch index expected actual.kind)
          else compareReplayEmits (index + 1) rest

def verifyReplayEmits (expected : List (EventKind V)) : MainM V Unit := do
  compareReplayEmits 0 expected
  match ← nextEvent with
  | none => pure ()
  | some ev =>
      match ev.kind with
      | .send .. | .netSend .. | .log .. | .effectObserved .. =>
          throw (.replayExtraEmit ev.kind)
      | _ => unread ev

end Following

end UcoStack.Runtime
