import UcoStack.Runtime.State

/-!
# Draining the network

The fault injector and the inbound half of a recorded step.  `drainNetwork`
takes the envelopes that reach the node during one step; everything it loses,
holds back or hands on leaves an event.
-/

namespace UcoStack.Runtime

section Injector

variable {V : Type} (nodeId : NodeId)

/-- The evidence of one fault. -/
def faultEvent (env : WireEnvelope V) (action : FaultAction) : EventKind V :=
  .faultInjected nodeId env.fromNode env.toActor env.msgId action

def FaultInjector.policyEvent (injector : FaultInjector V) (step : Nat) : EventKind V :=
  .faultPolicy nodeId step injector.activePolicy.dropEvery injector.activePolicy.delaySteps
    injector.activePolicy.reorderWindow

def recordPolicyEvent (step : Nat) : MainM V Unit := do
  let st ← get
  recordEvent (st.injector.policyEvent nodeId step)

def appendPending (chunk : List (StagedInbound V)) : MainM V Unit :=
  updateInjector fun injector => { injector with pending := injector.pending ++ chunk }

def flushChunk (reorderWindow : Nat) : MainM V Unit := do
  let st ← get
  if st.injector.reorderBuf.isEmpty then pure ()
  else
    let take := min reorderWindow st.injector.reorderBuf.length
    let chunk := st.injector.reorderBuf.take take
    updateInjector fun injector =>
      { injector with reorderBuf := injector.reorderBuf.drop take }
    if chunk.length > 1 then
      chunk.forM fun staged => recordEvent (faultEvent nodeId staged.env (.reorder reorderWindow))
      appendPending chunk.reverse
    else appendPending chunk

def flushRemainderWithWindow (reorderWindow : Nat) : MainM V Unit := do
  let st ← get
  if reorderWindow ≤ 1 then pure ()
  else if st.injector.reorderBuf.isEmpty then pure ()
  else flushChunk nodeId reorderWindow

def flushRemainder : MainM V Unit := do
  let st ← get
  flushRemainderWithWindow nodeId st.injector.activePolicy.reorderWindow

def syncPolicy (step : Nat) : MainM V Unit := do
  let st ← get
  if !st.injector.policyInitialized then
    updateInjector fun injector =>
      { injector with activePolicy := injector.cfg.policyForStep step }
    recordPolicyEvent nodeId step
    updateInjector fun injector => { injector with policyInitialized := true }
  else
    let nextPolicy := st.injector.cfg.policyForStep step
    if nextPolicy = st.injector.activePolicy then pure ()
    else
      flushRemainderWithWindow nodeId st.injector.activePolicy.reorderWindow
      updateInjector fun injector => { injector with activePolicy := nextPolicy }
      recordPolicyEvent nodeId step

/-- `seen_inbound += 1`, which panics on overflow. -/
def countInbound : MainM V Unit := do
  let st ← get
  if st.injector.seenInbound = u64Max then throw .counterOverflow
  else updateInjector fun injector => { injector with seenInbound := injector.seenInbound + 1 }

/-- The `drop_every` rule of the active policy for the envelope just counted. -/
def FaultInjector.drops (injector : FaultInjector V) : Bool :=
  match injector.activePolicy.dropEvery with
  | some dropEvery => dropEvery > 0 && injector.seenInbound % dropEvery = 0
  | none => false

/-- The `while` loop of `ingest`.  Every round takes entries out of the buffer,
so its length bounds the number of rounds. -/
def flushWhileFull (reorderWindow : Nat) : (fuel : Nat) → MainM V Unit
  | 0 => throw .loopBound
  | fuel + 1 => do
      let st ← get
      if st.injector.reorderBuf.length ≥ reorderWindow then
        flushChunk nodeId reorderWindow
        flushWhileFull reorderWindow fuel
      else pure ()

/-- The end of `ingest`: an envelope that is not dropped is staged. -/
def stage (step : Nat) (env : WireEnvelope V) : MainM V Unit := do
  let st ← get
  let policy := st.injector.activePolicy
  let staged : StagedInbound V := ⟨env, saturatingAdd step policy.delaySteps⟩
  if policy.delaySteps > 0 then
    recordEvent (faultEvent nodeId staged.env (.delay policy.delaySteps))
  if policy.reorderWindow ≤ 1 then appendPending [staged]
  else
    updateInjector fun injector => { injector with reorderBuf := injector.reorderBuf ++ [staged] }
    flushWhileFull nodeId policy.reorderWindow (st.injector.reorderBuf.length + 2)

def ingest (step : Nat) (env : WireEnvelope V) : MainM V Unit := do
  syncPolicy nodeId step
  countInbound
  let st ← get
  if st.injector.drops then recordEvent (faultEvent nodeId env .drop)
  else stage nodeId step env

def releaseDue (step : Nat) : MainM V (List (WireEnvelope V)) := do
  let st ← get
  let isDue (staged : StagedInbound V) : Bool := staged.releaseStep ≤ step
  updateInjector fun injector => { injector with pending := injector.pending.dropWhile isDue }
  pure ((st.injector.pending.takeWhile isDue).map StagedInbound.env)

def WireEnvelope.recvEvent (env : WireEnvelope V) : EventKind V :=
  .netRecv env.toNode env.fromNode env.toActor env.msgId env.payload

/-- The last loop of `drain_network`: one released envelope. -/
def receiveEnvelope (env : WireEnvelope V) : MainM V Unit := do
  recordEvent env.recvEvent
  updateCore fun core => core.receive env.toActor env.msgId env.payload

/-- `batch` is what the channel yields during this step. -/
def drainNetwork (step : Nat) (batch : List (WireEnvelope V)) : MainM V Unit := do
  syncPolicy nodeId step
  batch.forM fun env => if env.toNode ≠ nodeId then pure () else ingest nodeId step env
  flushRemainder nodeId
  let released ← releaseDue step
  released.forM receiveEnvelope

end Injector

end UcoStack.Runtime
