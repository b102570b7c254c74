import Mathlib.Data.Prod.Lex
import Mathlib.Data.String.Basic
import UcoStack.Library.Reading
import UcoStack.Runtime.Main

/-!
# Recording in any enumeration order

A recorded run enumerates three hash maps: the actors before each choice of the
scheduler, the state map in each template rendering and the peers in each send or
timer to all of them.  `recordEnumerated` is `record` when each of these
enumerations has an order of its own; the orders are numbered by the step, and
within a step by the place of the action in its handler.
-/

namespace UcoStack.Runtime

open UcoStack.Lang

structure Enumeration (V : Type) where
  actors : Nat → Reading (Sigma fun _ : ActorId => Actor V)
  state : Nat → Nat → Reading String
  peers : Nat → Nat → Reading Uuid

/-! ## The interpreter -/

section Interpreter

variable {V : Type} (host : Host V) (keys : Reading String) (ids : Reading Uuid)

def renderTemplateIn (template : String) (selfNode : Uuid) (selfService : String)
    (incoming : RuntimeMessage) (state : StateMap) : String :=
  let out := (messageTokens host selfNode selfService incoming).foldl
    (fun out token => replace out token.1 token.2) template
  ((keys.read state.keys).insertionSort (· ≤ ·)).foldl (replaceState state) out

def sortedPeerIdsIn (peers : PeerMap) : List Uuid :=
  (ids.read peers.keys).insertionSort (· ≤ ·)

variable (service : String) (incomingMsgId : Uuid) (incoming : RuntimeMessage) (peers : PeerMap)

def sendTargetIn (delaySteps : Nat) (target : RemoteTarget) (targetService : String)
    (payload : V) (ctx : ActorContext V) : ActorContext V :=
  match target with
  | .peers =>
      let peerIds := sortedPeerIdsIn ids peers
      if peerIds.isEmpty then ctx.sendLocalServiceAfter delaySteps targetService payload
      else peerIds.foldl (sendNode delaySteps targetService payload) ctx
  | .sender =>
      match host.uuidParse incoming.fromNode with
      | none => ctx
      | some node => sendNode delaySteps targetService payload ctx node
  | .node raw =>
      match host.uuidParse raw with
      | none => ctx
      | some node => sendNode delaySteps targetService payload ctx node

def outboundPayloadIn (message template : String) (exec : Execution V) : V :=
  let text := renderTemplateIn host keys template exec.ctx.selfNode service incoming exec.state
  encodeMsg host
    (buildOutboundMessage host message text exec.ctx.selfNode service incoming incomingMsgId)

def executeActionIn : ActionDecl → Execution V → Except ActionError (Execution V)
  | .log template, exec =>
      let exec := observe .log exec
      let msg := renderTemplateIn host keys template exec.ctx.selfNode service incoming exec.state
      .ok { exec with ctx := exec.ctx.log service msg }
  | .setState key value, exec =>
      let exec := observe .stateWrite exec
      match exec.state.lookup key with
      | none => .error (.unknownSet service key)
      | some _ => .ok { exec with state := exec.state.insert key value }
  | .incState key amount, exec =>
      let exec := observe .stateWrite exec
      match exec.state.lookup key with
      | none => .error (.unknownInc service key)
      | some current =>
          match checkedAdd current amount with
          | none => .error (.stateOverflow service key)
          | some value => .ok { exec with state := exec.state.insert key value }
  | .timerLocal steps targetService message template, exec =>
      let exec := observe .timerLocal exec
      let payload := outboundPayloadIn host keys service incomingMsgId incoming message template
        exec
      .ok { exec with ctx := exec.ctx.sendLocalServiceAfter steps targetService payload }
  | .timerRemote steps target targetService message template, exec =>
      let exec := observe .timerRemote exec
      let payload := outboundPayloadIn host keys service incomingMsgId incoming message template
        exec
      .ok { exec with
        ctx := sendTargetIn host ids incoming peers steps target targetService payload exec.ctx }
  | .sendLocal targetService message template, exec =>
      let exec := observe .sendLocal exec
      let payload := outboundPayloadIn host keys service incomingMsgId incoming message template
        exec
      .ok { exec with ctx := exec.ctx.sendLocalServiceAfter 0 targetService payload }
  | .sendRemote target targetService message template, exec =>
      let exec := observe .sendRemote exec
      let payload := outboundPayloadIn host keys service incomingMsgId incoming message template
        exec
      .ok { exec with
        ctx := sendTargetIn host ids incoming peers 0 target targetService payload exec.ctx }
  | .ifStateEq key value thenAction, exec =>
      let exec := observe .stateRead exec
      match exec.state.lookup key with
      | none => .error (.unknownIf service key)
      | some current => if current = value then executeActionIn thenAction exec else .ok exec

end Interpreter

section Handlers

variable {V : Type} (host : Host V) (keys : Nat → Reading String) (ids : Nat → Reading Uuid)
  (service : String) (incomingMsgId : Uuid) (incoming : RuntimeMessage) (peers : PeerMap)

/-- The actions from `place` on. -/
def executeAllIn : Nat → List ActionDecl → Execution V → Except ActionError (Execution V)
  | _, [], exec => .ok exec
  | place, action :: rest, exec =>
      match executeActionIn host (keys place) (ids place) service incomingMsgId incoming peers
          action exec with
      | .error error => .error error
      | .ok exec => executeAllIn (place + 1) rest exec

def executeActionsIn (program : Program) (state : StateMap) (ctx : ActorContext V) :
    Except ActionError (Executed V) :=
  match program.handlers.lookup (service, incoming.msgType) with
  | none => .ok ⟨⟨∅, ∅⟩, state, ctx⟩
  | some plan =>
      match executeAllIn host keys ids service incomingMsgId incoming peers 0 plan.actions
          ⟨state, ctx, ∅⟩ with
      | .error error => .error error
      | .ok exec => .ok ⟨⟨declaredSet plan, exec.observed⟩, exec.state, exec.ctx⟩

end Handlers

/-! ## The loop -/

section Recording

variable {V : Type} (host : Host V) (order : Enumeration V)

def runHandlerIn (site : Site) (step : Nat) (popped : Popped V) (incoming : RuntimeMessage) :
    MainM V (Executed V) := do
  let st ← get
  match st.core.actors.lookup popped.actorId with
  | none => throw (.unknownActor popped.actorId)
  | some actor =>
      match executeActionsIn host (order.state step) (order.peers step) popped.service
          popped.msgId incoming site.peers site.program actor.state (.new site.nodeId) with
      | .error error => throw (.action popped.service error)
      | .ok executed => do
          updateCore fun core =>
            core.setActor popped.actorId { actor with state := executed.state }
          pure executed

def processMessageIn (site : Site) (mode : Mode) (step : Nat) (chosen : PendingDelivery) :
    MainM V (List (EventKind V)) := do
  let popped ← popInbox chosen.receiver
  if mode = .replay ∧ popped.msgId ≠ chosen.msgId then
    throw (.replayMsgIdMismatch chosen.receiver chosen.msgId popped.msgId)
  else
    match decodeMsg host popped.payload with
    | none => throw (.undecodable popped.service)
    | some incoming => do
        let executed ← runHandlerIn host order site step popped incoming
        emitExecuted site mode step popped incoming executed

def pendingDeliveriesIn (step : Nat) (nodeId : NodeId) (core : Core V) : List PendingDelivery :=
  ((order.actors step).read core.actors.entries).filterMap fun entry =>
    entry.2.inbox.head?.map fun message => ⟨nodeId, entry.1, message.1⟩

def recordStepIn (site : Site) (step : Nat) (batch : List (WireEnvelope V)) : MainM V Unit := do
  drainNetwork site.nodeId step batch
  fireDueTimers site step
  let st ← get
  match chooseNextDeterministic (pendingDeliveriesIn order step site.nodeId st.core) with
  | none => pure ()
  | some chosen => do
      recordEvent chosen.event
      let _ ← processMessageIn host order site .record step chosen

def recordLoopIn (site : Site) (inbound : Nat → List (WireEnvelope V)) : (step count : Nat) →
    MainM V Unit
  | _, 0 => pure ()
  | step, count + 1 => do
      recordStepIn host order site step (inbound step)
      recordLoopIn site inbound (step + 1) count

variable [DecidableEq V]

/-- A whole run in record mode, with the given enumeration orders. -/
def recordEnumerated (program : Program) (cfg : Config) (inbound : Nat → List (WireEnvelope V)) :
    EStateM.Result (RunError V) (MainState V) Unit :=
  match launch host program cfg with
  | .error error => .error error (.initial .record cfg ∅ [])
  | .ok launched =>
      (do
        startup host launched.site .record cfg launched.entryService
        recordLoopIn host order launched.site inbound 0 cfg.steps : MainM V Unit)
        (.initial .record cfg launched.actors [])

end Recording

/-! ## No order matters -/

section Interpreter

variable {V : Type} (host : Host V) (keys : Reading String) (ids : Reading Uuid)

theorem renderTemplateIn_eq (template : String) (selfNode : Uuid) (selfService : String)
    (incoming : RuntimeMessage) (state : StateMap) :
    renderTemplateIn host keys template selfNode selfService incoming state =
      renderTemplate host template selfNode selfService incoming state := by
  unfold renderTemplateIn renderTemplate sortedKeys
  rw [keys.insertionSort_read]

theorem sortedPeerIdsIn_eq (peers : PeerMap) : sortedPeerIdsIn ids peers = sortedPeerIds peers :=
  ids.insertionSort_read (· ≤ ·) peers.keys

variable (service : String) (incomingMsgId : Uuid) (incoming : RuntimeMessage) (peers : PeerMap)

theorem sendTargetIn_eq (delaySteps : Nat) (target : RemoteTarget) (targetService : String)
    (payload : V) (ctx : ActorContext V) :
    sendTargetIn host ids incoming peers delaySteps target targetService payload ctx =
      sendTarget host incoming peers delaySteps target targetService payload ctx := by
  cases target with
  | peers =>
      simp only [sendTargetIn, sendTarget, sortedPeerIdsIn_eq]
  | sender => rfl
  | node raw => rfl

theorem outboundPayloadIn_eq (message template : String) (exec : Execution V) :
    outboundPayloadIn host keys service incomingMsgId incoming message template exec =
      outboundPayload host service incomingMsgId incoming message template exec := by
  unfold outboundPayloadIn outboundPayload
  rw [renderTemplateIn_eq]

/-- Each action reads maps through a sorted enumeration only. -/
theorem executeActionIn_eq (action : ActionDecl) (exec : Execution V) :
    executeActionIn host keys ids service incomingMsgId incoming peers action exec =
      executeAction host service incomingMsgId incoming peers action exec := by
  induction action generalizing exec with
  | log template => simp only [executeActionIn, executeAction, renderTemplateIn_eq]
  | setState key value => rfl
  | incState key amount => rfl
  | timerLocal steps targetService message template =>
      simp only [executeActionIn, executeAction, outboundPayloadIn_eq]
  | timerRemote steps target targetService message template =>
      simp only [executeActionIn, executeAction, outboundPayloadIn_eq, sendTargetIn_eq]
  | sendLocal targetService message template =>
      simp only [executeActionIn, executeAction, outboundPayloadIn_eq]
  | sendRemote target targetService message template =>
      simp only [executeActionIn, executeAction, outboundPayloadIn_eq, sendTargetIn_eq]
  | ifStateEq key value thenAction ih =>
      simp only [executeActionIn, ih]
      rfl

end Interpreter

section Handlers

variable {V : Type} (host : Host V) (keys : Nat → Reading String) (ids : Nat → Reading Uuid)
  (service : String) (incomingMsgId : Uuid) (incoming : RuntimeMessage) (peers : PeerMap)

theorem executeAllIn_eq (place : Nat) (actions : List ActionDecl) (exec : Execution V) :
    executeAllIn host keys ids service incomingMsgId incoming peers place actions exec =
      executeAll host service incomingMsgId incoming peers actions exec := by
  induction actions generalizing place exec with
  | nil => rfl
  | cons action rest ih =>
      simp only [executeAllIn, executeActionIn_eq, ih]
      rfl

theorem executeActionsIn_eq (program : Program) (state : StateMap) (ctx : ActorContext V) :
    executeActionsIn host keys ids service incomingMsgId incoming peers program state ctx =
      executeActions host service incomingMsgId incoming peers program state ctx := by
  unfold executeActionsIn
  simp only [executeAllIn_eq]
  rfl

end Handlers

section Scheduling

/-- The fields the scheduler compares, as one tuple of numbers. -/
def deliveryKey (delivery : PendingDelivery) : Nat ×ₗ Nat ×ₗ Nat :=
  toLex (delivery.node.toNat, toLex (delivery.receiver.toNat, delivery.msgId.toNat))

theorem deliveryKeyLe_iff (left right : PendingDelivery) :
    deliveryKeyLe left right ↔ deliveryKey left ≤ deliveryKey right := by
  unfold deliveryKeyLe deliveryKey
  simp only [Prod.Lex.toLex_le_toLex, BitVec.lt_def, BitVec.le_def, BitVec.toNat_inj]

theorem deliveryKey_injective : Function.Injective deliveryKey := by
  rintro ⟨node, receiver, msgId⟩ ⟨otherNode, otherReceiver, otherMsgId⟩ same
  obtain ⟨nodes, rest⟩ := Prod.mk.inj same
  obtain ⟨receivers, msgIds⟩ := Prod.mk.inj rest
  simp only [BitVec.toNat_inj] at nodes receivers msgIds
  rw [nodes, receivers, msgIds]

instance : Std.Total deliveryKeyLe :=
  ⟨fun left right => by
    rw [deliveryKeyLe_iff, deliveryKeyLe_iff]
    exact le_total _ _⟩

instance : IsTrans PendingDelivery deliveryKeyLe :=
  ⟨fun first second third le next => by
    rw [deliveryKeyLe_iff] at le next ⊢
    exact le_trans le next⟩

/-- The compared fields are all there are, so no two candidates tie. -/
instance : Std.Antisymm deliveryKeyLe :=
  ⟨fun left right le ge => by
    rw [deliveryKeyLe_iff] at le ge
    exact deliveryKey_injective (le_antisymm le ge)⟩

variable {V : Type} (order : Enumeration V)

theorem chooseNextDeterministic_perm {pending other : List PendingDelivery}
    (same : pending.Perm other) :
    chooseNextDeterministic pending = chooseNextDeterministic other := by
  have sorted : (pending.insertionSort deliveryKeyLe).Perm (other.insertionSort deliveryKeyLe) :=
    (List.perm_insertionSort _ _).trans (same.trans (List.perm_insertionSort _ _).symm)
  unfold chooseNextDeterministic
  rw [sorted.eq_of_pairwise' (List.pairwise_insertionSort _ _) (List.pairwise_insertionSort _ _)]

theorem chooseIn_eq (step : Nat) (nodeId : NodeId) (core : Core V) :
    chooseNextDeterministic (pendingDeliveriesIn order step nodeId core) =
      chooseNextDeterministic (pendingDeliveries nodeId core) := by
  apply chooseNextDeterministic_perm
  exact ((order.actors step).perm core.actors.entries).filterMap _

end Scheduling

section Recording

variable {V : Type} (host : Host V) (order : Enumeration V)

theorem processMessageIn_eq (site : Site) (mode : Mode) (step : Nat) (chosen : PendingDelivery) :
    processMessageIn host order site mode step chosen =
      processMessage host site mode step chosen := by
  unfold processMessageIn runHandlerIn
  simp only [executeActionsIn_eq]
  rfl

variable [DecidableEq V]

theorem recordStepIn_eq (site : Site) (step : Nat) (batch : List (WireEnvelope V)) :
    recordStepIn host order site step batch = recordStep host site step batch := by
  unfold recordStepIn
  simp only [chooseIn_eq, processMessageIn_eq]
  rfl

theorem recordLoopIn_eq (site : Site) (inbound : Nat → List (WireEnvelope V))
    (step count : Nat) :
    recordLoopIn host order site inbound step count = recordLoop host site inbound step count := by
  induction count generalizing step with
  | zero => rfl
  | succ count ih => simp only [recordLoopIn, recordLoop, recordStepIn_eq, ih]

/-- A run in any enumeration order is the run in entry order. -/
theorem recordEnumerated_eq (program : Program) (cfg : Config)
    (inbound : Nat → List (WireEnvelope V)) :
    recordEnumerated host order program cfg inbound = record host program cfg inbound := by
  unfold recordEnumerated
  simp only [recordLoopIn_eq]
  rfl

/-- Two runs that differ in the order of every enumeration end alike: the same trace,
and the same messages handed to the network. -/
theorem record_order_free (first second : Enumeration V) (program : Program) (cfg : Config)
    (inbound : Nat → List (WireEnvelope V)) :
    recordEnumerated host first program cfg inbound =
      recordEnumerated host second program cfg inbound := by
  rw [recordEnumerated_eq, recordEnumerated_eq]

end Recording

end UcoStack.Runtime
