import Mathlib.Data.Finset.Card
import Mathlib.Data.Finset.Dedup
import UcoStack.Library.AssocMap
import UcoStack.Runtime.JsonHost

/-!
# The local verifier

`verifyTrace` reads a trace once and reports its problems.  Its state is the set
of mutable variables of the source; every check has its own function, in source
order.  The payload of a delivered message is decoded by the JSON library into
the verifier's own record, which has no text.
-/

namespace UcoStack.Tool

open UcoStack.Runtime

/-- The provenance record of the verifier has the fields of the runtime's. -/
abbrev MessageProvenance := Provenance

structure RuntimePayload where
  msgType : String
  fromNode : String
  fromService : String
  provenance : Option MessageProvenance
  deriving DecidableEq, Repr

/-- What the verifier reads of a runtime message. -/
def RuntimePayload.ofMessage (msg : RuntimeMessage) : RuntimePayload :=
  ⟨msg.msgType, msg.fromNode, msg.fromService, msg.provenance⟩

/-- The library calls of the verifier: decoding a payload, with the text of the
failure, and the derived `Debug` form of an event. -/
structure ToolHost (V : Type) extends Host V where
  decodePayload : V → Except String RuntimePayload
  debugEvent : EventKind V → String

/-- A serialized runtime message decodes to the fields the verifier reads. -/
structure ToolHost.Lawful {V : Type} (tool : ToolHost V) : Prop where
  host : tool.toHost.Lawful
  decode_toValue : ∀ msg : RuntimeMessage, msg.Representable →
    tool.decodePayload (tool.toValue msg) = .ok (.ofMessage msg)

structure DeliveredLineage where
  originMsgId : MsgId
  originNode : String
  originService : String
  hops : Nat
  deriving DecidableEq, Repr

abbrev LineageKey := Uuid × MsgId

/-- The deliveries of a message are matched by receiver and message id. -/
abbrev DeliveryKey := ActorId × MsgId

/-- A fired timer whose emission has not been read yet. -/
structure PendingTimerEmit where
  seq : Nat
  sender : ActorId
  timerId : Uuid
  deriving DecidableEq, Repr

/-- A delivery whose effect record has not been read yet. -/
structure PendingEffect where
  seq : Nat
  node : NodeId
  receiver : ActorId
  msgId : MsgId
  deriving DecidableEq, Repr

structure VerifyState (V : Type) where
  problems : List String
  seed : Option Nat
  expectedSeq : Nat
  spawned : HashMap ActorId String
  produced : HashMap DeliveryKey (List V)
  deliveredLineage : HashMap LineageKey DeliveredLineage
  dropped : Finset (NodeId × ActorId × MsgId)
  pendingTimerEmit : Option PendingTimerEmit
  pendingEffectObserved : Option PendingEffect

structure VerifyReport where
  problems : List String
  pendingMessages : Nat
  deriving DecidableEq, Repr

def VerifyState.initial {V : Type} : VerifyState V :=
  { problems := []
    seed := none
    expectedSeq := 0
    spawned := ∅
    produced := ∅
    deliveredLineage := ∅
    dropped := ∅
    pendingTimerEmit := none
    pendingEffectObserved := none }

namespace VerifyState

variable {V : Type}

def report (st : VerifyState V) (problem : String) : VerifyState V :=
  { st with problems := st.problems ++ [problem] }

def reportIf (st : VerifyState V) (fails : Prop) [Decidable fails] (problem : String) :
    VerifyState V :=
  if fails then st.report problem else st

/-- `produced.entry(key).or_default().push(payload)`. -/
def pushProduced (st : VerifyState V) (key : DeliveryKey) (payload : V) : VerifyState V :=
  { st with
    produced := st.produced.insert key ((st.produced.lookup key).getD [] ++ [payload]) }

def clearTimer (st : VerifyState V) : VerifyState V := { st with pendingTimerEmit := none }

def clearEffect (st : VerifyState V) : VerifyState V := { st with pendingEffectObserved := none }

def setProduced (st : VerifyState V) (produced : HashMap DeliveryKey (List V)) :
    VerifyState V :=
  { st with produced := produced }

def expectEffect (st : VerifyState V) (pending : PendingEffect) : VerifyState V :=
  { st with pendingEffectObserved := some pending }

/-- The actor is not among the spawned ones although there are some. -/
def Unknown (st : VerifyState V) (actor : ActorId) : Prop :=
  st.spawned ≠ ∅ ∧ (st.spawned.lookup actor).isNone

instance (st : VerifyState V) (actor : ActorId) : Decidable (st.Unknown actor) := by
  unfold Unknown
  infer_instance

end VerifyState

def effectName : EffectKind → String
  | .log => "log"
  | .stateRead => "state_read"
  | .stateWrite => "state_write"
  | .sendLocal => "send_local"
  | .sendRemote => "send_remote"
  | .timerLocal => "timer_local"
  | .timerRemote => "timer_remote"

def formatEffects (effects : Finset EffectKind) : String :=
  String.intercalate ", " ((EffectKind.all.filter (· ∈ effects)).map effectName)

section Lineage

variable {V : Type} (tool : ToolHost V)

/-- A failure is the problem that is pushed. -/
def parseUuidField (seq : Nat) (field raw : String) : Except String Uuid :=
  match tool.uuidParse raw with
  | some id => .ok id
  | none => .error s!"Deliver at seq {seq} has invalid provenance field {field}=`{raw}`"

/-- A payload whose provenance fields could all be read. -/
structure ParsedLineage where
  fromNodeText : String
  fromService : String
  prov : MessageProvenance
  originMsgId : MsgId
  parentNode : Uuid
  parentMsgId : MsgId
  fromNode : Uuid
  deriving DecidableEq, Repr

/-- The part of `verify_payload_lineage` that may return early, with the one
problem it pushes. -/
def parseLineage (seq : Nat) (msgId : MsgId) (payload : V) : Except String ParsedLineage := do
  let message := tool.uuidToString msgId
  match tool.decodePayload payload with
  | .error err => .error s!"Deliver at seq {seq} msg_id={message} payload decode failed: {err}"
  | .ok runtimePayload =>
      match runtimePayload.provenance with
      | none => .error s!"Deliver at seq {seq} msg_id={message} payload missing provenance"
      | some prov => do
          let originMsgId ← parseUuidField tool seq "origin_msg_id" prov.originMsgId
          let parentNodeRaw :=
            if prov.parentNode.isEmpty then runtimePayload.fromNode else prov.parentNode
          let parentNode ← parseUuidField tool seq "parent_node" parentNodeRaw
          let parentMsgId ← parseUuidField tool seq "parent_msg_id" prov.parentMsgId
          let fromNode ← parseUuidField tool seq "from_node" runtimePayload.fromNode
          pure
            { fromNodeText := runtimePayload.fromNode
              fromService := runtimePayload.fromService
              prov := prov
              originMsgId := originMsgId
              parentNode := parentNode
              parentMsgId := parentMsgId
              fromNode := fromNode }

/-- The five checks of a message without hops. -/
def checkRoot (seq : Nat) (msgId : MsgId) (parsed : ParsedLineage) (st : VerifyState V) :
    VerifyState V :=
  let place := s!"Deliver at seq {seq} msg_id={tool.uuidToString msgId} has hops=0 but "
  let st := st.reportIf (parsed.originMsgId ≠ msgId)
    (place ++ s!"origin_msg_id={tool.uuidToString parsed.originMsgId}")
  let st := st.reportIf (parsed.parentMsgId ≠ msgId)
    (place ++ s!"parent_msg_id={tool.uuidToString parsed.parentMsgId}")
  let st := st.reportIf (parsed.parentNode ≠ parsed.fromNode)
    (place ++ s!"parent_node={tool.uuidToString parsed.parentNode} " ++
      s!"!= from_node={tool.uuidToString parsed.fromNode}")
  let st := st.reportIf (parsed.prov.originNode ≠ parsed.fromNodeText)
    (place ++ s!"origin_node={parsed.prov.originNode} != from_node={parsed.fromNodeText}")
  st.reportIf (parsed.prov.originService ≠ parsed.fromService)
    (place ++ s!"origin_service={parsed.prov.originService} " ++
      s!"!= from_service={parsed.fromService}")

/-- The four checks against a parent that was delivered earlier. -/
def checkParent (seq : Nat) (msgId : MsgId) (parsed : ParsedLineage) (parent : DeliveredLineage)
    (st : VerifyState V) : VerifyState V :=
  let place := s!"Deliver at seq {seq} msg_id={tool.uuidToString msgId} "
  let key := s!"{tool.uuidToString parsed.parentNode}/{tool.uuidToString parsed.parentMsgId}"
  let st := st.reportIf (parsed.prov.hops ≠ saturatingAdd parent.hops 1)
    (place ++ s!"has hops={parsed.prov.hops} but parent {key} has hops={parent.hops}")
  let st := st.reportIf (parsed.originMsgId ≠ parent.originMsgId)
    (place ++ s!"origin_msg_id={tool.uuidToString parsed.originMsgId} does not match parent " ++
      s!"{key} origin {tool.uuidToString parent.originMsgId}")
  let st := st.reportIf (parsed.prov.originNode ≠ parent.originNode)
    (place ++ s!"origin_node={parsed.prov.originNode} does not match parent {key} " ++
      s!"origin_node={parent.originNode}")
  st.reportIf (parsed.prov.originService ≠ parent.originService)
    (place ++ s!"origin_service={parsed.prov.originService} does not match parent {key} " ++
      s!"origin_service={parent.originService}")

/-- The parent is compared only when this trace delivered it. -/
def checkDeliveredParent (seq : Nat) (msgId : MsgId) (parsed : ParsedLineage)
    (st : VerifyState V) : VerifyState V :=
  match st.deliveredLineage.lookup (parsed.parentNode, parsed.parentMsgId) with
  | some parent => checkParent tool seq msgId parsed parent st
  | none => st

def verifyPayloadLineage (seq : Nat) (msgId : MsgId) (payload : V) (st : VerifyState V) :
    VerifyState V :=
  match parseLineage tool seq msgId payload with
  | .error problem => st.report problem
  | .ok parsed =>
      let st :=
        if parsed.prov.hops = 0 then checkRoot tool seq msgId parsed st
        else
          let st := st.reportIf (parsed.parentNode = parsed.fromNode ∧ parsed.parentMsgId = msgId)
            (s!"Deliver at seq {seq} msg_id={tool.uuidToString msgId} has hops>0 but " ++
              "parent_msg_id is self")
          checkDeliveredParent tool seq msgId parsed st
      { st with
        deliveredLineage := st.deliveredLineage.insert (parsed.fromNode, msgId)
          { originMsgId := parsed.originMsgId
            originNode := parsed.prov.originNode
            originService := parsed.prov.originService
            hops := parsed.prov.hops } }

end Lineage

section Events

variable {V : Type} (tool : ToolHost V)

def checkSeq (ev : TraceEvent V) (st : VerifyState V) : VerifyState V :=
  if ev.seq ≠ st.expectedSeq then
    { st.report s!"seq mismatch: expected {st.expectedSeq}, got {ev.seq}" with
      expectedSeq := saturatingAdd ev.seq 1 }
  else { st with expectedSeq := saturatingAdd st.expectedSeq 1 }

def checkSeed (ev : TraceEvent V) (st : VerifyState V) : VerifyState V :=
  match st.seed with
  | none => { st with seed := some ev.seed }
  | some seed =>
      st.reportIf (seed ≠ ev.seed)
        s!"seed mismatch at seq {ev.seq}: expected {seed}, got {ev.seed}"

/-- After a delivery only an effect record may come. -/
def checkEffectGap (ev : TraceEvent V) (st : VerifyState V) : VerifyState V :=
  match st.pendingEffectObserved, ev.kind with
  | none, _ => st
  | some _, .effectObserved .. => st
  | some pending, kind =>
      (st.report (s!"Deliver at seq {pending.seq} not followed by EffectObserved; saw " ++
        s!"{tool.debugEvent kind} at seq {ev.seq}")).clearEffect

/-- The sender of a `Send` or `NetSend`. -/
def emitter : EventKind V → Option ActorId
  | .send sender _ _ _ => some sender
  | .netSend _ _ sender _ _ => some sender
  | _ => none

/-- After a fired timer only its emission may come. -/
def checkTimerGap (ev : TraceEvent V) (st : VerifyState V) : VerifyState V :=
  match st.pendingTimerEmit with
  | none => st
  | some pending =>
      let fired := s!"TimerFired at seq {pending.seq} (timer_id=" ++
        s!"{tool.uuidToString pending.timerId})"
      match emitter ev.kind with
      | some sender =>
          (st.reportIf (sender ≠ pending.sender)
            (fired ++ s!" expected next send from actor {tool.uuidToString pending.sender}, " ++
              s!"got actor {tool.uuidToString sender} at seq {ev.seq}")).clearTimer
      | none =>
          (st.report (fired ++ s!" not followed by Send/NetSend; saw " ++
            s!"{tool.debugEvent ev.kind} at seq {ev.seq}")).clearTimer

def checkSpawn (seq : Nat) (actor : ActorId) (service : String) (st : VerifyState V) :
    VerifyState V :=
  let st' := { st with spawned := st.spawned.insert actor service }
  let name := tool.uuidToString actor
  match st.spawned.lookup actor with
  | none => st'
  | some prev =>
      if prev = service then
        st'.report s!"duplicate Spawn at seq {seq} for actor {name} and service `{service}`"
      else
        st'.report s!"conflicting Spawn at seq {seq} for actor {name}: `{prev}` vs `{service}`"

/-- The check of an actor that an event names; `what` is the kind of the event
and the role of the actor in it. -/
def checkKnown (what : String) (seq : Nat) (role : String) (actor : ActorId)
    (st : VerifyState V) : VerifyState V :=
  st.reportIf (st.Unknown actor)
    s!"{what} at seq {seq} {role} unknown actor {tool.uuidToString actor}"

def checkSend (seq : Nat) (sender receiver : ActorId) (msgId : MsgId) (payload : V)
    (st : VerifyState V) : VerifyState V :=
  let st := checkKnown tool "Send" seq "from" sender st
  let st := checkKnown tool "Send" seq "to" receiver st
  st.pushProduced (receiver, msgId) payload

def checkNetRecv (seq : Nat) (fromNode : NodeId) (receiver : ActorId) (msgId : MsgId)
    (payload : V) (st : VerifyState V) : VerifyState V :=
  let st := checkKnown tool "NetRecv" seq "to" receiver st
  let st := st.reportIf ((fromNode, receiver, msgId) ∈ st.dropped)
    (s!"message dropped earlier but later NetRecv observed at seq {seq} for " ++
      s!"from_node={tool.uuidToString fromNode}, to={tool.uuidToString receiver}, " ++
      s!"msg_id={tool.uuidToString msgId}")
  st.pushProduced (receiver, msgId) payload

/-- Take the first waiting payload of the delivered message and check its lineage. -/
def takePayload (seq : Nat) (receiver : ActorId) (msgId : MsgId) (st : VerifyState V) :
    VerifyState V :=
  let key := (receiver, msgId)
  let missing := s!"Deliver at seq {seq} without prior Send/NetRecv for " ++
    s!"to={tool.uuidToString receiver}, msg_id={tool.uuidToString msgId}"
  match st.produced.lookup key with
  | none => st.report missing
  | some [] => (st.report missing).setProduced (st.produced.erase key)
  | some (payload :: queue) =>
      let st := verifyPayloadLineage tool seq msgId payload st
      st.setProduced
        (if queue.isEmpty then st.produced.erase key else st.produced.insert key queue)

def checkDeliver (seq : Nat) (node : NodeId) (receiver : ActorId) (msgId : MsgId)
    (st : VerifyState V) : VerifyState V :=
  let st := checkKnown tool "Deliver" seq "to" receiver st
  let st := takePayload tool seq receiver msgId st
  st.expectEffect ⟨seq, node, receiver, msgId⟩

/-- Compare an effect record with the delivery before it. -/
def matchEffect (seq : Nat) (node : NodeId) (actor : ActorId) (msgId : MsgId)
    (st : VerifyState V) : VerifyState V :=
  match st.pendingEffectObserved with
  | some pending =>
      (st.reportIf (node ≠ pending.node ∨ actor ≠ pending.receiver ∨ msgId ≠ pending.msgId)
        (s!"EffectObserved at seq {seq} does not match preceding Deliver at seq " ++
          s!"{pending.seq} (deliver node={tool.uuidToString pending.node}, " ++
          s!"to={tool.uuidToString pending.receiver}, " ++
          s!"msg_id={tool.uuidToString pending.msgId}; effect " ++
          s!"node={tool.uuidToString node}, actor={tool.uuidToString actor}, " ++
          s!"msg_id={tool.uuidToString msgId})")).clearEffect
  | none => st.report s!"EffectObserved at seq {seq} without preceding Deliver"

/-- The declared and observed lists are sets, and what was observed was declared. -/
def checkEffects (seq : Nat) (declared observed : List EffectKind) (st : VerifyState V) :
    VerifyState V :=
  let declaredSet := declared.toFinset
  let st := st.reportIf (declaredSet.card ≠ declared.length)
    s!"EffectObserved at seq {seq} has duplicate declared effects"
  let observedSet := observed.toFinset
  let st := st.reportIf (observedSet.card ≠ observed.length)
    s!"EffectObserved at seq {seq} has duplicate observed effects"
  let unexpected := observedSet \ declaredSet
  st.reportIf (unexpected ≠ ∅)
    (s!"EffectObserved at seq {seq} reports undeclared observed effects " ++
      s!"[{formatEffects unexpected}] not in declared [{formatEffects declaredSet}]")

def checkEffectObserved (seq : Nat) (node : NodeId) (actor : ActorId) (msgId : MsgId)
    (declared observed : List EffectKind) (st : VerifyState V) : VerifyState V :=
  let st := checkKnown tool "EffectObserved" seq "from" actor st
  let st := matchEffect tool seq node actor msgId st
  checkEffects seq declared observed st

def checkKind (ev : TraceEvent V) (st : VerifyState V) : VerifyState V :=
  match ev.kind with
  | .spawn _ actor service => checkSpawn tool ev.seq actor service st
  | .send sender receiver msgId payload => checkSend tool ev.seq sender receiver msgId payload st
  | .netRecv _ fromNode receiver msgId payload =>
      checkNetRecv tool ev.seq fromNode receiver msgId payload st
  | .deliver node receiver msgId => checkDeliver tool ev.seq node receiver msgId st
  | .netSend _ _ sender _ _ => checkKnown tool "NetSend" ev.seq "from" sender st
  | .log _ sender _ _ => checkKnown tool "Log" ev.seq "from" sender st
  | .effectObserved node actor _ _ msgId declared observed =>
      checkEffectObserved tool ev.seq node actor msgId declared observed st
  | .faultInjected _ fromNode receiver msgId action =>
      if action = .drop then { st with dropped := insert (fromNode, receiver, msgId) st.dropped }
      else st
  | .faultPolicy .. => st
  | .timerFired _ sender timerId =>
      { st with pendingTimerEmit := some ⟨ev.seq, sender, timerId⟩ }

/-- The body of the loop of `verify_trace`. -/
def verifyEvent (st : VerifyState V) (ev : TraceEvent V) : VerifyState V :=
  checkKind tool ev (checkTimerGap tool ev (checkEffectGap tool ev (checkSeed ev (checkSeq ev st))))

/-- The checks after the loop. -/
def checkEnd (st : VerifyState V) : VerifyState V :=
  let st :=
    match st.pendingTimerEmit with
    | some pending =>
        st.report (s!"TimerFired at seq {pending.seq} (timer_id=" ++
          s!"{tool.uuidToString pending.timerId}) reached end-of-trace without Send/NetSend")
    | none => st
  match st.pendingEffectObserved with
  | some pending =>
      st.report s!"Deliver at seq {pending.seq} reached end-of-trace without EffectObserved"
  | none => st

def verifyTrace (events : List (TraceEvent V)) : VerifyReport :=
  let st := checkEnd tool (events.foldl (verifyEvent tool) .initial)
  { problems := st.problems
    pendingMessages := HashMap.total List.length st.produced }

end Events

end UcoStack.Tool
