import UcoStack.Runtime.Template

/-!
# The action interpreter

`executeActions` runs the handler of one incoming message: it updates the
service's state map, queues outgoing messages and logs, and collects the
observed effects.
-/

namespace UcoStack.Runtime

open UcoStack.Lang

inductive Target where
  | localService (service : String)
  | remoteService (node : NodeId) (service : String)
  deriving DecidableEq, Repr

structure Outgoing (V : Type) where
  target : Target
  payload : V
  delaySteps : Nat
  deriving DecidableEq, Repr

structure LogEmission where
  service : String
  text : String
  deriving DecidableEq, Repr

/-- The context a handler writes to. -/
structure ActorContext (V : Type) where
  selfNode : NodeId
  outbox : List (Outgoing V)
  logs : List LogEmission
  deriving DecidableEq, Repr

namespace ActorContext

variable {V : Type}

def new (selfNode : NodeId) : ActorContext V := ⟨selfNode, [], []⟩

def log (ctx : ActorContext V) (service text : String) : ActorContext V :=
  { ctx with logs := ctx.logs ++ [⟨service, text⟩] }

def sendLocalServiceAfter (ctx : ActorContext V) (delaySteps : Nat) (service : String)
    (payload : V) : ActorContext V :=
  { ctx with outbox := ctx.outbox ++ [⟨.localService service, payload, delaySteps⟩] }

def sendRemoteServiceAfter (ctx : ActorContext V) (delaySteps : Nat) (node : NodeId)
    (service : String) (payload : V) : ActorContext V :=
  { ctx with outbox := ctx.outbox ++ [⟨.remoteService node service, payload, delaySteps⟩] }

end ActorContext

/-- The errors of `execute_action`. -/
inductive ActionError where
  | unknownSet (service key : String)
  | unknownInc (service key : String)
  | stateOverflow (service key : String)
  | unknownIf (service key : String)
  deriving DecidableEq, Repr

def ActionError.message : ActionError → String
  | .unknownSet service key => s!"service `{service}` attempted set on unknown state `{key}`"
  | .unknownInc service key => s!"service `{service}` attempted inc on unknown state `{key}`"
  | .stateOverflow service key => s!"service `{service}` state overflow for `{key}`"
  | .unknownIf service key => s!"service `{service}` attempted if on unknown state `{key}`"

/-- Rust's `i64::checked_add`. -/
def checkedAdd (a b : Int) : Option Int :=
  if -2 ^ 63 ≤ a + b ∧ a + b < 2 ^ 63 then some (a + b) else none

/-- The mutable arguments of `execute_action`. -/
structure Execution (V : Type) where
  state : StateMap
  ctx : ActorContext V
  observed : Finset HandlerEffect

structure ExecutedEffects where
  declared : Finset HandlerEffect
  observed : Finset HandlerEffect
  deriving DecidableEq

/-- The addresses of the peers, by node id. -/
abbrev PeerMap := HashMap Uuid String

def sortedPeerIds (peers : PeerMap) : List Uuid := peers.keys.insertionSort (· ≤ ·)

section Interpreter

variable {V : Type} (host : Host V) (service : String) (incomingMsgId : Uuid)
  (incoming : RuntimeMessage) (peers : PeerMap)

def observe (effect : HandlerEffect) (exec : Execution V) : Execution V :=
  { exec with observed := insert effect exec.observed }

/-- Queue one message for `node`: locally when it is this node, else remotely. -/
def sendNode (delaySteps : Nat) (targetService : String) (payload : V)
    (ctx : ActorContext V) (node : Uuid) : ActorContext V :=
  if node = ctx.selfNode then ctx.sendLocalServiceAfter delaySteps targetService payload
  else ctx.sendRemoteServiceAfter delaySteps node targetService payload

/-- The `match target` block shared by the remote sends (delay 0) and the remote
timers: an empty peer list falls back to a local send, an unreadable node id
queues nothing. -/
def sendTarget (delaySteps : Nat) (target : RemoteTarget) (targetService : String)
    (payload : V) (ctx : ActorContext V) : ActorContext V :=
  match target with
  | .peers =>
      let peerIds := sortedPeerIds peers
      if peerIds.isEmpty then ctx.sendLocalServiceAfter delaySteps targetService payload
      else peerIds.foldl (sendNode delaySteps targetService payload) ctx
  | .sender =>
      match host.uuidParse incoming.fromNode with
      | none => ctx
      | some node => sendNode delaySteps targetService payload ctx node
  | .node raw =>
      match host.uuidParse raw with
      | none => ctx
      | some node => sendNode delaySteps targetService payload ctx node

/-- Render, build and encode the message of a send or timer action. -/
def outboundPayload (message template : String) (exec : Execution V) : V :=
  let text := renderTemplate host template exec.ctx.selfNode service incoming exec.state
  encodeMsg host
    (buildOutboundMessage host message text exec.ctx.selfNode service incoming incomingMsgId)

def executeAction : ActionDecl → Execution V → Except ActionError (Execution V)
  | .log template, exec =>
      let exec := observe .log exec
      let msg := renderTemplate host template exec.ctx.selfNode service incoming exec.state
      .ok { exec with ctx := exec.ctx.log service msg }
  | .setState key value, exec =>
      let exec := observe .stateWrite exec
      match exec.state.lookup key with
      | none => .error (.unknownSet service key)
      | some _ => .ok { exec with state := exec.state.insert key value }
  | .incState key amount, exec =>
      let exec := observe .stateWrite exec
      match exec.state.lookup key with
      | none => .error (.unknownInc service key)
      | some current =>
          match checkedAdd current amount with
          | none => .error (.stateOverflow service key)
          | some value => .ok { exec with state := exec.state.insert key value }
  | .timerLocal steps targetService message template, exec =>
      let exec := observe .timerLocal exec
      let payload := outboundPayload host service incomingMsgId incoming message template exec
      .ok { exec with ctx := exec.ctx.sendLocalServiceAfter steps targetService payload }
  | .timerRemote steps target targetService message template, exec =>
      let exec := observe .timerRemote exec
      let payload := outboundPayload host service incomingMsgId incoming message template exec
      .ok { exec with
        ctx := sendTarget host incoming peers steps target targetService payload exec.ctx }
  | .sendLocal targetService message template, exec =>
      let exec := observe .sendLocal exec
      let payload := outboundPayload host service incomingMsgId incoming message template exec
      .ok { exec with ctx := exec.ctx.sendLocalServiceAfter 0 targetService payload }
  | .sendRemote target targetService message template, exec =>
      let exec := observe .sendRemote exec
      let payload := outboundPayload host service incomingMsgId incoming message template exec
      .ok { exec with
        ctx := sendTarget host incoming peers 0 target targetService payload exec.ctx }
  | .ifStateEq key value thenAction, exec =>
      let exec := observe .stateRead exec
      match exec.state.lookup key with
      | none => .error (.unknownIf service key)
      | some current => if current = value then executeAction thenAction exec else .ok exec

/-- Run actions in order, stopping at the first error. -/
def executeAll : List ActionDecl → Execution V → Except ActionError (Execution V)
  | [], exec => .ok exec
  | action :: rest, exec =>
      match executeAction host service incomingMsgId incoming peers action exec with
      | .error error => .error error
      | .ok exec => executeAll rest exec

/-- The result of `execute_actions`: the effects with the final state map and context. -/
structure Executed (V : Type) where
  effects : ExecutedEffects
  state : StateMap
  ctx : ActorContext V

def executeActions (program : Program) (state : StateMap) (ctx : ActorContext V) :
    Except ActionError (Executed V) :=
  match program.handlers.lookup (service, incoming.msgType) with
  | none => .ok ⟨⟨∅, ∅⟩, state, ctx⟩
  | some plan =>
      match executeAll host service incomingMsgId incoming peers plan.actions
          ⟨state, ctx, ∅⟩ with
      | .error error => .error error
      | .ok exec => .ok ⟨⟨declaredSet plan, exec.observed⟩, exec.state, exec.ctx⟩

end Interpreter

end UcoStack.Runtime
