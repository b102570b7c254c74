import UcoStack.Runtime.Progress

/-!
# The control of a handler

Texts, provenance and identifiers pass through a handler without steering it.  What
it does to the state map depends on the type of the message alone, and whom it writes
to depends on the sender besides.  `controlActions` is the interpreter without
anything else; the interpreter refines it.
-/

namespace UcoStack.Runtime

open UcoStack.Lang

/-- What control sees of a message; `none` is a sender without a readable node id. -/
structure Letter where
  msgType : String
  sender : Option NodeId
  deriving DecidableEq, Repr

/-- The letter of a payload, if it is a message at all. -/
def letterOf {V : Type} (host : Host V) (payload : V) : Option Letter :=
  (decodeMsg host payload).map fun msg => ⟨msg.msgType, host.uuidParse msg.fromNode⟩

/-- A letter on its way out of a handler. -/
structure Post where
  target : Target
  letter : Letter
  deriving DecidableEq, Repr

/-- The state map of a service and what its handler has posted. -/
structure Control where
  state : StateMap
  posts : List Post

def Control.send (control : Control) (letter : Letter) (targets : List Target) : Control :=
  { control with posts := control.posts ++ targets.map fun target => ⟨target, letter⟩ }

/-! ## The control semantics -/

section Semantics

variable {V : Type} (host : Host V) (selfNode : NodeId) (peers : PeerMap)

def targetNode (service : String) (node : NodeId) : Target :=
  if node = selfNode then .localService service else .remoteService node service

/-- Where a remote send goes, in order. -/
def controlTargets (sender : Option NodeId) (service : String) : RemoteTarget → List Target
  | .peers =>
      if (sortedPeerIds peers).isEmpty then [.localService service]
      else (sortedPeerIds peers).map (targetNode selfNode service)
  | .sender => sender.toList.map (targetNode selfNode service)
  | .node raw => (host.uuidParse raw).toList.map (targetNode selfNode service)

/-- One action; `none` where the interpreter fails. -/
def controlAction (sender : Option NodeId) : ActionDecl → Control → Option Control
  | .log _, control => some control
  | .setState key value, control =>
      (control.state.lookup key).map fun _ =>
        { control with state := control.state.insert key value }
  | .incState key amount, control =>
      (control.state.lookup key).bind fun current =>
        (checkedAdd current amount).map fun value =>
          { control with state := control.state.insert key value }
  | .timerLocal _ service message _, control =>
      some (control.send ⟨message, some selfNode⟩ [.localService service])
  | .timerRemote _ target service message _, control =>
      some (control.send ⟨message, some selfNode⟩
        (controlTargets host selfNode peers sender service target))
  | .sendLocal service message _, control =>
      some (control.send ⟨message, some selfNode⟩ [.localService service])
  | .sendRemote target service message _, control =>
      some (control.send ⟨message, some selfNode⟩
        (controlTargets host selfNode peers sender service target))
  | .ifStateEq key value thenAction, control =>
      (control.state.lookup key).bind fun current =>
        if current = value then controlAction sender thenAction control else some control

def controlAll (sender : Option NodeId) (actions : List ActionDecl) (control : Control) :
    Option Control :=
  actions.foldlM (fun control action => controlAction host selfNode peers sender action control)
    control

/-- The handler of a service for a letter. -/
def controlActions (program : Program) (service : String) (letter : Letter) (state : StateMap) :
    Option Control :=
  match program.handlers.lookup (service, letter.msgType) with
  | none => some ⟨state, []⟩
  | some plan => controlAll host selfNode peers letter.sender plan.actions ⟨state, []⟩

end Semantics

/-! ## The interpreter refines it -/

section Refinement

variable {V : Type} (host : Host V)

/-- The letter of a queued message with its target. -/
def Outgoing.posted (out : Outgoing V) : Target × Option Letter :=
  (out.target, letterOf host out.payload)

def Post.sealed (post : Post) : Target × Option Letter := (post.target, some post.letter)

/-- The interpreter and the control have come equally far. -/
structure Controls (selfNode : NodeId) (exec : Execution V) (control : Control) : Prop where
  state : exec.state = control.state
  posts : exec.ctx.outbox.map (Outgoing.posted host) = control.posts.map Post.sealed
  selfNode : exec.ctx.selfNode = selfNode

variable {host} {selfNode : NodeId} {service : String} {incomingMsgId : Uuid}
  {incoming : RuntimeMessage} {peers : PeerMap}

/-- Queueing one payload for a list of targets. -/
theorem Controls.send {exec exec' : Execution V} {control : Control}
    (controls : Controls host selfNode exec control) {letter : Letter} {payload : V}
    (letters : letterOf host payload = some letter) (steps : Nat) (targets : List Target)
    (state : exec'.state = exec.state) (same : exec'.ctx.selfNode = exec.ctx.selfNode)
    (queued : exec'.ctx.outbox =
      exec.ctx.outbox ++ targets.map fun target => ⟨target, payload, steps⟩) :
    Controls host selfNode exec' (control.send letter targets) where
  state := state.trans controls.state
  posts := by
    have one (target : Target) : Outgoing.posted host ⟨target, payload, steps⟩ =
        Post.sealed ⟨target, letter⟩ := by
      unfold Outgoing.posted Post.sealed
      rw [letters]
    rw [queued, List.map_append, controls.posts, Control.send, List.map_append, List.map_map,
      List.map_map]
    exact congrArg (List.map Post.sealed control.posts ++ ·)
      (List.map_congr_left fun target _ => one target)
  selfNode := same.trans controls.selfNode

theorem Controls.observe {exec : Execution V} {control : Control}
    (controls : Controls host selfNode exec control) (effect : HandlerEffect) :
    Controls host selfNode (observe effect exec) control :=
  ⟨controls.state, controls.posts, controls.selfNode⟩

theorem sendNode_outbox (steps : Nat) (targetService : String) (payload : V)
    (ctx : ActorContext V) (node : Uuid) :
    (sendNode steps targetService payload ctx node).outbox =
        ctx.outbox ++ [⟨targetNode ctx.selfNode targetService node, payload, steps⟩] ∧
      (sendNode steps targetService payload ctx node).selfNode = ctx.selfNode := by
  unfold sendNode targetNode
  split
  · exact ⟨rfl, rfl⟩
  · exact ⟨rfl, rfl⟩

theorem sendNodes_outbox (steps : Nat) (targetService : String) (payload : V) (nodes : List Uuid)
    (ctx : ActorContext V) :
    (nodes.foldl (sendNode steps targetService payload) ctx).outbox =
        ctx.outbox ++ (nodes.map (targetNode ctx.selfNode targetService)).map
          (fun target => ⟨target, payload, steps⟩) ∧
      (nodes.foldl (sendNode steps targetService payload) ctx).selfNode = ctx.selfNode := by
  induction nodes generalizing ctx with
  | nil => simp
  | cons node rest ih =>
      obtain ⟨outbox, selfNode⟩ := sendNode_outbox steps targetService payload ctx node
      obtain ⟨outboxRest, selfNodeRest⟩ := ih (sendNode steps targetService payload ctx node)
      rw [List.foldl_cons, outboxRest, selfNodeRest, outbox, selfNode, List.map_cons, List.map_cons,
        List.append_assoc]
      exact ⟨rfl, rfl⟩

/-- The target block of the interpreter queues one message for each target of the control. -/
theorem sendTarget_outbox (steps : Nat) (target : RemoteTarget) (targetService : String)
    (payload : V) (ctx : ActorContext V) :
    (sendTarget host incoming peers steps target targetService payload ctx).outbox =
        ctx.outbox ++ (controlTargets host ctx.selfNode peers (host.uuidParse incoming.fromNode)
          targetService target).map (fun target => ⟨target, payload, steps⟩) ∧
      (sendTarget host incoming peers steps target targetService payload ctx).selfNode =
        ctx.selfNode := by
  cases target with
  | peers =>
      unfold sendTarget controlTargets
      dsimp only
      split
      · exact ⟨rfl, rfl⟩
      · exact sendNodes_outbox steps targetService payload (sortedPeerIds peers) ctx
  | sender =>
      simp only [sendTarget, controlTargets]
      cases host.uuidParse incoming.fromNode with
      | none => exact ⟨(List.append_nil _).symm, rfl⟩
      | some node => exact sendNode_outbox steps targetService payload ctx node
  | node raw =>
      simp only [sendTarget, controlTargets]
      cases host.uuidParse raw with
      | none => exact ⟨(List.append_nil _).symm, rfl⟩
      | some node => exact sendNode_outbox steps targetService payload ctx node

variable (lawful : host.Lawful)

include lawful

/-- A message that is built carries its type and this node. -/
theorem letterOf_outboundPayload (message template : String) (exec : Execution V) :
    letterOf host (outboundPayload host service incomingMsgId incoming message template exec) =
      some ⟨message, some exec.ctx.selfNode⟩ := by
  unfold letterOf decodeMsg outboundPayload encodeMsg
  dsimp only
  rw [lawful.fromValue_toValue _ (buildOutboundMessage_representable host _ _ _ _ _ _)]
  simp only [Option.map_some, buildOutboundMessage, lawful.parse_toString]

/-- The step lemma: one action in the interpreter and in the control. -/
theorem executeAction_control (action : ActionDecl) {exec : Execution V} {control : Control}
    (controls : Controls host selfNode exec control) :
    Option.Rel (Controls host selfNode)
      (executeAction host service incomingMsgId incoming peers action exec).toOption
      (controlAction host selfNode peers (host.uuidParse incoming.fromNode) action control) := by
  have built (message template : String) (effect : HandlerEffect) :
      letterOf host (outboundPayload host service incomingMsgId incoming message template
        (observe effect exec)) = some ⟨message, some selfNode⟩ := by
    rw [letterOf_outboundPayload lawful, (controls.observe effect).selfNode]
  induction action generalizing exec with
  | log template => exact .some ⟨controls.state, controls.posts, controls.selfNode⟩
  | setState key value =>
      simp only [executeAction, controlAction, (controls.observe .stateWrite).state]
      cases control.state.lookup key with
      | none => exact .none
      | some current => exact .some ⟨rfl, controls.posts, controls.selfNode⟩
  | incState key amount =>
      simp only [executeAction, controlAction, (controls.observe .stateWrite).state]
      cases control.state.lookup key with
      | none => exact .none
      | some current =>
          simp only [Option.bind_some]
          cases checkedAdd current amount with
          | none => exact .none
          | some value => exact .some ⟨rfl, controls.posts, controls.selfNode⟩
  | timerLocal steps targetService message template =>
      have letters := built message template .timerLocal
      exact .some (controls.send letters steps [.localService targetService] rfl rfl rfl)
  | timerRemote steps target targetService message template =>
      have letters := built message template .timerRemote
      obtain ⟨queued, same⟩ := @sendTarget_outbox _ host incoming peers steps target targetService
        (outboundPayload host service incomingMsgId incoming message template
          (observe .timerRemote exec)) exec.ctx
      rw [controls.selfNode] at queued
      exact .some (controls.send letters steps _ rfl same queued)
  | sendLocal targetService message template =>
      have letters := built message template .sendLocal
      exact .some (controls.send letters 0 [.localService targetService] rfl rfl rfl)
  | sendRemote target targetService message template =>
      have letters := built message template .sendRemote
      obtain ⟨queued, same⟩ := @sendTarget_outbox _ host incoming peers 0 target targetService
        (outboundPayload host service incomingMsgId incoming message template
          (observe .sendRemote exec)) exec.ctx
      rw [controls.selfNode] at queued
      exact .some (controls.send letters 0 _ rfl same queued)
  | ifStateEq key value thenAction ih =>
      have observed := controls.observe .stateRead
      simp only [executeAction, controlAction, observed.state]
      cases control.state.lookup key with
      | none => exact .none
      | some current =>
          simp only [Option.bind_some]
          split
          · refine ih observed fun message template effect => ?_
            rw [letterOf_outboundPayload lawful, (observed.observe effect).selfNode]
          · exact .some observed

theorem executeAll_control (actions : List ActionDecl) {exec : Execution V} {control : Control}
    (controls : Controls host selfNode exec control) :
    Option.Rel (Controls host selfNode)
      (executeAll host service incomingMsgId incoming peers actions exec).toOption
      (controlAll host selfNode peers (host.uuidParse incoming.fromNode) actions control) := by
  induction actions generalizing exec control with
  | nil => exact .some controls
  | cons action rest ih =>
      have step := @executeAction_control _ host selfNode service incomingMsgId incoming peers lawful
        action exec control controls
      rw [executeAll, controlAll, List.foldlM_cons]
      cases ran : executeAction host service incomingMsgId incoming peers action exec with
      | error error =>
          rw [ran] at step
          cases steered : controlAction host selfNode peers (host.uuidParse incoming.fromNode) action
              control with
          | none => exact .none
          | some control' =>
              rw [steered] at step
              cases step
      | ok exec' =>
          rw [ran] at step
          cases steered : controlAction host selfNode peers (host.uuidParse incoming.fromNode) action
              control with
          | none =>
              rw [steered] at step
              cases step
          | some control' =>
              rw [steered] at step
              cases step with
              | some controls' => exact ih controls'

/-- What control knows of an executed handler. -/
structure Steered (host : Host V) (executed : Executed V) (control : Control) : Prop where
  state : executed.state = control.state
  posts : executed.ctx.outbox.map (Outgoing.posted host) = control.posts.map Post.sealed

/-- The interpreter fails where the control does, and otherwise refines it. -/
theorem executeActions_control (program : Program) (state : StateMap) :
    Option.Rel (Steered host)
      (executeActions host service incomingMsgId incoming peers program state
        (.new selfNode)).toOption
      (controlActions host selfNode peers program service
        ⟨incoming.msgType, host.uuidParse incoming.fromNode⟩ state) := by
  unfold executeActions controlActions
  cases program.handlers.lookup (service, incoming.msgType) with
  | none => exact .some ⟨rfl, rfl⟩
  | some plan =>
      have start : Controls host selfNode ⟨state, .new selfNode, ∅⟩ ⟨state, []⟩ := ⟨rfl, rfl, rfl⟩
      have runs := @executeAll_control _ host selfNode service incomingMsgId incoming peers lawful
        plan.actions _ _ start
      dsimp only
      cases ran : executeAll host service incomingMsgId incoming peers plan.actions
          ⟨state, .new selfNode, ∅⟩ with
      | error error =>
          rw [ran] at runs
          generalize controlAll host selfNode peers _ plan.actions ⟨state, []⟩ = steered at runs ⊢
          cases runs
          exact .none
      | ok exec =>
          rw [ran] at runs
          generalize controlAll host selfNode peers _ plan.actions ⟨state, []⟩ = steered at runs ⊢
          cases runs with
          | some controls => exact .some ⟨controls.state, controls.posts⟩

end Refinement

end UcoStack.Runtime
