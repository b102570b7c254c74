import UcoStack.System.LocalAcceptance
import UcoStack.Tool.ClusterMeaning

/-!
# Network evidence of a drained cluster

A `NetSend` stands for an envelope that its sender dispatched, a `NetRecv` or a drop
for one that arrived.  When every dispatched envelope has arrived and is no longer
held back, each `NetSend` to a node of the cluster has exactly one counterpart.
-/

namespace UcoStack.System

open UcoStack.Runtime UcoStack.Tool

/-! ## One trace -/

section Traces

variable {V : Type} {tool : ToolHost V} {program : Program} {cfg : Config}
  {arrived : List (WireEnvelope V)} {st : MainState V} {kinds : List (EventKind V)}

/-- Sender and message id of the received network messages. -/
def recvMessages (kinds : List (EventKind V)) : List (NodeId × MsgId) :=
  (recvKeys kinds).map fun key => (key.1, key.2.1)

def dropMessages (kinds : List (EventKind V)) : List (NodeId × MsgId) :=
  (dropKeys kinds).map fun key => (key.1, key.2.1)

/-- A network message is used up by its reception or by its drop. -/
theorem takenKeys_messages (kinds : List (EventKind V)) :
    ((takenKeys kinds).map fun key => (key.1, key.2.2)).Perm
      (recvMessages kinds ++ dropMessages kinds) := by
  induction kinds with
  | nil => exact List.Perm.refl _
  | cons kind rest ih =>
      cases kind with
      | netRecv node fromNode receiver msgId payload => exact ih.cons (fromNode, msgId)
      | faultInjected node fromNode receiver msgId action =>
          cases action with
          | drop => exact (ih.cons (fromNode, msgId)).trans List.perm_middle.symm
          | _ => exact ih
      | _ => exact ih

/-- What arrived is still held, was received or was dropped. -/
theorem NodeTrace.messages (trace : NodeTrace tool program cfg arrived st kinds) :
    (arrived.map messageKey).Perm
      (st.injector.held.map messageKey ++ (recvMessages kinds ++ dropMessages kinds)) := by
  have balance : (envKeys arrived).Perm (envKeys st.injector.held ++ takenKeys kinds) := by
    rw [List.perm_iff_count]
    intro key
    rw [List.count_append]
    exact trace.taken key
  have keys (envs : List (WireEnvelope V)) :
      (envKeys envs).map (fun key => (key.1, key.2.2)) = envs.map messageKey := by
    unfold envKeys
    rw [List.map_map]
    rfl
  have projected := balance.map fun key => (key.1, key.2.2)
  rw [List.map_append, keys, keys] at projected
  exact projected.trans ((takenKeys_messages kinds).append_left _)

/-- All events are of one node. -/
theorem NodeTrace.node (trace : NodeTrace tool program cfg arrived st kinds)
    {kind : EventKind V} (member : kind ∈ kinds) {node : NodeId}
    (isLocal : eventLocalNode kind = some node) : node = cfg.nodeId := by
  obtain ⟨rest, rfl, shaped⟩ := trace.spawned
  have own : eventLocalNode kind = none ∨ eventLocalNode kind = some cfg.nodeId := by
    rcases List.mem_append.mp member with spawn | later
    · rcases List.mem_cons.mp spawn with rfl | service
      · exact .inr rfl
      · obtain ⟨_, _, rfl⟩ := List.mem_map.mp service
        exact .inr rfl
    · exact (shaped.names kind later).node
  rw [isLocal] at own
  rcases own with none | same
  · cases none
  · exact Option.some.inj same

theorem NodeTrace.spawn_mem (trace : NodeTrace tool program cfg arrived st kinds) :
    .spawn cfg.nodeId (systemActorId tool.toHost) "System" ∈ kinds := by
  obtain ⟨rest, rfl, _⟩ := trace.spawned
  exact List.mem_append_left _ List.mem_cons_self

theorem NodeTrace.traceNodes (trace : NodeTrace tool program cfg arrived st kinds)
    (path : String) : (traceNodes ⟨path, stamp 0 kinds⟩).length = 1 := by
  have nodes : ((stamp 0 kinds).filterMap fun ev => eventLocalNode ev.kind).toFinset =
      {cfg.nodeId} := by
    have kindsOnly : (stamp 0 kinds).filterMap (fun ev => eventLocalNode ev.kind) =
        kinds.filterMap eventLocalNode := by
      conv_rhs => rw [← stamp_kind 0 kinds, List.filterMap_map]
      rfl
    rw [kindsOnly]
    ext node
    rw [List.mem_toFinset, List.mem_filterMap, Finset.mem_singleton]
    constructor
    · rintro ⟨kind, member, isLocal⟩
      exact trace.node member isLocal
    · rintro rfl
      exact ⟨_, trace.spawn_mem, rfl⟩
  unfold Tool.traceNodes
  rw [← List.card_toFinset, nodes]
  rfl

/-- A receive in the trace is of an envelope that arrived. -/
theorem NodeTrace.received (trace : NodeTrace tool program cfg arrived st kinds)
    {item : ClusterKey × V} (member : item ∈ kinds.filterMap receivedMessage) :
    ∃ env ∈ arrived, item = envelopeItem env := by
  obtain ⟨kind, inKinds, found⟩ := List.mem_filterMap.mp member
  cases kind with
  | netRecv node fromNode receiver msgId payload =>
      cases found
      let env : WireEnvelope V := ⟨fromNode, node, receiver, msgId, payload⟩
      exact ⟨env, trace.source env (.inr inKinds), rfl⟩
  | _ => cases found

theorem NodeTrace.recv_node (trace : NodeTrace tool program cfg arrived st kinds)
    {key : ClusterKey} (member : key ∈ recvKeys kinds) : key.2.2 = cfg.nodeId := by
  obtain ⟨kind, inKinds, found⟩ := List.mem_filterMap.mp member
  cases kind with
  | netRecv =>
      cases found
      exact trace.node inKinds rfl
  | _ => cases found

theorem NodeTrace.drop_node (trace : NodeTrace tool program cfg arrived st kinds)
    {key : ClusterKey} (member : key ∈ dropKeys kinds) : key.2.2 = cfg.nodeId := by
  obtain ⟨kind, inKinds, found⟩ := List.mem_filterMap.mp member
  cases kind with
  | faultInjected node fromNode receiver msgId action =>
      cases action with
      | drop =>
          cases found
          exact trace.node inKinds rfl
      | _ => cases found
  | _ => cases found

theorem sendKeys_eq (trace : NodeTrace tool program cfg arrived st kinds) :
    sendKeys kinds = (dispatched st.core).map fun env => (envelopeItem env).1 := by
  have keys : sendKeys kinds = (kinds.filterMap sentMessage).map Prod.fst :=
    List.map_filterMap.symm
  rw [keys, trace.sends, List.map_map]
  rfl

/-! ### Each message once -/

section Once

variable (trace : NodeTrace tool program cfg arrived st kinds)
  (once : (arrived.map messageKey).Nodup) (addressed : ∀ env ∈ arrived, env.toNode = cfg.nodeId)

include trace once

/-- No message is both received and dropped, and none twice. -/
theorem NodeTrace.taken_nodup : (recvMessages kinds ++ dropMessages kinds).Nodup :=
  (trace.messages.nodup_iff.mp once).of_append_right

theorem NodeTrace.recvKeys_nodup : (recvKeys kinds).Nodup :=
  (trace.taken_nodup once).of_append_left.of_map

theorem NodeTrace.dropKeys_nodup : (dropKeys kinds).Nodup :=
  (trace.taken_nodup once).of_append_right.of_map

theorem NodeTrace.recv_not_drop {key : ClusterKey} (recv : key ∈ recvKeys kinds) :
    key ∉ dropKeys kinds := by
  intro drop
  exact List.disjoint_of_nodup_append (trace.taken_nodup once)
    (List.mem_map_of_mem recv) (List.mem_map_of_mem drop)

include addressed

omit once in
/-- A drop in the trace is of an envelope that arrived. -/
theorem NodeTrace.dropped {key : ClusterKey} (member : key ∈ dropKeys kinds) :
    ∃ env ∈ arrived, key = (envelopeItem env).1 := by
  have message : (key.1, key.2.1) ∈ arrived.map messageKey := by
    rw [trace.messages.mem_iff]
    exact List.mem_append_right _ (List.mem_append_right _ (List.mem_map_of_mem member))
  obtain ⟨env, inArrived, same⟩ := List.mem_map.mp message
  obtain ⟨sender, msgId⟩ := Prod.mk.inj same
  refine ⟨env, inArrived, ?_⟩
  refine Prod.ext sender.symm (Prod.ext msgId.symm ?_)
  exact (trace.drop_node member).trans (addressed env inArrived).symm

/-- What arrived and is no longer held left its evidence. -/
theorem NodeTrace.evidence {env : WireEnvelope V} (inArrived : env ∈ arrived)
    (released : env ∉ st.injector.held) :
    (envelopeItem env).1 ∈ recvKeys kinds ∨ (envelopeItem env).1 ∈ dropKeys kinds := by
  have identify {keys : List ClusterKey} (own : ∀ key ∈ keys, key.2.2 = cfg.nodeId)
      (member : messageKey env ∈ keys.map fun key => (key.1, key.2.1)) :
      (envelopeItem env).1 ∈ keys := by
    obtain ⟨key, inKeys, same⟩ := List.mem_map.mp member
    obtain ⟨sender, msgId⟩ := Prod.mk.inj same
    have whole : key = (envelopeItem env).1 := by
      refine Prod.ext sender (Prod.ext msgId ?_)
      exact (own key inKeys).trans (addressed env inArrived).symm
    rwa [← whole]
  have message : messageKey env ∈ st.injector.held.map messageKey ++
      (recvMessages kinds ++ dropMessages kinds) :=
    trace.messages.mem_iff.mp (List.mem_map_of_mem inArrived)
  rcases List.mem_append.mp message with held | taken
  · obtain ⟨other, inHeld, same⟩ := List.mem_map.mp held
    obtain rfl := List.inj_on_of_nodup_map once (trace.source other (.inl inHeld)) inArrived same
    exact absurd inHeld released
  · rcases List.mem_append.mp taken with recv | drop
    · exact .inl (identify (fun key member => trace.recv_node member) recv)
    · exact .inr (identify (fun key member => trace.drop_node member) drop)

end Once

end Traces

end UcoStack.System
