import UcoStack.System.Ancestry
import UcoStack.Tool.ClusterSpec

/-!
# Envelopes on the network

The network never holds two envelopes of one message: what a node handed to it are
envelopes of different messages the node produced.  As every envelope arrives at most
once, the messages a node receives or drops are pairwise different too.
-/

namespace UcoStack.System

open UcoStack.Runtime UcoStack.Tool StateRun

/-! ## Envelopes of one node -/

section Envelopes

variable {V : Type} {host : Host V} {site : Site} {Source : MsgId × V → Prop} {core : Core V}

/-- Sender and message id of an envelope. -/
def messageKey (env : WireEnvelope V) : NodeId × MsgId := (env.fromNode, env.msgId)

/-- The envelopes of the messages a node produced. -/
def dispatched (core : Core V) : List (WireEnvelope V) := core.history.filterMap Produced.envelope

theorem Grounded.dispatched (grounded : Grounded host site Source core) {env : WireEnvelope V}
    (member : env ∈ dispatched core) :
    env.fromNode = site.nodeId ∧ ∃ made ∈ core.history, made.envelope = some env ∧
      env.msgId = made.msgId ∧ env.payload = made.payload := by
  obtain ⟨made, produced, travels⟩ := List.mem_filterMap.mp member
  obtain ⟨sender, msgId, payload⟩ := (grounded.history made produced).envelope travels
  exact ⟨sender, made, produced, travels, msgId, payload⟩

/-- The message ids of the envelopes are among those of the messages, in order. -/
theorem Grounded.dispatched_msgIds (grounded : Grounded host site Source core) :
    ((System.dispatched core).map WireEnvelope.msgId).Sublist
      (core.history.map Produced.msgId) := by
  have travels : ∀ made ∈ core.history, ∀ env, made.envelope = some env →
      env.msgId = made.msgId := fun made produced env envelope =>
    ((grounded.history made produced).envelope envelope).2.1
  unfold System.dispatched
  generalize core.history = history at travels ⊢
  induction history with
  | nil => exact List.Sublist.refl _
  | cons made rest ih =>
      have others := ih fun other produced => travels other (List.mem_cons_of_mem made produced)
      rw [List.filterMap_cons]
      cases envelope : made.envelope with
      | none => exact others.cons _
      | some env =>
          rw [List.map_cons, travels made List.mem_cons_self env envelope]
          exact others.cons_cons _

/-- An envelope as the cluster verifier reads it. -/
def envelopeItem (env : WireEnvelope V) : ClusterKey × V :=
  ((env.fromNode, env.msgId, env.toNode), env.payload)

variable {Wire : WireEnvelope V → Prop} {entryActor : ActorId}

theorem routeOutgoing_item {fromActor : ActorId} {target : Target} {payload : V}
    {cause : MsgId × V} {before : Core V} {dispatched : Dispatched V}
    (routed : routeOutgoing site fromActor target payload cause before = .ok dispatched) :
    (sentMessage dispatched.event).toList = (dispatched.envelope.map envelopeItem).toList := by
  rcases (routeOutgoing_ok site).mp routed with ⟨_, _, _, _, _, _, rfl⟩ | ⟨_, _, _, _, _, rfl⟩
  · rfl
  · rfl

/-- An operation leaves a `NetSend` for each envelope it dispatches. -/
theorem CoreOp.netSends {final : Core V} {kinds : List (EventKind V)}
    (op : CoreOp host site Wire entryActor core kinds final) :
    ∃ made, final.history = core.history ++ made ∧
      kinds.filterMap sentMessage = (made.filterMap Produced.envelope).map envelopeItem := by
  have single (kind : EventKind V) : [kind].filterMap sentMessage = (sentMessage kind).toList := by
    cases h : sentMessage kind <;> simp [h]
  have one (made : Produced V) : ([made].filterMap Produced.envelope).map envelopeItem =
      (made.envelope.map envelopeItem).toList := by
    cases h : made.envelope <;> simp [h]
  cases op with
  | note event isNote =>
      refine ⟨[], (List.append_nil _).symm, ?_⟩
      cases event <;> first | rfl | exact isNote.elim
  | receive env arrived =>
      refine ⟨[], ?_, rfl⟩
      rw [List.append_nil]
      unfold Core.receive
      split
      · rfl
      · rfl
  | pop receiver actor message rest found inbox => exact ⟨[], (List.append_nil _).symm, rfl⟩
  | write id actor state found keys => exact ⟨[], (List.append_nil _).symm, rfl⟩
  | schedule step actorId cause out delivered answers =>
      exact ⟨[], (List.append_nil _).symm, rfl⟩
  | send fromActor target payload cause dispatched delivered answers routed =>
      refine ⟨_, (routeOutgoing_routed routed).history, ?_⟩
      rw [single, one]
      exact routeOutgoing_item routed
  | setTimers timers fewer => exact ⟨[], (List.append_nil _).symm, rfl⟩
  | fire timer rest dispatched split routed =>
      refine ⟨_, (routeOutgoing_routed routed).history, ?_⟩
      rw [List.filterMap_cons_none rfl, single, one]
      exact routeOutgoing_item routed
  | bootstrap index actor msgId payload allocated allocates encoded found =>
      cases allocates
      exact ⟨_, rfl, rfl⟩

theorem coreRun_netSends {final : Core V} {kinds : List (EventKind V)}
    (nothing : core.history = [])
    (run : Run (CoreOp host site Wire entryActor) core kinds final) :
    kinds.filterMap sentMessage = (dispatched final).map envelopeItem := by
  have keeps (past : List (EventKind V)) (middle : Core V) (labels : List (EventKind V))
      (next : Core V) (before : past.filterMap sentMessage = (dispatched middle).map envelopeItem)
      (op : CoreOp host site Wire entryActor middle labels next) :
      (past ++ labels).filterMap sentMessage = (dispatched next).map envelopeItem := by
    obtain ⟨made, history, items⟩ := CoreOp.netSends op
    unfold System.dispatched at before ⊢
    rw [List.filterMap_append, before, items, history, List.filterMap_append, List.map_append]
  have start : ([] : List (EventKind V)).filterMap sentMessage =
      (dispatched core).map envelopeItem := by
    unfold System.dispatched
    rw [nothing]
    rfl
  exact Run.history keeps start run

end Envelopes

/-! ## All nodes -/

section Network

variable {ι V : Type} [Fintype ι] [DecidableEq ι] [DecidableEq V] {host : Host V}
  {program : Program} {cfgs : ι → Config} {c c' : Cluster ι V}

/-- The envelopes on the network that come from one node were dispatched there, in order. -/
def Cluster.SentInOrder (cfgs : ι → Config) (c : Cluster ι V) : Prop :=
  ∀ i, (c.sent.filter fun env => env.fromNode = (cfgs i).nodeId).Sublist (dispatched (c.core i))

/-- What holds of every reachable cluster beside its cores. -/
structure Sending (cfgs : ι → Config) (c : Cluster ι V) : Prop where
  inOrder : c.SentInOrder cfgs
  seq : ∀ i, (c.process i).state.seq ≤ u64Max

omit [Fintype ι] [DecidableEq ι] [DecidableEq V] in
theorem Process.launch_seq (host : Host V) (program : Program) (cfg : Config) :
    (Process.launch host program cfg).state.seq ≤ u64Max := by
  unfold Process.launch
  cases Runtime.launch host program cfg with
  | ok launched => exact Nat.zero_le _
  | error error => exact Nat.zero_le _

theorem Reachable.sending (accepted : Accepted host program)
    (distinct : Function.Injective fun i => (cfgs i).nodeId)
    (reached : Reachable host program cfgs c) : Sending cfgs c := by
  induction reached with
  | initial => exact ⟨fun i => List.nil_sublist _, fun i => Process.launch_seq host program (cfgs i)⟩
  | @step c c' reached next ih =>
      have backed := (reached.simulated accepted).backed
      have after := ((reached.step next).simulated accepted).sound
      obtain ⟨i, process, batch, rfl, advances⟩ := reached.advances accepted backed next
      obtain ⟨made, sent, history, outgoing, only⟩ := advances.sends
      have newest : dispatched process.core = dispatched (c.core i) ++
          made.filterMap Produced.envelope := by
        unfold dispatched
        change process.state.core.history.filterMap _ = (c.process i).state.core.history.filterMap _
          ++ _
        rw [history, List.filterMap_append]
      have here : (c.advance i process batch).core i = process.core := by
        rw [Cluster.advance_core, Function.update_self]
      have fromHere : ∀ env ∈ sent, env.fromNode = (cfgs i).nodeId := by
        intro env member
        have dispatchedHere : env ∈ dispatched ((c.advance i process batch).core i) := by
          rw [here, newest]
          exact List.mem_append_right _ (only.subset member)
        rw [← (sitesOf_eq host program cfgs i).2]
        exact ((after.grounded i).dispatched dispatchedHere).1
      have onNetwork : (c.advance i process batch).sent = c.sent ++ sent := by
        change c.sent ++ _ = _
        rw [outgoing, List.drop_left]
      constructor
      · intro j
        rw [onNetwork, List.filter_append]
        by_cases same : j = i
        · subst same
          have all : (sent.filter fun env => env.fromNode = (cfgs j).nodeId) = sent :=
            List.filter_eq_self.mpr fun env member => decide_eq_true (fromHere env member)
          rw [all, here, newest]
          exact (ih.inOrder j).append only
        · have none : (sent.filter fun env => env.fromNode = (cfgs j).nodeId) = [] := by
            refine List.filter_eq_nil_iff.mpr fun env member => ?_
            rw [fromHere env member, decide_eq_true_iff]
            exact fun equal => same (distinct equal).symm
          rw [none, List.append_nil, Cluster.advance_core, Function.update_of_ne same]
          exact ih.inOrder j
      · intro j
        by_cases same : j = i
        · subst same
          rw [Cluster.advance_process_self]
          exact advances.seq (ih.seq j)
        · rw [Cluster.advance_process_of_ne _ same]
          exact ih.seq j

variable (host program cfgs c) in
/-- What holds of a cluster whose nodes have different ids and enough message numbers. -/
structure Orderly : Prop where
  sound : Sound host (sitesOf host program cfgs) c.core
  distinct : Distinct (sitesOf host program cfgs) c.core
  backed : c.Backed
  sending : Sending cfgs c

theorem Reachable.orderly (accepted : Accepted host program)
    (distinct : Function.Injective fun i => (cfgs i).nodeId)
    (reached : Reachable host program cfgs c)
    (few : ∀ i, (c.core i).history.length < u64Max) : Orderly host program cfgs c where
  sound := (reached.simulated accepted).sound
  distinct := .of_configs distinct fun i => Nat.le_of_lt (few i)
  backed := (reached.simulated accepted).backed
  sending := reached.sending accepted distinct

omit [DecidableEq ι] [DecidableEq V] in
/-- Every envelope on the network was dispatched by its sender. -/
theorem Orderly.dispatched (orderly : Orderly host program cfgs c) {env : WireEnvelope V}
    (onNetwork : env ∈ c.sent) :
    ∃ i, env ∈ dispatched (c.core i) ∧ env.fromNode = (cfgs i).nodeId := by
  obtain ⟨i, made, produced, travels⟩ := orderly.backed env onNetwork
  have member : env ∈ System.dispatched (c.core i) :=
    List.mem_filterMap.mpr ⟨made, produced, travels⟩
  refine ⟨i, member, ?_⟩
  rw [← (sitesOf_eq host program cfgs i).2]
  exact ((orderly.sound.grounded i).dispatched member).1

omit [DecidableEq ι] [DecidableEq V] in
/-- No two envelopes on the network belong to the same message. -/
theorem Orderly.sent_nodup (orderly : Orderly host program cfgs c) :
    (c.sent.map messageKey).Nodup := by
  classical
  rw [List.nodup_iff_count_le_one]
  rintro ⟨node, msgId⟩
  by_cases absent : (node, msgId) ∉ c.sent.map messageKey
  · rw [List.count_eq_zero.mpr absent]
    exact Nat.zero_le 1
  · obtain ⟨env, onNetwork, key⟩ := List.mem_map.mp (not_not.mp absent)
    obtain ⟨i, _, sender⟩ := orderly.dispatched onNetwork
    have node_eq : node = (cfgs i).nodeId := (Prod.mk.inj key).1.symm.trans sender
    have counted : (c.sent.map messageKey).count (node, msgId) =
        ((c.sent.filter fun env => env.fromNode = (cfgs i).nodeId).map WireEnvelope.msgId).count
          msgId := by
      rw [List.count, List.count, List.countP_map, List.countP_map, List.countP_filter]
      refine List.countP_congr fun other _ => ?_
      simp only [messageKey, Function.comp_apply, beq_iff_eq, Prod.mk.injEq, Bool.and_eq_true,
        decide_eq_true_eq, ← node_eq]
      exact and_comm
    have fresh := (orderly.sound.numbered i).msgIds_nodup (orderly.distinct.few i)
    have sublist := ((orderly.sending.inOrder i).map WireEnvelope.msgId).trans
      (orderly.sound.grounded i).dispatched_msgIds
    rw [counted]
    exact List.nodup_iff_count_le_one.mp (fresh.sublist sublist) msgId

/-- The network messages that arrived at one node are pairwise different. -/
theorem Orderly.arrived_nodup (orderly : Orderly host program cfgs c)
    (reached : Reachable host program cfgs c) (i : ι) :
    ((c.arrived i).map messageKey).Nodup := by
  obtain ⟨part, perm, sublist⟩ := reached.arrived_once i
  rw [← (perm.map messageKey).nodup_iff]
  exact orderly.sent_nodup.sublist (sublist.map messageKey)

theorem Orderly.arrivedKeys_nodup (orderly : Orderly host program cfgs c)
    (reached : Reachable host program cfgs c) (i : ι) : (envKeys (c.arrived i)).Nodup := by
  have arrived := orderly.arrived_nodup reached i
  have same : (c.arrived i).map messageKey =
      (envKeys (c.arrived i)).map fun key => (key.1, key.2.2) := by
    unfold envKeys
    rw [List.map_map]
    rfl
  rw [same] at arrived
  exact arrived.of_map

end Network

end UcoStack.System
