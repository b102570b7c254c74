import UcoStack.System.NetworkEvidence
import UcoStack.Tool.LineageIndex

/-!
# The cluster verifier accepts drained clusters

In a cluster whose nodes have all finished, and which has nothing left on the network
or held back, the traces of all nodes together show every message from both ends.  The
parent of a delivered message was delivered where the message was made, so the traces
also hold the record that its lineage refers to.
-/

namespace UcoStack.System

open UcoStack.Runtime UcoStack.Tool

/-! ## The traces of a cluster -/

section Clusters

variable {ι V : Type}

/-- Lists of which no two share an item. -/
theorem nodup_flatMap_of_apart {α : Type} {parts : ι → List α}
    (apart : ∀ i j item, item ∈ parts i → item ∈ parts j → i = j)
    (each : ∀ i, (parts i).Nodup) {order : List ι} (nodup : order.Nodup) :
    (order.flatMap parts).Nodup := by
  refine List.nodup_flatMap.mpr ⟨fun i _ => each i, nodup.imp ?_⟩
  exact fun different item inFirst inSecond => different (apart _ _ item inFirst inSecond)

/-- All nodes ended without error. -/
def Cluster.Ended (cfgs : ι → Config) (c : Cluster ι V) : Prop :=
  ∀ i, c.Finished cfgs i (c.process i).state

/-- If the envelope is for a node of the cluster, that node has ingested it and no
longer holds it back. -/
def Cluster.Ingested (cfgs : ι → Config) (c : Cluster ι V) (env : WireEnvelope V) : Prop :=
  ∀ i, env.toNode = (cfgs i).nodeId →
    env ∈ c.arrived i ∧ env ∉ (c.process i).state.injector.held

/-- Every envelope that some node sent to a node of the cluster was ingested.  One that
never got to the network, for want of an address, was not. -/
def Cluster.Drained (cfgs : ι → Config) (c : Cluster ι V) : Prop :=
  ∀ j, ∀ env ∈ dispatched (c.core j), c.Ingested cfgs env

instance [Fintype ι] [DecidableEq V] (cfgs : ι → Config) (c : Cluster ι V) :
    DecidablePred (c.Ingested cfgs) := fun env =>
  inferInstanceAs (Decidable (∀ i, env.toNode = (cfgs i).nodeId →
    env ∈ c.arrived i ∧ env ∉ (c.process i).state.injector.held))

instance [Fintype ι] [DecidableEq V] (cfgs : ι → Config) (c : Cluster ι V) :
    Decidable (c.Drained cfgs) :=
  inferInstanceAs (Decidable (∀ j, ∀ env ∈ dispatched (c.core j), c.Ingested cfgs env))

/-- The traces of the nodes, in some order and under some paths. -/
def nodeTraces (order : List ι) (path : ι → String) (events : ι → List (TraceEvent V)) :
    List (ClusterTrace V) :=
  order.map fun i => ⟨path i, events i⟩

theorem clusterKinds_nodeTraces (order : List ι) (path : ι → String)
    (kinds : ι → List (EventKind V)) :
    clusterKinds (nodeTraces order path fun i => stamp 0 (kinds i)) = order.flatMap kinds := by
  unfold clusterKinds nodeTraces
  rw [List.flatMap_map]
  refine List.flatMap_congr fun i _ => ?_
  exact kindsOf_stamp 0 (kinds i)

theorem nodeTraces_lineage {tool : ToolHost V} {order : List ι} (path : ι → String)
    {kinds : ι → List (EventKind V)} {key : LineageKey} {item : LineageRecord} :
    (key, item) ∈ clusterLineage tool (nodeTraces order path fun i => stamp 0 (kinds i)) ↔
      ∃ i ∈ order, (buildLineageIndex tool (stamp 0 (kinds i))).lookup key = some item := by
  unfold clusterLineage nodeTraces
  rw [List.flatMap_map, List.mem_flatMap]
  refine exists_congr fun i => and_congr_right fun _ => ?_
  rw [List.mem_map]
  constructor
  · rintro ⟨entry, stored, same⟩
    cases same
    exact AList.mem_lookup_iff.mpr stored
  · exact fun found => ⟨⟨key, item⟩, AList.mem_lookup_iff.mp found, rfl⟩

variable [Fintype ι]

/-- A cluster whose nodes have written their traces. -/
structure Written (tool : ToolHost V) (program : Program) (cfgs : ι → Config) (c : Cluster ι V)
    (kinds : ι → List (EventKind V)) : Prop where
  orderly : Orderly tool.toHost program cfgs c
  nodes : Function.Injective fun i => (cfgs i).nodeId
  traces : ∀ i, NodeTrace tool program (cfgs i) (c.arrived i) (c.process i).state (kinds i)
  arrivedOnce : ∀ i, ((c.arrived i).map messageKey).Nodup
  addressed : ∀ i, ∀ env ∈ c.arrived i, env.toNode = (cfgs i).nodeId
  onNetwork : ∀ i, c.arrived i ⊆ c.sent

variable {tool : ToolHost V} {program : Program} {cfgs : ι → Config} {c : Cluster ι V}
  {kinds : ι → List (EventKind V)}

theorem Orderly.written [DecidableEq ι] [DecidableEq V]
    (orderly : Orderly tool.toHost program cfgs c)
    (nodes : Function.Injective fun i => (cfgs i).nodeId)
    (accepted : Accepted tool.toHost program) (reached : Reachable tool.toHost program cfgs c)
    (ended : c.Ended cfgs) : ∃ kinds, Written tool program cfgs c kinds := by
  choose kinds traces using fun i => orderly.nodeTrace accepted reached (ended i)
  exact ⟨kinds, orderly, nodes, traces, orderly.arrived_nodup reached, reached.arrived_addressed,
    fun i => (reached.arrived_once i).subset⟩

end Clusters

/-! ## Network messages -/

section Messages

variable {ι V : Type} [Fintype ι] {tool : ToolHost V} {program : Program} {cfgs : ι → Config}
  {c : Cluster ι V} {kinds : ι → List (EventKind V)}

variable (written : Written tool program cfgs c kinds) {order : List ι}
  (complete : ∀ i, i ∈ order)

include written

theorem Written.dispatched_from {i : ι} {env : WireEnvelope V}
    (member : env ∈ dispatched (c.core i)) : env.fromNode = (cfgs i).nodeId := by
  rw [← (sitesOf_eq tool.toHost program cfgs i).2]
  exact ((written.orderly.sound.grounded i).dispatched member).1

/-- A `NetSend` of a node stands for an envelope it dispatched. -/
theorem Written.sendKeys_mem {i : ι} {key : ClusterKey} :
    key ∈ sendKeys (kinds i) ↔ ∃ env ∈ dispatched (c.core i), (envelopeItem env).1 = key := by
  rw [sendKeys_eq (written.traces i), List.mem_map]
  rfl

theorem Written.sendKeys_nodup (i : ι) : (sendKeys (kinds i)).Nodup := by
  have fresh : ((dispatched (c.core i)).map WireEnvelope.msgId).Nodup :=
    ((written.orderly.sound.numbered i).msgIds_nodup (written.orderly.distinct.few i)).sublist
      (written.orderly.sound.grounded i).dispatched_msgIds
  have ids : (dispatched (c.core i)).map WireEnvelope.msgId =
      (sendKeys (kinds i)).map fun key => key.2.1 := by
    rw [sendKeys_eq (written.traces i), List.map_map]
    rfl
  rw [ids] at fresh
  exact fresh.of_map

include complete

/-- What arrived is recorded by its sender. -/
theorem Written.arrived_sent {i : ι} {env : WireEnvelope V} (arrived : env ∈ c.arrived i) :
    envelopeItem env ∈ (order.flatMap kinds).filterMap sentMessage := by
  obtain ⟨j, member, _⟩ := written.orderly.dispatched (written.onNetwork i arrived)
  have recorded : envelopeItem env ∈ (kinds j).filterMap sentMessage := by
    rw [(written.traces j).sends]
    exact List.mem_map_of_mem member
  rw [List.filterMap_flatMap]
  exact List.mem_flatMap.mpr ⟨j, complete j, recorded⟩

theorem Written.included (path : ι → String) (node : NodeId) :
    node ∈ includedNodes (nodeTraces order path fun i => stamp 0 (kinds i)) ↔
      ∃ i, node = (cfgs i).nodeId := by
  rw [mem_includedNodes, clusterKinds_nodeTraces]
  constructor
  · rintro ⟨kind, member, isLocal⟩
    obtain ⟨i, _, inTrace⟩ := List.mem_flatMap.mp member
    exact ⟨i, (written.traces i).node inTrace isLocal⟩
  · rintro ⟨i, rfl⟩
    exact ⟨_, List.mem_flatMap.mpr ⟨i, complete i, (written.traces i).spawn_mem⟩, rfl⟩

/-- Each `NetSend` to a node of the cluster has one counterpart, of the same payload. -/
theorem Written.matched (nodup : order.Nodup) (drained : c.Drained cfgs) (path : ι → String) :
    NetworkMatched (includedNodes (nodeTraces order path fun i => stamp 0 (kinds i)))
      (order.flatMap kinds) := by
  have recv_arrived {item : ClusterKey × V}
      (member : item ∈ (order.flatMap kinds).filterMap receivedMessage) :
      ∃ i, ∃ env ∈ c.arrived i, item = envelopeItem env := by
    rw [List.filterMap_flatMap] at member
    obtain ⟨i, _, inTrace⟩ := List.mem_flatMap.mp member
    exact ⟨i, (written.traces i).received inTrace⟩
  have drop_arrived {key : ClusterKey} (member : key ∈ dropKeys (order.flatMap kinds)) :
      ∃ i, ∃ env ∈ c.arrived i, key = (envelopeItem env).1 := by
    unfold dropKeys at member
    rw [List.filterMap_flatMap] at member
    obtain ⟨i, _, inTrace⟩ := List.mem_flatMap.mp member
    exact ⟨i, (written.traces i).dropped (written.addressed i) inTrace⟩
  -- Both kinds of evidence for one message are in the trace of the node it is for.
  have apart {key : ClusterKey} (recv : key ∈ recvKeys (order.flatMap kinds)) :
      key ∉ dropKeys (order.flatMap kinds) := by
    intro drop
    unfold recvKeys at recv
    unfold dropKeys at drop
    rw [List.filterMap_flatMap] at recv drop
    obtain ⟨i, _, inFirst⟩ := List.mem_flatMap.mp recv
    obtain ⟨j, _, inSecond⟩ := List.mem_flatMap.mp drop
    have one := (written.traces i).recv_node inFirst
    have other := (written.traces j).drop_node inSecond
    obtain rfl : i = j := written.nodes (one.symm.trans other)
    exact (written.traces i).recv_not_drop (written.arrivedOnce i) inFirst inSecond
  constructor
  · unfold sendKeys
    rw [List.filterMap_flatMap]
    have own {i : ι} {key : ClusterKey} (member : key ∈ sendKeys (kinds i)) :
        key.1 = (cfgs i).nodeId := by
      obtain ⟨env, inCore, rfl⟩ := written.sendKeys_mem.mp member
      exact written.dispatched_from inCore
    refine nodup_flatMap_of_apart (fun i j key first second => ?_) written.sendKeys_nodup nodup
    exact written.nodes ((own first).symm.trans (own second))
  · unfold recvKeys
    rw [List.filterMap_flatMap]
    refine nodup_flatMap_of_apart (fun i j key first second => ?_)
      (fun i => (written.traces i).recvKeys_nodup (written.arrivedOnce i)) nodup
    have one := (written.traces i).recv_node first
    exact written.nodes (one.symm.trans ((written.traces j).recv_node second))
  · unfold dropKeys
    rw [List.filterMap_flatMap]
    refine nodup_flatMap_of_apart (fun i j key first second => ?_)
      (fun i => (written.traces i).dropKeys_nodup (written.arrivedOnce i)) nodup
    have one := (written.traces i).drop_node first
    exact written.nodes (one.symm.trans ((written.traces j).drop_node second))
  · intro item member _
    obtain ⟨i, env, arrived, rfl⟩ := recv_arrived member
    exact written.arrived_sent complete arrived
  · intro key member _
    obtain ⟨i, env, arrived, rfl⟩ := drop_arrived member
    exact mem_sendKeys.mpr ⟨env.payload, written.arrived_sent complete arrived⟩
  · intro key member inside
    constructor
    · exact apart
    · intro undropped
      obtain ⟨i, receiver⟩ := (written.included complete path key.2.2).mp inside
      unfold sendKeys at member
      rw [List.filterMap_flatMap] at member
      obtain ⟨j, _, inTrace⟩ := List.mem_flatMap.mp member
      obtain ⟨env, inCore, rfl⟩ := written.sendKeys_mem.mp inTrace
      obtain ⟨arrived, released⟩ := drained j env inCore i receiver
      rcases (written.traces i).evidence (written.arrivedOnce i) (written.addressed i) arrived
        released with recv | drop
      · unfold recvKeys
        rw [List.filterMap_flatMap]
        exact List.mem_flatMap.mpr ⟨i, complete i, recv⟩
      · refine absurd ?_ undropped
        unfold dropKeys
        rw [List.filterMap_flatMap]
        exact List.mem_flatMap.mpr ⟨i, complete i, drop⟩

end Messages

/-! ## Lineages -/

section Lineages

variable {V : Type} {tool : ToolHost V} {program : Program} {cfg : Config}
  {arrived : List (WireEnvelope V)} {st : MainState V} {kinds : List (EventKind V)}

theorem NodeTrace.takes (trace : NodeTrace tool program cfg arrived st kinds) :
    EveryPosition Takes (kindsOf (stamp 0 kinds)) := by
  rw [kindsOf_stamp]
  refine trace.remembers.payloads.mono ?_
  intro past kind later split delivers key taken
  cases kind with
  | deliver node receiver msgId =>
      cases taken
      obtain ⟨payload, first, _⟩ := delivers node receiver msgId rfl
      exact ⟨payload, first⟩
  | _ => cases taken

/-- A record in the index of a trace is of a message that the node delivered. -/
theorem NodeTrace.indexed (trace : NodeTrace tool program cfg arrived st kinds)
    {key : LineageKey} {item : LineageRecord}
    (found : (buildLineageIndex tool (stamp 0 kinds)).lookup key = some item) :
    item.key = key ∧ ∃ delivery, (delivery.msgId, delivery.payload) ∈ st.core.delivered ∧
      lineageRecord tool delivery = some item := by
  obtain ⟨own, delivery, collected, recorded⟩ := indexDelivery_lookup found
  obtain ⟨past, later, split, first⟩ := (collected_of_takes trace.takes).out delivery collected
  rw [kindsOf_stamp] at split
  obtain ⟨payload, waits, delivered⟩ :=
    trace.remembers.payloads past _ later split delivery.node delivery.receiver delivery.msgId rfl
  rw [first] at waits
  cases waits
  exact ⟨own, delivery, delivered, recorded⟩

/-- Every message that the node delivered is in the index of its trace. -/
theorem NodeTrace.indexes (trace : NodeTrace tool program cfg arrived st kinds)
    {message : MsgId × V} (delivered : message ∈ st.core.delivered) {parsed : ParsedLineage}
    (reads : ReadsAs tool message.2 parsed) :
    (parsed.fromNode, message.1) ∈ buildLineageIndex tool (stamp 0 kinds) := by
  obtain ⟨delivery, inTrace, msgId, payload⟩ := trace.remembers.traced message delivered
  rw [← kindsOf_stamp 0 kinds] at inTrace
  obtain ⟨collected, member, sameId, samePayload⟩ := collected_complete trace.takes inTrace
  rw [← payload, ← samePayload] at reads
  obtain ⟨item, recorded⟩ := reads.recorded
  obtain ⟨key, _⟩ := lineageRecord_reads recorded reads
  rw [sameId, msgId] at key
  rw [← key]
  exact indexDelivery_complete member recorded

end Lineages

section Parents

variable {ι V : Type} [Fintype ι] {tool : ToolHost V} {program : Program} {cfgs : ι → Config}
  {c : Cluster ι V} {kinds : ι → List (EventKind V)}

/-- The message stays at its node, or it travels to node `i`. -/
def ComesTo (cfgs : ι → Config) (message : Message ι V) (i : ι) : Prop :=
  message.1 = i ∧ message.2.envelope = none ∨
    ∃ env, message.2.envelope = some env ∧ env.toNode = (cfgs i).nodeId

omit [Fintype ι] in
theorem ComesTo.unique (nodes : Function.Injective fun i => (cfgs i).nodeId)
    {message : Message ι V} {i j : ι} (first : ComesTo cfgs message i)
    (second : ComesTo cfgs message j) : i = j := by
  rcases first with ⟨rfl, staysHere⟩ | ⟨env, travels, receiver⟩
  · rcases second with ⟨rfl, _⟩ | ⟨env, travels, _⟩
    · rfl
    · rw [staysHere] at travels
      cases travels
  · rcases second with ⟨_, staysHere⟩ | ⟨other, travels', receiver'⟩
    · rw [staysHere] at travels
      cases travels
    · rw [travels] at travels'
      cases travels'
      exact nodes (receiver.symm.trans receiver')

/-- An entry of the lineage index of node `i` is that of a message. -/
structure EntryOf (tool : ToolHost V) (cfgs : ι → Config) (c : Cluster ι V) (i : ι)
    (message : Message ι V) (parsed : ParsedLineage) (entry : LineageKey × LineageRecord) :
    Prop where
  made : IsMade c.core message
  place : ComesTo cfgs message i
  reads : ReadsAs tool message.2.payload parsed
  key : entry.1 = (parsed.fromNode, message.2.msgId)
  own : entry.2.key = entry.1
  provenance : entry.2.provenance = parsed.prov

variable (written : Written tool program cfgs c kinds) (lawful : tool.Lawful)

include written lawful

theorem Written.readable {message : Message ι V} (made : IsMade c.core message) :
    ∃ parsed, ReadsAs tool message.2.payload parsed := by
  obtain ⟨n, root, ancestry, _⟩ := written.orderly.sound.ancestral message made
  obtain ⟨_, parsed, _, reads⟩ := written.orderly.sound.reads lawful ancestry
  exact ⟨parsed, reads.reads⟩

theorem Written.entryOf {i : ι} {key : LineageKey} {item : LineageRecord}
    (found : (buildLineageIndex tool (stamp 0 (kinds i))).lookup key = some item) :
    ∃ message parsed, EntryOf tool cfgs c i message parsed (key, item) := by
  obtain ⟨own, delivery, delivered, recorded⟩ := (written.traces i).indexed found
  obtain ⟨j, made, produced, same, way⟩ :=
    (written.orderly.sound.grounded i).delivered _ delivered
  rw [(sitesOf_eq tool.toHost program cfgs i).2] at way
  have isMade : IsMade c.core (j, made) := produced
  obtain ⟨parsed, reads⟩ := written.readable lawful isMade
  obtain ⟨msgId, payload⟩ := Prod.mk.inj same
  have readsDelivery : ReadsAs tool delivery.payload parsed := payload ▸ reads
  obtain ⟨keys, provenance⟩ := lineageRecord_reads recorded readsDelivery
  refine ⟨(j, made), parsed, isMade, way, reads, ?_, own, provenance⟩
  rw [← own, keys, msgId]

/-- Entries under one key are of one message. -/
theorem Written.message_eq {i j : ι} {message other : Message ι V}
    {parsed otherParsed : ParsedLineage} {entry otherEntry : LineageKey × LineageRecord}
    (first : EntryOf tool cfgs c i message parsed entry)
    (second : EntryOf tool cfgs c j other otherParsed otherEntry)
    (key : entry.1 = otherEntry.1) : message = other := by
  obtain ⟨sender, msgId⟩ := Prod.mk.inj ((first.key.symm.trans key).trans second.key)
  have one := written.orderly.sound.fromNode lawful first.made first.reads
  have two := written.orderly.sound.fromNode lawful second.made second.reads
  exact written.orderly.sound.message_unique written.orderly.distinct first.made second.made
    ((one.symm.trans sender).trans two) msgId

/-- No message is delivered at two nodes. -/
theorem Written.lineage_nodup {order : List ι} (path : ι → String) (nodup : order.Nodup) :
    ((clusterLineage tool (nodeTraces order path fun i => stamp 0 (kinds i))).map
      Prod.fst).Nodup := by
  have keys (i : ι) : ((buildLineageIndex tool (stamp 0 (kinds i))).entries.map
      fun entry => (entry.1, entry.2)).map Prod.fst =
        (buildLineageIndex tool (stamp 0 (kinds i))).keys := by
    rw [List.map_map]
    rfl
  unfold clusterLineage nodeTraces
  rw [List.flatMap_map, List.map_flatMap]
  refine nodup_flatMap_of_apart (fun i j key first second => ?_) (fun i => ?_) nodup
  · rw [keys, ← AList.mem_keys, ← AList.lookup_isSome, Option.isSome_iff_exists] at first second
    obtain ⟨item, found⟩ := first
    obtain ⟨other, found'⟩ := second
    obtain ⟨message, parsed, entry⟩ := written.entryOf lawful found
    obtain ⟨message', parsed', entry'⟩ := written.entryOf lawful found'
    obtain rfl := written.message_eq lawful entry entry' rfl
    exact entry.place.unique written.nodes entry'.place
  · rw [keys]
    exact AList.keys_nodup _

/-- The parents of delivered messages are in the traces, and the lineages agree. -/
theorem Written.resolved {order : List ι} (path : ι → String) (nodup : order.Nodup)
    (complete : ∀ i, i ∈ order) (included : Finset NodeId) :
    LineageResolved tool included
      (clusterLineage tool (nodeTraces order path fun i => stamp 0 (kinds i))) := by
  refine ⟨written.lineage_nodup lawful path nodup, ?_⟩
  rintro ⟨key, item⟩ member hops
  obtain ⟨i, _, found⟩ := (nodeTraces_lineage path).mp member
  obtain ⟨message, parsed, entry⟩ := written.entryOf lawful found
  have provenance : item.provenance = parsed.prov := entry.provenance
  have sender : item.key.1 = parsed.fromNode := by
    rw [entry.own, entry.key]
  dsimp only at hops
  rw [provenance] at hops
  obtain ⟨parent, isParent, parentNode, parentMsgId, follows⟩ :=
    written.orderly.sound.follows written.orderly.distinct lawful entry.made entry.reads hops
  refine ⟨(parsed.parentNode, parsed.parentMsgId),
    entry.reads.lineageParentKey sender provenance, ?_, ?_⟩
  · intro above aboveMember
    obtain ⟨j, _, aboveFound⟩ := (nodeTraces_lineage path).mp aboveMember
    obtain ⟨other, otherParsed, otherEntry⟩ := written.entryOf lawful aboveFound
    obtain ⟨otherNode, otherId⟩ := Prod.mk.inj otherEntry.key
    obtain ⟨_, after⟩ := follows other otherParsed otherEntry.made otherEntry.reads
      otherNode.symm otherId.symm
    have aboveProvenance : above.provenance = otherParsed.prov := otherEntry.provenance
    constructor
    · rw [provenance, aboveProvenance]
      exact after.hops
    · rw [provenance, aboveProvenance]
      exact after.originText
    · rw [provenance, aboveProvenance]
      exact after.originNode
    · rw [provenance, aboveProvenance]
      exact after.originService
  · intro absent
    -- The handler that made the message ran when the parent was delivered.
    have delivered : (parent.2.msgId, parent.2.payload) ∈ (c.core message.1).delivered :=
      ((written.orderly.sound.grounded message.1).history _ entry.made).cause_delivered
        isParent.2.2
    obtain ⟨parentParsed, parentReads⟩ := written.readable lawful isParent.2.1
    have known := (written.traces message.1).indexes delivered parentReads
    have fromNode := written.orderly.sound.fromNode lawful isParent.2.1 parentReads
    rw [fromNode, ← parentNode, ← parentMsgId, ← AList.lookup_isSome,
      Option.isSome_iff_exists] at known
    obtain ⟨record, recorded⟩ := known
    refine absurd (List.mem_map.mpr ⟨(_, record), ?_, rfl⟩) absent
    exact (nodeTraces_lineage path).mpr ⟨message.1, complete message.1, recorded⟩

end Parents

/-! ## The verdict -/

section Verdict

variable {ι V : Type} [Fintype ι] {cfgs : ι → Config}

/-- A `NetSend` to a node of the cluster. -/
def sendsInside (cfgs : ι → Config) : EventKind V → Bool
  | .netSend _ toNode _ _ _ => decide (∃ i, toNode = (cfgs i).nodeId)
  | _ => false

theorem sendKeys_inside {included : Finset NodeId}
    (inside : ∀ node, node ∈ included ↔ ∃ i, node = (cfgs i).nodeId)
    (kinds : List (EventKind V)) :
    ((sendKeys kinds).filter fun key => key.2.2 ∈ included).length =
      kinds.countP (sendsInside cfgs) := by
  induction kinds with
  | nil => rfl
  | cons kind rest ih =>
      cases kind with
      | netSend node toNode sender msgId payload =>
          change ((_ :: sendKeys rest).filter _).length = _
          rw [List.filter_cons, List.countP_cons, ← ih]
          by_cases known : toNode ∈ included
          · simp [sendsInside, known, (inside toNode).mp known]
          · simp [sendsInside, known, mt (inside toNode).mpr known]
      | _ => exact ih

variable [DecidableEq ι] [DecidableEq V] {tool : ToolHost V} {program : Program}
  {c : Cluster ι V}

/-- The cluster verifier accepts the traces of a drained cluster, and it counts every
`NetSend` to a node of the cluster as received or dropped. -/
theorem drained_cluster_verifies (lawful : tool.Lawful) {src : String}
    (loaded : loadProgram tool.toHost src = .ok program)
    (nodes : Function.Injective fun i => (cfgs i).nodeId)
    (reached : Reachable tool.toHost program cfgs c)
    (few : ∀ i, (c.core i).history.length < u64Max) (ended : c.Ended cfgs)
    (drained : c.Drained cfgs) {order : List ι} (nodup : order.Nodup)
    (complete : ∀ i, i ∈ order) (path : ι → String) :
    ∃ events : ι → List (TraceEvent V), (∀ i, (c.process i).state.writer = some (events i)) ∧
      (verifyCluster tool (nodeTraces order path events)).problems = [] ∧
      (verifyCluster tool (nodeTraces order path events)).matchedRecv +
          (verifyCluster tool (nodeTraces order path events)).matchedDrop =
        (clusterKinds (nodeTraces order path events)).countP (sendsInside cfgs) := by
  have accepted := loadProgram_accepted loaded
  have orderly := reached.orderly accepted nodes few
  obtain ⟨kinds, written⟩ := orderly.written nodes accepted reached ended
  let traces := nodeTraces order path fun i => stamp 0 (kinds i)
  have matched : NetworkMatched (includedNodes traces) (clusterKinds traces) := by
    rw [clusterKinds_nodeTraces]
    exact written.matched complete nodup drained path
  have single : ∀ trace ∈ traces, (traceNodes trace).length = 1 := by
    intro trace member
    obtain ⟨i, _, rfl⟩ := List.mem_map.mp member
    exact (written.traces i).traceNodes (path i)
  obtain ⟨verdict, counts⟩ := verifyCluster_clean tool traces
  have clean : (verifyCluster tool traces).problems = [] :=
    verdict.mpr ⟨single, matched, written.resolved lawful path nodup complete _⟩
  refine ⟨fun i => stamp 0 (kinds i), fun i => (written.traces i).writer, clean, ?_⟩
  have balance := matched.perm.length_eq
  rw [sendKeys_inside (written.included complete path), List.length_append] at balance
  rw [counts clean, ← balance, ← List.countP_eq_length_filter, ← List.countP_eq_length_filter]
  rfl

end Verdict

section Samples

theorem Cluster.ended_of_iterations {ι V : Type} {cfgs : ι → Config} {c : Cluster ι V}
    (done : ∀ i, (c.process i).iterations = some (cfgs i).steps) : c.Ended cfgs := by
  intro i
  obtain ⟨st, launched, running⟩ := Cluster.finished_of_iterations (done i)
  refine ⟨launched, ?_⟩
  rw [running]
  rfl

/-- Both nodes run to their end, each sends the other one message. -/
theorem drained_cluster_verifies_sample :
    ∃ (c : Cluster (Fin 2) JsonDoc) (events : Fin 2 → List (TraceEvent JsonDoc)),
      Reachable jsonHost sampleProgram sampleNodes c ∧ c.Ended sampleNodes ∧
      c.Drained sampleNodes ∧ (∀ i, (c.process i).state.writer = some (events i)) ∧
      (verifyCluster jsonTool (nodeTraces [1, 0] (fun _ => "trace") events)).problems = [] ∧
      (verifyCluster jsonTool (nodeTraces [1, 0] (fun _ => "trace") events)).matchedRecv +
          (verifyCluster jsonTool (nodeTraces [1, 0] (fun _ => "trace") events)).matchedDrop =
        (clusterKinds (nodeTraces [1, 0] (fun _ => "trace") events)).countP
          (sendsInside sampleNodes) ∧
      (clusterKinds (nodeTraces [1, 0] (fun _ => "trace") events)).countP
        (sendsInside sampleNodes) = 2 := by
  let c := samplePair [0, 1, 0, 1, 0, 1, 0, 1, 0, 1]
  have reached : Reachable jsonHost sampleProgram sampleNodes c := samplePair_reachable _
  have done : ∀ i, (c.process i).iterations = some (sampleNodes i).steps := by decide +kernel
  have few : ∀ i, (c.core i).history.length < u64Max := by decide +kernel
  have ended := Cluster.ended_of_iterations done
  have drained : c.Drained sampleNodes := by decide +kernel
  obtain ⟨events, writers, clean, counts⟩ := drained_cluster_verifies jsonTool_lawful
    sampleProgram_loaded sampleNodes_distinct reached few ended drained
    (by decide : ([1, 0] : List (Fin 2)).Nodup) (by decide) fun _ => "trace"
  have written : events = fun i => (c.process i).state.writer.getD [] := by
    funext i
    rw [writers i]
    rfl
  have sends : (clusterKinds (nodeTraces [1, 0] (fun _ => "trace") events)).countP
      (sendsInside sampleNodes) = 2 := by
    rw [written]
    decide +kernel
  exact ⟨c, events, reached, ended, drained, writers, clean, counts, sends⟩

end Samples

end UcoStack.System
