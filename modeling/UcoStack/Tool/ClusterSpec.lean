import UcoStack.Library.Monitor
import UcoStack.Tool.Cluster
import UcoStack.Tool.TraceSpec

/-!
# What a cluster shows

The network messages and delivered lineages of a list of traces, read off the
events without any index, and the conditions under which the cluster verifier
finds no problem.
-/

namespace UcoStack.Tool

open UcoStack.Runtime

section Evidence

variable {V : Type}

/-- All events of a cluster, trace by trace. -/
def clusterKinds (traces : List (ClusterTrace V)) : List (EventKind V) :=
  traces.flatMap fun trace => kindsOf trace.events

/-- The nodes that occur in some trace. -/
def includedNodes (traces : List (ClusterTrace V)) : Finset NodeId :=
  (traces.flatMap traceNodes).toFinset

def sentMessage : EventKind V → Option (ClusterKey × V)
  | .netSend node toNode _ msgId payload => some ((node, msgId, toNode), payload)
  | _ => none

def receivedMessage : EventKind V → Option (ClusterKey × V)
  | .netRecv node fromNode _ msgId payload => some ((fromNode, msgId, node), payload)
  | _ => none

def sendKey (kind : EventKind V) : Option ClusterKey := (sentMessage kind).map Prod.fst

def recvKey (kind : EventKind V) : Option ClusterKey := (receivedMessage kind).map Prod.fst

def dropKey : EventKind V → Option ClusterKey
  | .faultInjected node fromNode _ msgId .drop => some (fromNode, msgId, node)
  | _ => none

def sendKeys (kinds : List (EventKind V)) : List ClusterKey := kinds.filterMap sendKey

def recvKeys (kinds : List (EventKind V)) : List ClusterKey := kinds.filterMap recvKey

def dropKeys (kinds : List (EventKind V)) : List ClusterKey := kinds.filterMap dropKey

theorem mem_includedNodes {traces : List (ClusterTrace V)} {node : NodeId} :
    node ∈ includedNodes traces ↔
      ∃ kind ∈ clusterKinds traces, eventLocalNode kind = some node := by
  simp only [includedNodes, clusterKinds, traceNodes, kindsOf, List.mem_toFinset,
    List.mem_flatMap, List.mem_dedup, List.mem_filterMap, List.mem_map]
  constructor
  · rintro ⟨trace, inTraces, ev, inEvents, isLocal⟩
    exact ⟨ev.kind, ⟨trace, inTraces, ev, inEvents, rfl⟩, isLocal⟩
  · rintro ⟨_, ⟨trace, inTraces, ev, inEvents, rfl⟩, isLocal⟩
    exact ⟨trace, inTraces, ev, inEvents, isLocal⟩

theorem mem_sendKeys {kinds : List (EventKind V)} {key : ClusterKey} :
    key ∈ sendKeys kinds ↔ ∃ payload, (key, payload) ∈ kinds.filterMap sentMessage := by
  simp only [sendKeys, sendKey, List.mem_filterMap, Option.map_eq_some_iff]
  constructor
  · rintro ⟨kind, member, ⟨_, payload⟩, found, rfl⟩
    exact ⟨payload, kind, member, found⟩
  · rintro ⟨payload, kind, member, found⟩
    exact ⟨kind, member, _, found, rfl⟩

theorem mem_recvKeys {kinds : List (EventKind V)} {key : ClusterKey} :
    key ∈ recvKeys kinds ↔ ∃ payload, (key, payload) ∈ kinds.filterMap receivedMessage := by
  simp only [recvKeys, recvKey, List.mem_filterMap, Option.map_eq_some_iff]
  constructor
  · rintro ⟨kind, member, ⟨_, payload⟩, found, rfl⟩
    exact ⟨payload, kind, member, found⟩
  · rintro ⟨payload, kind, member, found⟩
    exact ⟨kind, member, _, found, rfl⟩

/-- Senders of network messages and receivers of evidence are included nodes. -/
theorem sender_included {traces : List (ClusterTrace V)} {key : ClusterKey}
    (member : key ∈ sendKeys (clusterKinds traces)) : key.1 ∈ includedNodes traces := by
  obtain ⟨kind, inKinds, found⟩ := List.mem_filterMap.mp member
  refine mem_includedNodes.mpr ⟨kind, inKinds, ?_⟩
  cases kind with
  | netSend =>
      cases found
      rfl
  | _ => cases found

theorem receiver_included {traces : List (ClusterTrace V)} {key : ClusterKey}
    (member : key ∈ recvKeys (clusterKinds traces)) : key.2.2 ∈ includedNodes traces := by
  obtain ⟨kind, inKinds, found⟩ := List.mem_filterMap.mp member
  refine mem_includedNodes.mpr ⟨kind, inKinds, ?_⟩
  cases kind with
  | netRecv =>
      cases found
      rfl
  | _ => cases found

theorem dropper_included {traces : List (ClusterTrace V)} {key : ClusterKey}
    (member : key ∈ dropKeys (clusterKinds traces)) : key.2.2 ∈ includedNodes traces := by
  obtain ⟨kind, inKinds, found⟩ := List.mem_filterMap.mp member
  refine mem_includedNodes.mpr ⟨kind, inKinds, ?_⟩
  cases kind with
  | faultInjected node fromNode receiver msgId action =>
      cases action with
      | drop =>
          cases found
          rfl
      | _ => cases found
  | _ => cases found

end Evidence

/-! ## Conditions -/

section Conditions

variable {V : Type} (tool : ToolHost V)

/-- The delivered lineages of all traces, one for each origin and trace. -/
def clusterLineage (traces : List (ClusterTrace V)) : List (LineageKey × LineageRecord) :=
  traces.flatMap fun trace =>
    (buildLineageIndex tool trace.events).entries.map fun entry => (entry.1, entry.2)

/-- A record one hop after that of its parent, compared by their texts. -/
structure LineageRecord.Continues (item parent : LineageRecord) : Prop where
  hops : item.provenance.hops = saturatingAdd parent.provenance.hops 1
  originMsgId : item.provenance.originMsgId = parent.provenance.originMsgId
  originNode : item.provenance.originNode = parent.provenance.originNode
  originService : item.provenance.originService = parent.provenance.originService

/-- Every delivered message with hops names a parent; if some trace delivered the
parent the message continues it, and else the parent is of no included node. -/
structure LineageResolved (included : Finset NodeId)
    (lineage : List (LineageKey × LineageRecord)) : Prop where
  nodup : (lineage.map Prod.fst).Nodup
  parent : ∀ entry ∈ lineage, entry.2.provenance.hops ≠ 0 →
    ∃ parent, lineageParentKey tool entry.2 = .ok parent ∧
      (∀ item, (parent, item) ∈ lineage → entry.2.Continues item) ∧
      (parent ∉ lineage.map Prod.fst → parent.1 ∉ included)

structure NetworkMatched (included : Finset NodeId) (kinds : List (EventKind V)) : Prop where
  sends : (sendKeys kinds).Nodup
  recvs : (recvKeys kinds).Nodup
  drops : (dropKeys kinds).Nodup
  recv_sent : ∀ item ∈ kinds.filterMap receivedMessage,
    item.1.1 ∈ included → item ∈ kinds.filterMap sentMessage
  drop_sent : ∀ key ∈ dropKeys kinds, key.1 ∈ included → key ∈ sendKeys kinds
  taken : ∀ key ∈ sendKeys kinds, key.2.2 ∈ included →
    (key ∈ recvKeys kinds ↔ key ∉ dropKeys kinds)

end Conditions

end UcoStack.Tool
