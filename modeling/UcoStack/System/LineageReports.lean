import UcoStack.System.CrashedTrace
import UcoStack.System.ClusterAcceptance
import UcoStack.Tool.LineageReport

/-!
# What the lineage reports say

The lineage index of a node's trace holds the messages that the node delivered.  The
parent of a message that the node made was delivered there, that of any other message
elsewhere.  So the summary sorts the delivered messages by where they and their parents
were made, and a path follows the parents until it leaves the node.
-/

namespace UcoStack.System

open UcoStack.Runtime UcoStack.Tool

/-! ## Delivered messages and their records -/

section Records

variable {ι V : Type}

/-- The key under which a message is indexed. -/
def lineageKey (cfgs : ι → Config) (message : Message ι V) : LineageKey :=
  ((cfgs message.1).nodeId, message.2.msgId)

/-- The message was delivered at node `i`. -/
structure DeliveredAt (c : Cluster ι V) (i : ι) (message : Message ι V) : Prop where
  made : IsMade c.core message
  delivered : (message.2.msgId, message.2.payload) ∈ (c.core i).delivered

/-- The record of the delivery of a message at node `i`. -/
structure RecordOf (tool : ToolHost V) (cfgs : ι → Config) (i : ι) (message : Message ι V)
    (item : LineageRecord) : Prop where
  recorded : lineageRecord tool ⟨item.seq, (cfgs i).nodeId, item.receiver, message.2.msgId,
    message.2.payload⟩ = some item
  key : item.key = lineageKey cfgs message

variable {tool : ToolHost V} {program : Program} {cfgs : ι → Config} {c : Cluster ι V} {i : ι}

theorem lineageRecord_place {delivery : DeliveredPayload V} {item : LineageRecord}
    (recorded : lineageRecord tool delivery = some item) :
    item.seq = delivery.seq ∧ item.localNode = delivery.node ∧
      item.receiver = delivery.receiver := by
  unfold lineageRecord at recorded
  split at recorded
  · cases recorded
  · split at recorded
    · cases recorded
    · split at recorded
      · cases recorded
      · cases recorded
        exact ⟨rfl, rfl, rfl⟩

theorem RecordOf.localNode {message : Message ι V} {item : LineageRecord}
    (record : RecordOf tool cfgs i message item) : item.localNode = (cfgs i).nodeId :=
  (lineageRecord_place record.recorded).2.1

theorem siteId (host : Host V) (program : Program) (cfgs : ι → Config) (i : ι) :
    (sitesOf host program cfgs i).nodeId = (cfgs i).nodeId :=
  (sitesOf_eq host program cfgs i).2

variable [Fintype ι] (orderly : Orderly tool.toHost program cfgs c) (lawful : tool.Lawful)

include orderly

theorem Orderly.key_unique {first second : Message ι V} (made : IsMade c.core first)
    (made' : IsMade c.core second) (same : lineageKey cfgs first = lineageKey cfgs second) :
    first = second := by
  obtain ⟨sender, msgId⟩ := Prod.mk.inj same
  rw [← siteId tool.toHost program, ← siteId tool.toHost program] at sender
  exact orderly.sound.message_unique orderly.distinct made made' sender msgId

/-- The handler that made a message ran when the parent was delivered. -/
theorem Orderly.parent_delivered {message parent : Message ι V}
    (isParent : IsParent c.core message parent) : DeliveredAt c message.1 parent where
  made := isParent.2.1
  delivered :=
    ((orderly.sound.grounded message.1).history _ isParent.1).cause_delivered isParent.2.2

include lawful

theorem Orderly.readable {message : Message ι V} (made : IsMade c.core message) :
    ∃ parsed, ReadsAs tool message.2.payload parsed ∧
      parsed.fromNode = (cfgs message.1).nodeId := by
  obtain ⟨n, root, ancestry, _⟩ := orderly.sound.ancestral message made
  obtain ⟨_, parsed, _, reads⟩ := orderly.sound.reads lawful ancestry
  rw [← siteId tool.toHost program]
  exact ⟨parsed, reads.reads, reads.fromNode⟩

/-- A delivered message belongs to the node where it was made, or it travelled. -/
theorem Orderly.comesTo {message : Message ι V} (delivered : DeliveredAt c i message) :
    ComesTo cfgs message i := by
  obtain ⟨j, made, produced, same, way⟩ :=
    (orderly.sound.grounded i).delivered _ delivered.delivered
  rw [siteId] at way
  obtain ⟨msgId, payload⟩ := Prod.mk.inj same
  have isMade : IsMade c.core (j, made) := produced
  obtain rfl := orderly.sound.payload_unique lawful.host orderly.distinct delivered.made isMade
    msgId payload
  exact way

theorem Orderly.delivered_unique (nodes : Function.Injective fun i => (cfgs i).nodeId)
    {message : Message ι V} {j : ι} (here : DeliveredAt c i message)
    (there : DeliveredAt c j message) : i = j :=
  (orderly.comesTo lawful here).unique nodes (orderly.comesTo lawful there)

theorem Orderly.record_reads {message : Message ι V} (made : IsMade c.core message)
    {item : LineageRecord} (record : RecordOf tool cfgs i message item) :
    ∃ parsed, ReadsAs tool message.2.payload parsed ∧ item.key.1 = parsed.fromNode ∧
      item.provenance = parsed.prov := by
  obtain ⟨parsed, reads, fromNode⟩ := orderly.readable lawful made
  refine ⟨parsed, reads, ?_, (lineageRecord_reads record.recorded reads).2⟩
  rw [record.key, fromNode]
  rfl

theorem Orderly.record_root {message : Message ι V} (boot : IsBootstrap c.core message)
    {item : LineageRecord} (record : RecordOf tool cfgs i message item) :
    item.provenance.hops = 0 := by
  obtain ⟨parsed, reads, _, provenance⟩ := orderly.record_reads lawful boot.1 record
  obtain ⟨_, other, _, found⟩ := orderly.sound.reads lawful (.root boot)
  obtain rfl := found.unique reads
  rw [provenance, found.hops, Nat.zero_min]

/-- A record of an answer names the parent. -/
theorem Orderly.record_parent {message parent : Message ι V}
    (isParent : IsParent c.core message parent) {item : LineageRecord}
    (record : RecordOf tool cfgs i message item) :
    item.provenance.hops ≠ 0 ∧ lineageParentKey tool item = .ok (lineageKey cfgs parent) := by
  obtain ⟨parsed, reads, sender, provenance⟩ := orderly.record_reads lawful isParent.1 record
  obtain ⟨n, root, ancestry, _⟩ := orderly.sound.ancestral parent isParent.2.1
  obtain ⟨named, other, names, found⟩ := orderly.sound.reads lawful (.child isParent ancestry)
  obtain rfl := found.unique reads
  obtain rfl : named = parent :=
    orderly.sound.parent_unique lawful.host orderly.distinct names isParent
  refine ⟨?_, ?_⟩
  · rw [provenance, found.hops]
    have large : 0 < u64Max := by decide
    omega
  · rw [reads.lineageParentKey sender provenance, found.parentNode, found.parentMsgId, siteId]
    rfl

theorem Orderly.record_hops {message root : Message ι V} {n : Nat}
    (ancestry : Ancestry c.core message n root) {item : LineageRecord}
    (record : RecordOf tool cfgs i message item) : item.provenance.hops = min n u64Max := by
  obtain ⟨parsed, reads, _, provenance⟩ := orderly.record_reads lawful ancestry.made record
  obtain ⟨_, other, _, found⟩ := orderly.sound.reads lawful ancestry
  obtain rfl := found.unique reads
  rw [provenance, found.hops]

variable {st : MainState V} {kinds : List (EventKind V)} (sameCore : c.core i = st.core)
  (trace : NodeTrace tool program (cfgs i) (c.arrived i) st kinds)

include sameCore trace

/-- The index holds records of delivered messages. -/
theorem Orderly.index_delivered {key : LineageKey} {item : LineageRecord}
    (found : (buildLineageIndex tool (stamp 0 kinds)).lookup key = some item) :
    ∃ message, DeliveredAt c i message ∧ lineageKey cfgs message = key ∧
      RecordOf tool cfgs i message item := by
  obtain ⟨own, delivery, collected, recorded⟩ := indexDelivery_lookup found
  obtain ⟨past, later, split, first⟩ := (collected_of_takes trace.takes).out delivery collected
  rw [kindsOf_stamp] at split
  have inTrace : EventKind.deliver delivery.node delivery.receiver delivery.msgId ∈ kinds := by
    rw [split]
    exact List.mem_append_right _ List.mem_cons_self
  have local_node : delivery.node = (cfgs i).nodeId := trace.node inTrace rfl
  obtain ⟨payload, waits, delivered⟩ :=
    trace.remembers.payloads past _ later split delivery.node delivery.receiver delivery.msgId rfl
  rw [first] at waits
  cases waits
  rw [← sameCore] at delivered
  obtain ⟨j, made, produced, same, _⟩ := (orderly.sound.grounded i).delivered _ delivered
  obtain ⟨msgId, payload⟩ := Prod.mk.inj same
  have isMade : IsMade c.core (j, made) := produced
  obtain ⟨parsed, reads, fromNode⟩ := orderly.readable lawful isMade
  obtain ⟨keys, _⟩ := lineageRecord_reads recorded (payload ▸ reads)
  have named : item.key = lineageKey cfgs (j, made) := by
    rw [keys, fromNode, msgId]
    rfl
  obtain ⟨seq, _, receiver⟩ := lineageRecord_place recorded
  refine ⟨(j, made), ⟨isMade, by rwa [← msgId, ← payload]⟩, named.symm.trans own, ?_, named⟩
  dsimp only
  rw [seq, receiver, ← msgId, ← payload, ← local_node]
  exact recorded

/-- Every delivered message has its record in the index. -/
theorem Orderly.delivered_indexed {message : Message ι V} (delivered : DeliveredAt c i message) :
    ∃ item, (buildLineageIndex tool (stamp 0 kinds)).lookup (lineageKey cfgs message) =
      some item ∧ RecordOf tool cfgs i message item := by
  obtain ⟨parsed, reads, fromNode⟩ := orderly.readable lawful delivered.made
  have inCore := delivered.delivered
  rw [sameCore] at inCore
  have known := trace.indexes inCore reads
  rw [fromNode, ← AList.lookup_isSome, Option.isSome_iff_exists] at known
  obtain ⟨item, found⟩ := known
  obtain ⟨other, there, key, record⟩ := orderly.index_delivered lawful sameCore trace found
  obtain rfl := orderly.key_unique there.made delivered.made key
  exact ⟨item, found, record⟩

theorem Orderly.indexed_iff {message : Message ι V} (made : IsMade c.core message) :
    lineageKey cfgs message ∈ buildLineageIndex tool (stamp 0 kinds) ↔
      DeliveredAt c i message := by
  rw [← AList.lookup_isSome, Option.isSome_iff_exists]
  constructor
  · rintro ⟨item, found⟩
    obtain ⟨other, there, key, _⟩ := orderly.index_delivered lawful sameCore trace found
    obtain rfl := orderly.key_unique there.made made key
    exact there
  · intro delivered
    obtain ⟨item, found, _⟩ := orderly.delivered_indexed lawful sameCore trace delivered
    exact ⟨item, found⟩

end Records

/-! ## The path of a message -/

section Paths

variable {ι V : Type}

/-- The messages from `message` up to its bootstrap message, or up to the last one that
was not made at node `i`; then `outside` is the parent of that one. -/
inductive Traced (cores : ι → Core V) (i : ι) :
    Message ι V → List (Message ι V) → Option (Message ι V) → Prop where
  | root {message : Message ι V} (boot : IsBootstrap cores message) :
      Traced cores i message [message] none
  | away {message parent : Message ι V} (elsewhere : message.1 ≠ i)
      (isParent : IsParent cores message parent) :
      Traced cores i message [message] (some parent)
  | up {message parent : Message ι V} {above : List (Message ι V)}
      {outside : Option (Message ι V)} (home : message.1 = i)
      (isParent : IsParent cores message parent) (higher : Traced cores i parent above outside) :
      Traced cores i message (message :: above) outside

theorem Ancestry.traced [DecidableEq ι] {cores : ι → Core V} (i : ι) {message root : Message ι V}
    {n : Nat} (ancestry : Ancestry cores message n root) :
    ∃ chain outside, Traced cores i message chain outside := by
  induction ancestry with
  | root boot => exact ⟨_, _, .root boot⟩
  | @child message parent _ _ isParent _ ih =>
      by_cases home : message.1 = i
      · obtain ⟨above, outside, higher⟩ := ih
        exact ⟨_, _, .up home isParent higher⟩
      · exact ⟨_, _, .away home isParent⟩

theorem Traced.made {cores : ι → Core V} {i : ι} {message : Message ι V}
    {chain : List (Message ι V)} {outside : Option (Message ι V)}
    (traced : Traced cores i message chain outside) : IsMade cores message := by
  cases traced with
  | root boot => exact boot.1
  | away elsewhere isParent => exact isParent.1
  | up home isParent higher => exact isParent.1

/-- How a path along the messages ends that has so many iterations. -/
def pathEnd (cfgs : ι → Config) (iterations : Nat) (chain : List (Message ι V)) :
    Option (Message ι V) → PathEnd
  | none => if chain.length ≤ iterations then .rootReached else .depthLimit
  | some parent =>
      if chain.length < iterations then .missing (lineageKey cfgs parent) else .depthLimit

theorem pathEnd_cons (cfgs : ι → Config) (iterations : Nat) (message : Message ι V)
    (chain : List (Message ι V)) (outside : Option (Message ι V)) :
    pathEnd cfgs (iterations + 1) (message :: chain) outside =
      pathEnd cfgs iterations chain outside := by
  cases outside with
  | none => simp only [pathEnd, List.length_cons, Nat.add_le_add_iff_right]
  | some parent => simp only [pathEnd, List.length_cons, Nat.add_lt_add_iff_right]

theorem pathEnd_zero (cfgs : ι → Config) {message : Message ι V} (chain : List (Message ι V))
    (outside : Option (Message ι V)) :
    pathEnd cfgs 0 (message :: chain) outside = .depthLimit := by
  cases outside with
  | none => simp [pathEnd]
  | some parent => simp [pathEnd]

/-- The path shows these messages of the chain. -/
structure Shows (tool : ToolHost V) (cfgs : ι → Config) (i : ι) (iterations : Nat)
    (chain : List (Message ι V)) (outside : Option (Message ι V)) (path : LineagePath) : Prop where
  records : List.Forall₂ (RecordOf tool cfgs i) (chain.take iterations) path.records
  ending : path.ending = pathEnd cfgs iterations chain outside

variable {tool : ToolHost V} {program : Program} {cfgs : ι → Config} {c : Cluster ι V} {i : ι}

theorem Shows.stopped (tool : ToolHost V) (cfgs : ι → Config) (i : ι) (message : Message ι V)
    (chain : List (Message ι V)) (outside : Option (Message ι V)) :
    Shows tool cfgs i 0 (message :: chain) outside ⟨[], .depthLimit⟩ where
  records := .nil
  ending := (pathEnd_zero cfgs chain outside).symm

theorem Shows.cons {iterations : Nat} {message : Message ι V} {chain : List (Message ι V)}
    {outside : Option (Message ι V)} {path : LineagePath} {item : LineageRecord}
    (shows : Shows tool cfgs i iterations chain outside path)
    (record : RecordOf tool cfgs i message item) :
    Shows tool cfgs i (iterations + 1) (message :: chain) outside (path.cons item) where
  records := .cons record shows.records
  ending := shows.ending.trans (pathEnd_cons cfgs iterations message chain outside).symm

/-- The visited keys are those of messages below this one. -/
def BelowAll (cfgs : ι → Config) (cores : ι → Core V) (message : Message ι V)
    (visited : Finset LineageKey) : Prop :=
  ∀ key ∈ visited, ∃ below, IsMade cores below ∧ lineageKey cfgs below = key ∧
    Relation.TransGen (IsParent cores) below message

theorem BelowAll.up {cores : ι → Core V} {message parent : Message ι V}
    {visited : Finset LineageKey} (below : BelowAll cfgs cores message visited)
    (isParent : IsParent cores message parent) :
    BelowAll cfgs cores parent (insert (lineageKey cfgs message) visited) := by
  intro key member
  rcases Finset.mem_insert.mp member with rfl | earlier
  · exact ⟨message, isParent.1, rfl, .single isParent⟩
  · obtain ⟨other, made, same, higher⟩ := below key earlier
    exact ⟨other, made, same, higher.tail isParent⟩

variable [Fintype ι] (orderly : Orderly tool.toHost program cfgs c) (lawful : tool.Lawful)

include orderly lawful

theorem Orderly.not_above_itself {message : Message ι V} (made : IsMade c.core message) :
    ¬Relation.TransGen (IsParent c.core) message message := by
  obtain ⟨n, root, ancestry, _⟩ := orderly.sound.ancestral message made
  exact Descends.acyclic IsBootstrap.parentless
    (fun _ _ _ => orderly.sound.parent_unique lawful.host orderly.distinct) ancestry

theorem Orderly.unvisited {message : Message ι V} (made : IsMade c.core message)
    {visited : Finset LineageKey} (below : BelowAll cfgs c.core message visited) :
    lineageKey cfgs message ∉ visited := by
  intro member
  obtain ⟨other, otherMade, same, higher⟩ := below _ member
  obtain rfl := orderly.key_unique otherMade made same
  exact orderly.not_above_itself lawful otherMade higher

variable {st : MainState V} {kinds : List (EventKind V)} (sameCore : c.core i = st.core)
  (trace : NodeTrace tool program (cfgs i) (c.arrived i) st kinds)

include sameCore trace

/-- One iteration at a message with a parent goes on there. -/
theorem Orderly.path_step {message parent : Message ι V} (delivered : DeliveredAt c i message)
    (isParent : IsParent c.core message parent) {visited : Finset LineageKey}
    (below : BelowAll cfgs c.core message visited) (iterations : Nat) :
    ∃ item, RecordOf tool cfgs i message item ∧
      lineagePathFrom tool (buildLineageIndex tool (stamp 0 kinds)) (iterations + 1) visited
          (lineageKey cfgs message) =
        (lineagePathFrom tool (buildLineageIndex tool (stamp 0 kinds)) iterations
          (insert (lineageKey cfgs message) visited) (lineageKey cfgs parent)).cons item := by
  obtain ⟨item, found, record⟩ := orderly.delivered_indexed lawful sameCore trace delivered
  obtain ⟨hops, names⟩ := orderly.record_parent lawful isParent record
  have other : lineageKey cfgs parent ≠ lineageKey cfgs message := by
    intro same
    obtain rfl := orderly.key_unique isParent.2.1 isParent.1 same
    exact orderly.not_above_itself lawful isParent.1 (.single isParent)
  refine ⟨item, record, ?_⟩
  conv_lhs => unfold lineagePathFrom
  simp only [found, if_neg hops, names, if_neg other,
    if_neg (orderly.unvisited lawful isParent.1 below)]

/-- The induction over the chain of messages. -/
theorem Orderly.path_shows (nodes : Function.Injective fun i => (cfgs i).nodeId)
    {message : Message ι V} {chain : List (Message ι V)} {outside : Option (Message ι V)}
    (traced : Traced c.core i message chain outside) (delivered : DeliveredAt c i message)
    {visited : Finset LineageKey} (below : BelowAll cfgs c.core message visited)
    (iterations : Nat) :
    Shows tool cfgs i iterations chain outside
      (lineagePathFrom tool (buildLineageIndex tool (stamp 0 kinds)) iterations visited
        (lineageKey cfgs message)) := by
  induction traced generalizing iterations visited with
  | root boot =>
      cases iterations with
      | zero => exact .stopped ..
      | succ iterations =>
          obtain ⟨item, found, record⟩ :=
            orderly.delivered_indexed lawful sameCore trace delivered
          have hops := orderly.record_root lawful boot record
          unfold lineagePathFrom
          simp only [found, if_pos hops]
          refine ⟨.cons record (by simp), ?_⟩
          simp only [pathEnd, List.length_singleton, Nat.le_add_left, if_true]
  | @away message parent elsewhere isParent =>
      cases iterations with
      | zero => exact .stopped ..
      | succ iterations =>
          obtain ⟨item, record, step⟩ :=
            orderly.path_step lawful sameCore trace delivered isParent below iterations
          rw [step]
          -- The parent was delivered where the message was made.
          have absent : (buildLineageIndex tool (stamp 0 kinds)).lookup
              (lineageKey cfgs parent) = none := by
            rw [AList.lookup_eq_none, orderly.indexed_iff lawful sameCore trace isParent.2.1]
            intro here
            exact elsewhere (orderly.delivered_unique lawful nodes
              (orderly.parent_delivered isParent) here)
          cases iterations with
          | zero => exact ⟨.cons record .nil, rfl⟩
          | succ iterations =>
              unfold lineagePathFrom
              simp only [absent]
              refine ⟨.cons record (by simp), ?_⟩
              simp only [LineagePath.cons, pathEnd, List.length_singleton,
                Nat.lt_add_left_iff_pos, Nat.zero_lt_succ, if_true]
  | @up message parent above outside home isParent higher ih =>
      cases iterations with
      | zero => exact .stopped ..
      | succ iterations =>
          obtain ⟨item, record, step⟩ :=
            orderly.path_step lawful sameCore trace delivered isParent below iterations
          rw [step]
          have there := orderly.parent_delivered isParent
          rw [home] at there
          exact (ih there (below.up isParent) iterations).cons record

end Paths

/-! ## The summary of a node -/

section Summaries

variable {ι V : Type}

/-- Where a delivered message and its parent were made, seen from node `i`. -/
inductive LinkOf (cores : ι → Core V) (i : ι) (message : Message ι V) : ParentLink → Prop where
  | root (boot : IsBootstrap cores message) : LinkOf cores i message .root
  | resolved (home : message.1 = i) {parent : Message ι V}
      (isParent : IsParent cores message parent) : LinkOf cores i message .resolved
  | unresolvedInternal (elsewhere : message.1 ≠ i) {parent : Message ι V}
      (isParent : IsParent cores message parent) (home : parent.1 = i) :
      LinkOf cores i message .unresolvedInternal
  | unresolvedExternal (elsewhere : message.1 ≠ i) {parent : Message ι V}
      (isParent : IsParent cores message parent) (foreign : parent.1 ≠ i) :
      LinkOf cores i message .unresolvedExternal

/-- The messages delivered at node `i`, each with its link and the number of its ancestors. -/
structure Sorted (c : Cluster ι V) (i : ι) (entries : List (Message ι V × ParentLink × Nat)) :
    Prop where
  once : (entries.map Prod.fst).Nodup
  all : ∀ message, message ∈ entries.map Prod.fst ↔ DeliveredAt c i message
  link : ∀ entry ∈ entries, LinkOf c.core i entry.1 entry.2.1
  ancestors : ∀ entry ∈ entries, ∃ root, Ancestry c.core entry.1 entry.2.2 root

variable {tool : ToolHost V} {program : Program} {cfgs : ι → Config} {c : Cluster ι V} {i : ι}
  [Fintype ι] (orderly : Orderly tool.toHost program cfgs c) (lawful : tool.Lawful)
  {st : MainState V} {kinds : List (EventKind V)} (sameCore : c.core i = st.core)
  (trace : NodeTrace tool program (cfgs i) (c.arrived i) st kinds)
  (nodes : Function.Injective fun i => (cfgs i).nodeId)

include orderly lawful sameCore trace nodes

theorem Orderly.linkOf [DecidableEq ι] {message root : Message ι V} {n : Nat}
    (ancestry : Ancestry c.core message n root) {item : LineageRecord}
    (record : RecordOf tool cfgs i message item) :
    LinkOf c.core i message (parentLink tool (buildLineageIndex tool (stamp 0 kinds)) item) := by
  cases ancestry with
  | root boot =>
      rw [parentLink, if_pos (orderly.record_root lawful boot record)]
      exact .root boot
  | @child _ parent _ _ isParent _ =>
      obtain ⟨hops, names⟩ := orderly.record_parent lawful isParent record
      have there := orderly.parent_delivered isParent
      have indexed := orderly.indexed_iff lawful sameCore trace isParent.2.1
      rw [parentLink, if_neg hops, names]
      dsimp only
      by_cases home : message.1 = i
      · rw [home] at there
        rw [if_pos (indexed.mpr there)]
        exact .resolved home isParent
      · have absent : ¬DeliveredAt c i parent :=
          fun here => home (orderly.delivered_unique lawful nodes there here)
        rw [if_neg (mt indexed.mp absent), record.localNode]
        have own : (lineageKey cfgs parent).1 = (cfgs i).nodeId ↔ parent.1 = i :=
          ⟨fun same => nodes same, fun same => by rw [lineageKey, same]⟩
        by_cases here : parent.1 = i
        · rw [if_pos (own.mpr here)]
          exact .unresolvedInternal home isParent here
        · rw [if_neg (mt own.mp here)]
          exact .unresolvedExternal home isParent here

/-- Every entry of the index is sorted by its message. -/
theorem Orderly.sorted [DecidableEq ι] (few : producedTotal c.core < u64Max) :
    ∃ entries, Sorted c i entries ∧
      summarizeLineage tool (buildLineageIndex tool (stamp 0 kinds)) =
        .ofLinks (entries.map Prod.snd) := by
  let index := buildLineageIndex tool (stamp 0 kinds)
  have each (entry : { entry // entry ∈ index.entries }) :
      ∃ message, DeliveredAt c i message ∧ lineageKey cfgs message = entry.1.1 ∧
        RecordOf tool cfgs i message entry.1.2 :=
    orderly.index_delivered lawful sameCore trace (AList.mem_lookup_iff.mpr entry.2)
  choose message delivered key record using each
  let links (entry : Sigma fun _ : LineageKey => LineageRecord) : ParentLink × Nat :=
    (parentLink tool index entry.2, entry.2.provenance.hops)
  let entries := index.entries.attach.map fun entry => (message entry, links entry.1)
  have firsts : entries.map Prod.fst = index.entries.attach.map message := by
    rw [List.map_map]
    rfl
  refine ⟨entries, ⟨?_, ?_, ?_, ?_⟩, ?_⟩
  · rw [firsts]
    refine List.Nodup.map_on ?_ (List.nodup_attach.mpr index.nodupKeys.nodup)
    intro first _ second _ same
    have keys : first.1.1 = second.1.1 := by
      rw [← key first, ← key second, same]
    exact Subtype.ext (index.nodupKeys.eq_of_fst_eq first.2 second.2 keys)
  · intro other
    rw [firsts, List.mem_map]
    constructor
    · rintro ⟨entry, _, rfl⟩
      exact delivered entry
    · intro here
      obtain ⟨item, found, _⟩ := orderly.delivered_indexed lawful sameCore trace here
      let entry : { entry // entry ∈ index.entries } :=
        ⟨⟨lineageKey cfgs other, item⟩, AList.mem_lookup_iff.mp found⟩
      exact ⟨entry, List.mem_attach _ _,
        orderly.key_unique (delivered entry).made here.made (key entry)⟩
  · rintro _ member
    obtain ⟨entry, _, rfl⟩ := List.mem_map.mp member
    obtain ⟨n, root, ancestry, _⟩ := orderly.sound.ancestral _ (delivered entry).made
    exact orderly.linkOf lawful sameCore trace nodes ancestry (record entry)
  · rintro _ member
    obtain ⟨entry, _, rfl⟩ := List.mem_map.mp member
    obtain ⟨n, root, ancestry, short⟩ := orderly.sound.ancestral _ (delivered entry).made
    have hops := orderly.record_hops lawful ancestry (record entry)
    rw [Nat.min_eq_left (by omega)] at hops
    refine ⟨root, ?_⟩
    change Ancestry c.core (message entry) entry.1.2.provenance.hops root
    rwa [hops]
  · have seconds : entries.map Prod.snd = index.entries.map links := by
      rw [List.map_map]
      exact List.attach_map_val (f := links)
    rw [seconds, summarizeLineage_eq]

end Summaries

/-! ## The reports of a running node -/

section Reports

variable {ι V : Type} {tool : ToolHost V} {program : Program} {cfgs : ι → Config}
  {c : Cluster ι V} {i : ι} {launched : Launch V} {step : Nat} {st : MainState V}
  [DecidableEq ι] [DecidableEq V] [Fintype ι]

/-- A path in the trace of a node follows the parents of a delivered message, in at most
256 iterations, up to its bootstrap message or to the first parent that was delivered at
another node.  It never comes back, and the tool knows no other messages. -/
theorem lineage_path_follows (lawful : tool.Lawful) {src : String}
    (loaded : loadProgram tool.toHost src = .ok program)
    (nodes : Function.Injective fun i => (cfgs i).nodeId)
    (reached : Reachable tool.toHost program cfgs c)
    (few : ∀ i, (c.core i).history.length < u64Max)
    (running : c.process i = .running launched step st) :
    ∃ trace, st.writer = some trace ∧ ∀ start,
      (∃ message chain outside path, DeliveredAt c i message ∧
        lineageKey cfgs message = start ∧ Traced c.core i message chain outside ∧
        lineagePath tool trace start = .ok path ∧
        Shows tool cfgs i maxLineageDepth chain outside path) ∨
      (∀ message, DeliveredAt c i message → lineageKey cfgs message ≠ start) ∧
        lineagePath tool trace start = .error
          s!"lineage start message not found in trace: {lineageText tool start}" := by
  have accepted := loadProgram_accepted loaded
  have orderly := reached.orderly accepted nodes few
  obtain ⟨kinds, trace⟩ := orderly.traceSoFar accepted reached running
  have sameCore := Cluster.core_of_running running
  refine ⟨stamp 0 kinds, trace.writer, fun start => ?_⟩
  cases found : (buildLineageIndex tool (stamp 0 kinds)).lookup start with
  | some item =>
      obtain ⟨message, delivered, rfl, _⟩ :=
        orderly.index_delivered lawful sameCore trace found
      obtain ⟨n, root, ancestry, _⟩ := orderly.sound.ancestral message delivered.made
      obtain ⟨chain, outside, traced⟩ := ancestry.traced i
      refine .inl ⟨message, chain, outside, _, delivered, rfl, traced, ?_,
        orderly.path_shows lawful sameCore trace nodes traced delivered
          (fun _ member => absurd member (Finset.notMem_empty _)) maxLineageDepth⟩
      simp only [lineagePath, found]
  | none =>
      refine .inr ⟨?_, by simp only [lineagePath, found]⟩
      rintro message delivered rfl
      obtain ⟨item, indexed, _⟩ := orderly.delivered_indexed lawful sameCore trace delivered
      rw [found] at indexed
      cases indexed

/-- The summary of a node's trace counts its delivered messages by where they and their
parents were made; no parent reference is invalid. -/
theorem lineage_summary_sorted (lawful : tool.Lawful) {src : String}
    (loaded : loadProgram tool.toHost src = .ok program)
    (nodes : Function.Injective fun i => (cfgs i).nodeId)
    (reached : Reachable tool.toHost program cfgs c)
    (few : producedTotal c.core < u64Max)
    (running : c.process i = .running launched step st) :
    ∃ trace, st.writer = some trace ∧ ∃ entries, Sorted c i entries ∧
      summarizeLineage tool (buildLineageIndex tool trace) =
        .ofLinks (entries.map Prod.snd) := by
  have accepted := loadProgram_accepted loaded
  have orderly := reached.orderly accepted nodes fun i =>
    Nat.lt_of_le_of_lt (producedTotal_le c.core i) few
  obtain ⟨kinds, trace⟩ := orderly.traceSoFar accepted reached running
  exact ⟨stamp 0 kinds, trace.writer,
    orderly.sorted lawful (Cluster.core_of_running running) trace nodes few⟩

end Reports

section Samples

/-- Both nodes have delivered messages of the other and timers of their own. -/
theorem lineage_path_follows_sample :
    ∃ trace, ((samplePair [0, 1, 0, 1, 0, 1, 0, 1]).process 0).state.writer = some trace ∧ ∀ start,
      (∃ message chain outside path, DeliveredAt (samplePair [0, 1, 0, 1, 0, 1, 0, 1]) 0 message ∧
        lineageKey sampleNodes message = start ∧
        Traced (samplePair [0, 1, 0, 1, 0, 1, 0, 1]).core 0 message chain outside ∧
        lineagePath jsonTool trace start = .ok path ∧
        Shows jsonTool sampleNodes 0 maxLineageDepth chain outside path) ∨
      (∀ message, DeliveredAt (samplePair [0, 1, 0, 1, 0, 1, 0, 1]) 0 message →
          lineageKey sampleNodes message ≠ start) ∧
        lineagePath jsonTool trace start = .error
          s!"lineage start message not found in trace: {lineageText jsonTool start}" := by
  have going : ((samplePair [0, 1, 0, 1, 0, 1, 0, 1]).process 0).iterations = some 3 := by
    decide +kernel
  have few : ∀ i, ((samplePair [0, 1, 0, 1, 0, 1, 0, 1]).core i).history.length < u64Max := by
    decide +kernel
  obtain ⟨launched, st, running⟩ := Process.running_of_iterations going
  rw [show ((samplePair [0, 1, 0, 1, 0, 1, 0, 1]).process 0).state = st by rw [running]; rfl]
  exact lineage_path_follows jsonTool_lawful sampleProgram_loaded sampleNodes_distinct
    (samplePair_reachable [0, 1, 0, 1, 0, 1, 0, 1]) few running

theorem lineage_summary_sorted_sample :
    ∃ trace, ((samplePair [0, 1, 0, 1, 0, 1, 0, 1]).process 0).state.writer = some trace ∧
      ∃ entries, Sorted (samplePair [0, 1, 0, 1, 0, 1, 0, 1]) 0 entries ∧
        summarizeLineage jsonTool (buildLineageIndex jsonTool trace) =
          .ofLinks (entries.map Prod.snd) := by
  have going : ((samplePair [0, 1, 0, 1, 0, 1, 0, 1]).process 0).iterations = some 3 := by
    decide +kernel
  have few : producedTotal (samplePair [0, 1, 0, 1, 0, 1, 0, 1]).core < u64Max := by decide +kernel
  obtain ⟨launched, st, running⟩ := Process.running_of_iterations going
  rw [show ((samplePair [0, 1, 0, 1, 0, 1, 0, 1]).process 0).state = st by rw [running]; rfl]
  exact lineage_summary_sorted jsonTool_lawful sampleProgram_loaded sampleNodes_distinct
    (samplePair_reachable [0, 1, 0, 1, 0, 1, 0, 1]) few running

end Samples

end UcoStack.System
