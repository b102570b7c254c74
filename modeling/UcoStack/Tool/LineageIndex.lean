import UcoStack.Library.Descent
import UcoStack.Tool.ClusterMeaning
import UcoStack.Tool.LocalMeaning

/-!
# The combined lineage index

In a trace that the local verifier accepts, the lineage index holds records of
deliveries whose own lineage was checked.  Together with the global checks of the
cluster verifier this makes the parents of the combined index well-founded: the
hops are the measure.
-/

namespace UcoStack.Tool

open UcoStack.Runtime

/-! ## Collected deliveries -/

section Collecting

variable {V : Type}

/-- The trace delivers this payload. -/
def DeliveredIn (kinds : List (EventKind V)) (delivery : DeliveredPayload V) : Prop :=
  ∃ past later,
    kinds = past ++ .deliver delivery.node delivery.receiver delivery.msgId :: later ∧
      (waiting (delivery.receiver, delivery.msgId) past).head? = some delivery.payload

theorem DeliveredIn.append {kinds : List (EventKind V)} {delivery : DeliveredPayload V}
    (delivered : DeliveredIn kinds delivery) (more : List (EventKind V)) :
    DeliveredIn (kinds ++ more) delivery := by
  obtain ⟨past, later, rfl, first⟩ := delivered
  exact ⟨past, later ++ more, by rw [List.append_assoc, List.cons_append], first⟩

/-- The variables of `collectDeliveriesWithPayload` after some events. -/
structure Collected (kinds : List (EventKind V)) (collected : Collecting V) : Prop where
  queued : Queued kinds collected.produced
  balanced : ∀ key, deliveries key kinds ≤ (payloadsFor key kinds).length
  out : ∀ delivery ∈ collected.out, DeliveredIn kinds delivery

theorem collectEvent_produced (collected : Collecting V) (ev : TraceEvent V) :
    (collectEvent collected ev).produced = producedAfter collected.produced ev.kind := by
  obtain ⟨seq, seed, kind⟩ := ev
  cases kind with
  | deliver node receiver msgId =>
      unfold collectEvent producedAfter popPayload
      dsimp only
      cases collected.produced.lookup (receiver, msgId) with
      | none => rfl
      | some payloads => cases payloads <;> rfl
  | _ => rfl

/-- What one event adds to the collected deliveries was waiting before it. -/
theorem collectEvent_out {kinds : List (EventKind V)} {collected : Collecting V}
    (queued : Queued kinds collected.produced) (ev : TraceEvent V) {delivery : DeliveredPayload V}
    (member : delivery ∈ (collectEvent collected ev).out) :
    delivery ∈ collected.out ∨
      ev.kind = .deliver delivery.node delivery.receiver delivery.msgId ∧
        (waiting (delivery.receiver, delivery.msgId) kinds).head? = some delivery.payload := by
  obtain ⟨seq, seed, kind⟩ := ev
  cases kind with
  | deliver node receiver msgId =>
      have stored := queued (receiver, msgId)
      unfold collectEvent at member
      dsimp only at member
      cases found : collected.produced.lookup (receiver, msgId) with
      | none =>
          rw [found] at member
          exact .inl member
      | some payloads =>
          rw [found] at member stored
          cases payloads with
          | nil => exact .inl member
          | cons payload queue =>
              rcases List.mem_append.mp member with before | last
              · exact .inl before
              · cases List.mem_singleton.mp last
                refine .inr ⟨rfl, ?_⟩
                split at stored
                · cases stored
                · rw [← Option.some.inj stored]
                  rfl
  | _ => exact .inl member

theorem Collected.snoc {kinds : List (EventKind V)} {collected : Collecting V}
    (state : Collected kinds collected) {ev : TraceEvent V} (takes : Takes kinds ev.kind) :
    Collected (kinds ++ [ev.kind]) (collectEvent collected ev) := by
  constructor
  · rw [collectEvent_produced]
    exact producedAfter_queued state.queued state.balanced ev.kind
  · exact fun key => balanced_snoc (state.balanced key) takes
  · intro delivery member
    rcases collectEvent_out state.queued ev member with before | ⟨same, first⟩
    · exact (state.out delivery before).append [ev.kind]
    · exact ⟨kinds, [], by rw [same], first⟩

theorem collected_of_takes {events : List (TraceEvent V)}
    (every : EveryPosition Takes (kindsOf events)) :
    Collected (kindsOf events) (events.foldl collectEvent ⟨∅, []⟩) := by
  induction events using List.reverseRecOn with
  | nil =>
      refine ⟨fun key => ?_, fun key => Nat.le_refl _, fun delivery member => ?_⟩
      · simp [waiting, payloadsFor, kindsOf]
      · cases member
  | append_singleton past ev ih =>
      rw [kindsOf_snoc] at every ⊢
      obtain ⟨before, last⟩ := EveryPosition.snoc.mp every
      rw [List.foldl_append]
      exact (ih before).snoc last

/-- A delivery that finds its payload waiting is collected, and nothing collected is lost. -/
theorem collectEvent_keeps (collected : Collecting V) (ev : TraceEvent V) :
    collected.out ⊆ (collectEvent collected ev).out := by
  unfold collectEvent
  split
  · exact List.Subset.refl _
  · exact List.Subset.refl _
  · split
    · exact List.Subset.refl _
    · exact List.Subset.refl _
    · exact List.subset_append_left _ _
  · exact List.Subset.refl _

theorem collectEvent_adds {kinds : List (EventKind V)} {collected : Collecting V}
    (queued : Queued kinds collected.produced) {ev : TraceEvent V} {node : NodeId}
    {receiver : ActorId} {msgId : MsgId} {payload : V}
    (isDelivery : ev.kind = .deliver node receiver msgId)
    (first : (waiting (receiver, msgId) kinds).head? = some payload) :
    ∃ delivery ∈ (collectEvent collected ev).out,
      delivery.msgId = msgId ∧ delivery.payload = payload := by
  obtain ⟨queue, waits⟩ := List.head?_eq_some_iff.mp first
  have stored := queued (receiver, msgId)
  rw [waits, if_neg (List.cons_ne_nil payload queue)] at stored
  unfold collectEvent
  rw [isDelivery]
  simp only [stored]
  exact ⟨⟨ev.seq, node, receiver, msgId, payload⟩,
    List.mem_append_right _ List.mem_cons_self, rfl, rfl⟩

/-- Every delivery is collected. -/
theorem collected_complete {events : List (TraceEvent V)}
    (every : EveryPosition Takes (kindsOf events)) {delivery : DeliveredPayload V}
    (delivered : DeliveredIn (kindsOf events) delivery) :
    ∃ collected ∈ collectDeliveriesWithPayload events,
      collected.msgId = delivery.msgId ∧ collected.payload = delivery.payload := by
  unfold collectDeliveriesWithPayload
  induction events using List.reverseRecOn with
  | nil =>
      obtain ⟨past, later, split, _⟩ := delivered
      cases past <;> cases split
  | append_singleton past ev ih =>
      rw [kindsOf_snoc] at every delivered
      obtain ⟨before, _⟩ := EveryPosition.snoc.mp every
      rw [List.foldl_append, List.foldl_cons, List.foldl_nil]
      obtain ⟨early, later, split, first⟩ := delivered
      rcases List.eq_nil_or_concat later with rfl | ⟨others, last, rfl⟩
      · obtain ⟨rfl, same⟩ := List.append_inj' split rfl
        exact collectEvent_adds (collected_of_takes before).queued (List.cons.inj same).1 first
      · rw [List.concat_eq_append, ← List.cons_append, ← List.append_assoc] at split
        obtain ⟨same, _⟩ := List.append_inj' split rfl
        obtain ⟨collected, member, fields⟩ := ih before ⟨early, others, same, first⟩
        exact ⟨collected, collectEvent_keeps _ ev member, fields⟩

end Collecting

/-! ## The index of one trace -/

section Index

variable {V : Type} {tool : ToolHost V} {events : List (TraceEvent V)}

/-- The index holds records of collected deliveries, under their own keys. -/
theorem indexDelivery_lookup {deliveries : List (DeliveredPayload V)} {key : LineageKey}
    {item : LineageRecord}
    (found : (deliveries.foldl (indexDelivery tool) ∅).lookup key = some item) :
    item.key = key ∧ ∃ delivery ∈ deliveries, lineageRecord tool delivery = some item := by
  induction deliveries using List.reverseRecOn with
  | nil => cases found
  | append_singleton past delivery ih =>
      have earlier (before : (past.foldl (indexDelivery tool) ∅).lookup key = some item) :
          item.key = key ∧ ∃ other ∈ past ++ [delivery], lineageRecord tool other = some item := by
        obtain ⟨own, other, member, recorded⟩ := ih before
        exact ⟨own, other, List.mem_append_left _ member, recorded⟩
      rw [List.foldl_append, List.foldl_cons, List.foldl_nil] at found
      unfold indexDelivery at found
      cases recorded : lineageRecord tool delivery with
      | none =>
          rw [recorded] at found
          exact earlier found
      | some last =>
          rw [recorded] at found
          by_cases same : key = last.key
          · subst same
            rw [AList.lookup_insert] at found
            cases found
            exact ⟨rfl, delivery, List.mem_append_right _ List.mem_cons_self, recorded⟩
          · rw [AList.lookup_insert_ne same] at found
            exact earlier found

/-- Every record of a delivery has its key in the index. -/
theorem indexDelivery_complete {deliveries : List (DeliveredPayload V)}
    {delivery : DeliveredPayload V} (member : delivery ∈ deliveries) {item : LineageRecord}
    (recorded : lineageRecord tool delivery = some item) :
    item.key ∈ deliveries.foldl (indexDelivery tool) ∅ := by
  induction deliveries using List.reverseRecOn with
  | nil => cases member
  | append_singleton past last ih =>
      rw [List.foldl_append, List.foldl_cons, List.foldl_nil]
      unfold indexDelivery
      rcases List.mem_append.mp member with before | here
      · have early := ih before
        split
        · exact early
        · exact (AList.mem_insert _).mpr (.inr early)
      · obtain rfl := List.mem_singleton.mp here
        rw [recorded]
        exact (AList.mem_insert _).mpr (.inl rfl)

/-- The record of a delivery has the fields the local verifier read. -/
theorem lineageRecord_reads {delivery : DeliveredPayload V} {item : LineageRecord}
    (recorded : lineageRecord tool delivery = some item) {parsed : ParsedLineage}
    (reads : ReadsAs tool delivery.payload parsed) :
    item.key = (parsed.fromNode, delivery.msgId) ∧ item.provenance = parsed.prov := by
  obtain ⟨msgType, decoded⟩ := reads.decoded
  unfold lineageRecord at recorded
  rw [decoded] at recorded
  dsimp only at recorded
  rw [reads.sender] at recorded
  cases recorded
  exact ⟨rfl, rfl⟩

/-- A delivery whose lineage can be read has a record. -/
theorem ReadsAs.recorded {delivery : DeliveredPayload V} {parsed : ParsedLineage}
    (reads : ReadsAs tool delivery.payload parsed) :
    ∃ item, lineageRecord tool delivery = some item := by
  obtain ⟨msgType, decoded⟩ := reads.decoded
  unfold lineageRecord
  rw [decoded]
  dsimp only
  rw [reads.sender]
  exact ⟨_, rfl⟩

/-- The cluster verifier looks for the parent the local verifier read. -/
theorem ReadsAs.lineageParentKey {payload : V} {parsed : ParsedLineage}
    (reads : ReadsAs tool payload parsed) {item : LineageRecord}
    (sender : item.key.1 = parsed.fromNode) (provenance : item.provenance = parsed.prov) :
    lineageParentKey tool item = .ok (parsed.parentNode, parsed.parentMsgId) := by
  have parentNode := reads.parentNode
  unfold Tool.lineageParentKey
  rw [provenance, reads.parentMsg]
  by_cases empty : parsed.prov.parentNode.isEmpty
  · rw [if_pos empty, reads.sender] at parentNode
    rw [if_pos empty, sender, Option.some.inj parentNode]
    rfl
  · rw [if_neg empty] at parentNode
    rw [if_neg empty, parentNode]
    rfl

/-- A record of an accepted trace: its fields were read, and its lineage was in order
after some of the events. -/
structure Checked (tool : ToolHost V) (item : LineageRecord) (parsed : ParsedLineage)
    (past : List (EventKind V)) : Prop where
  key : item.key.1 = parsed.fromNode
  provenance : item.provenance = parsed.prov
  origin : tool.uuidParse item.provenance.originMsgId = some parsed.originMsgId
  inOrder : parsed.InOrder item.key.2 (lastLineage tool past)

theorem accepted_own (clean : (verifyTrace tool events).problems = [])
    {past later : List (EventKind V)} {kind : EventKind V}
    (split : kindsOf events = past ++ kind :: later) : OwnOk tool past kind :=
  (((verifyTrace_positions tool events).mp clean).2.1 past kind later split).own

theorem buildLineageIndex_checked (clean : (verifyTrace tool events).problems = [])
    {key : LineageKey} {item : LineageRecord}
    (found : (buildLineageIndex tool events).lookup key = some item) :
    item.key = key ∧ ∃ parsed past, Checked tool item parsed past := by
  obtain ⟨own, delivery, member, recorded⟩ := indexDelivery_lookup found
  have takes : EveryPosition Takes (kindsOf events) :=
    fun past kind later split => (accepted_own clean split).takes
  obtain ⟨past, later, split, first⟩ := (collected_of_takes takes).out delivery member
  obtain ⟨payload, waits, parsed, reads, inOrder⟩ := accepted_own clean split
  rw [first] at waits
  cases waits
  have reading := readLineage_eq_some.mp reads
  obtain ⟨keys, provenance⟩ := lineageRecord_reads recorded reading
  refine ⟨own, parsed, past, ?_, provenance, ?_, ?_⟩
  · rw [keys]
  · rw [provenance]
    exact reading.origin
  · rw [keys]
    exact inOrder

/-- A record without hops is its own origin. -/
theorem Checked.root {item : LineageRecord} {parsed : ParsedLineage} {past : List (EventKind V)}
    (checked : Checked tool item parsed past) (root : item.provenance.hops = 0) :
    tool.uuidParse item.provenance.originMsgId = some item.key.2 := by
  rw [checked.provenance] at root
  rw [checked.origin, (checked.inOrder.root root).originMsgId]

end Index

/-! ## Walking up the combined index -/

section Walking

variable {V : Type} (tool : ToolHost V) (traces : List (ClusterTrace V))

/-- The combined index of the cluster verifier. -/
def globalLineage : GlobalLineage := (traces.foldl (mergeTrace tool) (.empty, ∅)).2

/-- The record of the parent, when the record has hops and its parent is indexed. -/
def parentRecord (index : GlobalLineage) (item : LineageRecord) : Option LineageRecord :=
  if item.provenance.hops = 0 then none
  else
    match lineageParentKey tool item with
    | .error _ => none
    | .ok parent => (index.lookup parent).map Prod.fst

/-- The records met when going from parent to parent. -/
def ancestors (steps : Nat) (item : LineageRecord) : List LineageRecord :=
  walk (parentRecord tool (globalLineage tool traces)) steps item

/-- The origin a record claims. -/
def LineageRecord.origin (item : LineageRecord) : String × String × String :=
  (item.provenance.originNode, item.provenance.originService, item.provenance.originMsgId)

/-- The parent of the record is of none of the nodes of the traces. -/
def ParentOutside (item : LineageRecord) : Prop :=
  item.provenance.hops ≠ 0 ∧
    ∃ parent, lineageParentKey tool item = .ok parent ∧ parent.1 ∉ includedNodes traces

/-- Going up from a record never comes back, keeps the origin and ends within as many
steps as the record has hops: at the origin, or where a parent is outside. -/
structure LineageGrounded (item : LineageRecord) : Prop where
  distinct : ∀ steps, ((ancestors tool traces steps item).map LineageRecord.key).Nodup
  origin : ∀ steps, ∀ other ∈ ancestors tool traces steps item, other.origin = item.origin
  ends : ∃ last, (ancestors tool traces item.provenance.hops item).getLast? = some last ∧
    parentRecord tool (globalLineage tool traces) last = none ∧
      (last.provenance.hops = 0 ∧
          (∀ other ∈ ancestors tool traces item.provenance.hops item,
            tool.uuidParse other.provenance.originMsgId = some last.key.2) ∨
        ParentOutside tool traces last)

variable {tool traces}

theorem globalLineage_lookup (resolved : (clusterLineage tool traces).map Prod.fst |>.Nodup)
    (key : LineageKey) (item : LineageRecord) :
    (∃ path, (globalLineage tool traces).lookup key = some (item, path)) ↔
      (key, item) ∈ clusterLineage tool traces := by
  have keys : ((taggedRecords tool traces).map TaggedRecord.key).Nodup := by
    rw [← taggedRecords_lineage, List.map_map] at resolved
    exact resolved
  have start_merged : Merged .empty [] (.empty, ∅) := ⟨rfl, rfl⟩
  obtain ⟨merging, represents⟩ := (mergeItem_monitors tool .empty).foldl_iff rfl start_merged
    (taggedRecords tool traces)
  rw [EveryPosition.nodup_map_iff] at merging
  have merged := represents (merging.mpr keys)
  rw [← mergeTraces_eq] at merged
  have same : ((taggedRecords tool traces).map TaggedRecord.entry).Perm
      (clusterLineage tool traces) := by
    rw [taggedRecords_lineage]
  exact merged.lookup_iff same key item

/-- Every record of the cluster was checked by the local verifier, in its own trace. -/
theorem clusterLineage_checked
    (clean : ∀ trace ∈ traces, (verifyTrace tool trace.events).problems = [])
    {key : LineageKey} {item : LineageRecord} (member : (key, item) ∈ clusterLineage tool traces) :
    item.key = key ∧ ∃ parsed past, Checked tool item parsed past := by
  obtain ⟨trace, inTraces, inTrace⟩ := List.mem_flatMap.mp member
  obtain ⟨entry, stored, same⟩ := List.mem_map.mp inTrace
  cases same
  exact buildLineageIndex_checked (clean trace inTraces) (AList.mem_lookup_iff.mpr stored)

/-- A record of the cluster under its own key. -/
def Listed (tool : ToolHost V) (traces : List (ClusterTrace V)) (item : LineageRecord) : Prop :=
  (item.key, item) ∈ clusterLineage tool traces

theorem parentRecord_eq_some (nodup : (clusterLineage tool traces).map Prod.fst |>.Nodup)
    (clean : ∀ trace ∈ traces, (verifyTrace tool trace.events).problems = [])
    {item parent : LineageRecord}
    (step : parentRecord tool (globalLineage tool traces) item = some parent) :
    item.provenance.hops ≠ 0 ∧ lineageParentKey tool item = .ok parent.key ∧
      Listed tool traces parent := by
  unfold parentRecord at step
  split at step
  · cases step
  · rename_i hops
    split at step
    · cases step
    · rename_i key names
      obtain ⟨⟨found, path⟩, stored, rfl⟩ := Option.map_eq_some_iff.mp step
      have member := (globalLineage_lookup nodup key found).mp ⟨path, stored⟩
      obtain ⟨rfl, _⟩ := clusterLineage_checked clean member
      exact ⟨hops, names, member⟩

/-- One step up: the parent is listed, and the record is one hop after it. -/
theorem parentRecord_continues
    (clean : ∀ trace ∈ traces, (verifyTrace tool trace.events).problems = [])
    (lineage : LineageResolved tool (includedNodes traces) (clusterLineage tool traces))
    {item parent : LineageRecord} (listed : Listed tool traces item)
    (step : parentRecord tool (globalLineage tool traces) item = some parent) :
    Listed tool traces parent ∧ item.Continues parent := by
  obtain ⟨hops, names, found⟩ := parentRecord_eq_some lineage.nodup clean step
  obtain ⟨key, named, continues, _⟩ := lineage.parent _ listed hops
  rw [names] at named
  cases named
  exact ⟨found, continues parent found⟩

variable [DecidableEq V]

/-- The lineage of verified traces is well-founded. -/
theorem lineage_grounded (clean : ∀ trace ∈ traces, (verifyTrace tool trace.events).problems = [])
    (together : (verifyCluster tool traces).problems = [])
    (few : ∀ entry ∈ clusterLineage tool traces, entry.2.provenance.hops < u64Max)
    {key : LineageKey} {item : LineageRecord} {path : String}
    (found : (globalLineage tool traces).lookup key = some (item, path)) :
    LineageGrounded tool traces item := by
  obtain ⟨_, _, lineage⟩ := (verifyCluster_clean tool traces).1.mp together
  have listed : Listed tool traces item := by
    have member := (globalLineage_lookup lineage.nodup key item).mp ⟨path, found⟩
    obtain ⟨rfl, _⟩ := clusterLineage_checked clean member
    exact member
  have lowers : Lowers (parentRecord tool (globalLineage tool traces)) (Listed tool traces)
      fun item => item.provenance.hops := by
    constructor
    · intro child parent inIndex step
      exact (parentRecord_continues clean lineage inIndex step).1
    · intro child parent inIndex step
      obtain ⟨above, continues⟩ := parentRecord_continues clean lineage inIndex step
      have bound := few _ above
      have hops := continues.hops
      rw [saturatingAdd_of_le bound] at hops
      omega
  have constant (steps : Nat) : ∀ other ∈ ancestors tool traces steps item,
      other.origin = item.origin := by
    apply lowers.walk_constant LineageRecord.origin _ listed
    intro child parent inIndex step
    obtain ⟨_, continues⟩ := parentRecord_continues clean lineage inIndex step
    simp only [LineageRecord.origin, continues.originNode, continues.originService,
      continues.originMsgId]
  refine ⟨fun steps => ?_, constant, ?_⟩
  · apply (lowers.walk_nodup listed steps).map_on
    intro first inFirst second inSecond same
    have firstListed := lowers.walk_good listed steps first inFirst
    have secondListed := lowers.walk_good listed steps second inSecond
    exact (Prod.mk.inj (List.inj_on_of_nodup_map lineage.nodup firstListed secondListed same)).2
  · obtain ⟨last, isLast, ends⟩ := lowers.walk_ends listed (Nat.le_refl item.provenance.hops)
    have member : last ∈ ancestors tool traces item.provenance.hops item :=
      List.mem_of_getLast? isLast
    have lastListed : Listed tool traces last := lowers.walk_good listed _ last member
    refine ⟨last, isLast, ends, ?_⟩
    by_cases root : last.provenance.hops = 0
    · refine .inl ⟨root, fun other inWalk => ?_⟩
      have same : other.origin = last.origin :=
        (constant _ other inWalk).trans (constant _ last member).symm
      have texts : other.provenance.originMsgId = last.provenance.originMsgId :=
        congrArg (fun origin => origin.2.2) same
      obtain ⟨_, parsed, past, checked⟩ := clusterLineage_checked clean lastListed
      rw [texts]
      exact checked.root root
    · obtain ⟨parent, names, _, outside⟩ := lineage.parent _ lastListed root
      refine .inr ⟨root, parent, names, outside fun known => ?_⟩
      obtain ⟨⟨_, above⟩, stored, rfl⟩ := List.mem_map.mp known
      obtain ⟨path', lookup⟩ := (globalLineage_lookup lineage.nodup _ above).mpr stored
      unfold parentRecord at ends
      rw [if_neg root, names] at ends
      dsimp only at ends
      rw [lookup] at ends
      cases ends

/-- The provenance of a message that node 7 sends after delivering its message 1. -/
def sampleReply : MessageProvenance :=
  { originNode := UuidText.print 7
    originService := "A"
    originMsgId := UuidText.print 1
    parentNode := UuidText.print 7
    parentMsgId := UuidText.print 1
    hops := 1 }

/-- A message of node 7 with the given provenance. -/
def sampleMessage (provenance : MessageProvenance) : JsonDoc :=
  JsonDoc.ofMessage
    { msgType := "start"
      fromNode := UuidText.print 7
      fromService := "B"
      text := "hi"
      provenance := some provenance }

/-- Node 7 delivers its own message and replies to node 8, which delivers the reply. -/
def sampleChain : List (ClusterTrace JsonDoc) :=
  [⟨"node7",
      [⟨0, 7, .spawn 7 11 "A"⟩, ⟨1, 7, .spawn 7 22 "B"⟩, ⟨2, 7, .send 11 22 1 samplePayload⟩,
        ⟨3, 7, .deliver 7 22 1⟩, ⟨4, 7, .effectObserved 7 22 "B" "start" 1 [] []⟩,
        ⟨5, 7, .netSend 7 8 22 2 (sampleMessage sampleReply)⟩]⟩,
    ⟨"node8",
      [⟨0, 7, .spawn 8 11 "A"⟩, ⟨1, 7, .netRecv 8 7 11 2 (sampleMessage sampleReply)⟩,
        ⟨2, 7, .deliver 8 11 2⟩, ⟨3, 7, .effectObserved 8 11 "A" "start" 2 [] []⟩]⟩]

theorem lineage_grounded_sample :
    LineageGrounded jsonTool sampleChain ⟨(7, 2), 2, 8, 11, "B", "start", sampleReply⟩ := by
  have found : (globalLineage jsonTool sampleChain).lookup (7, 2) =
      some (⟨(7, 2), 2, 8, 11, "B", "start", sampleReply⟩, "node8") := by
    decide +kernel
  exact lineage_grounded (by decide +kernel) (by decide +kernel) (by decide +kernel) found

end Walking

end UcoStack.Tool
