import UcoStack.Tool.ClusterVerify
import UcoStack.Tool.JsonTool

/-!
# What cluster verification means

The phases put together: the cluster verifier finds no problem exactly when every
trace has one node, the network evidence matches and the lineage resolves, and
then its report counts the network messages.
-/

namespace UcoStack.Tool

open UcoStack.Runtime

section Phases

variable {V : Type} (tool : ToolHost V) (included : Finset NodeId)

/-- The report of the three matching loops. -/
def matchingReport [DecidableEq V] (index : NetworkIndex V) (start : ClusterReport) :
    ClusterReport :=
  index.sends.keys.foldl (checkSent tool included index)
    (index.drops.entries.foldl (checkDrop tool included index)
      (index.recvs.entries.foldl (checkRecv tool included index) start))

/-- The report of the two lineage loops. -/
def lineageReport (traces : List (ClusterTrace V)) (start : ClusterReport) : ClusterReport :=
  let merged := traces.foldl (mergeTrace tool) (start, ∅)
  merged.2.entries.foldl (checkGlobal tool included merged.2) merged.1

/-- The report that only counts the network messages. -/
def countReport (kinds : List (EventKind V)) : ClusterReport :=
  { ClusterReport.empty with
    matchedRecv := fromInside included (recvKeys kinds)
    matchedDrop := fromInside included (dropKeys kinds)
    externalInbound := fromOutside included (recvKeys kinds) + fromOutside included (dropKeys kinds)
    externalOutbound := toOutside included (sendKeys kinds) }

variable {included} {kinds : List (EventKind V)} {index : NetworkIndex V}

theorem Indexed.recv_iff (indexed : Indexed kinds index) (key : ClusterKey) :
    (index.recvs.lookup key).isSome ↔ key ∈ recvKeys kinds := by
  rw [AList.lookup_isSome, AList.mem_keys, indexed.recvs_keys, List.mem_reverse]

theorem Indexed.drop_iff (indexed : Indexed kinds index) (key : ClusterKey) :
    (index.drops.lookup key).isSome ↔ key ∈ dropKeys kinds := by
  rw [AList.lookup_isSome, AList.mem_keys, indexed.drops, List.mem_reverse]

theorem Indexed.recvs_matched (indexed : Indexed kinds index) :
    (∀ entry ∈ index.recvs.entries, entry.1.1 ∈ included →
      ∃ send, index.sends.lookup entry.1 = some send ∧ send.payload = entry.2.payload) ↔
      ∀ item ∈ kinds.filterMap receivedMessage,
        item.1.1 ∈ included → item ∈ kinds.filterMap sentMessage := by
  constructor
  · rintro matched ⟨key, payload⟩ member inside
    rw [← List.mem_reverse, ← indexed.recvs, List.mem_map] at member
    obtain ⟨entry, stored, same⟩ := member
    cases same
    exact indexed.mem_sends.mp (matched entry stored inside)
  · intro matched entry stored inside
    refine indexed.mem_sends.mpr (matched (entry.1, entry.2.payload) ?_ inside)
    rw [← List.mem_reverse, ← indexed.recvs]
    exact List.mem_map.mpr ⟨entry, stored, rfl⟩

theorem Indexed.drops_matched (indexed : Indexed kinds index) :
    (∀ entry ∈ index.drops.entries, entry.1.1 ∈ included →
      (index.sends.lookup entry.1).isSome) ↔
      ∀ key ∈ dropKeys kinds, key.1 ∈ included → key ∈ sendKeys kinds := by
  have keys (key : ClusterKey) :
      key ∈ dropKeys kinds ↔ ∃ entry ∈ index.drops.entries, entry.1 = key := by
    rw [← List.mem_reverse, ← indexed.drops]
    exact List.mem_map
  constructor
  · intro matched key member inside
    obtain ⟨entry, stored, rfl⟩ := (keys key).mp member
    exact (indexed.sent_iff entry.1).mp (matched entry stored inside)
  · intro matched entry stored inside
    exact (indexed.sent_iff entry.1).mpr
      (matched entry.1 ((keys entry.1).mpr ⟨entry, stored, rfl⟩) inside)

theorem Indexed.sends_matched (indexed : Indexed kinds index) :
    (∀ key ∈ index.sends.keys, key.2.2 ∈ included →
      ((index.recvs.lookup key).isSome ↔ ¬(index.drops.lookup key).isSome)) ↔
      ∀ key ∈ sendKeys kinds, key.2.2 ∈ included →
        (key ∈ recvKeys kinds ↔ key ∉ dropKeys kinds) := by
  rw [indexed.sends_keys]
  simp only [List.mem_reverse, indexed.recv_iff, indexed.drop_iff]

/-- The matching loops: the verdict, and the counts without a problem. -/
theorem matchingReport_clean [DecidableEq V] (indexed : Indexed kinds index) :
    ((matchingReport tool included index .empty).problems = [] ↔
      (∀ item ∈ kinds.filterMap receivedMessage,
        item.1.1 ∈ included → item ∈ kinds.filterMap sentMessage) ∧
      (∀ key ∈ dropKeys kinds, key.1 ∈ included → key ∈ sendKeys kinds) ∧
      ∀ key ∈ sendKeys kinds, key.2.2 ∈ included →
        (key ∈ recvKeys kinds ↔ key ∉ dropKeys kinds)) ∧
      ((matchingReport tool included index .empty).problems = [] →
        matchingReport tool included index .empty = countReport included kinds) := by
  have recvs := (checkRecv_monitors tool included index .empty).foldl_iff
    (show ClusterReport.empty.problems = [] from rfl) rfl index.recvs.entries
  have drops (start : ClusterReport) (clean : start.problems = []) :=
    (checkDrop_monitors tool included index start).foldl_iff clean rfl index.drops.entries
  have sends (start : ClusterReport) (clean : start.problems = []) :=
    (checkSent_monitors tool included index start).foldl_iff clean rfl index.sends.keys
  rw [EveryPosition.forall_iff, indexed.recvs_matched] at recvs
  simp only [EveryPosition.forall_iff, indexed.drops_matched] at drops
  simp only [EveryPosition.forall_iff, indexed.sends_matched] at sends
  have keepsDrops (start : ClusterReport)
      (clean : (index.drops.entries.foldl (checkDrop tool included index) start).problems = []) :
      start.problems = [] :=
    (checkDrop_monitors tool included index start).foldl_keeps clean
  have keepsSends (start : ClusterReport)
      (clean : (index.sends.keys.foldl (checkSent tool included index) start).problems = []) :
      start.problems = [] :=
    (checkSent_monitors tool included index start).foldl_keeps clean
  unfold matchingReport
  constructor
  · constructor
    · intro clean
      have cleanDrops := keepsSends _ clean
      have cleanRecvs := keepsDrops _ cleanDrops
      exact ⟨recvs.1.mp cleanRecvs, (drops _ cleanRecvs).1.mp cleanDrops,
        (sends _ cleanDrops).1.mp clean⟩
    · rintro ⟨recv_sent, drop_sent, taken⟩
      have cleanRecvs := recvs.1.mpr recv_sent
      have cleanDrops := (drops _ cleanRecvs).1.mpr drop_sent
      exact (sends _ cleanDrops).1.mpr taken
  · intro clean
    have cleanDrops := keepsSends _ clean
    have cleanRecvs := keepsDrops _ cleanDrops
    have recvKeysEq : index.recvs.entries.map Sigma.fst = (recvKeys kinds).reverse :=
      indexed.recvs_keys
    have dropKeysEq : index.drops.entries.map Sigma.fst = (dropKeys kinds).reverse :=
      indexed.drops
    rw [(sends _ cleanDrops).2 clean, (drops _ cleanRecvs).2 cleanDrops, recvs.2 cleanRecvs,
      recvKeysEq, dropKeysEq, indexed.sends_keys]
    simp [countReport, ClusterReport.empty, fromInside, fromOutside, toOutside]

section Merging

variable {start : ClusterReport} {tags : List TaggedRecord} {state : ClusterReport × GlobalLineage}
  {lineage : List (LineageKey × LineageRecord)}

/-- What was merged can be looked up, with the path of its trace. -/
theorem Merged.lookup_iff (merged : Merged start tags state)
    (same : (tags.map TaggedRecord.entry).Perm lineage) (key : LineageKey)
    (item : LineageRecord) :
    (∃ path, state.2.lookup key = some (item, path)) ↔ (key, item) ∈ lineage := by
  rw [← same.mem_iff]
  constructor
  · rintro ⟨path, found⟩
    have stored := AList.mem_lookup_iff.mp found
    rw [merged.entries, List.mem_reverse, List.mem_map] at stored
    obtain ⟨tag, member, same⟩ := stored
    cases same
    exact List.mem_map.mpr ⟨tag, member, rfl⟩
  · intro member
    obtain ⟨tag, inTags, same⟩ := List.mem_map.mp member
    cases same
    refine ⟨tag.1, AList.mem_lookup_iff.mpr ?_⟩
    rw [merged.entries, List.mem_reverse]
    exact List.mem_map.mpr ⟨tag, inTags, rfl⟩

theorem Merged.lookup_none (merged : Merged start tags state)
    (same : (tags.map TaggedRecord.entry).Perm lineage) (key : LineageKey) :
    state.2.lookup key = none ↔ key ∉ lineage.map Prod.fst := by
  rw [AList.lookup_eq_none, AList.mem_keys, merged.keys, List.mem_reverse,
    ← (same.map Prod.fst).mem_iff, List.map_map]
  exact Iff.rfl

/-- The merged records, whatever the order of the entries. -/
theorem Merged.items_perm (merged : Merged start tags state)
    (same : (tags.map TaggedRecord.entry).Perm lineage) :
    (state.2.entries.map fun entry => entry.2.1).Perm (lineage.map Prod.snd) := by
  rw [merged.entries, List.map_reverse, List.map_map]
  have items := same.map Prod.snd
  rw [List.map_map] at items
  exact (List.reverse_perm _).trans items

/-- The condition on the merged entries is that on the delivered lineages. -/
theorem Merged.parents_iff (merged : Merged start tags state)
    (same : (tags.map TaggedRecord.entry).Perm lineage) :
    (∀ entry ∈ state.2.entries, entry.2.1.provenance.hops ≠ 0 →
      ∃ parent, lineageParentKey tool entry.2.1 = .ok parent ∧
        (∀ item, state.2.lookup parent = some item → entry.2.1.Continues item.1) ∧
        (state.2.lookup parent = none → parent.1 ∉ included)) ↔
      ∀ entry ∈ lineage, entry.2.provenance.hops ≠ 0 →
        ∃ parent, lineageParentKey tool entry.2 = .ok parent ∧
          (∀ item, (parent, item) ∈ lineage → entry.2.Continues item) ∧
          (parent ∉ lineage.map Prod.fst → parent.1 ∉ included) := by
  have resolved (item : LineageRecord) (parent : LineageKey) :
      ((∀ found, state.2.lookup parent = some found → item.Continues found.1) ∧
        (state.2.lookup parent = none → parent.1 ∉ included)) ↔
        (∀ found, (parent, found) ∈ lineage → item.Continues found) ∧
        (parent ∉ lineage.map Prod.fst → parent.1 ∉ included) := by
    rw [merged.lookup_none same]
    refine and_congr_left fun _ => ⟨?_, ?_⟩
    · intro continues found member
      obtain ⟨path, lookup⟩ := (merged.lookup_iff same parent found).mpr member
      exact continues _ lookup
    · rintro continues ⟨found, path⟩ lookup
      exact continues found ((merged.lookup_iff same parent found).mp ⟨path, lookup⟩)
  simp only [resolved]
  constructor
  · rintro every ⟨key, item⟩ member
    obtain ⟨path, lookup⟩ := (merged.lookup_iff same key item).mpr member
    exact every ⟨key, (item, path)⟩ (AList.mem_lookup_iff.mp lookup)
  · rintro every ⟨key, item, path⟩ stored
    exact every (key, item)
      ((merged.lookup_iff same key item).mp ⟨path, AList.mem_lookup_iff.mpr stored⟩)

variable (included) in
/-- The lineage loops after a report without a problem: the verdict, and the counts
without a problem. -/
theorem checkMerged_clean (same : (tags.map TaggedRecord.entry).Perm lineage)
    (reading : Reading (Sigma fun _ : LineageKey => LineageRecord × String))
    (clean : start.problems = [])
    (merge : tags.foldl (mergeItem tool) (start, ∅) = state) :
    (((reading.read state.2.entries).foldl (checkGlobal tool included state.2) state.1).problems =
        [] ↔ LineageResolved tool included lineage) ∧
      (((reading.read state.2.entries).foldl (checkGlobal tool included state.2)
          state.1).problems = [] →
        (reading.read state.2.entries).foldl (checkGlobal tool included state.2) state.1 =
          countParents tool (fun key => key ∈ lineage.map Prod.fst) (lineage.map Prod.snd)
            start) := by
  have start_merged : Merged start [] (start, ∅) := ⟨rfl, rfl⟩
  obtain ⟨merging, represents⟩ :=
    (mergeItem_monitors tool start).foldl_iff clean start_merged tags
  have keys : (tags.map TaggedRecord.key).Perm (lineage.map Prod.fst) := by
    have first := same.map Prod.fst
    rw [List.map_map] at first
    exact first
  rw [EveryPosition.nodup_map_iff, keys.nodup_iff] at merging
  rw [merge] at merging represents
  have checks := checkGlobal_monitors tool included state.2 start
  have after (merged : state.1.problems = []) :=
    checks.foldl_iff merged (represents merged).report (reading.read state.2.entries)
  simp only [EveryPosition.forall_iff, (reading.perm state.2.entries).mem_iff] at after
  constructor
  · constructor
    · intro final
      have merged := checks.foldl_keeps final
      exact ⟨merging.mp merged, ((represents merged).parents_iff tool same).mp
        ((after merged).1.mp final)⟩
    · rintro ⟨nodup, parent⟩
      have merged := merging.mpr nodup
      exact (after merged).1.mpr (((represents merged).parents_iff tool same).mpr parent)
  · intro final
    have merged := checks.foldl_keeps final
    have known : (fun key => (state.2.lookup key).isSome) =
        fun key => decide (key ∈ lineage.map Prod.fst) := by
      funext key
      rw [Bool.eq_iff_iff, decide_eq_true_iff, ← not_iff_not,
        ← (represents merged).lookup_none same key]
      simp
    have items := (((reading.perm state.2.entries).map fun entry => entry.2.1).trans
      ((represents merged).items_perm same))
    rw [(after merged).2 final, known]
    exact countParents_perm tool _ items start

end Merging

/-- The lineage loops after a report without a problem. -/
theorem lineageReport_clean {traces : List (ClusterTrace V)} {start : ClusterReport}
    (clean : start.problems = []) :
    ((lineageReport tool included traces start).problems = [] ↔
      LineageResolved tool included (clusterLineage tool traces)) ∧
      ((lineageReport tool included traces start).problems = [] →
        SameMatches start (lineageReport tool included traces start)) := by
  have same : ((taggedRecords tool traces).map TaggedRecord.entry).Perm
      (clusterLineage tool traces) := by
    rw [taggedRecords_lineage]
  obtain ⟨verdict, counts⟩ := checkMerged_clean tool included same .stored clean
    (mergeTraces_eq tool traces (start, ∅)).symm
  refine ⟨verdict, fun final => ?_⟩
  have counted : lineageReport tool included traces start = _ := counts final
  rw [counted]
  exact countParents_same tool _ _ start

theorem matchingReport_keeps [DecidableEq V] {start : ClusterReport}
    (clean : (matchingReport tool included index start).problems = []) : start.problems = [] := by
  have drops := (checkSent_monitors tool included index start).foldl_keeps clean
  have recvs := (checkDrop_monitors tool included index start).foldl_keeps drops
  exact (checkRecv_monitors tool included index start).foldl_keeps recvs

theorem lineageReport_keeps {traces : List (ClusterTrace V)} {start : ClusterReport}
    (clean : (lineageReport tool included traces start).problems = []) : start.problems = [] := by
  have merged := (checkGlobal_monitors tool included _ start).foldl_keeps clean
  rw [mergeTraces_eq] at merged
  exact (mergeItem_monitors tool start).foldl_keeps merged

theorem indexTraces_keeps {traces : List (ClusterTrace V)} {index : NetworkIndex V}
    (clean : (traces.foldl (indexTrace tool) index).report.problems = []) :
    index.report.problems = [] := by
  rw [indexTraces_eq] at clean
  exact (indexItem_monitors tool).foldl_keeps clean

end Phases

/-! ## The whole verifier -/

section Whole

variable {V : Type} [DecidableEq V] (tool : ToolHost V) (traces : List (ClusterTrace V))

/-- The verifier up to its lineage loops: the report and the included nodes. -/
def evidencePhase : ClusterReport × Finset NodeId :=
  let state := traces.foldl (includeTrace tool) (.empty, ∅)
  let index := traces.foldl (indexTrace tool) ⟨state.1, ∅, ∅, ∅⟩
  (matchingReport tool state.2 index index.report, state.2)

theorem verifyCluster_phases :
    verifyCluster tool traces =
      lineageReport tool (evidencePhase tool traces).2 traces (evidencePhase tool traces).1 := rfl

/-- The evidence shows no problem exactly when every trace has one node and the network
messages match; then they are counted. -/
theorem evidencePhase_clean :
    ((evidencePhase tool traces).1.problems = [] ↔
      (∀ trace ∈ traces, (traceNodes trace).length = 1) ∧
        NetworkMatched (includedNodes traces) (clusterKinds traces)) ∧
      ((evidencePhase tool traces).1.problems = [] →
        evidencePhase tool traces =
          (countReport (includedNodes traces) (clusterKinds traces), includedNodes traces)) := by
  obtain ⟨including, nodes⟩ := (includeTrace_monitors tool).foldl_iff
    (show ((ClusterReport.empty, ∅) : ClusterReport × Finset NodeId).1.problems = [] from rfl)
    (show (ClusterReport.empty, ∅) = (ClusterReport.empty, includedNodes []) from rfl) traces
  rw [EveryPosition.forall_iff] at including
  obtain ⟨indexing, indexed⟩ := indexTraces_clean tool traces
  -- From here on the first phase is known to be clean, so its result is explicit.
  have explicit (first : (traces.foldl (includeTrace tool) (.empty, ∅)).1.problems = []) :
      evidencePhase tool traces =
        (matchingReport tool (includedNodes traces)
          (traces.foldl (indexTrace tool) ⟨.empty, ∅, ∅, ∅⟩)
          (traces.foldl (indexTrace tool) ⟨.empty, ∅, ∅, ∅⟩).report, includedNodes traces) := by
    unfold evidencePhase
    rw [nodes first]
  have firstClean (matched : (evidencePhase tool traces).1.problems = []) :
      (traces.foldl (includeTrace tool) (.empty, ∅)).1.problems = [] :=
    indexTraces_keeps tool (matchingReport_keeps tool matched)
  constructor
  · constructor
    · intro matched
      have first := firstClean matched
      rw [explicit first] at matched
      have second := matchingReport_keeps tool matched
      have index := indexed second
      obtain ⟨sends, recvs, drops⟩ := indexing.mp second
      dsimp only at matched
      rw [index.report] at matched
      obtain ⟨recv_sent, drop_sent, taken⟩ := (matchingReport_clean tool index).1.mp matched
      exact ⟨including.mp first, ⟨sends, recvs, drops, recv_sent, drop_sent, taken⟩⟩
    · rintro ⟨single, network⟩
      have first := including.mpr single
      have second := indexing.mpr ⟨network.sends, network.recvs, network.drops⟩
      have index := indexed second
      rw [explicit first, index.report]
      exact (matchingReport_clean tool index).1.mpr
        ⟨network.recv_sent, network.drop_sent, network.taken⟩
  · intro matched
    have same := explicit (firstClean matched)
    rw [same] at matched ⊢
    have index := indexed (matchingReport_keeps tool matched)
    dsimp only at matched
    rw [index.report] at matched ⊢
    rw [(matchingReport_clean tool index).2 matched]

/-- The cluster verifier finds no problem exactly when every trace has one node, the
network evidence matches and the lineage resolves; then its report counts the
network messages. -/
theorem verifyCluster_clean :
    ((verifyCluster tool traces).problems = [] ↔
      (∀ trace ∈ traces, (traceNodes trace).length = 1) ∧
        NetworkMatched (includedNodes traces) (clusterKinds traces) ∧
        LineageResolved tool (includedNodes traces) (clusterLineage tool traces)) ∧
      ((verifyCluster tool traces).problems = [] →
        SameMatches (countReport (includedNodes traces) (clusterKinds traces))
          (verifyCluster tool traces)) := by
  obtain ⟨evidence, counted⟩ := evidencePhase_clean tool traces
  rw [verifyCluster_phases]
  constructor
  · constructor
    · intro final
      have matched := lineageReport_keeps tool final
      have lineage := (lineageReport_clean tool matched).1.mp final
      obtain ⟨single, network⟩ := evidence.mp matched
      rw [counted matched] at lineage
      exact ⟨single, network, lineage⟩
    · rintro ⟨single, network, lineage⟩
      have matched := evidence.mpr ⟨single, network⟩
      have same := counted matched
      rw [same] at matched ⊢
      exact (lineageReport_clean tool matched).1.mpr lineage
  · intro final
    have matched := lineageReport_keeps tool final
    have same := (lineageReport_clean tool matched).2 final
    rwa [counted matched] at same ⊢

end Whole

/-! ## Soundness -/

section Soundness

variable {V : Type}

/-- What a report without problems says about the events of a cluster. -/
structure ClusterSound (report : ClusterReport) (included : Finset NodeId)
    (kinds : List (EventKind V)) : Prop where
  sends : (sendKeys kinds).Nodup
  recvs : (recvKeys kinds).Nodup
  drops : (dropKeys kinds).Nodup
  both_outside : ∀ key ∈ recvKeys kinds, key ∈ dropKeys kinds → key.1 ∉ included
  send_taken : ∀ key payload, (key, payload) ∈ kinds.filterMap sentMessage →
    key.2.2 ∈ included →
      (recvKeys kinds).count key + (dropKeys kinds).count key = 1 ∧
        ∀ received, (key, received) ∈ kinds.filterMap receivedMessage → received = payload
  taken_sent : ∀ key, key ∈ recvKeys kinds ∨ key ∈ dropKeys kinds → key.1 ∈ included →
    (sendKeys kinds).count key = 1
  sends_counted : report.matchedRecv + report.matchedDrop + report.externalOutbound =
    (sendKeys kinds).length
  taken_counted : report.matchedRecv + report.matchedDrop + report.externalInbound =
    (recvKeys kinds).length + (dropKeys kinds).length

/-- A key determines its payload when the keys are distinct. -/
theorem payload_unique {kinds : List (EventKind V)} (distinct : (sendKeys kinds).Nodup)
    {key : ClusterKey} {first second : V} (inFirst : (key, first) ∈ kinds.filterMap sentMessage)
    (inSecond : (key, second) ∈ kinds.filterMap sentMessage) : first = second := by
  have keys : sendKeys kinds = (kinds.filterMap sentMessage).map Prod.fst :=
    List.map_filterMap.symm
  rw [keys] at distinct
  have same := List.inj_on_of_nodup_map distinct inFirst inSecond rfl
  exact (Prod.mk.inj same).2

variable {traces : List (ClusterTrace V)}

/-- The evidence from inside the cluster is, up to its order, that for the messages
sent to the inside. -/
theorem NetworkMatched.perm
    (matched : NetworkMatched (includedNodes traces) (clusterKinds traces)) :
    ((recvKeys (clusterKinds traces)).filter (fun key => key.1 ∈ includedNodes traces) ++
      (dropKeys (clusterKinds traces)).filter (fun key => key.1 ∈ includedNodes traces)).Perm
      ((sendKeys (clusterKinds traces)).filter fun key => key.2.2 ∈ includedNodes traces) := by
  have received (key : ClusterKey) (member : key ∈ recvKeys (clusterKinds traces))
      (inside : key.1 ∈ includedNodes traces) : key ∈ sendKeys (clusterKinds traces) := by
    obtain ⟨payload, item⟩ := mem_recvKeys.mp member
    exact mem_sendKeys.mpr ⟨payload, matched.recv_sent _ item inside⟩
  have apart (key : ClusterKey) (inRecvs : key ∈ recvKeys (clusterKinds traces))
      (inside : key.1 ∈ includedNodes traces) : key ∉ dropKeys (clusterKinds traces) :=
    (matched.taken key (received key inRecvs inside) (receiver_included inRecvs)).mp inRecvs
  rw [List.perm_ext_iff_of_nodup]
  · intro key
    simp only [List.mem_append, List.mem_filter, decide_eq_true_eq]
    constructor
    · rintro (⟨member, inside⟩ | ⟨member, inside⟩)
      · exact ⟨received key member inside, receiver_included member⟩
      · exact ⟨matched.drop_sent key member inside, dropper_included member⟩
    · rintro ⟨member, inside⟩
      have sender := sender_included member
      by_cases dropped : key ∈ dropKeys (clusterKinds traces)
      · exact .inr ⟨dropped, sender⟩
      · exact .inl ⟨(matched.taken key member inside).mpr dropped, sender⟩
  · rw [List.nodup_append]
    refine ⟨matched.recvs.filter _, matched.drops.filter _, ?_⟩
    rintro left inRecvs right inDrops rfl
    obtain ⟨recv, inside⟩ := List.mem_filter.mp inRecvs
    exact apart left recv (of_decide_eq_true inside) (List.mem_filter.mp inDrops).1
  · exact matched.sends.filter _

theorem fromInside_add_fromOutside (included : Finset NodeId) (keys : List ClusterKey) :
    fromInside included keys + fromOutside included keys = keys.length := by
  unfold fromInside fromOutside
  have split := List.length_eq_countP_add_countP (fun key : ClusterKey => key.1 ∈ included)
    (l := keys)
  simpa using split.symm

theorem NetworkMatched.sends_counted
    (matched : NetworkMatched (includedNodes traces) (clusterKinds traces)) :
    fromInside (includedNodes traces) (recvKeys (clusterKinds traces)) +
        fromInside (includedNodes traces) (dropKeys (clusterKinds traces)) +
        toOutside (includedNodes traces) (sendKeys (clusterKinds traces)) =
      (sendKeys (clusterKinds traces)).length := by
  have same := matched.perm.length_eq
  have split := List.length_eq_countP_add_countP
    (fun key : ClusterKey => key.2.2 ∈ includedNodes traces)
    (l := sendKeys (clusterKinds traces))
  unfold fromInside toOutside
  simp only [List.length_append, ← List.countP_eq_length_filter] at same
  simp only [decide_eq_true_eq] at same split ⊢
  omega

variable [DecidableEq V] (tool : ToolHost V)

/-- Soundness of cluster verification.  A message from outside the cluster may show
both kinds of evidence: the verifier only counts it. -/
theorem verifyCluster_sound (clean : (verifyCluster tool traces).problems = []) :
    ClusterSound (verifyCluster tool traces) (includedNodes traces) (clusterKinds traces) := by
  obtain ⟨_, matched, _⟩ := (verifyCluster_clean tool traces).1.mp clean
  have counts := (verifyCluster_clean tool traces).2 clean
  refine ⟨matched.sends, matched.recvs, matched.drops, ?_, ?_, ?_, ?_, ?_⟩
  · intro key recv drop inside
    obtain ⟨payload, item⟩ := mem_recvKeys.mp recv
    have sent := mem_sendKeys.mpr ⟨payload, matched.recv_sent _ item inside⟩
    exact (matched.taken key sent (receiver_included recv)).mp recv drop
  · intro key payload sent inside
    have member := mem_sendKeys.mpr ⟨payload, sent⟩
    have either := matched.taken key member inside
    constructor
    · by_cases recv : key ∈ recvKeys (clusterKinds traces)
      · rw [List.count_eq_one_of_mem matched.recvs recv,
          List.count_eq_zero.mpr (either.mp recv)]
      · rw [List.count_eq_zero.mpr recv,
          List.count_eq_one_of_mem matched.drops (not_not.mp (either.not.mp recv))]
    · intro received item
      have senderInside := sender_included member
      exact payload_unique matched.sends (matched.recv_sent _ item senderInside) sent
  · rintro key (recv | drop) inside
    · obtain ⟨payload, item⟩ := mem_recvKeys.mp recv
      have sent := mem_sendKeys.mpr ⟨payload, matched.recv_sent _ item inside⟩
      exact List.count_eq_one_of_mem matched.sends sent
    · exact List.count_eq_one_of_mem matched.sends (matched.drop_sent key drop inside)
  · rw [counts]
    exact matched.sends_counted
  · rw [counts]
    have recvs := fromInside_add_fromOutside (includedNodes traces)
      (recvKeys (clusterKinds traces))
    have drops := fromInside_add_fromOutside (includedNodes traces)
      (dropKeys (clusterKinds traces))
    simp only [countReport]
    omega

/-- Node 7 sends to node 8, and node 8 drops a message of node 9 after receiving it. -/
def sampleCluster : List (ClusterTrace JsonDoc) :=
  [⟨"node7", [⟨0, 7, .netSend 7 8 11 1 samplePayload⟩]⟩,
    ⟨"node8",
      [⟨0, 7, .netRecv 8 7 22 1 samplePayload⟩, ⟨1, 7, .netRecv 8 9 22 5 samplePayload⟩,
        ⟨2, 7, .faultInjected 8 9 22 5 .drop⟩]⟩]

theorem verifyCluster_sound_sample :
    ClusterSound (verifyCluster jsonTool sampleCluster) (includedNodes sampleCluster)
      (clusterKinds sampleCluster) :=
  verifyCluster_sound jsonTool (by decide +kernel)

/-- The evidence of a message from outside need not be unique. -/
theorem verifyCluster_outside_evidence :
    (verifyCluster jsonTool sampleCluster).problems = [] ∧
      ¬(recvKeys (clusterKinds sampleCluster) ++ dropKeys (clusterKinds sampleCluster)).Nodup := by
  decide +kernel

end Soundness

end UcoStack.Tool
