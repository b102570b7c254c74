import UcoStack.Tool.ClusterMeaning

/-!
# Cluster verification does not depend on orders

Neither the order of the traces nor the order in which the hash maps are read
changes the verdict of the cluster verifier or the counts it reports.  With
colliding keys the later loops do see different entries, but a collision is a
problem in every order.
-/

namespace UcoStack.Tool

open UcoStack.Runtime

section Evidence

variable {V : Type} (tool : ToolHost V) (order : ReadOrder V)

theorem includeTraceIn_agrees (state : ClusterReport × Finset NodeId)
    (item : ClusterTrace V × Nat) :
    Agree (fun state => state.1.problems = []) (includeTraceIn tool order state item)
      (includeTrace tool state item.1) := by
  have nodes := (order.nodes item.2).perm (traceNodes item.1)
  unfold includeTraceIn includeTrace
  dsimp only
  rw [(order.nodes item.2).isEmpty_read, List.toFinset_eq_of_perm _ _ nodes, nodes.length_eq]
  split
  · exact .refl _
  · constructor
    · simp only [ClusterReport.reportIf_clean]
    · intro clean
      obtain ⟨_, single⟩ := ClusterReport.reportIf_clean.mp clean
      simp only [ClusterReport.reportIf, if_neg single]

theorem includeTraceIn_keeps (state : ClusterReport × Finset NodeId)
    (item : ClusterTrace V × Nat)
    (clean : (includeTraceIn tool order state item).1.problems = []) : state.1.problems = [] :=
  (includeTrace_monitors tool).keeps state item.1
    ((includeTraceIn_agrees tool order state item).verdict.mp clean)

theorem includeTracesIn_agrees (traces : List (ClusterTrace V)) :
    Agree (fun state : ClusterReport × Finset NodeId => state.1.problems = [])
      (traces.zipIdx.foldl (includeTraceIn tool order) (.empty, ∅))
      (traces.foldl (includeTrace tool) (.empty, ∅)) := by
  rw [← foldl_zipIdx (includeTrace tool)]
  apply Agree.foldl
  · exact includeTraceIn_keeps tool order
  · exact fun state item => (includeTrace_monitors tool).keeps state item.1
  · exact includeTraceIn_agrees tool order
  · exact .refl _

variable [DecidableEq V] (included : Finset NodeId) (index : NetworkIndex V)

def matchingReportIn (start : ClusterReport) : ClusterReport :=
  (order.sends.read index.sends.keys).foldl (checkSent tool included index)
    ((order.drops.read index.drops.entries).foldl (checkDrop tool included index)
      ((order.recvs.read index.recvs.entries).foldl (checkRecv tool included index) start))

/-- The matching loops count keys, and counting has no order. -/
theorem matchingReportIn_agrees (start : ClusterReport) :
    Agree (fun found => found.problems = []) (matchingReportIn tool order included index start)
      (matchingReport tool included index start) := by
  have recvs : Agree (fun found => found.problems = [])
      ((order.recvs.read index.recvs.entries).foldl (checkRecv tool included index) start)
      (index.recvs.entries.foldl (checkRecv tool included index) start) := by
    apply Agree.foldl_perm fun begun => checkRecv_monitors tool included index begun
    · exact fun _ => rfl
    · intro begun xs ys left right perm isLeft isRight
      rw [isLeft, isRight]
      simp only [fromOutside, fromInside, (perm.map Sigma.fst).countP_eq]
    · exact .refl start
    · exact order.recvs.perm index.recvs.entries
  have drops : Agree (fun found => found.problems = [])
      ((order.drops.read index.drops.entries).foldl (checkDrop tool included index)
        ((order.recvs.read index.recvs.entries).foldl (checkRecv tool included index) start))
      (index.drops.entries.foldl (checkDrop tool included index)
        (index.recvs.entries.foldl (checkRecv tool included index) start)) := by
    apply Agree.foldl_perm (checkDrop_monitors tool included index)
    · exact fun _ => rfl
    · intro begun xs ys left right perm isLeft isRight
      rw [isLeft, isRight]
      simp only [fromOutside, fromInside, (perm.map Sigma.fst).countP_eq]
    · exact recvs
    · exact order.drops.perm index.drops.entries
  apply Agree.foldl_perm (checkSent_monitors tool included index)
  · exact fun _ => rfl
  · intro begun xs ys left right perm isLeft isRight
    rw [isLeft, isRight]
    simp only [toOutside, perm.countP_eq]
  · exact drops
  · exact order.sends.perm index.sends.keys

theorem matchingReportIn_keeps {start : ClusterReport}
    (clean : (matchingReportIn tool order included index start).problems = []) :
    start.problems = [] :=
  matchingReport_keeps tool
    ((matchingReportIn_agrees tool order included index start).verdict.mp clean)

/-- `evidencePhase` in any order. -/
def evidencePhaseIn (traces : List (ClusterTrace V)) : ClusterReport × Finset NodeId :=
  let state := traces.zipIdx.foldl (includeTraceIn tool order) (.empty, ∅)
  let index := traces.foldl (indexTrace tool) ⟨state.1, ∅, ∅, ∅⟩
  (matchingReportIn tool order state.2 index index.report, state.2)

theorem evidencePhaseIn_agrees (traces : List (ClusterTrace V)) :
    Agree (fun state => state.1.problems = []) (evidencePhaseIn tool order traces)
      (evidencePhase tool traces) := by
  have nodes := includeTracesIn_agrees tool order traces
  unfold evidencePhaseIn evidencePhase
  dsimp only
  by_cases first : (traces.zipIdx.foldl (includeTraceIn tool order) (.empty, ∅)).1.problems = []
  · rw [nodes.same first]
    generalize traces.foldl (includeTrace tool) (.empty, ∅) = state
    have matching := matchingReportIn_agrees tool order state.2
      (traces.foldl (indexTrace tool) ⟨state.1, ∅, ∅, ∅⟩)
      (traces.foldl (indexTrace tool) ⟨state.1, ∅, ∅, ∅⟩).report
    exact ⟨matching.verdict, fun clean => Prod.ext (matching.same clean) rfl⟩
  · have never : ¬(evidencePhaseIn tool order traces).1.problems = [] := fun clean =>
      first (indexTraces_keeps tool (matchingReportIn_keeps tool order _ _ clean))
    have neither : ¬(evidencePhase tool traces).1.problems = [] := fun clean =>
      first (nodes.verdict.mpr (indexTraces_keeps tool (matchingReport_keeps tool clean)))
    exact ⟨iff_of_false never neither, fun clean => absurd clean never⟩

end Evidence

/-! ## The lineage loops -/

section Lineage

variable {V : Type} (tool : ToolHost V) (order : ReadOrder V)

/-- The delivered lineages in the order in which they are merged. -/
def taggedRecordsIn (traces : List (ClusterTrace V)) : List TaggedRecord :=
  traces.zipIdx.flatMap fun item =>
    ((order.index item.2).read (buildLineageIndex tool item.1.events).entries).map fun entry =>
      (item.1.path, entry)

theorem mergeTracesIn_eq (traces : List (ClusterTrace V)) (state : ClusterReport × GlobalLineage) :
    traces.zipIdx.foldl (mergeTraceIn tool order) state =
      (taggedRecordsIn tool order traces).foldl (mergeItem tool) state := by
  unfold taggedRecordsIn
  induction traces.zipIdx generalizing state with
  | nil => rfl
  | cons item rest ih =>
      rw [List.foldl_cons, ih, List.flatMap_cons, List.foldl_append, List.foldl_map]
      rfl

theorem taggedRecordsIn_perm (traces : List (ClusterTrace V)) :
    ((taggedRecordsIn tool order traces).map TaggedRecord.entry).Perm
      (clusterLineage tool traces) := by
  rw [← taggedRecords_lineage]
  apply List.Perm.map
  have firsts : (traces.zipIdx.map Prod.fst).flatMap
      (fun trace => (buildLineageIndex tool trace.events).entries.map fun entry =>
        (trace.path, entry)) = taggedRecords tool traces := by
    rw [List.zipIdx_map_fst]
    rfl
  rw [← firsts, List.flatMap_map]
  exact .flatMap_left _ fun item _ => ((order.index item.2).perm _).map _

variable [DecidableEq V] (traces : List (ClusterTrace V))

/-- The report of a cluster without a problem. -/
def clusterReport : ClusterReport :=
  countParents tool (fun key => key ∈ (clusterLineage tool traces).map Prod.fst)
    ((clusterLineage tool traces).map Prod.snd)
    (countReport (includedNodes traces) (clusterKinds traces))

/-- What the cluster verifier accepts. -/
structure ClusterAccepted : Prop where
  single : ∀ trace ∈ traces, (traceNodes trace).length = 1
  network : NetworkMatched (includedNodes traces) (clusterKinds traces)
  lineage : LineageResolved tool (includedNodes traces) (clusterLineage tool traces)

/-- The verdict and the report, in any enumeration order. -/
theorem verifyClusterIn_clean :
    ((verifyClusterIn tool order traces).problems = [] ↔ ClusterAccepted tool traces) ∧
      ((verifyClusterIn tool order traces).problems = [] →
        verifyClusterIn tool order traces = clusterReport tool traces) := by
  obtain ⟨evidence, counted⟩ := evidencePhase_clean tool traces
  have agree := evidencePhaseIn_agrees tool order traces
  generalize merge : (taggedRecordsIn tool order traces).foldl (mergeItem tool)
    ((evidencePhaseIn tool order traces).1, ∅) = merged
  have phases : verifyClusterIn tool order traces =
      (order.lineage.read merged.2.entries).foldl
        (checkGlobal tool (evidencePhaseIn tool order traces).2 merged.2) merged.1 := by
    rw [← merge, ← mergeTracesIn_eq]
    rfl
  have keeps (final : (verifyClusterIn tool order traces).problems = []) :
      (evidencePhaseIn tool order traces).1.problems = [] := by
    rw [phases] at final
    have before := (checkGlobal_monitors tool _ merged.2 merged.1).foldl_keeps final
    rw [← merge] at before
    exact (mergeItem_monitors tool (evidencePhaseIn tool order traces).1).foldl_keeps before
  have after (matched : (evidencePhaseIn tool order traces).1.problems = []) :=
    checkMerged_clean tool (evidencePhaseIn tool order traces).2
      (taggedRecordsIn_perm tool order traces) order.lineage matched merge
  rw [← phases] at after
  have known (matched : (evidencePhaseIn tool order traces).1.problems = []) :
      evidencePhaseIn tool order traces =
        (countReport (includedNodes traces) (clusterKinds traces), includedNodes traces) :=
    (agree.same matched).trans (counted (agree.verdict.mp matched))
  constructor
  · constructor
    · intro final
      have matched := keeps final
      obtain ⟨single, network⟩ := evidence.mp (agree.verdict.mp matched)
      have lineage := (after matched).1.mp final
      rw [known matched] at lineage
      exact ⟨single, network, lineage⟩
    · intro accepted
      have matched := agree.verdict.mpr (evidence.mpr ⟨accepted.single, accepted.network⟩)
      apply (after matched).1.mpr
      rw [known matched]
      exact accepted.lineage
  · intro final
    have matched := keeps final
    rw [(after matched).2 final, known matched]
    rfl

end Lineage

/-! ## Permuting the traces -/

section Permuting

variable {V : Type} {traces permuted : List (ClusterTrace V)}

theorem includedNodes_perm (same : traces.Perm permuted) :
    includedNodes traces = includedNodes permuted :=
  List.toFinset_eq_of_perm _ _ (same.flatMap_right _)

theorem clusterKinds_perm (same : traces.Perm permuted) :
    (clusterKinds traces).Perm (clusterKinds permuted) :=
  same.flatMap_right _

theorem NetworkMatched.of_perm {included : Finset NodeId} {kinds other : List (EventKind V)}
    (same : kinds.Perm other) (matched : NetworkMatched included kinds) :
    NetworkMatched included other := by
  have sends : (sendKeys kinds).Perm (sendKeys other) := same.filterMap sendKey
  have recvs : (recvKeys kinds).Perm (recvKeys other) := same.filterMap recvKey
  have drops : (dropKeys kinds).Perm (dropKeys other) := same.filterMap dropKey
  have sent := same.filterMap sentMessage
  have received := same.filterMap receivedMessage
  constructor
  · exact sends.nodup_iff.mp matched.sends
  · exact recvs.nodup_iff.mp matched.recvs
  · exact drops.nodup_iff.mp matched.drops
  · intro item member inside
    exact sent.mem_iff.mp (matched.recv_sent item (received.mem_iff.mpr member) inside)
  · intro key member inside
    exact sends.mem_iff.mp (matched.drop_sent key (drops.mem_iff.mpr member) inside)
  · intro key member inside
    rw [← recvs.mem_iff, ← drops.mem_iff]
    exact matched.taken key (sends.mem_iff.mpr member) inside

theorem countReport_perm (included : Finset NodeId) {kinds other : List (EventKind V)}
    (same : kinds.Perm other) : countReport included kinds = countReport included other := by
  have sends : (sendKeys kinds).Perm (sendKeys other) := same.filterMap sendKey
  have recvs : (recvKeys kinds).Perm (recvKeys other) := same.filterMap recvKey
  have drops : (dropKeys kinds).Perm (dropKeys other) := same.filterMap dropKey
  simp only [countReport, fromInside, fromOutside, toOutside, sends.countP_eq, recvs.countP_eq,
    drops.countP_eq]

variable (tool : ToolHost V)

theorem clusterLineage_perm (same : traces.Perm permuted) :
    (clusterLineage tool traces).Perm (clusterLineage tool permuted) :=
  same.flatMap_right _

theorem LineageResolved.of_perm {included : Finset NodeId}
    {lineage other : List (LineageKey × LineageRecord)} (same : lineage.Perm other)
    (resolved : LineageResolved tool included lineage) : LineageResolved tool included other := by
  have keys := same.map Prod.fst
  constructor
  · exact keys.nodup_iff.mp resolved.nodup
  · intro entry member hops
    obtain ⟨parent, names, continues, outside⟩ :=
      resolved.parent entry (same.mem_iff.mpr member) hops
    refine ⟨parent, names, ?_, ?_⟩
    · exact fun item inOther => continues item (same.mem_iff.mpr inOther)
    · exact fun absent => outside (keys.mem_iff.not.mpr absent)

theorem ClusterAccepted.of_perm (same : traces.Perm permuted)
    (accepted : ClusterAccepted tool traces) : ClusterAccepted tool permuted := by
  have nodes := includedNodes_perm same
  constructor
  · exact fun trace member => accepted.single trace (same.mem_iff.mpr member)
  · rw [← nodes]
    exact accepted.network.of_perm (clusterKinds_perm same)
  · rw [← nodes]
    exact accepted.lineage.of_perm tool (clusterLineage_perm tool same)

theorem clusterReport_perm (same : traces.Perm permuted) :
    clusterReport tool traces = clusterReport tool permuted := by
  have lineage := clusterLineage_perm tool same
  have known : (fun key => decide (key ∈ (clusterLineage tool traces).map Prod.fst)) =
      fun key => decide (key ∈ (clusterLineage tool permuted).map Prod.fst) := by
    funext key
    rw [decide_eq_decide]
    exact (lineage.map Prod.fst).mem_iff
  unfold clusterReport
  rw [known, includedNodes_perm same, countReport_perm _ (clusterKinds_perm same)]
  exact countParents_perm tool _ (lineage.map Prod.snd) _

variable [DecidableEq V]

/-- The same verdict for any order of the traces and of every enumeration, and without a
problem the same report. -/
theorem verifyCluster_order_free (first second : ReadOrder V) (same : traces.Perm permuted) :
    ((verifyClusterIn tool first traces).problems = [] ↔
      (verifyClusterIn tool second permuted).problems = []) ∧
      ((verifyClusterIn tool first traces).problems = [] →
        verifyClusterIn tool first traces = verifyClusterIn tool second permuted) := by
  obtain ⟨verdict, report⟩ := verifyClusterIn_clean tool first traces
  obtain ⟨otherVerdict, otherReport⟩ := verifyClusterIn_clean tool second permuted
  have verdicts : (verifyClusterIn tool first traces).problems = [] ↔
      (verifyClusterIn tool second permuted).problems = [] := by
    rw [verdict, otherVerdict]
    exact ⟨.of_perm tool same, .of_perm tool same.symm⟩
  refine ⟨verdicts, fun clean => ?_⟩
  rw [report clean, otherReport (verdicts.mp clean)]
  exact clusterReport_perm tool same

theorem verifyCluster_order_free_sample :
    ((verifyClusterIn jsonTool .stored sampleCluster).problems = [] ↔
      (verifyClusterIn jsonTool .backwards sampleCluster.reverse).problems = []) ∧
      ((verifyClusterIn jsonTool .stored sampleCluster).problems = [] →
        verifyClusterIn jsonTool .stored sampleCluster =
          verifyClusterIn jsonTool .backwards sampleCluster.reverse) :=
  verifyCluster_order_free jsonTool .stored .backwards (List.reverse_perm sampleCluster).symm

end Permuting

end UcoStack.Tool
