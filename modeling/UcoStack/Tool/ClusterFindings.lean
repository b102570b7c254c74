import UcoStack.Library.LoggedRun
import UcoStack.Tool.ClusterMeaning
import UcoStack.Tool.Violations

/-!
# The violations of a cluster

The problems of the cluster verifier are the messages of its violations, phase by
phase.
-/

namespace UcoStack.Tool

open UcoStack.Runtime

/-! ## The violations of each phase -/

section Violations

variable {V : Type} (tool : ToolHost V)

def nodeViolations (trace : ClusterTrace V) : List Violation :=
  let nodes := traceNodes trace
  if nodes.isEmpty then [.traceHasNode trace.path]
  else if nodes.length > 1 then [.traceOneNode trace.path nodes]
  else []

/-- A key that is in the map already is reported with both places. -/
def keyViolations {ν : Type} (evidence : Evidence) (place : ν → TracePlace) (key : ClusterKey)
    (second : TracePlace) (map : HashMap ClusterKey ν) : List Violation :=
  match map.lookup key with
  | none => []
  | some prev => [.keyOnce evidence key (place prev) second]

def indexViolations (path : String) (index : NetworkIndex V) (ev : TraceEvent V) :
    List Violation :=
  match ev.kind with
  | .netSend node toNode _ msgId _ =>
      keyViolations .netSend NetRecord.place (node, msgId, toNode) (path, ev.seq) index.sends
  | .netRecv node fromNode _ msgId _ =>
      keyViolations .netRecv NetRecord.place (fromNode, msgId, node) (path, ev.seq) index.recvs
  | .faultInjected node fromNode _ msgId action =>
      if action ≠ .drop then []
      else keyViolations .drop DropRecord.place (fromNode, msgId, node) (path, ev.seq) index.drops
  | _ => []

def indexTraceViolations (index : NetworkIndex V) (trace : ClusterTrace V) : List Violation :=
  logged (indexEvent tool trace.path) (indexViolations trace.path) index trace.events

section Matching

variable [DecidableEq V] (included : Finset NodeId) (index : NetworkIndex V)

def recvViolations (entry : Sigma fun _ : ClusterKey => NetRecord V) : List Violation :=
  if entry.1.1 ∉ included then []
  else
    match index.sends.lookup entry.1 with
    | none => [.recvSent entry.1 entry.2.place]
    | some send =>
        if send.payload ≠ entry.2.payload then [.samePayload entry.1 send.place entry.2.place]
        else []

def dropViolations (entry : Sigma fun _ : ClusterKey => DropRecord) : List Violation :=
  if entry.1.1 ∉ included then []
  else if (index.sends.lookup entry.1).isSome then []
  else [.dropSent entry.1 entry.2.place]

def sentViolations (key : ClusterKey) : List Violation :=
  if key.2.2 ∉ included then []
  else if (index.recvs.lookup key).isSome && (index.drops.lookup key).isSome then
    [.recvOrDrop key]
  else if !(index.recvs.lookup key).isSome && !(index.drops.lookup key).isSome then
    [.sendSeen key]
  else []

def matchingViolations : List Violation :=
  index.recvs.entries.flatMap (recvViolations included index) ++
    index.drops.entries.flatMap (dropViolations included index) ++
    index.sends.keys.flatMap (sentViolations included index)

end Matching

def mergeViolations (path : String) (state : ClusterReport × GlobalLineage)
    (entry : Sigma fun _ : LineageKey => LineageRecord) : List Violation :=
  match state.2.lookup entry.1 with
  | none => []
  | some (prev, prevPath) => [.lineageOnce entry.1 (prevPath, prev.seq) (path, entry.2.seq)]

def mergeTraceViolations (state : ClusterReport × GlobalLineage) (trace : ClusterTrace V) :
    List Violation :=
  logged (mergeRecord tool trace.path) (mergeViolations trace.path) state
    (buildLineageIndex tool trace.events).entries

def violationIf (fails : Prop) [Decidable fails] (violation : Violation) : List Violation :=
  if fails then [violation] else []

def globalParentViolations (key parent : LineageKey) (item : LineageRecord) (path : String)
    (later : item.provenance.hops ≠ 0) (parentRec : LineageRecord) (parentPath : String) :
    List Violation :=
  let prov := item.provenance
  let parentProv := parentRec.provenance
  violationIf (prov.hops ≠ saturatingAdd parentProv.hops 1)
      (.globalHops key (path, item.seq) prov.hops later parent (parentPath, parentRec.seq)
        parentProv.hops) ++
    violationIf (prov.originMsgId ≠ parentProv.originMsgId)
      (.globalOrigin key (path, item.seq) .originMsgId prov.originMsgId parent
        parentProv.originMsgId) ++
    violationIf (prov.originNode ≠ parentProv.originNode)
      (.globalOrigin key (path, item.seq) .originNode prov.originNode parent
        parentProv.originNode) ++
    violationIf (prov.originService ≠ parentProv.originService)
      (.globalOrigin key (path, item.seq) .originService prov.originService parent
        parentProv.originService)

def globalViolations (included : Finset NodeId) (lineage : GlobalLineage)
    (entry : Sigma fun _ : LineageKey => LineageRecord × String) : List Violation :=
  if later : entry.2.1.provenance.hops ≠ 0 then
    match lineageParentKey tool entry.2.1 with
    | .error err => [.parentReadable entry.1 (entry.2.2, entry.2.1.seq) err]
    | .ok parent =>
        match lineage.lookup parent with
        | some (parentRec, parentPath) =>
            globalParentViolations entry.1 parent entry.2.1 entry.2.2 later parentRec parentPath
        | none =>
            if parent.1 ∈ included then
              [.parentInCluster entry.1 (entry.2.2, entry.2.1.seq) parent]
            else []
  else []

/-- The violations that the phases of the cluster verifier find. -/
def clusterViolations [DecidableEq V] (traces : List (ClusterTrace V)) : List Violation :=
  let state := traces.foldl (includeTrace tool) (.empty, ∅)
  let start : NetworkIndex V := ⟨state.1, ∅, ∅, ∅⟩
  let index := traces.foldl (indexTrace tool) start
  let report := matchingReport tool state.2 index index.report
  let merged := traces.foldl (mergeTrace tool) (report, ∅)
  traces.flatMap nodeViolations ++
    logged (indexTrace tool) (indexTraceViolations tool) start traces ++
    matchingViolations state.2 index ++
    logged (mergeTrace tool) (mergeTraceViolations tool) (report, ∅) traces ++
    merged.2.entries.flatMap (globalViolations tool state.2 merged.2)

end Violations

/-! ## The problems are the messages of the violations -/

section Logging

variable {V : Type} {tool : ToolHost V}

/-- The problems of `after` are those of `before` and the messages of the violations. -/
def LogsAfter (tool : ToolHost V) (before : ClusterReport) (found : List Violation)
    (after : ClusterReport) : Prop :=
  after.problems = before.problems ++ found.map (Violation.message tool)

namespace LogsAfter

variable {before after : ClusterReport} {found : List Violation}

theorem same (problems : after.problems = before.problems) : LogsAfter tool before [] after :=
  problems.trans (List.append_nil _).symm

theorem report (found : ClusterReport) (violation : Violation) {problem : String}
    (spelled : problem = violation.message tool) :
    LogsAfter tool found [violation] (found.report problem) := by
  rw [spelled]
  rfl

theorem reportIf (found : ClusterReport) (fails : Prop) [Decidable fails] (violation : Violation)
    {problem : String} (spelled : problem = violation.message tool) :
    LogsAfter tool found (violationIf fails violation) (found.reportIf fails problem) := by
  unfold ClusterReport.reportIf violationIf
  split
  · exact report found violation spelled
  · exact same rfl

theorem thenIf (first : LogsAfter tool before found after) (fails : Prop) [Decidable fails]
    (violation : Violation) {problem : String} (spelled : problem = violation.message tool) :
    LogsAfter tool before (found ++ violationIf fails violation)
      (after.reportIf fails problem) := by
  have second : (after.reportIf fails problem).problems = _ :=
    reportIf after fails violation spelled
  rw [LogsAfter, second, first, List.map_append, List.append_assoc]

end LogsAfter

theorem includeTrace_logs (state : ClusterReport × Finset NodeId) (trace : ClusterTrace V) :
    LogsAfter tool state.1 (nodeViolations trace) (includeTrace tool state trace).1 := by
  unfold includeTrace nodeViolations
  dsimp only
  split
  · exact LogsAfter.report _ _ rfl
  · exact LogsAfter.reportIf state.1 _ (.traceOneNode trace.path (traceNodes trace)) rfl

theorem insertEvidence_logs {ν : Type} (evidence : Evidence) (place : ν → TracePlace)
    (key : ClusterKey) (value : ν) (map : HashMap ClusterKey ν) (found : ClusterReport) :
    LogsAfter tool found (keyViolations evidence place key (place value) map)
      (insertEvidence tool evidence.name place key value map found).2 := by
  unfold insertEvidence keyViolations
  dsimp only
  cases map.lookup key with
  | none => exact LogsAfter.same rfl
  | some prev => exact LogsAfter.report found (.keyOnce evidence key (place prev) (place value)) rfl

theorem indexEvent_logs (path : String) (index : NetworkIndex V) (ev : TraceEvent V) :
    LogsAfter tool index.report (indexViolations path index ev)
      (indexEvent tool path index ev).report := by
  obtain ⟨seq, seed, kind⟩ := ev
  cases kind with
  | netSend node toNode sender msgId payload =>
      exact insertEvidence_logs .netSend NetRecord.place _ ⟨path, seq, payload⟩ index.sends _
  | netRecv node fromNode receiver msgId payload =>
      exact insertEvidence_logs .netRecv NetRecord.place _ ⟨path, seq, payload⟩ index.recvs _
  | faultInjected node fromNode receiver msgId action =>
      cases action with
      | drop => exact insertEvidence_logs .drop DropRecord.place _ ⟨path, seq⟩ index.drops _
      | delay steps => exact LogsAfter.same rfl
      | reorder window => exact LogsAfter.same rfl
  | _ => exact LogsAfter.same rfl

theorem indexTrace_logs (index : NetworkIndex V) (trace : ClusterTrace V) :
    LogsAfter tool index.report (indexTraceViolations tool index trace)
      (indexTrace tool index trace).report :=
  foldl_logged (fun index : NetworkIndex V => index.report.problems) (Violation.message tool)
    (indexEvent_logs trace.path) index trace.events

section Matching

variable (included : Finset NodeId) (index : NetworkIndex V)

theorem checkRecv_logs [DecidableEq V] (found : ClusterReport)
    (entry : Sigma fun _ : ClusterKey => NetRecord V) :
    LogsAfter tool found (recvViolations included index entry)
      (checkRecv tool included index found entry) := by
  obtain ⟨key, recv⟩ := entry
  unfold checkRecv recvViolations
  dsimp only
  by_cases inside : key.1 ∉ included
  · rw [if_pos inside, if_pos inside]
    exact LogsAfter.same rfl
  · rw [if_neg inside, if_neg inside]
    cases index.sends.lookup key with
    | none => exact LogsAfter.report found (.recvSent key recv.place) rfl
    | some send =>
        dsimp only
        split
        · exact LogsAfter.report found (.samePayload key send.place recv.place) rfl
        · exact LogsAfter.same rfl

theorem checkDrop_logs (found : ClusterReport)
    (entry : Sigma fun _ : ClusterKey => DropRecord) :
    LogsAfter tool found (dropViolations included index entry)
      (checkDrop tool included index found entry) := by
  obtain ⟨key, drop⟩ := entry
  unfold checkDrop dropViolations
  dsimp only
  split
  · exact LogsAfter.same rfl
  · split
    · exact LogsAfter.same rfl
    · exact LogsAfter.report found (.dropSent key drop.place) rfl

theorem checkSent_logs (found : ClusterReport) (key : ClusterKey) :
    LogsAfter tool found (sentViolations included index key)
      (checkSent tool included index found key) := by
  unfold checkSent sentViolations
  dsimp only
  split
  · exact LogsAfter.same rfl
  · split
    · exact LogsAfter.report found (.recvOrDrop key) rfl
    · exact LogsAfter.reportIf found _ (.sendSeen key) rfl

theorem matchingReport_logs [DecidableEq V] (found : ClusterReport) :
    LogsAfter tool found (matchingViolations included index)
      (matchingReport tool included index found) := by
  have recvs := foldl_logged_each ClusterReport.problems (Violation.message tool)
    (@checkRecv_logs V tool included index _) found index.recvs.entries
  have drops := foldl_logged_each ClusterReport.problems (Violation.message tool)
    (@checkDrop_logs V tool included index)
    (index.recvs.entries.foldl (checkRecv tool included index) found) index.drops.entries
  have sent := foldl_logged_each ClusterReport.problems (Violation.message tool)
    (@checkSent_logs V tool included index)
    (index.drops.entries.foldl (checkDrop tool included index)
      (index.recvs.entries.foldl (checkRecv tool included index) found)) index.sends.keys
  rw [LogsAfter, matchingReport, sent, drops, recvs, matchingViolations, List.map_append,
    List.map_append, List.append_assoc, List.append_assoc, List.append_assoc]

end Matching

theorem mergeRecord_logs (path : String) (state : ClusterReport × GlobalLineage)
    (entry : Sigma fun _ : LineageKey => LineageRecord) :
    LogsAfter tool state.1 (mergeViolations path state entry)
      (mergeRecord tool path state entry).1 := by
  obtain ⟨key, item⟩ := entry
  unfold mergeRecord mergeViolations
  dsimp only
  cases state.2.lookup key with
  | none => exact LogsAfter.same rfl
  | some found =>
      exact LogsAfter.report state.1 (.lineageOnce key (found.2, found.1.seq) (path, item.seq)) rfl

theorem mergeTrace_logs (state : ClusterReport × GlobalLineage) (trace : ClusterTrace V) :
    LogsAfter tool state.1 (mergeTraceViolations tool state trace)
      (mergeTrace tool state trace).1 :=
  foldl_logged (fun state : ClusterReport × GlobalLineage => state.1.problems)
    (Violation.message tool) (mergeRecord_logs trace.path) state
    (buildLineageIndex tool trace.events).entries

theorem checkGlobalParent_logs (key parent : LineageKey) (item : LineageRecord) (path : String)
    (later : item.provenance.hops ≠ 0) (parentRec : LineageRecord) (parentPath : String)
    (found : ClusterReport) :
    LogsAfter tool found
      (globalParentViolations key parent item path later parentRec parentPath)
      (checkGlobalParent tool key parent item path parentRec parentPath found) := by
  unfold checkGlobalParent globalParentViolations
  refine LogsAfter.thenIf (LogsAfter.thenIf (LogsAfter.thenIf
    (LogsAfter.reportIf found _ _ ?_) _ _ ?_) _ _ ?_) _ _ ?_
  all_goals
    unfold Violation.message
    rfl

theorem checkGlobal_logs (included : Finset NodeId) (lineage : GlobalLineage)
    (found : ClusterReport) (entry : Sigma fun _ : LineageKey => LineageRecord × String) :
    LogsAfter tool found (globalViolations tool included lineage entry)
      (checkGlobal tool included lineage found entry) := by
  obtain ⟨key, item, path⟩ := entry
  unfold checkGlobal globalViolations
  dsimp only
  by_cases later : item.provenance.hops ≠ 0
  · rw [dif_pos later, if_neg later]
    cases lineageParentKey tool item with
    | error err => exact LogsAfter.report found (.parentReadable key (path, item.seq) err) rfl
    | ok parent =>
        dsimp only
        cases lineage.lookup parent with
        | some known =>
            exact checkGlobalParent_logs key parent item path later known.1 known.2
              { found with resolvedLineageParents := found.resolvedLineageParents + 1 }
        | none =>
            dsimp only
            split
            · exact LogsAfter.report found (.parentInCluster key (path, item.seq) parent) rfl
            · exact LogsAfter.same rfl
  · rw [dif_neg later, if_pos (not_not.mp later)]
    exact LogsAfter.same rfl

theorem clusterViolations_problems [DecidableEq V] (traces : List (ClusterTrace V)) :
    (verifyCluster tool traces).problems =
      (clusterViolations tool traces).map (Violation.message tool) := by
  have nodes := foldl_logged_each (fun state : ClusterReport × Finset NodeId => state.1.problems)
    (Violation.message tool) includeTrace_logs (.empty, ∅) traces
  rw [verifyCluster_phases, lineageReport, evidencePhase, clusterViolations]
  generalize traces.foldl (includeTrace tool) (.empty, ∅) = state at nodes ⊢
  have indexing := foldl_logged (fun index : NetworkIndex V => index.report.problems)
    (Violation.message tool) indexTrace_logs ⟨state.1, ∅, ∅, ∅⟩ traces
  dsimp only at indexing ⊢
  generalize traces.foldl (indexTrace tool) ⟨state.1, ∅, ∅, ∅⟩ = index at indexing ⊢
  have matching := @matchingReport_logs V tool state.2 index _ index.report
  generalize matchingReport tool state.2 index index.report = report at matching ⊢
  have merging := foldl_logged (fun merged : ClusterReport × GlobalLineage => merged.1.problems)
    (Violation.message tool) mergeTrace_logs (report, ∅) traces
  dsimp only at merging
  generalize traces.foldl (mergeTrace tool) (report, ∅) = merged at merging ⊢
  have checking := foldl_logged_each ClusterReport.problems (Violation.message tool)
    (@checkGlobal_logs V tool state.2 merged.2) merged.1 merged.2.entries
  rw [LogsAfter] at matching
  rw [checking, merging, matching, indexing, nodes, ClusterReport.empty]
  simp only [List.map_append, List.append_assoc, List.nil_append]

end Logging

end UcoStack.Tool
