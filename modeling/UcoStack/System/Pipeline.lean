import UcoStack.System.ClusterAcceptance
import UcoStack.System.CrashedTrace
import UcoStack.Tool.Verdict

/-!
# From the nodes to the verdict

The nodes of a cluster write their traces to files, and `cluster-verify` reads the files
back.  When the cluster has ended and is drained, the tool succeeds and its report is ok.
-/

namespace UcoStack.System

open UcoStack.Runtime
open UcoStack.Tool

/-! ## The arguments -/

section Arguments

variable {V : Type} {host : Host V}

theorem splitReportJsonLoop_words {words rest out : List String} {reportJson : Option String}
    (plain : "--report-json" ∉ words) : splitReportJsonLoop (words ++ rest) out reportJson =
      splitReportJsonLoop rest (out ++ words) reportJson := by
  induction words generalizing out with
  | nil => rw [List.nil_append, List.append_nil]
  | cons word words ih =>
      obtain ⟨other, later⟩ := not_or.mp (mt List.mem_cons.mpr plain)
      have step : splitReportJsonLoop (word :: (words ++ rest)) out reportJson =
          splitReportJsonLoop (words ++ rest) (out ++ [word]) reportJson := by
        rw [splitReportJsonLoop.eq_def]
        exact if_neg (Ne.symm other)
      rw [List.cons_append, step, ih later, List.append_assoc]
      rfl

/-- The flag may stand behind the paths. -/
theorem parseCommand_clusterVerify {paths : List String} (several : 2 ≤ paths.length)
    (plain : "--report-json" ∉ paths) (reportPath : String) :
    parseCommand host ("cluster-verify" :: paths ++ ["--report-json", reportPath]) =
      .ok (.clusterVerify paths (some reportPath)) := by
  have words : "--report-json" ∉ "cluster-verify" :: paths := by
    refine fun member => plain ((List.mem_cons.mp member).resolve_left ?_)
    decide
  have split : splitReportJsonFlag ("cluster-verify" :: paths ++ ["--report-json", reportPath]) =
      .ok ("cluster-verify" :: paths, some reportPath) := by
    rw [splitReportJsonFlag, splitReportJsonLoop_words words]
    rfl
  have parsed : parseWords host ("cluster-verify" :: paths) (some reportPath) =
      .ok (.clusterVerify paths (some reportPath)) := by
    rw [parseWords, if_neg (Nat.not_lt.mpr several)]
    intro impossible
    cases impossible
  rw [parseCommand, split]
  exact parsed

end Arguments

/-! ## The files -/

section Files

variable {V : Type} {codec : JsonCodec (TraceEvent V)} {disk : Disk}

/-- What a writer has flushed in full is read back. -/
theorem readTrace_of_written {path : String} {trace : List (TraceEvent V)}
    (safe : ∀ ev ∈ trace, codec.lines.Safe ev)
    (file : disk.file path = some (trace.foldl (TraceWriter.write codec) .create).bytes) :
    readTrace codec disk path = .ok trace := by
  rw [readTrace, file]
  dsimp only
  rw [readEvents_written safe]

end Files

/-! ## The cluster -/

section Clusters

variable {ι V : Type} [Fintype ι] [DecidableEq ι] [DecidableEq V] {tool : ToolHost V}
  {program : Program} {cfgs : ι → Config} {c : Cluster ι V}

/-- The trace of a node that has ended passes on its own. -/
theorem Orderly.clean_of_ended (orderly : Orderly tool.toHost program cfgs c)
    (lawful : tool.Lawful) (accepted : Accepted tool.toHost program)
    (actors : ActorsDistinct tool.toHost program)
    (reached : Reachable tool.toHost program cfgs c) (ended : c.Ended cfgs) {i : ι}
    {kinds : List (EventKind V)}
    (trace : NodeTrace tool program (cfgs i) (c.arrived i) (c.process i).state kinds) :
    (verifyTrace tool (stamp 0 kinds)).problems = [] := by
  obtain ⟨launched, running⟩ := ended i
  obtain ⟨events, written, headers, inOrder⟩ :=
    orderly.inOrderSoFar lawful accepted actors reached running
  cases trace.writer.symm.trans written
  refine (verifyTrace_positions tool (stamp 0 kinds)).mpr ⟨headers, inOrder, ?_⟩
  rw [kindsOf_stamp]
  exact trace.tidy.settled

/-- `cluster-verify` succeeds on the trace files of a drained cluster, whichever order the
files are given in, and the report that it writes is ok. -/
theorem cluster_files_verify (lawful : tool.Lawful) {src : String}
    (loaded : loadProgram tool.toHost src = .ok program)
    (actors : ActorsDistinct tool.toHost program)
    (nodes : Function.Injective fun i => (cfgs i).nodeId)
    (reached : Reachable tool.toHost program cfgs c)
    (few : ∀ i, (c.core i).history.length < u64Max) (ended : c.Ended cfgs)
    (drained : c.Drained cfgs) {order : List ι} (nodup : order.Nodup)
    (complete : ∀ i, i ∈ order) (several : 2 ≤ order.length) {path : ι → String}
    (plain : ∀ i, path i ≠ "--report-json") {codec : JsonCodec (TraceEvent V)} {disk : Disk}
    (safe : ∀ i trace, (c.process i).state.writer = some trace →
      ∀ ev ∈ trace, codec.lines.Safe ev)
    (files : ∀ i trace, (c.process i).state.writer = some trace →
      disk.file (path i) = some (trace.foldl (TraceWriter.write codec) .create).bytes)
    {reportPath : String} (writable : disk.writable reportPath = true) :
    ∃ out report, main tool codec disk
        ("cluster-verify" :: order.map path ++ ["--report-json", reportPath]) .empty =
          .ok () out ∧
      out.stderr = [] ∧ out.reports = [(reportPath, .clusterVerify report)] ∧
      report.ok = true ∧ report.traces = order.map path := by
  have accepted := loadProgram_accepted loaded
  have orderly := reached.orderly accepted nodes few
  obtain ⟨kinds, written⟩ := orderly.written nodes accepted reached ended
  let traces := nodeTraces order path fun i => stamp 0 (kinds i)
  have paths : traces.map ClusterTrace.path = order.map path := List.map_map
  have read : OnDisk codec disk traces := by
    intro trace member
    obtain ⟨i, _, rfl⟩ := List.mem_map.mp member
    have writer := (written.traces i).writer
    exact readTrace_of_written (safe i _ writer) (files i _ writer)
  have clean : ∀ trace ∈ traces, trace.Clean tool := by
    intro trace member
    obtain ⟨i, _, rfl⟩ := List.mem_map.mp member
    exact orderly.clean_of_ended lawful accepted actors reached ended (written.traces i)
  have matched : NetworkMatched (includedNodes traces) (clusterKinds traces) := by
    rw [clusterKinds_nodeTraces]
    exact written.matched complete nodup drained path
  have single : ∀ trace ∈ traces, (traceNodes trace).length = 1 := by
    intro trace member
    obtain ⟨i, _, rfl⟩ := List.mem_map.mp member
    exact (written.traces i).traceNodes (path i)
  have together : (verifyCluster tool traces).problems = [] :=
    (verifyCluster_clean tool traces).1.mpr
      ⟨single, matched, written.resolved lawful path nodup complete _⟩
  obtain ⟨out, ran, silent, reports⟩ := runClusterVerify_accepted read clean together writable
  rw [paths] at ran
  have enough : 2 ≤ (order.map path).length := by rwa [List.length_map]
  have noFlag : "--report-json" ∉ order.map path := by
    intro member
    obtain ⟨i, _, same⟩ := List.mem_map.mp member
    exact plain i same
  refine ⟨out, _, ?_, silent, reports, rfl, paths⟩
  rw [main, parseCommand_clusterVerify enough noFlag]
  exact ran

end Clusters

/-! ## A sample -/

section Samples

def samplePath (i : Fin 2) : String := if i.val = 0 then "first.jsonl" else "second.jsonl"

/-- The trace files of the sample; a report can be written next to them. -/
def sampleDisk : Disk where
  file path := ((List.finRange 2).find? fun i => path = samplePath i).map fun i =>
    ((sampleTrace i).foldl (TraceWriter.write sampleCodec) .create).bytes
  writable path := path = "report.json"

theorem sampleTrace_of_writer {i : Fin 2} {trace : List (TraceEvent JsonDoc)}
    (running : (sampleEnd.process i).iterations = some (sampleNodes i).steps)
    (writer : (sampleEnd.process i).state.writer = some trace) : sampleTrace i = trace := by
  obtain ⟨launched, st, here⟩ := Process.running_of_iterations running
  rw [here] at writer
  change st.writer = some trace at writer
  rw [sampleTrace, here, Process.trace, writer]
  rfl

theorem sampleDisk_file (i : Fin 2) : sampleDisk.file (samplePath i) =
    some ((sampleTrace i).foldl (TraceWriter.write sampleCodec) .create).bytes := by
  have apart : ∀ j, ((List.finRange 2).find? fun k => samplePath j = samplePath k) = some j := by
    decide
  rw [sampleDisk]
  dsimp only
  rw [apart i]
  rfl

theorem cluster_files_verify_sample :
    ∃ out report, main jsonTool sampleCodec sampleDisk
        ("cluster-verify" :: ([1, 0] : List (Fin 2)).map samplePath ++
          ["--report-json", "report.json"]) .empty = .ok () out ∧
      out.stderr = [] ∧ out.reports = [("report.json", .clusterVerify report)] ∧
      report.ok = true ∧ report.traces = ([1, 0] : List (Fin 2)).map samplePath := by
  have done : ∀ i, (sampleEnd.process i).iterations = some (sampleNodes i).steps := by
    decide +kernel
  have few : ∀ i, (sampleEnd.core i).history.length < u64Max := by decide +kernel
  have drained : sampleEnd.Drained sampleNodes := by decide +kernel
  have safe : ∀ i trace, (sampleEnd.process i).state.writer = some trace →
      ∀ ev ∈ trace, sampleCodec.lines.Safe ev := by
    intro i trace writer ev member
    rw [← sampleTrace_of_writer (done i) writer] at member
    exact sampleCodec_safe member
  have files : ∀ i trace, (sampleEnd.process i).state.writer = some trace →
      sampleDisk.file (samplePath i) =
        some (trace.foldl (TraceWriter.write sampleCodec) .create).bytes := by
    intro i trace writer
    rw [← sampleTrace_of_writer (done i) writer]
    exact sampleDisk_file i
  have reached : Reachable jsonHost sampleProgram sampleNodes sampleEnd := samplePair_reachable _
  have several : 2 ≤ ([1, 0] : List (Fin 2)).length := Nat.le_refl 2
  have plain : ∀ i, samplePath i ≠ "--report-json" := by decide
  have writable : sampleDisk.writable "report.json" = true := by decide
  exact cluster_files_verify jsonTool_lawful sampleProgram_loaded sampleProgram_actors
    sampleNodes_distinct reached few (Cluster.ended_of_iterations done) drained
    (by decide) (by decide) several plain safe files writable

end Samples

end UcoStack.System
