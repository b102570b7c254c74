import UcoStack.Library.StateRun
import UcoStack.Runtime.JsonText
import UcoStack.Tool.Command
import UcoStack.Tool.JsonTool

/-!
# The verdict of a command

A command succeeds exactly when its traces can be read, the verifiers find nothing in
them and the report can be written.  The report of a verify command, its error output
and its end say the same.
-/

namespace UcoStack.Tool

open UcoStack.Runtime
open UcoStack.StateRun

/-! ## What a report says -/

/-- The issues are those of some problems, and they are counted. -/
structure IssuesFit {V : Type} (host : Host V) (count : Nat) (first : Option ProblemDetail)
    (issues : List ProblemDetail) : Prop where
  count : count = issues.length
  first : first = issues.head?
  details : ∀ issue ∈ issues, issue = buildProblemDetail host issue.message

structure LocalTraceDiagnostics.Fits {V : Type} (host : Host V)
    (diagnostics : LocalTraceDiagnostics) : Prop where
  issues : IssuesFit host diagnostics.issueCount diagnostics.firstIssue diagnostics.issues
  ok : diagnostics.ok = true ↔ diagnostics.issues = []

/-- The cluster is checked only after every trace has passed on its own. -/
structure ClusterVerifyDiagnosticsReport.Fits {V : Type} (host : Host V)
    (report : ClusterVerifyDiagnosticsReport) : Prop where
  traces : report.traces = report.localReports.map LocalTraceDiagnostics.path
  localReports : ∀ diagnostics ∈ report.localReports, diagnostics.Fits host
  cluster : ∀ cluster, report.cluster = some cluster →
    IssuesFit host cluster.issueCount cluster.firstIssue cluster.issues
  checked : report.cluster.isSome = true ↔
    ∀ diagnostics ∈ report.localReports, diagnostics.issues = []
  ok : report.ok = true ↔ ∃ cluster, report.cluster = some cluster ∧ cluster.issues = []

def Report.Fits {V : Type} (host : Host V) : Report → Prop
  | .verify report =>
      IssuesFit host report.issueCount report.firstIssue report.issues ∧
        (report.ok = true ↔ report.issues = [])
  | .clusterVerify report => report.Fits host

def Report.ok : Report → Bool
  | .verify report => report.ok
  | .clusterVerify report => report.ok

def issueLines (check : String) (issues : List ProblemDetail) : List String :=
  issues.map fun issue => errorLine check issue.message

/-- The lines of the problems that a report holds. -/
def Report.errorLines : Report → List String
  | .verify report => issueLines "verify" report.issues
  | .clusterVerify report =>
      (report.localReports.flatMap fun diagnostics =>
          issueLines (localCheck diagnostics.path) diagnostics.issues) ++
        report.cluster.elim [] fun cluster => issueLines "cluster-verify" cluster.issues

section Details

variable {V : Type} (host : Host V)

theorem issueLines_toProblemDetails (check : String) (problems : List String) :
    issueLines check (toProblemDetails host problems) = problems.map (errorLine check) := by
  rw [issueLines, toProblemDetails, List.map_map]
  rfl

theorem toProblemDetails_eq_nil {problems : List String} :
    toProblemDetails host problems = [] ↔ problems = [] :=
  List.map_eq_nil_iff

theorem toProblemDetails_fit (problems : List String) :
    IssuesFit host (toProblemDetails host problems).length (toProblemDetails host problems).head?
      (toProblemDetails host problems) := by
  refine ⟨rfl, rfl, fun issue member => ?_⟩
  obtain ⟨problem, _, rfl⟩ := List.mem_map.mp member
  rfl

theorem buildLocalTraceDiagnostics_fits (path : String) (report : VerifyReport) :
    (buildLocalTraceDiagnostics host path report).Fits host :=
  ⟨toProblemDetails_fit host report.problems, List.isEmpty_iff⟩

end Details

/-! ## The end of a verify command -/

section Ends

variable {disk : Disk} {mode : String} {reportJson : Option String} {report : Report} {out : Output}

/-- The report can be written, if one is requested. -/
def Writable (disk : Disk) (reportJson : Option String) : Prop :=
  ∀ path, reportJson = some path → disk.writable path = true

/-- What a written report leaves. -/
def Output.reported (mode : String) (reportJson : Option String) (report : Report) (out : Output) :
    Output :=
  match reportJson with
  | none => out
  | some path =>
      { out with
        stdout := out.stdout ++ [s!"{mode}: report-json: {path}"]
        reports := out.reports ++ [(path, report)] }

theorem writeRequested_of_writable (writable : Writable disk reportJson) :
    writeRequested disk mode reportJson report out =
      .ok () (out.reported mode reportJson report) := by
  cases reportJson with
  | none => rfl
  | some path =>
      have here : writeJsonReport disk path report out =
          .ok () { out with reports := out.reports ++ [(path, report)] } := by
        rw [writeJsonReport, if_pos (writable path rfl)]
        rfl
      exact bind_of_ok here _

variable (mode report out) in
theorem writeRequested_of_not_writable (refused : ¬ Writable disk reportJson) :
    ∃ error, writeRequested disk mode reportJson report out = .error error out := by
  cases reportJson with
  | none => exact absurd (fun path given => by cases given) refused
  | some path =>
      have closed : ¬ disk.writable path = true := by
        intro writable
        apply refused
        intro other same
        cases same
        exact writable
      refine ⟨.writeReport path, ?_⟩
      rw [writeRequested, bind_apply, writeJsonReport, if_neg closed]
      rfl

theorem Output.reported_stderr : (out.reported mode reportJson report).stderr = out.stderr := by
  cases reportJson <;> rfl

theorem Output.mem_reported (fresh : out.reports = []) {entry : String × Report}
    (member : entry ∈ (out.reported mode reportJson report).reports) :
    entry.2 = report ∧ reportJson = some entry.1 ∧
      (out.reported mode reportJson report).reports = [entry] := by
  cases reportJson with
  | none =>
      rw [Output.reported, fresh] at member
      cases member
  | some path =>
      rw [Output.reported, fresh] at member
      cases List.mem_singleton.mp member
      refine ⟨rfl, rfl, ?_⟩
      rw [Output.reported, fresh]
      rfl

theorem abort_fails {error : ToolError} :
    succeeds (abort disk mode reportJson report error out) = false := by
  refine Bool.eq_false_of_not_eq_true fun succeeded => ?_
  obtain ⟨_, _, ok⟩ := exists_ok succeeded
  obtain ⟨_, _, -, stopped⟩ := bind_ok.mp ok
  cases stopped

theorem abort_report (fresh : out.reports = []) {error : ToolError} {entry : String × Report}
    (written : entry ∈ (finalState (abort disk mode reportJson report error out)).reports) :
    entry.2 = report ∧ reportJson = some entry.1 ∧
      (finalState (abort disk mode reportJson report error out)).reports = [entry] ∧
      (finalState (abort disk mode reportJson report error out)).stderr = out.stderr := by
  by_cases writable : Writable disk reportJson
  · have ends : abort disk mode reportJson report error out =
        .error error (out.reported mode reportJson report) :=
      bind_of_ok (writeRequested_of_writable writable) _
    rw [ends] at written ⊢
    obtain ⟨same, requested, only⟩ := Output.mem_reported fresh written
    exact ⟨same, requested, only, Output.reported_stderr⟩
  · obtain ⟨refusal, refused⟩ := writeRequested_of_not_writable mode report out writable
    rw [abort, bind_apply, refused] at written
    change entry ∈ out.reports at written
    rw [fresh] at written
    cases written

variable {problems : List String} {okLine : String} {failed : Nat → ToolError}

theorem conclude_succeeds :
    succeeds (conclude disk mode reportJson report problems okLine failed out) = true ↔
      Writable disk reportJson ∧ problems = [] := by
  by_cases writable : Writable disk reportJson
  · rw [conclude, bind_of_ok (writeRequested_of_writable writable)]
    by_cases clean : problems = []
    · rw [if_pos clean]
      exact iff_of_true rfl ⟨writable, clean⟩
    · rw [if_neg clean]
      exact iff_of_false Bool.false_ne_true fun both => clean both.2
  · obtain ⟨error, refused⟩ := writeRequested_of_not_writable mode report out writable
    rw [conclude, bind_apply, refused]
    exact iff_of_false Bool.false_ne_true fun both => writable both.1

/-- A report that was written by the end of a command tells how it ended. -/
theorem conclude_report (fresh : out.reports = []) {entry : String × Report}
    (written : entry ∈
      (finalState (conclude disk mode reportJson report problems okLine failed out)).reports) :
    entry.2 = report ∧ reportJson = some entry.1 ∧
      (finalState (conclude disk mode reportJson report problems okLine failed out)).reports =
        [entry] ∧
      (finalState (conclude disk mode reportJson report problems okLine failed out)).stderr =
        out.stderr ++ problems.map (errorLine mode) ∧
      (succeeds (conclude disk mode reportJson report problems okLine failed out) = true ↔
        problems = []) := by
  by_cases writable : Writable disk reportJson
  · have ends : conclude disk mode reportJson report problems okLine failed out =
        (if problems = [] then printLines [okLine] else do
          printProblems mode problems
          throw (failed problems.length)) (out.reported mode reportJson report) :=
      bind_of_ok (writeRequested_of_writable writable) _
    rw [ends] at written ⊢
    by_cases clean : problems = []
    · rw [if_pos clean] at written ⊢
      obtain ⟨same, requested, only⟩ := Output.mem_reported fresh written
      refine ⟨same, requested, only, ?_, iff_of_true rfl clean⟩
      rw [clean, List.map_nil, List.append_nil]
      exact Output.reported_stderr
    · rw [if_neg clean] at written ⊢
      obtain ⟨same, requested, only⟩ := Output.mem_reported fresh written
      refine ⟨same, requested, only, ?_, iff_of_false Bool.false_ne_true clean⟩
      exact congrArg (· ++ problems.map (errorLine mode)) Output.reported_stderr
  · obtain ⟨error, refused⟩ := writeRequested_of_not_writable mode report out writable
    rw [conclude, bind_apply, refused] at written
    change entry ∈ out.reports at written
    rw [fresh] at written
    cases written

end Ends

/-! ## Reading the traces -/

section Traces

variable {V : Type} {tool : ToolHost V} {codec : JsonCodec (TraceEvent V)} {disk : Disk}

def openedOutput (path : String) (events : List (TraceEvent V)) (out : Output) : Output :=
  { out with stdout := out.stdout ++ summaryLines path events }

theorem openTrace_of_read {path : String} {events : List (TraceEvent V)}
    (read : readTrace codec disk path = .ok events) (out : Output) :
    openTrace codec disk path out = .ok events (openedOutput path events out) := by
  rw [openTrace, read]
  rfl

theorem openTrace_of_error {path : String} {error : ToolError}
    (read : readTrace codec disk path = .error error) (out : Output) :
    openTrace codec disk path out = .error error out := by
  rw [openTrace, read]
  rfl

/-- Opening a trace writes no report. -/
theorem opened_reports {path : String} {f : List (TraceEvent V) → ToolM Unit}
    (quiet : ∀ events out, (finalState (f events out)).reports = out.reports) (out : Output) :
    (finalState ((openTrace codec disk path >>= f) out)).reports = out.reports := by
  cases read : readTrace codec disk path with
  | error error =>
      rw [bind_apply, openTrace_of_error read]
      rfl
  | ok events =>
      rw [bind_of_ok (openTrace_of_read read out)]
      exact quiet events _

/-- The traces as they are on the disk. -/
def OnDisk (codec : JsonCodec (TraceEvent V)) (disk : Disk) (traces : List (ClusterTrace V)) :
    Prop :=
  ∀ trace ∈ traces, readTrace codec disk trace.path = .ok trace.events

variable (tool) in
/-- The verifier finds nothing in the trace. -/
def ClusterTrace.Clean (trace : ClusterTrace V) : Prop :=
  (verifyTrace tool trace.events).problems = []

variable (tool) in
/-- The problems of the traces, each on its own, as they are printed. -/
def localLines (traces : List (ClusterTrace V)) : List String :=
  traces.flatMap fun trace =>
    (verifyTrace tool trace.events).problems.map (errorLine (localCheck trace.path))

variable (tool) in
theorem verifyLocally_of_read {trace : ClusterTrace V}
    (read : readTrace codec disk trace.path = .ok trace.events) (pass : LocalPass V)
    (out : Output) :
    ∃ next, verifyLocally tool codec disk pass trace.path out = .ok (pass.add tool trace) next ∧
      next.reports = out.reports ∧ next.stderr = out.stderr ++ localLines tool [trace] := by
  have opened : verifyLocally tool codec disk pass trace.path out = _ :=
    bind_of_ok (openTrace_of_read read out) _
  have lines : localLines tool [trace] =
      (verifyTrace tool trace.events).problems.map (errorLine (localCheck trace.path)) :=
    List.append_nil _
  rw [opened, lines]
  by_cases clean : (verifyTrace tool trace.events).problems = []
  · rw [if_pos clean, clean, List.map_nil, List.append_nil]
    exact ⟨_, rfl, rfl, rfl⟩
  · rw [if_neg clean]
    exact ⟨_, rfl, rfl, rfl⟩

variable (tool) in
def LocalPass.addAll (pass : LocalPass V) (traces : List (ClusterTrace V)) : LocalPass V :=
  traces.foldl (LocalPass.add tool) pass

variable (tool) in
/-- The loop over the paths of traces that can be read. -/
theorem verifyAll_of_read {traces : List (ClusterTrace V)} (read : OnDisk codec disk traces)
    (pass : LocalPass V) (out : Output) :
    ∃ next, (traces.map ClusterTrace.path).foldlM (verifyLocally tool codec disk) pass out =
        .ok (pass.addAll tool traces) next ∧
      next.reports = out.reports ∧ next.stderr = out.stderr ++ localLines tool traces := by
  induction traces generalizing pass out with
  | nil => exact ⟨out, rfl, rfl, (List.append_nil _).symm⟩
  | cons trace rest ih =>
      obtain ⟨mid, first, reports, stderr⟩ :=
        verifyLocally_of_read tool (read trace List.mem_cons_self) pass out
      obtain ⟨next, later, laterReports, laterStderr⟩ :=
        ih (fun other member => read other (List.mem_cons_of_mem trace member))
          (pass.add tool trace) mid
      refine ⟨next, ?_, laterReports.trans reports, ?_⟩
      · rw [List.map_cons, List.foldlM_cons]
        exact (bind_of_ok first _).trans later
      · rw [laterStderr, stderr, List.append_assoc, localLines, localLines, ← List.flatMap_append]
        rfl

/-- The loop ends early only at a trace that cannot be read. -/
theorem read_of_verifyAll {paths : List String} {pass last : LocalPass V} {out next : Output}
    (ran : paths.foldlM (verifyLocally tool codec disk) pass out = .ok last next) :
    ∃ traces, traces.map ClusterTrace.path = paths ∧ OnDisk codec disk traces := by
  induction paths generalizing pass out with
  | nil => exact ⟨[], rfl, fun trace member => by cases member⟩
  | cons path rest ih =>
      rw [List.foldlM_cons] at ran
      obtain ⟨mid, between, first, later⟩ := bind_ok.mp ran
      obtain ⟨traces, paths, onDisk⟩ := ih later
      obtain ⟨events, opened, here, -⟩ := bind_ok.mp first
      cases read : readTrace codec disk path with
      | error error =>
          rw [openTrace_of_error read] at here
          cases here
      | ok found =>
          refine ⟨⟨path, found⟩ :: traces, ?_, ?_⟩
          · rw [List.map_cons, paths]
          · intro trace member
            rcases List.mem_cons.mp member with rfl | member
            · exact read
            · exact onDisk trace member

variable (tool codec disk) in
/-- Whatever happens in the loop, no report is written there. -/
theorem verifyAll_reports (paths : List String) (pass : LocalPass V) (out : Output) :
    (finalState (paths.foldlM (verifyLocally tool codec disk) pass out)).reports = out.reports := by
  induction paths generalizing pass out with
  | nil => rfl
  | cons path rest ih =>
      rw [List.foldlM_cons, bind_apply]
      cases read : readTrace codec disk path with
      | error error =>
          have stops : verifyLocally tool codec disk pass path out = .error error out := by
            rw [verifyLocally, bind_apply, openTrace_of_error read]
          rw [stops]
          rfl
      | ok events =>
          obtain ⟨next, goesOn, reports, -⟩ :=
            verifyLocally_of_read tool (show readTrace codec disk
              (⟨path, events⟩ : ClusterTrace V).path = .ok events from read) pass out
          rw [goesOn]
          exact (ih _ next).trans reports

end Traces

/-! ## The traces together -/

section Passes

variable {V : Type} (tool : ToolHost V)

def diagnosticsOf (trace : ClusterTrace V) : LocalTraceDiagnostics :=
  buildLocalTraceDiagnostics tool.toHost trace.path (verifyTrace tool trace.events)

variable {tool}

theorem LocalPass.addAll_traces (pass : LocalPass V) (traces : List (ClusterTrace V)) :
    (pass.addAll tool traces).traces = pass.traces ++ traces := by
  induction traces generalizing pass with
  | nil => exact (List.append_nil _).symm
  | cons trace rest ih =>
      refine (ih (pass.add tool trace)).trans ?_
      rw [LocalPass.add, List.append_assoc]
      rfl

theorem LocalPass.addAll_diagnostics (pass : LocalPass V) (traces : List (ClusterTrace V)) :
    (pass.addAll tool traces).localDiagnostics =
      pass.localDiagnostics ++ traces.map (diagnosticsOf tool) := by
  induction traces generalizing pass with
  | nil => exact (List.append_nil _).symm
  | cons trace rest ih =>
      refine (ih (pass.add tool trace)).trans ?_
      rw [LocalPass.add, List.append_assoc]
      rfl

variable (tool) in
theorem LocalPass.addAll_errors (pass : LocalPass V) (traces : List (ClusterTrace V)) :
    (pass.addAll tool traces).hadLocalErrors = false ↔
      pass.hadLocalErrors = false ∧ ∀ trace ∈ traces, trace.Clean tool := by
  induction traces generalizing pass with
  | nil => exact iff_of_eq (by simp [LocalPass.addAll])
  | cons trace rest ih =>
      refine (ih (pass.add tool trace)).trans ?_
      simp [LocalPass.add, ClusterTrace.Clean, and_assoc]

theorem localLines_eq_nil {traces : List (ClusterTrace V)}
    (clean : ∀ trace ∈ traces, trace.Clean tool) : localLines tool traces = [] := by
  refine List.flatMap_eq_nil_iff.mpr fun trace member => ?_
  rw [clean trace member, List.map_nil]

/-- The lines of the problems stand in the report. -/
theorem localLines_diagnostics (traces : List (ClusterTrace V)) :
    ((traces.map (diagnosticsOf tool)).flatMap fun diagnostics =>
      issueLines (localCheck diagnostics.path) diagnostics.issues) = localLines tool traces := by
  rw [List.flatMap_map]
  exact List.flatMap_congr fun trace _ =>
    issueLines_toProblemDetails tool.toHost (localCheck trace.path) _

/-- The report of a `cluster-verify` on these traces. -/
def clusterReportOf (tool : ToolHost V) (ok : Bool) (traces : List (ClusterTrace V))
    (cluster : Option ClusterDiagnostics) : ClusterVerifyDiagnosticsReport :=
  ⟨"cluster-verify", ok, traces.map ClusterTrace.path, traces.map (diagnosticsOf tool), cluster⟩

theorem diagnosticsOf_clean {trace : ClusterTrace V} :
    (diagnosticsOf tool trace).issues = [] ↔ trace.Clean tool :=
  toProblemDetails_eq_nil tool.toHost

theorem clusterReportOf_fits {ok : Bool} {traces : List (ClusterTrace V)}
    {cluster : Option ClusterDiagnostics}
    (counted : ∀ diagnostics, cluster = some diagnostics →
      IssuesFit tool.toHost diagnostics.issueCount diagnostics.firstIssue diagnostics.issues)
    (checked : cluster.isSome = true ↔ ∀ trace ∈ traces, trace.Clean tool)
    (verdict : ok = true ↔ ∃ diagnostics, cluster = some diagnostics ∧ diagnostics.issues = []) :
    (clusterReportOf tool ok traces cluster).Fits tool.toHost := by
  refine ⟨?_, ?_, counted, ?_, verdict⟩
  · change _ = (traces.map (diagnosticsOf tool)).map LocalTraceDiagnostics.path
    rw [List.map_map]
    rfl
  · intro diagnostics member
    obtain ⟨trace, _, rfl⟩ := List.mem_map.mp member
    exact buildLocalTraceDiagnostics_fits tool.toHost trace.path _
  · refine checked.trans ⟨?_, ?_⟩
    · intro clean diagnostics member
      obtain ⟨trace, inTraces, rfl⟩ := List.mem_map.mp member
      exact diagnosticsOf_clean.mpr (clean trace inTraces)
    · intro clean trace member
      exact diagnosticsOf_clean.mp (clean _ (List.mem_map_of_mem member))

end Passes

/-! ## The verdict -/

section Verdicts

variable {V : Type} [DecidableEq V] {tool : ToolHost V} {codec : JsonCodec (TraceEvent V)}
  {disk : Disk}

variable (tool codec disk) in
/-- What the command finds on the disk is as it should be. -/
def Accepts : Command → Prop
  | .summary path => ∃ events, readTrace codec disk path = .ok events
  | .lineageSummary path => ∃ events, readTrace codec disk path = .ok events
  | .lineagePath path node msgId =>
      ∃ events, readTrace codec disk path = .ok events ∧
        (node, msgId) ∈ buildLineageIndex tool events
  | .verify path reportJson =>
      ∃ events, readTrace codec disk path = .ok events ∧ Writable disk reportJson ∧
        (verifyTrace tool events).problems = []
  | .clusterVerify paths reportJson =>
      ∃ traces : List (ClusterTrace V), traces.map ClusterTrace.path = paths ∧
        OnDisk codec disk traces ∧ (∀ trace ∈ traces, trace.Clean tool) ∧
        Writable disk reportJson ∧ (verifyCluster tool traces).problems = []

omit [DecidableEq V] in
theorem opened_succeeds {path : String} {f : List (TraceEvent V) → ToolM Unit} {out : Output} :
    succeeds ((openTrace codec disk path >>= f) out) = true ↔
      ∃ events, readTrace codec disk path = .ok events ∧
        succeeds (f events (openedOutput path events out)) = true := by
  cases read : readTrace codec disk path with
  | error error =>
      rw [bind_apply, openTrace_of_error read]
      refine iff_of_false Bool.false_ne_true ?_
      rintro ⟨events, impossible, -⟩
      cases impossible
  | ok events =>
      rw [bind_of_ok (openTrace_of_read read out)]
      constructor
      · exact fun succeeded => ⟨events, rfl, succeeded⟩
      · rintro ⟨_, ⟨⟩, succeeded⟩
        exact succeeded

variable (tool) in
/-- After its loop, `cluster-verify` knows the traces. -/
theorem runClusterVerify_of_read {traces : List (ClusterTrace V)}
    (read : OnDisk codec disk traces) (reportJson : Option String) (out : Output) :
    ∃ next, next.reports = out.reports ∧ next.stderr = out.stderr ++ localLines tool traces ∧
      runClusterVerify tool codec disk (traces.map ClusterTrace.path) reportJson out =
        concludeCluster tool disk (traces.map ClusterTrace.path) reportJson
          (LocalPass.addAll tool ⟨[], false, []⟩ traces) next := by
  obtain ⟨next, ran, reports, stderr⟩ :=
    verifyAll_of_read tool read ⟨[], false, []⟩ out
  exact ⟨next, reports, stderr, bind_of_ok ran _⟩

/-- All traces pass on their own. -/
theorem concludeCluster_of_clean {traces : List (ClusterTrace V)}
    (clean : ∀ trace ∈ traces, trace.Clean tool) (reportJson : Option String) :
    concludeCluster tool disk (traces.map ClusterTrace.path) reportJson
        (LocalPass.addAll tool ⟨[], false, []⟩ traces) =
      conclude disk "cluster-verify" reportJson
        (.clusterVerify (clusterReportOf tool (verifyCluster tool traces).problems.isEmpty traces
          (some (buildClusterDiagnostics tool.toHost (verifyCluster tool traces)))))
        (verifyCluster tool traces).problems (clusterOkLine (verifyCluster tool traces))
        .clusterVerifyFailed := by
  have noErrors := (LocalPass.addAll_errors tool ⟨[], false, []⟩ traces).mpr ⟨rfl, clean⟩
  rw [concludeCluster, noErrors, LocalPass.addAll_traces, LocalPass.addAll_diagnostics]
  rfl

/-- Some trace does not pass on its own. -/
theorem concludeCluster_of_errors {traces : List (ClusterTrace V)}
    (dirty : ¬ ∀ trace ∈ traces, trace.Clean tool) (reportJson : Option String) :
    concludeCluster tool disk (traces.map ClusterTrace.path) reportJson
        (LocalPass.addAll tool ⟨[], false, []⟩ traces) =
      abort disk "cluster-verify" reportJson
        (.clusterVerify (clusterReportOf tool false traces none)) .clusterVerifyAborted := by
  have errors : (LocalPass.addAll tool ⟨[], false, []⟩ traces).hadLocalErrors = true := by
    refine Bool.eq_true_of_not_eq_false fun none => dirty ?_
    exact ((LocalPass.addAll_errors tool _ traces).mp none).2
  rw [concludeCluster, errors, LocalPass.addAll_diagnostics]
  rfl

theorem runClusterVerify_succeeds {paths : List String} {reportJson : Option String}
    {out : Output} :
    succeeds (runClusterVerify tool codec disk paths reportJson out) = true ↔
      Accepts tool codec disk (.clusterVerify paths reportJson) := by
  constructor
  · intro succeeded
    obtain ⟨_, last, ran⟩ := exists_ok succeeded
    obtain ⟨pass, mid, loop, -⟩ := bind_ok.mp ran
    obtain ⟨traces, rfl, read⟩ := read_of_verifyAll loop
    obtain ⟨next, -, -, ends⟩ := runClusterVerify_of_read tool read reportJson out
    rw [ends] at succeeded
    by_cases clean : ∀ trace ∈ traces, trace.Clean tool
    · rw [concludeCluster_of_clean clean] at succeeded
      obtain ⟨writable, accepted⟩ := conclude_succeeds.mp succeeded
      exact ⟨traces, rfl, read, clean, writable, accepted⟩
    · rw [concludeCluster_of_errors clean, abort_fails] at succeeded
      cases succeeded
  · rintro ⟨traces, rfl, read, clean, writable, accepted⟩
    obtain ⟨next, -, -, ends⟩ := runClusterVerify_of_read tool read reportJson out
    rw [ends, concludeCluster_of_clean clean]
    exact conclude_succeeds.mpr ⟨writable, accepted⟩

omit [DecidableEq V] in
theorem runLineagePath_succeeds {path : String} {start : LineageKey} {out : Output} :
    succeeds (runLineagePath tool codec disk path start out) = true ↔
      ∃ events, readTrace codec disk path = .ok events ∧ start ∈ buildLineageIndex tool events := by
  cases read : readTrace codec disk path with
  | error error =>
      rw [runLineagePath, read]
      refine iff_of_false Bool.false_ne_true ?_
      rintro ⟨events, impossible, -⟩
      cases impossible
  | ok events =>
      have known : start ∈ buildLineageIndex tool events ↔
          ((buildLineageIndex tool events).lookup start).isSome = true :=
        AList.lookup_isSome.symm
      rw [runLineagePath, read]
      cases found : (buildLineageIndex tool events).lookup start with
      | none =>
          have failed : lineagePath tool events start = .error
              s!"lineage start message not found in trace: {lineageText tool start}" := by
            rw [lineagePath, found]
          refine iff_of_false ?_ ?_
          · dsimp only
            rw [printLineagePath, failed]
            exact Bool.false_ne_true
          · rintro ⟨_, ⟨⟩, member⟩
            rw [known, found] at member
            cases member
      | some item =>
          have ran : lineagePath tool events start = .ok
              (lineagePathFrom tool (buildLineageIndex tool events) maxLineageDepth ∅ start) := by
            rw [lineagePath, found]
          refine iff_of_true ?_ ⟨events, rfl, ?_⟩
          · dsimp only
            rw [printLineagePath, ran]
            rfl
          · rw [known, found]
            rfl

theorem runCommand_succeeds (command : Command) (out : Output) :
    succeeds (runCommand tool codec disk command out) = true ↔ Accepts tool codec disk command := by
  cases command with
  | summary path => exact opened_succeeds.trans (exists_congr fun _ => and_iff_left rfl)
  | lineageSummary path => exact opened_succeeds.trans (exists_congr fun _ => and_iff_left rfl)
  | lineagePath path node msgId => exact runLineagePath_succeeds
  | verify path reportJson =>
      exact opened_succeeds.trans
        (exists_congr fun _ => and_congr_right fun _ => conclude_succeeds)
  | clusterVerify paths reportJson => exact runClusterVerify_succeeds

/-- The tool succeeds exactly when its arguments are a command and the command finds what
it looks for: traces it can read, without problems, and a place for the report. -/
theorem main_succeeds (args : List String) (out : Output) :
    succeeds (main tool codec disk args out) = true ↔
      ∃ command, parseCommand tool.toHost args = .ok command ∧ Accepts tool codec disk command := by
  cases parsed : parseCommand tool.toHost args with
  | error error =>
      rw [main, parsed]
      refine iff_of_false Bool.false_ne_true ?_
      rintro ⟨command, impossible, -⟩
      cases impossible
  | ok command =>
      rw [main, parsed]
      refine (runCommand_succeeds command out).trans ⟨fun accepts => ⟨command, rfl, accepts⟩, ?_⟩
      rintro ⟨_, ⟨⟩, accepts⟩
      exact accepts

/-! ## The report -/

/-- A report, what is printed with it, and how the command ends. -/
structure Agrees (host : Host V) (result : EStateM.Result ToolError Output Unit)
    (entry : String × Report) : Prop where
  only : (finalState result).reports = [entry]
  fits : entry.2.Fits host
  lines : (finalState result).stderr = entry.2.errorLines
  verdict : entry.2.ok = true ↔ succeeds result = true

omit [DecidableEq V] in
theorem runVerify_report {path : String} {reportJson : Option String} {entry : String × Report}
    (written : entry ∈ (finalState (runVerify tool codec disk path reportJson .empty)).reports) :
    reportJson = some entry.1 ∧
      Agrees tool.toHost (runVerify tool codec disk path reportJson .empty) entry := by
  cases read : readTrace codec disk path with
  | error error =>
      rw [runVerify, bind_apply, openTrace_of_error read] at written
      cases written
  | ok events =>
      have ends : runVerify tool codec disk path reportJson .empty = _ :=
        bind_of_ok (openTrace_of_read read .empty) _
      rw [ends] at written ⊢
      obtain ⟨same, requested, only, lines, verdict⟩ := conclude_report rfl written
      refine ⟨requested, only, ?_, ?_, ?_⟩
      · rw [same]
        exact ⟨toProblemDetails_fit tool.toHost _, List.isEmpty_iff⟩
      · rw [lines, same]
        exact (issueLines_toProblemDetails tool.toHost "verify" _).symm
      · rw [same, verdict]
        exact List.isEmpty_iff.trans (toProblemDetails_eq_nil tool.toHost)

omit [DecidableEq V] in
theorem clusterReportOf_errorLines {ok : Bool} {traces : List (ClusterTrace V)}
    {cluster : Option ClusterDiagnostics} :
    (Report.clusterVerify (clusterReportOf tool ok traces cluster)).errorLines =
      localLines tool traces ++
        cluster.elim [] fun found => issueLines "cluster-verify" found.issues :=
  congrArg (· ++ _) (localLines_diagnostics traces)

theorem runClusterVerify_report {paths : List String} {reportJson : Option String}
    {entry : String × Report}
    (written : entry ∈
      (finalState (runClusterVerify tool codec disk paths reportJson .empty)).reports) :
    reportJson = some entry.1 ∧
      Agrees tool.toHost (runClusterVerify tool codec disk paths reportJson .empty) entry := by
  cases loop : paths.foldlM (verifyLocally tool codec disk) ⟨[], false, []⟩ Output.empty with
  | error error next =>
      have nothing := verifyAll_reports tool codec disk paths ⟨[], false, []⟩ .empty
      rw [loop] at nothing
      rw [runClusterVerify, bind_apply, loop] at written
      change entry ∈ next.reports at written
      rw [finalState_error] at nothing
      rw [nothing] at written
      cases written
  | ok pass mid =>
      obtain ⟨traces, rfl, read⟩ := read_of_verifyAll loop
      obtain ⟨next, reports, stderr, ends⟩ :=
        runClusterVerify_of_read tool read reportJson .empty
      rw [ends] at written ⊢
      by_cases clean : ∀ trace ∈ traces, trace.Clean tool
      · rw [concludeCluster_of_clean clean] at written ⊢
        obtain ⟨same, requested, only, lines, verdict⟩ := conclude_report reports written
        refine ⟨requested, only, ?_, ?_, ?_⟩
        · rw [same]
          refine clusterReportOf_fits ?_ (iff_of_true rfl clean) ?_
          · rintro _ ⟨⟩
            exact toProblemDetails_fit tool.toHost _
          · rw [List.isEmpty_iff, ← toProblemDetails_eq_nil tool.toHost]
            constructor
            · exact fun none => ⟨_, rfl, none⟩
            · rintro ⟨_, ⟨⟩, none⟩
              exact none
        · rw [lines, stderr, localLines_eq_nil clean, same, clusterReportOf_errorLines,
            localLines_eq_nil clean]
          exact (issueLines_toProblemDetails tool.toHost "cluster-verify" _).symm
        · rw [same, verdict]
          exact List.isEmpty_iff
      · rw [concludeCluster_of_errors clean] at written ⊢
        obtain ⟨same, requested, only, lines⟩ := abort_report reports written
        refine ⟨requested, only, ?_, ?_, ?_⟩
        · rw [same]
          refine clusterReportOf_fits ?_ (iff_of_false Bool.false_ne_true clean)
            (iff_of_false Bool.false_ne_true ?_)
          · rintro _ ⟨⟩
          · rintro ⟨_, ⟨⟩, _⟩
        · rw [lines, stderr, same, clusterReportOf_errorLines]
          exact (List.append_nil _).symm
        · rw [same, abort_fails]
          exact Iff.rfl

theorem runCommand_report {command : Command} {entry : String × Report}
    (written : entry ∈ (finalState (runCommand tool codec disk command .empty)).reports) :
    command.reportJson = some entry.1 ∧
      Agrees tool.toHost (runCommand tool codec disk command .empty) entry := by
  cases command with
  | verify path reportJson => exact runVerify_report written
  | clusterVerify paths reportJson => exact runClusterVerify_report written
  | summary path =>
      have silent : (finalState (runSummary codec disk path .empty)).reports = [] :=
        opened_reports (fun _ _ => rfl) .empty
      rw [runCommand, silent] at written
      cases written
  | lineageSummary path =>
      have silent : (finalState (runLineageSummary tool codec disk path .empty)).reports = [] :=
        opened_reports (fun _ _ => rfl) .empty
      rw [runCommand, silent] at written
      cases written
  | lineagePath path node msgId =>
      have silent :
          (finalState (runLineagePath tool codec disk path (node, msgId) .empty)).reports = [] := by
        rw [runLineagePath]
        cases readTrace codec disk path with
        | error error => rfl
        | ok events =>
            dsimp only
            rcases printLineagePath tool path events (node, msgId) with ⟨lines, ending⟩
            cases ending <;> rfl
      rw [runCommand, silent] at written
      cases written

/-- A report that a run of the tool leaves is the one that was asked for.  It holds
exactly the problems that were printed, and it is ok exactly if the run succeeds. -/
theorem report_agrees (args : List String) {entry : String × Report}
    (written : entry ∈ (finalState (main tool codec disk args .empty)).reports) :
    ∃ command, parseCommand tool.toHost args = .ok command ∧
      command.reportJson = some entry.1 ∧
      Agrees tool.toHost (main tool codec disk args .empty) entry := by
  rw [main] at written ⊢
  cases parsed : parseCommand tool.toHost args with
  | error error =>
      rw [parsed] at written
      cases written
  | ok command =>
      rw [parsed] at written
      exact ⟨command, rfl, runCommand_report written⟩

/-- The run of `cluster-verify` that finds nothing, from its traces on. -/
theorem runClusterVerify_accepted {traces : List (ClusterTrace V)}
    (read : OnDisk codec disk traces) (clean : ∀ trace ∈ traces, trace.Clean tool)
    (accepted : (verifyCluster tool traces).problems = []) {reportPath : String}
    (writable : disk.writable reportPath = true) :
    ∃ out, runClusterVerify tool codec disk (traces.map ClusterTrace.path) (some reportPath)
        .empty = .ok () out ∧ out.stderr = [] ∧
      out.reports = [(reportPath, .clusterVerify (clusterReportOf tool true traces
        (some (buildClusterDiagnostics tool.toHost (verifyCluster tool traces)))))] := by
  obtain ⟨next, reports, stderr, ends⟩ :=
    runClusterVerify_of_read tool read (some reportPath) .empty
  have granted : Writable disk (some reportPath) := by
    intro path same
    cases same
    exact writable
  rw [localLines_eq_nil clean] at stderr
  rw [ends, concludeCluster_of_clean clean, accepted, conclude,
    bind_of_ok (writeRequested_of_writable granted), if_pos rfl]
  refine ⟨_, rfl, stderr, ?_⟩
  change next.reports ++ _ = _
  rw [reports]
  rfl

end Verdicts

/-! ## A sample -/

section Samples

/-- Two empty trace files. -/
def emptyFiles : Disk where
  file path := if path = "a.jsonl" ∨ path = "b.jsonl" then some [] else none
  writable path := path = "report.json"

/-- Two traces of no node: the report tells of them, and the run fails. -/
theorem report_agrees_sample :
    let args := ["cluster-verify", "a.jsonl", "--report-json", "report.json", "b.jsonl"]
    let result := main jsonTool (.ofTable []) emptyFiles args .empty
    ∃ entry command, parseCommand jsonTool.toHost args = .ok command ∧
      command.reportJson = some entry.1 ∧ Agrees jsonTool.toHost result entry := by
  intro args result
  have reported : (finalState result).reports ≠ [] := by decide +kernel
  obtain ⟨entry, written⟩ := List.exists_mem_of_ne_nil _ reported
  obtain ⟨command, parsed, requested, agrees⟩ := report_agrees args written
  exact ⟨entry, command, parsed, requested, agrees⟩

end Samples

end UcoStack.Tool
