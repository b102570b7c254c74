import UcoStack.Runtime.TraceFile
import UcoStack.Tool.LineageReport
import UcoStack.Tool.ProblemDetail

/-!
# The commands of the tool

The command line of the tool, what each command prints and the reports it writes.  The
files are a disk; a command that fails keeps what it had printed.
-/

namespace UcoStack.Tool

open UcoStack.Runtime

/-! ## The command line -/

inductive Command where
  | summary (path : String)
  | verify (path : String) (reportJson : Option String)
  | lineageSummary (path : String)
  | lineagePath (path : String) (node : NodeId) (msgId : MsgId)
  | clusterVerify (paths : List String) (reportJson : Option String)
  deriving DecidableEq, Repr

/-- Where the report of the command is to be written. -/
def Command.reportJson : Command → Option String
  | .verify _ reportJson => reportJson
  | .clusterVerify _ reportJson => reportJson
  | _ => none

inductive CommandError where
  | missingReportJson
  | duplicateReportJson
  | reportJsonUnused
  | fewTraces
  | invalidNodeId (node : String)
  | invalidMsgId (msgId : String)
  | usage
  deriving DecidableEq, Repr

def usageMessage : String :=
  "usage:\n" ++
  "  cargo run -p tool -- <trace.jsonl>\n" ++
  "  cargo run -p tool -- summary <trace.jsonl>\n" ++
  "  cargo run -p tool -- verify <trace.jsonl> [--report-json <path>]\n" ++
  "  cargo run -p tool -- cluster-verify <trace1.jsonl> <trace2.jsonl> [traceN.jsonl...] " ++
  "[--report-json <path>]\n" ++
  "  cargo run -p tool -- lineage <trace.jsonl>\n" ++
  "  cargo run -p tool -- lineage-path <trace.jsonl> <from_node_uuid> <msg_id_uuid>"

def CommandError.message : CommandError → String
  | .missingReportJson => "missing value for --report-json"
  | .duplicateReportJson => "duplicate --report-json"
  | .reportJsonUnused => "--report-json is only valid with verify or cluster-verify"
  | .fewTraces => "cluster-verify requires at least 2 trace paths"
  | .invalidNodeId node => s!"invalid node id `{node}`"
  | .invalidMsgId msgId => s!"invalid msg id `{msgId}`"
  | .usage => usageMessage

/-- The loop of `split_report_json_flag`. -/
def splitReportJsonLoop : List String → List String → Option String →
    Except CommandError (List String × Option String)
  | [], out, reportJson => .ok (out, reportJson)
  | arg :: rest, out, reportJson =>
      if arg = "--report-json" then
        match rest with
        | [] => .error .missingReportJson
        | value :: rest =>
            if reportJson.isSome then .error .duplicateReportJson
            else splitReportJsonLoop rest out (some value)
      else splitReportJsonLoop rest (out ++ [arg]) reportJson

def splitReportJsonFlag (args : List String) :
    Except CommandError (List String × Option String) :=
  splitReportJsonLoop args [] none

section Parsing

variable {V : Type} (host : Host V)

/-- The `match` of `parse_command`. -/
def parseWords : List String → Option String → Except CommandError Command
  | [path], none => .ok (.summary path)
  | ["summary", path], none => .ok (.summary path)
  | ["summary", _], some _ => .error .reportJsonUnused
  | ["verify", path], reportJson => .ok (.verify path reportJson)
  | "cluster-verify" :: paths, reportJson =>
      if paths.length < 2 then .error .fewTraces else .ok (.clusterVerify paths reportJson)
  | ["lineage", path], none => .ok (.lineageSummary path)
  | ["lineage", _], some _ => .error .reportJsonUnused
  | ["lineage-path", path, node, msgId], none =>
      match host.uuidParse node with
      | none => .error (.invalidNodeId node)
      | some nodeId =>
          match host.uuidParse msgId with
          | none => .error (.invalidMsgId msgId)
          | some id => .ok (.lineagePath path nodeId id)
  | ["lineage-path", _, _, _], some _ => .error .reportJsonUnused
  | _, _ => .error .usage

def parseCommand (rawArgs : List String) : Except CommandError Command := do
  let (args, reportJson) ← splitReportJsonFlag rawArgs
  parseWords host args reportJson

end Parsing

/-! ## Reports -/

structure VerifyDiagnosticsReport where
  mode : String
  path : String
  ok : Bool
  pendingMessages : Nat
  issueCount : Nat
  firstIssue : Option ProblemDetail
  issues : List ProblemDetail
  deriving DecidableEq, Repr

structure LocalTraceDiagnostics where
  path : String
  ok : Bool
  pendingMessages : Nat
  issueCount : Nat
  firstIssue : Option ProblemDetail
  issues : List ProblemDetail
  deriving DecidableEq, Repr

structure ClusterDiagnostics where
  matchedRecv : Nat
  matchedDrop : Nat
  resolvedLineageParents : Nat
  externalLineageParents : Nat
  externalInbound : Nat
  externalOutbound : Nat
  issueCount : Nat
  firstIssue : Option ProblemDetail
  issues : List ProblemDetail
  deriving DecidableEq, Repr

structure ClusterVerifyDiagnosticsReport where
  mode : String
  ok : Bool
  traces : List String
  localReports : List LocalTraceDiagnostics
  cluster : Option ClusterDiagnostics
  deriving DecidableEq, Repr

section Building

variable {V : Type} (host : Host V)

def toProblemDetails (problems : List String) : List ProblemDetail :=
  problems.map (buildProblemDetail host)

def buildVerifyDiagnostics (path : String) (report : VerifyReport) : VerifyDiagnosticsReport :=
  let issues := toProblemDetails host report.problems
  { mode := "verify"
    path
    ok := issues.isEmpty
    pendingMessages := report.pendingMessages
    issueCount := issues.length
    firstIssue := issues.head?
    issues }

def buildLocalTraceDiagnostics (path : String) (report : VerifyReport) : LocalTraceDiagnostics :=
  let issues := toProblemDetails host report.problems
  { path
    ok := issues.isEmpty
    pendingMessages := report.pendingMessages
    issueCount := issues.length
    firstIssue := issues.head?
    issues }

def buildClusterDiagnostics (report : ClusterReport) : ClusterDiagnostics :=
  let issues := toProblemDetails host report.problems
  { matchedRecv := report.matchedRecv
    matchedDrop := report.matchedDrop
    resolvedLineageParents := report.resolvedLineageParents
    externalLineageParents := report.externalLineageParents
    externalInbound := report.externalInbound
    externalOutbound := report.externalOutbound
    issueCount := issues.length
    firstIssue := issues.head?
    issues }

end Building

/-! ## The summary of a trace -/

section Summaries

variable {V : Type}

def eventKindName : EventKind V → String
  | .spawn .. => "Spawn"
  | .send .. => "Send"
  | .deliver .. => "Deliver"
  | .timerFired .. => "TimerFired"
  | .netRecv .. => "NetRecv"
  | .netSend .. => "NetSend"
  | .log .. => "Log"
  | .effectObserved .. => "EffectObserved"
  | .faultInjected .. => "FaultInjected"
  | .faultPolicy .. => "FaultPolicy"

def countKind (byKind : HashMap String Nat) (ev : TraceEvent V) : HashMap String Nat :=
  let name := eventKindName ev.kind
  byKind.insert name ((byKind.lookup name).getD 0 + 1)

/-- A text in a column of ten. -/
def padLeft (text : String) : String :=
  String.ofList (List.replicate (10 - text.length) ' ') ++ text

/-- The lines of `print_summary`; the kinds are in `BTreeMap` order. -/
def summaryLines (path : String) (events : List (TraceEvent V)) : List String :=
  let byKind := events.foldl countKind ∅
  let kinds := byKind.keys.insertionSort (· ≤ ·)
  [s!"trace: {path}", s!"total events: {events.length}"] ++
    kinds.map fun kind => s!"{padLeft kind}: {(byKind.lookup kind).getD 0}"

end Summaries

/-! ## The commands -/

/-- The files that can be opened, and the paths that can be written to. -/
structure Disk where
  file : String → Option (List UInt8)
  writable : String → Bool

inductive Report where
  | verify (report : VerifyDiagnosticsReport)
  | clusterVerify (report : ClusterVerifyDiagnosticsReport)
  deriving DecidableEq, Repr

/-- What a run has printed and written. -/
structure Output where
  stdout : List String
  stderr : List String
  reports : List (String × Report)
  deriving DecidableEq, Repr

def Output.empty : Output := ⟨[], [], []⟩

inductive ToolError where
  | command (error : CommandError)
  | openTrace
  | readTrace (error : ReadError)
  | lineageStart (message : String)
  | writeReport (path : String)
  | verifyFailed (issues : Nat)
  | clusterVerifyAborted
  | clusterVerifyFailed (issues : Nat)
  deriving DecidableEq, Repr

/-- The text of an error, without its causes. -/
def ToolError.message : ToolError → String
  | .command error => error.message
  | .openTrace => "open trace file"
  | .readTrace .readTraceLine => "read trace line"
  | .readTrace .parseTraceJson => "parse trace json"
  | .lineageStart message => message
  | .writeReport path => s!"write report json `{path}`"
  | .verifyFailed issues => s!"verify failed: {issues} issue(s)"
  | .clusterVerifyAborted => "cluster-verify aborted: one or more traces failed local verify"
  | .clusterVerifyFailed issues => s!"cluster-verify failed: {issues} issue(s)"

abbrev ToolM := EStateM ToolError Output

def printLines (lines : List String) : ToolM Unit :=
  modify fun out => { out with stdout := out.stdout ++ lines }

def errorLine (check problem : String) : String := s!"{check}: ERROR: {problem}"

/-- The problems that a check found, on the error output. -/
def printProblems (check : String) (problems : List String) : ToolM Unit :=
  modify fun out => { out with stderr := out.stderr ++ problems.map (errorLine check) }

section Commands

variable {V : Type} (tool : ToolHost V) (codec : JsonCodec (TraceEvent V)) (disk : Disk)

def writeJsonReport (path : String) (report : Report) : ToolM Unit :=
  if disk.writable path then
    modify fun out => { out with reports := out.reports ++ [(path, report)] }
  else throw (.writeReport path)

/-- `if let Some(report_path) = report_json.as_deref()`. -/
def writeRequested (mode : String) (reportJson : Option String) (report : Report) : ToolM Unit :=
  match reportJson with
  | none => pure ()
  | some path => do
      writeJsonReport disk path report
      printLines [s!"{mode}: report-json: {path}"]

def abort (mode : String) (reportJson : Option String) (report : Report) (error : ToolError) :
    ToolM Unit := do
  writeRequested disk mode reportJson report
  throw error

/-- The end of both verify commands: the report, and the verdict on the problems. -/
def conclude (mode : String) (reportJson : Option String) (report : Report)
    (problems : List String) (okLine : String) (failed : Nat → ToolError) : ToolM Unit := do
  writeRequested disk mode reportJson report
  if problems = [] then printLines [okLine]
  else do
    printProblems mode problems
    throw (failed problems.length)

/-- `read_events`, from the path on. -/
def readTrace (path : String) : Except ToolError (List (TraceEvent V)) :=
  match disk.file path with
  | none => .error .openTrace
  | some file =>
      match readEvents codec file with
      | .error error => .error (.readTrace error)
      | .ok events => .ok events

/-- The events of a trace, after their summary was printed. -/
def openTrace (path : String) : ToolM (List (TraceEvent V)) :=
  match readTrace codec disk path with
  | .error error => throw error
  | .ok events => do
      printLines (summaryLines path events)
      pure events

def runSummary (path : String) : ToolM Unit := do
  let _ ← openTrace codec disk path
  pure ()

def verifyOkLine (check : String) (report : VerifyReport) : String :=
  s!"{check}: OK (pending_messages={report.pendingMessages})"

def runVerify (path : String) (reportJson : Option String) : ToolM Unit := do
  let events ← openTrace codec disk path
  let report := verifyTrace tool events
  conclude disk "verify" reportJson (.verify (buildVerifyDiagnostics tool.toHost path report))
    report.problems (verifyOkLine "verify" report) .verifyFailed

/-- What `cluster-verify` has collected from the traces so far. -/
structure LocalPass (V : Type) where
  traces : List (ClusterTrace V)
  hadLocalErrors : Bool
  localDiagnostics : List LocalTraceDiagnostics

def LocalPass.add (pass : LocalPass V) (trace : ClusterTrace V) : LocalPass V :=
  let report := verifyTrace tool trace.events
  { traces := pass.traces ++ [trace]
    hadLocalErrors := pass.hadLocalErrors || !report.problems.isEmpty
    localDiagnostics :=
      pass.localDiagnostics ++ [buildLocalTraceDiagnostics tool.toHost trace.path report] }

/-- The check of one trace on its own, as its lines name it. -/
def localCheck (path : String) : String := s!"verify({path})"

/-- The body of the loop over the paths. -/
def verifyLocally (pass : LocalPass V) (path : String) : ToolM (LocalPass V) := do
  let events ← openTrace codec disk path
  let report := verifyTrace tool events
  if report.problems = [] then printLines [verifyOkLine (localCheck path) report]
  else printProblems (localCheck path) report.problems
  pure (pass.add tool ⟨path, events⟩)

def clusterOkLine (report : ClusterReport) : String :=
  s!"cluster-verify: OK (matched_recv={report.matchedRecv} matched_drop={report.matchedDrop} " ++
    s!"resolved_lineage_parents={report.resolvedLineageParents} " ++
    s!"external_lineage_parents={report.externalLineageParents} " ++
    s!"external_inbound={report.externalInbound} external_outbound={report.externalOutbound})"

def runLineageSummary (path : String) : ToolM Unit := do
  let events ← openTrace codec disk path
  printLines (printLineageSummary tool path events)

def runLineagePath (path : String) (start : LineageKey) : ToolM Unit :=
  match readTrace codec disk path with
  | .error error => throw error
  | .ok events => do
      let (lines, ending) := printLineagePath tool path events start
      printLines lines
      match ending with
      | .ok () => pure ()
      | .error message => throw (.lineageStart message)

variable [DecidableEq V]

/-- The part of `cluster-verify` after its loop. -/
def concludeCluster (paths : List String) (reportJson : Option String) (pass : LocalPass V) :
    ToolM Unit :=
  if pass.hadLocalErrors then
    abort disk "cluster-verify" reportJson
      (.clusterVerify ⟨"cluster-verify", false, paths, pass.localDiagnostics, none⟩)
      .clusterVerifyAborted
  else
    let report := verifyCluster tool pass.traces
    conclude disk "cluster-verify" reportJson
      (.clusterVerify ⟨"cluster-verify", report.problems.isEmpty, paths, pass.localDiagnostics,
        some (buildClusterDiagnostics tool.toHost report)⟩)
      report.problems (clusterOkLine report) .clusterVerifyFailed

def runClusterVerify (paths : List String) (reportJson : Option String) : ToolM Unit := do
  let pass ← paths.foldlM (verifyLocally tool codec disk) ⟨[], false, []⟩
  concludeCluster tool disk paths reportJson pass

def runCommand : Command → ToolM Unit
  | .summary path => runSummary codec disk path
  | .verify path reportJson => runVerify tool codec disk path reportJson
  | .clusterVerify paths reportJson => runClusterVerify tool codec disk paths reportJson
  | .lineageSummary path => runLineageSummary tool codec disk path
  | .lineagePath path node msgId => runLineagePath tool codec disk path (node, msgId)

/-- `main`, on the arguments after the program's name. -/
def main (rawArgs : List String) : ToolM Unit :=
  match parseCommand tool.toHost rawArgs with
  | .error error => throw (.command error)
  | .ok command => runCommand tool codec disk command

end Commands

end UcoStack.Tool
