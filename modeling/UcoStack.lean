import UcoStack.Lang.Ast
import UcoStack.Lang.Parser
import UcoStack.Lang.WellFormed
import UcoStack.Lang.Writer
import UcoStack.Lang.RoundTrip
import UcoStack.Library.AssocMap
import UcoStack.Library.ActorModel
import UcoStack.Runtime.Event
import UcoStack.Runtime.Message
import UcoStack.Runtime.Program
import UcoStack.Runtime.Execute
import UcoStack.Runtime.Core
import UcoStack.Library.StateRun
import UcoStack.Runtime.State
import UcoStack.Runtime.Network
import UcoStack.Runtime.Main
import UcoStack.Library.ExceptRun
import UcoStack.Runtime.Accepted
import UcoStack.Runtime.Effects
import UcoStack.Runtime.JsonHost
import UcoStack.Runtime.JsonText
import UcoStack.Library.Transition
import UcoStack.Runtime.Inbound
import UcoStack.Runtime.Node
import UcoStack.Runtime.RecordRun
import UcoStack.Runtime.Launch
import UcoStack.Runtime.Progress
import UcoStack.Runtime.CoreOp
import UcoStack.Runtime.Recording
import UcoStack.Library.Monitor
import UcoStack.Runtime.Safety
import UcoStack.Tool.LocalStep
import UcoStack.Tool.TraceSpec
import UcoStack.Tool.LocalVerify
import UcoStack.Tool.LocalMeaning
import UcoStack.Tool.Cluster
import UcoStack.Tool.ClusterSpec
import UcoStack.Tool.ClusterVerify
import UcoStack.Tool.ClusterMeaning
import UcoStack.Runtime.Trace
import UcoStack.System.Inbox
import UcoStack.System.Fifo
import UcoStack.System.TraceShape
import UcoStack.Runtime.Script
import UcoStack.Runtime.Regenerate
import UcoStack.Runtime.Identifiers
import UcoStack.Runtime.RecordReplay
import UcoStack.Runtime.Pacing
import UcoStack.Runtime.Replayable
import UcoStack.Runtime.Outcome
import UcoStack.Runtime.Allocation
import UcoStack.System.Cluster
import UcoStack.System.Exchange
import UcoStack.Library.Descent
import UcoStack.System.Grounded
import UcoStack.System.Ancestry
import UcoStack.System.Lineages
import UcoStack.System.Sent
import UcoStack.System.LocalAcceptance
import UcoStack.System.NetworkEvidence
import UcoStack.System.ClusterAcceptance
import UcoStack.Library.Chunks
import UcoStack.Library.DelayQueue
import UcoStack.Runtime.Injector
import UcoStack.Runtime.FaultRun
import UcoStack.Runtime.RecordDrains
import UcoStack.Runtime.Disclosure
import UcoStack.Lang.Kernel
import UcoStack.Runtime.KernelRefinement
import UcoStack.Library.Reading
import UcoStack.Tool.ReadOrder
import UcoStack.Tool.ClusterOrder
import UcoStack.Runtime.Enumeration
import UcoStack.Tool.LineageIndex
import UcoStack.Tool.LineageScan
import UcoStack.Tool.LineageAgreement
import UcoStack.Library.Intervals
import UcoStack.Runtime.FaultPhases
import UcoStack.Runtime.PolicyTimeline
import UcoStack.Runtime.PhaseHarness
import UcoStack.Lang.Nesting
import UcoStack.Lang.Quoting
import UcoStack.Lang.Layout
import UcoStack.Library.Replacement
import UcoStack.Runtime.Rendering
import UcoStack.Runtime.TimerRun
import UcoStack.Library.FirstMatch
import UcoStack.Policy.Shell
import UcoStack.Policy.Gate
import UcoStack.Policy.Lint
import UcoStack.Policy.Agreement
import UcoStack.Library.Formats
import UcoStack.Tool.Invariants
import UcoStack.Tool.Violations
import UcoStack.Tool.Findings
import UcoStack.Library.LoggedRun
import UcoStack.Tool.ClusterFindings
import UcoStack.Tool.Classify
import UcoStack.Tool.SpawnReports
import UcoStack.System.SpawnedActors
import UcoStack.Library.Search
import UcoStack.Tool.ProblemDetail
import UcoStack.Tool.UuidTokens
import UcoStack.Tool.LeadReading
import UcoStack.Tool.MessageFields
import UcoStack.Tool.FindingContext
import UcoStack.Tool.QuotedUuids
import UcoStack.Tool.ProblemContext
import UcoStack.Runtime.Control
import UcoStack.Runtime.StateTrace
import UcoStack.Runtime.Mail
import UcoStack.Runtime.MailRun
import UcoStack.Runtime.Posts
import UcoStack.Runtime.Refusals
import UcoStack.System.Actors
import UcoStack.System.Contracts
import UcoStack.System.Work
import UcoStack.System.Shipped
import UcoStack.Library.LineRecords
import UcoStack.Runtime.TraceFile
import UcoStack.System.CrashedTrace
import UcoStack.System.Transport
import UcoStack.Tool.LineageReport
import UcoStack.System.LineageReports
import UcoStack.Runtime.StaticRules
import UcoStack.Runtime.CommandLine
import UcoStack.Tool.Command
import UcoStack.Tool.Verdict
import UcoStack.System.Pipeline
