import UcoStack.Library.Reading
import UcoStack.Tool.Cluster

/-!
# The cluster verifier in any enumeration order

`verifyCluster` reads its hash maps in entry order.  `verifyClusterIn` is the same
program when every loop over a hash map or a hash set reads it in an order of its
own; the sets and indexes of single traces are numbered by the place of the trace.
-/

namespace UcoStack.Tool

open UcoStack.Runtime

structure ReadOrder (V : Type) where
  nodes : Nat → Reading NodeId
  recvs : Reading (Sigma fun _ : ClusterKey => NetRecord V)
  drops : Reading (Sigma fun _ : ClusterKey => DropRecord)
  sends : Reading ClusterKey
  index : Nat → Reading (Sigma fun _ : LineageKey => LineageRecord)
  lineage : Reading (Sigma fun _ : LineageKey => LineageRecord × String)

namespace ReadOrder

variable {V : Type}

/-- Every collection in entry order. -/
def stored : ReadOrder V := ⟨fun _ => .stored, .stored, .stored, .stored, fun _ => .stored, .stored⟩

def backwards : ReadOrder V :=
  ⟨fun _ => .backwards, .backwards, .backwards, .backwards, fun _ => .backwards, .backwards⟩

end ReadOrder

section Verify

variable {V : Type} (tool : ToolHost V) (order : ReadOrder V)

def includeTraceIn (state : ClusterReport × Finset NodeId) (item : ClusterTrace V × Nat) :
    ClusterReport × Finset NodeId :=
  let trace := item.1
  let nodes := (order.nodes item.2).read (traceNodes trace)
  if nodes.isEmpty then
    (state.1.report s!"trace `{trace.path}` has no node-scoped events", state.2)
  else
    let names := String.intercalate ", " (nodes.map tool.uuidToString)
    (state.1.reportIf (nodes.length > 1)
      (s!"trace `{trace.path}` mixes multiple node ids: " ++ "\x7b" ++ names ++ "\x7d"),
      state.2 ∪ nodes.toFinset)

def mergeTraceIn (state : ClusterReport × GlobalLineage) (item : ClusterTrace V × Nat) :
    ClusterReport × GlobalLineage :=
  ((order.index item.2).read (buildLineageIndex tool item.1.events).entries).foldl
    (mergeRecord tool item.1.path) state

variable [DecidableEq V]

def verifyClusterIn (traces : List (ClusterTrace V)) : ClusterReport :=
  let (found, included) := traces.zipIdx.foldl (includeTraceIn tool order) (.empty, ∅)
  let index := traces.foldl (indexTrace tool) ⟨found, ∅, ∅, ∅⟩
  let found := (order.recvs.read index.recvs.entries).foldl (checkRecv tool included index)
    index.report
  let found := (order.drops.read index.drops.entries).foldl (checkDrop tool included index) found
  let found := (order.sends.read index.sends.keys).foldl (checkSent tool included index) found
  let (found, lineage) := traces.zipIdx.foldl (mergeTraceIn tool order) (found, ∅)
  (order.lineage.read lineage.entries).foldl (checkGlobal tool included lineage) found

end Verify

section Stored

variable {V : Type} (tool : ToolHost V)

theorem foldl_zipIdx {σ α : Type} (step : σ → α → σ) (start : σ) (xs : List α) :
    xs.zipIdx.foldl (fun state item => step state item.1) start = xs.foldl step start := by
  have firsts := List.zipIdx_map_fst 0 xs
  calc xs.zipIdx.foldl (fun state item => step state item.1) start
      = (xs.zipIdx.map Prod.fst).foldl step start := List.foldl_map.symm
    _ = xs.foldl step start := by rw [firsts]

theorem includeTraceIn_stored (traces : List (ClusterTrace V))
    (state : ClusterReport × Finset NodeId) :
    traces.zipIdx.foldl (includeTraceIn tool .stored) state =
      traces.foldl (includeTrace tool) state :=
  foldl_zipIdx (includeTrace tool) state traces

theorem mergeTraceIn_stored (traces : List (ClusterTrace V))
    (state : ClusterReport × GlobalLineage) :
    traces.zipIdx.foldl (mergeTraceIn tool .stored) state = traces.foldl (mergeTrace tool) state :=
  foldl_zipIdx (mergeTrace tool) state traces

/-- The verifier of the other modules reads everything in entry order. -/
theorem verifyClusterIn_stored [DecidableEq V] (traces : List (ClusterTrace V)) :
    verifyClusterIn tool .stored traces = verifyCluster tool traces := by
  unfold verifyClusterIn verifyCluster
  simp only [includeTraceIn_stored, mergeTraceIn_stored]
  rfl

end Stored

end UcoStack.Tool
