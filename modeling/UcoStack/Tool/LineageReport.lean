import UcoStack.Tool.Cluster

/-!
# Lineage reports

The tool counts how the parents of the indexed messages resolve, and it follows one
message up to its origin.  Both look at the index of a single trace.
-/

namespace UcoStack.Tool

open UcoStack.Runtime

variable {V : Type} (tool : ToolHost V)

/-! ## The summary -/

structure LineageSummary where
  total : Nat
  roots : Nat
  resolvedParents : Nat
  unresolvedInternalParents : Nat
  unresolvedExternalParents : Nat
  invalidParentRefs : Nat
  maxHops : Nat
  deriving DecidableEq, Repr

/-- How the parent of a record resolves. -/
inductive ParentLink
  | root
  | invalid
  | resolved
  | unresolvedInternal
  | unresolvedExternal
  deriving DecidableEq, Repr

def parentLink (index : HashMap LineageKey LineageRecord) (item : LineageRecord) : ParentLink :=
  if item.provenance.hops = 0 then .root
  else
    match lineageParentKey tool item with
    | .error _ => .invalid
    | .ok parent =>
        if parent ∈ index then .resolved
        else if parent.1 = item.localNode then .unresolvedInternal
        else .unresolvedExternal

def LineageSummary.count (summary : LineageSummary) : ParentLink → LineageSummary
  | .root => { summary with roots := summary.roots + 1 }
  | .invalid => { summary with invalidParentRefs := summary.invalidParentRefs + 1 }
  | .resolved => { summary with resolvedParents := summary.resolvedParents + 1 }
  | .unresolvedInternal =>
      { summary with unresolvedInternalParents := summary.unresolvedInternalParents + 1 }
  | .unresolvedExternal =>
      { summary with unresolvedExternalParents := summary.unresolvedExternalParents + 1 }

def summarizeRecord (index : HashMap LineageKey LineageRecord) (summary : LineageSummary)
    (item : LineageRecord) : LineageSummary :=
  { summary with maxHops := max summary.maxHops item.provenance.hops }.count
    (parentLink tool index item)

def summarizeLineage (index : HashMap LineageKey LineageRecord) : LineageSummary :=
  (index.entries.map Sigma.snd).foldl (summarizeRecord tool index)
    ⟨index.keys.length, 0, 0, 0, 0, 0, 0⟩

/-- What a summary says of messages with these links and hops. -/
def LineageSummary.ofLinks (links : List (ParentLink × Nat)) : LineageSummary where
  total := links.length
  roots := (links.map Prod.fst).count .root
  resolvedParents := (links.map Prod.fst).count .resolved
  unresolvedInternalParents := (links.map Prod.fst).count .unresolvedInternal
  unresolvedExternalParents := (links.map Prod.fst).count .unresolvedExternal
  invalidParentRefs := (links.map Prod.fst).count .invalid
  maxHops := (links.map Prod.snd).foldl max 0

theorem foldl_summarizeRecord (index : HashMap LineageKey LineageRecord) (total : Nat)
    (items : List LineageRecord) :
    items.foldl (summarizeRecord tool index) ⟨total, 0, 0, 0, 0, 0, 0⟩ =
      { LineageSummary.ofLinks
          (items.map fun item => (parentLink tool index item, item.provenance.hops)) with
        total } := by
  induction items using List.reverseRecOn with
  | nil => rfl
  | append_singleton before item ih =>
      rw [List.foldl_append, ih, List.foldl_cons, List.foldl_nil]
      cases link : parentLink tool index item <;>
        simp [summarizeRecord, link, LineageSummary.count, LineageSummary.ofLinks]

/-- Every record is counted once. -/
theorem summarizeLineage_eq (index : HashMap LineageKey LineageRecord) :
    summarizeLineage tool index = .ofLinks (index.entries.map fun entry =>
      (parentLink tool index entry.2, entry.2.provenance.hops)) := by
  rw [summarizeLineage, foldl_summarizeRecord, List.map_map]
  simp [LineageSummary.ofLinks, AList.keys, List.keys, Function.comp_def]

/-- The lines of `lineage`. -/
def printLineageSummary (path : String) (events : List (TraceEvent V)) : List String :=
  let summary := summarizeLineage tool (buildLineageIndex tool events)
  [s!"lineage: {path}",
    s!"indexed messages: {summary.total}",
    s!"roots (hops=0): {summary.roots}",
    s!"resolved parent refs: {summary.resolvedParents}",
    s!"unresolved internal parent refs: {summary.unresolvedInternalParents}",
    s!"unresolved external parent refs: {summary.unresolvedExternalParents}",
    s!"invalid parent refs: {summary.invalidParentRefs}",
    s!"max hops: {summary.maxHops}"]

/-! ## The path -/

/-- Why the path stops. -/
inductive PathEnd
  | rootReached
  | missing (key : LineageKey)
  | invalidParent (err : String)
  | selfParent
  | cycle
  | depthLimit
  deriving DecidableEq, Repr

structure LineagePath where
  records : List LineageRecord
  ending : PathEnd
  deriving DecidableEq, Repr

def LineagePath.cons (item : LineageRecord) (path : LineagePath) : LineagePath :=
  { path with records := item :: path.records }

/-- The iterations from `current` on. -/
def lineagePathFrom (index : HashMap LineageKey LineageRecord) :
    Nat → Finset LineageKey → LineageKey → LineagePath
  | 0, _, _ => ⟨[], .depthLimit⟩
  | iterations + 1, visited, current =>
      match index.lookup current with
      | none => ⟨[], .missing current⟩
      | some item =>
          if item.provenance.hops = 0 then ⟨[item], .rootReached⟩
          else
            match lineageParentKey tool item with
            | .error err => ⟨[item], .invalidParent err⟩
            | .ok parent =>
                if parent = current then ⟨[item], .selfParent⟩
                else if current ∈ visited then ⟨[item], .cycle⟩
                else (lineagePathFrom index iterations (insert current visited) parent).cons item

def maxLineageDepth : Nat := 256

/-- The path from a message of the trace; the error is the text of `bail!`. -/
def lineagePath (events : List (TraceEvent V)) (start : LineageKey) :
    Except String LineagePath :=
  let index := buildLineageIndex tool events
  match index.lookup start with
  | none => .error s!"lineage start message not found in trace: {lineageText tool start}"
  | some _ => .ok (lineagePathFrom tool index maxLineageDepth ∅ start)

/-- A number in a column of three. -/
def depthText (depth : Nat) : String :=
  String.ofList (List.replicate (3 - (toString depth).length) ' ') ++ toString depth

def recordLine (depth : Nat) (item : LineageRecord) : String :=
  s!"{depthText depth}: key={lineageText tool item.key} type={item.msgType} " ++
    s!"from_service={item.fromService} hops={item.provenance.hops} deliver_seq={item.seq} " ++
    s!"deliver_node={tool.uuidToString item.localNode} to={tool.uuidToString item.receiver}"

def endLine (depth : Nat) : PathEnd → String
  | .rootReached => "      root reached"
  | .missing key =>
      s!"{depthText depth}: missing {lineageText tool key} (parent not present in this trace)"
  | .invalidParent err => s!"      invalid parent reference: {err}"
  | .selfParent => "      parent points to self"
  | .cycle => "      cycle detected"
  | .depthLimit => "      depth limit reached"

/-- The lines of `lineage-path`, and how the command ends. -/
def printLineagePath (path : String) (events : List (TraceEvent V)) (start : LineageKey) :
    List String × Except String Unit :=
  let header := [s!"lineage-path: {path}", s!"start: {lineageText tool start}"]
  match lineagePath tool events start with
  | .error err => (header, .error err)
  | .ok found =>
      (header ++ found.records.mapIdx (recordLine tool) ++
        [endLine tool found.records.length found.ending], .ok ())

end UcoStack.Tool
