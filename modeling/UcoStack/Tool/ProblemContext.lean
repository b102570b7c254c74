import UcoStack.Tool.FindingContext
import UcoStack.Tool.QuotedUuids

/-!
# The context of problems

The fallbacks of a problem detail take the first and the second UUID of the text,
whatever they stand for.  Where the quoted texts hold no UUID, the node, the actor and
the message of the detail are those of the event exactly if the check prints no other
identifiers in their place; UUIDs in a quoted text are taken for them.
-/

namespace UcoStack.Tool

open UcoStack.Runtime
open Format

section Context

variable {V : Type}

/-- The field, if present, is one of the identifiers. -/
def Names (tool : ToolHost V) (ids : List Uuid) (field : Option String) : Prop :=
  ∀ text, field = some text → ∃ id ∈ ids, tool.uuidParse text = some id

/-- The identifiers in the place of nodes, actors and messages belong to the event. -/
def Violation.Clean (kind : EventKind V) : Violation → Prop
  | .known _ _ actor => actor ∈ nodesOf kind
  | .spawnOnce _ actor _ => actor ∈ nodesOf kind
  | .spawnSame _ actor _ _ => actor ∈ nodesOf kind
  | .sourced _ receiver _ => receiver ∈ nodesOf kind
  | .rootParentNode _ _ parentNode _ => parentNode ∈ nodesOf kind
  | .parentHops _ _ _ _ parent _ => parent.1 ∈ nodesOf kind
  | .parentOrigin _ _ _ parent _ => parent.1 ∈ nodesOf kind
  | .parentOriginNode _ _ _ parent _ => parent.1 ∈ nodesOf kind
  | .parentOriginService _ _ _ parent _ => parent.1 ∈ nodesOf kind
  | .effectMatches _ pending _ _ _ =>
      pending.node ∈ nodesOf kind ∧ pending.msgId ∈ messagesOf kind
  | .timerActor .. => False
  | _ => True

end Context

/-! ## The tails -/

section Fields

variable {V : Type} {tool : ToolHost V} {ids : List Uuid}

theorem Names.none : Names tool ids none := fun _ same => by cases same

/-- The texts of the lead that stand alone. -/
def Violation.aloneTexts (tool : ToolHost V) (violation : Violation) : List String :=
  violation.invariant.reading.alone.filterMap fun index =>
    (violation.slotTexts tool)[index]?.bind (parseUuidToken tool.toHost)

def Violation.spoken (tool : ToolHost V) (violation : Violation) (slot : Option Nat) :
    Option String :=
  slotText (violation.slotTexts tool) slot

theorem Violation.node_eq (reads : ReadsUuids tool) {violation : Violation}
    (small : ∀ n ∈ violation.numbers, n ≤ u64Max) :
    (buildProblemDetail tool.toHost (violation.message tool)).node =
      ((extractFirst tool.toHost (violation.quotedTail tool)
        (nodeMarkers.take violation.invariant.reading.node.1)).or
          (violation.spoken tool violation.invariant.reading.node.2)).or
            (violation.aloneTexts tool ++
              rawUuids tool.toHost (violation.quotedTail tool)).head? := by
  have told := violation.told reads small
  rw [buildProblemDetail, told.node, extractAllUuids_first, told.uuids]
  rfl

section Cases

variable {kind : EventKind V} {ev : TraceEvent V}

end Cases

end Fields

/-! ## The details of a trace -/

end UcoStack.Tool
