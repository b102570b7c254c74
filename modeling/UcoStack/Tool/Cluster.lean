import UcoStack.Tool.Verify

/-!
# The cluster verifier

`verifyCluster` compares the traces of several nodes: every network message is
indexed by sender, message id and receiver, and every delivered message by its
origin.  Hash maps are read in entry order.
-/

namespace UcoStack.Tool

open UcoStack.Runtime

structure ClusterTrace (V : Type) where
  path : String
  events : List (TraceEvent V)

structure ClusterReport where
  problems : List String
  matchedRecv : Nat
  matchedDrop : Nat
  resolvedLineageParents : Nat
  externalLineageParents : Nat
  externalInbound : Nat
  externalOutbound : Nat
  deriving DecidableEq, Repr

namespace ClusterReport

def empty : ClusterReport := ⟨[], 0, 0, 0, 0, 0, 0⟩

def report (found : ClusterReport) (problem : String) : ClusterReport :=
  { found with problems := found.problems ++ [problem] }

def reportIf (found : ClusterReport) (fails : Prop) [Decidable fails] (problem : String) :
    ClusterReport :=
  if fails then found.report problem else found

end ClusterReport

/-- Sender, message id and receiver of a network message. -/
abbrev ClusterKey := NodeId × MsgId × NodeId

structure NetRecord (V : Type) where
  path : String
  seq : Nat
  payload : V

structure DropRecord where
  path : String
  seq : Nat

def eventLocalNode {V : Type} : EventKind V → Option NodeId
  | .spawn node _ _ => some node
  | .deliver node _ _ => some node
  | .timerFired node _ _ => some node
  | .netRecv node _ _ _ _ => some node
  | .netSend node _ _ _ _ => some node
  | .log node _ _ _ => some node
  | .effectObserved node _ _ _ _ _ _ => some node
  | .faultInjected node _ _ _ _ => some node
  | .faultPolicy node _ _ _ _ => some node
  | .send .. => none

/-! ## Delivered payloads and their lineage -/

section LineageIndex

variable {V : Type} (tool : ToolHost V)

structure DeliveredPayload (V : Type) where
  seq : Nat
  node : NodeId
  receiver : ActorId
  msgId : MsgId
  payload : V

structure LineageRecord where
  key : LineageKey
  seq : Nat
  localNode : NodeId
  receiver : ActorId
  fromService : String
  msgType : String
  provenance : MessageProvenance
  deriving DecidableEq, Repr

/-- The variables of `collect_deliveries_with_payload`. -/
structure Collecting (V : Type) where
  produced : HashMap DeliveryKey (List V)
  out : List (DeliveredPayload V)

def Collecting.push (collected : Collecting V) (key : DeliveryKey) (payload : V) : Collecting V :=
  { collected with
    produced :=
      collected.produced.insert key ((collected.produced.lookup key).getD [] ++ [payload]) }

def collectEvent (collected : Collecting V) (ev : TraceEvent V) : Collecting V :=
  match ev.kind with
  | .send _ receiver msgId payload => collected.push (receiver, msgId) payload
  | .netRecv _ _ receiver msgId payload => collected.push (receiver, msgId) payload
  | .deliver node receiver msgId =>
      match collected.produced.lookup (receiver, msgId) with
      | none => collected
      | some [] => { collected with produced := collected.produced.erase (receiver, msgId) }
      | some (payload :: queue) =>
          { produced :=
              if queue.isEmpty then collected.produced.erase (receiver, msgId)
              else collected.produced.insert (receiver, msgId) queue
            out := collected.out ++ [⟨ev.seq, node, receiver, msgId, payload⟩] }
  | _ => collected

def collectDeliveriesWithPayload (events : List (TraceEvent V)) : List (DeliveredPayload V) :=
  (events.foldl collectEvent ⟨∅, []⟩).out

/-- The error text is the context that is added to the parse error. -/
def lineageParentKey (item : LineageRecord) : Except String LineageKey := do
  let parentNode ←
    if item.provenance.parentNode.isEmpty then .ok item.key.1
    else
      match tool.uuidParse item.provenance.parentNode with
      | some node => .ok node
      | none => .error s!"invalid parent_node `{item.provenance.parentNode}`"
  let parentMsgId ←
    match tool.uuidParse item.provenance.parentMsgId with
    | some msgId => .ok msgId
    | none => .error s!"invalid parent_msg_id `{item.provenance.parentMsgId}`"
  pure (parentNode, parentMsgId)

/-- The record of one delivery; unreadable payloads are skipped. -/
def lineageRecord (delivery : DeliveredPayload V) : Option LineageRecord :=
  match tool.decodePayload delivery.payload with
  | .error _ => none
  | .ok payload =>
      match payload.provenance with
      | none => none
      | some provenance =>
          match tool.uuidParse payload.fromNode with
          | none => none
          | some fromNode =>
              some
                { key := (fromNode, delivery.msgId)
                  seq := delivery.seq
                  localNode := delivery.node
                  receiver := delivery.receiver
                  fromService := payload.fromService
                  msgType := payload.msgType
                  provenance := provenance }

def indexDelivery (out : HashMap LineageKey LineageRecord) (delivery : DeliveredPayload V) :
    HashMap LineageKey LineageRecord :=
  match lineageRecord tool delivery with
  | none => out
  | some item => out.insert item.key item

def buildLineageIndex (events : List (TraceEvent V)) : HashMap LineageKey LineageRecord :=
  (collectDeliveriesWithPayload events).foldl (indexDelivery tool) ∅

end LineageIndex

/-! ## Included nodes -/

section Included

variable {V : Type} (tool : ToolHost V)

/-- The nodes of a trace, each once. -/
def traceNodes (trace : ClusterTrace V) : List NodeId :=
  (trace.events.filterMap fun ev => eventLocalNode ev.kind).dedup

/-- The first loop: the report so far and the nodes included so far. -/
def includeTrace (state : ClusterReport × Finset NodeId) (trace : ClusterTrace V) :
    ClusterReport × Finset NodeId :=
  let nodes := traceNodes trace
  if nodes.isEmpty then
    (state.1.report s!"trace `{trace.path}` has no node-scoped events", state.2)
  else
    let names := String.intercalate ", " (nodes.map tool.uuidToString)
    (state.1.reportIf (nodes.length > 1)
      (s!"trace `{trace.path}` mixes multiple node ids: " ++ "\x7b" ++ names ++ "\x7d"),
      state.2 ∪ nodes.toFinset)

end Included

/-! ## Network evidence -/

section Evidence

variable {V : Type} (tool : ToolHost V)

structure NetworkIndex (V : Type) where
  report : ClusterReport
  sends : HashMap ClusterKey (NetRecord V)
  recvs : HashMap ClusterKey (NetRecord V)
  drops : HashMap ClusterKey DropRecord

def keyText (key : ClusterKey) : String :=
  s!"{tool.uuidToString key.1}/{tool.uuidToString key.2.1}/{tool.uuidToString key.2.2}"

/-- Insert evidence under its key; `place` is the path and the sequence number of
a piece of evidence.  A key that was there before is a problem. -/
def insertEvidence {ν : Type} (what : String) (place : ν → String × Nat) (key : ClusterKey)
    (value : ν) (map : HashMap ClusterKey ν) (found : ClusterReport) :
    HashMap ClusterKey ν × ClusterReport :=
  (map.insert key value,
    match map.lookup key with
    | none => found
    | some prev =>
        found.report (s!"duplicate {what} key {keyText tool key} at " ++
          s!"{(place prev).1}:{(place prev).2} and {(place value).1}:{(place value).2}"))

def NetRecord.place (evidence : NetRecord V) : String × Nat := (evidence.path, evidence.seq)

def DropRecord.place (evidence : DropRecord) : String × Nat := (evidence.path, evidence.seq)

def indexSend (path : String) (seq : Nat) (key : ClusterKey) (payload : V)
    (index : NetworkIndex V) : NetworkIndex V :=
  let inserted := insertEvidence tool "NetSend" NetRecord.place key ⟨path, seq, payload⟩
    index.sends index.report
  { index with sends := inserted.1, report := inserted.2 }

def indexRecv (path : String) (seq : Nat) (key : ClusterKey) (payload : V)
    (index : NetworkIndex V) : NetworkIndex V :=
  let inserted := insertEvidence tool "NetRecv" NetRecord.place key ⟨path, seq, payload⟩
    index.recvs index.report
  { index with recvs := inserted.1, report := inserted.2 }

def indexDrop (path : String) (seq : Nat) (key : ClusterKey) (index : NetworkIndex V) :
    NetworkIndex V :=
  let inserted := insertEvidence tool "Drop fault" DropRecord.place key ⟨path, seq⟩
    index.drops index.report
  { index with drops := inserted.1, report := inserted.2 }

def indexEvent (path : String) (index : NetworkIndex V) (ev : TraceEvent V) : NetworkIndex V :=
  match ev.kind with
  | .netSend node toNode _ msgId payload =>
      indexSend tool path ev.seq (node, msgId, toNode) payload index
  | .netRecv node fromNode _ msgId payload =>
      indexRecv tool path ev.seq (fromNode, msgId, node) payload index
  | .faultInjected node fromNode _ msgId action =>
      if action ≠ .drop then index
      else indexDrop tool path ev.seq (fromNode, msgId, node) index
  | _ => index

def indexTrace (index : NetworkIndex V) (trace : ClusterTrace V) : NetworkIndex V :=
  trace.events.foldl (indexEvent tool trace.path) index

variable [DecidableEq V] (included : Finset NodeId) (index : NetworkIndex V)

/-- One received message: external, unmatched, altered or matched. -/
def checkRecv (found : ClusterReport) (entry : Sigma fun _ : ClusterKey => NetRecord V) :
    ClusterReport :=
  let key := entry.1
  let recv := entry.2
  if key.1 ∉ included then { found with externalInbound := found.externalInbound + 1 }
  else
    match index.sends.lookup key with
    | none =>
        found.report (s!"NetRecv {keyText tool key} at {recv.path}:{recv.seq} " ++
          "has no matching NetSend in provided traces")
    | some send =>
        if send.payload ≠ recv.payload then
          found.report (s!"payload mismatch for {keyText tool key}: NetSend at " ++
            s!"{send.path}:{send.seq} differs from NetRecv at {recv.path}:{recv.seq}")
        else { found with matchedRecv := found.matchedRecv + 1 }

def checkDrop (found : ClusterReport) (entry : Sigma fun _ : ClusterKey => DropRecord) :
    ClusterReport :=
  let key := entry.1
  let drop := entry.2
  if key.1 ∉ included then { found with externalInbound := found.externalInbound + 1 }
  else if (index.sends.lookup key).isSome then { found with matchedDrop := found.matchedDrop + 1 }
  else
    found.report (s!"Drop fault {keyText tool key} at {drop.path}:{drop.seq} " ++
      "has no matching NetSend in provided traces")

def checkSent (found : ClusterReport) (key : ClusterKey) : ClusterReport :=
  if key.2.2 ∉ included then { found with externalOutbound := found.externalOutbound + 1 }
  else
    let hasRecv := (index.recvs.lookup key).isSome
    let hasDrop := (index.drops.lookup key).isSome
    if hasRecv && hasDrop then
      found.report s!"message {keyText tool key} has both NetRecv and Drop fault evidence"
    else
      found.reportIf (!hasRecv && !hasDrop)
        (s!"NetSend {keyText tool key} has no matching NetRecv or Drop fault " ++
          "in provided traces")

end Evidence

/-! ## Lineage across traces -/

section GlobalLineage

variable {V : Type} (tool : ToolHost V)

abbrev GlobalLineage := HashMap LineageKey (LineageRecord × String)

def lineageText (key : LineageKey) : String :=
  s!"{tool.uuidToString key.1}/{tool.uuidToString key.2}"

def mergeRecord (path : String) (state : ClusterReport × GlobalLineage)
    (entry : Sigma fun _ : LineageKey => LineageRecord) : ClusterReport × GlobalLineage :=
  let key := entry.1
  let item := entry.2
  let merged := state.2.insert key (item, path)
  match state.2.lookup key with
  | none => (state.1, merged)
  | some (prev, prevPath) =>
      (state.1.report (s!"duplicate delivered lineage key {lineageText tool key} at " ++
        s!"{prevPath}:{prev.seq} and {path}:{item.seq}"), merged)

def mergeTrace (state : ClusterReport × GlobalLineage) (trace : ClusterTrace V) :
    ClusterReport × GlobalLineage :=
  (buildLineageIndex tool trace.events).entries.foldl (mergeRecord tool trace.path) state

/-- The four comparisons with a parent found in some trace. -/
def checkGlobalParent (key parent : LineageKey) (item : LineageRecord) (path : String)
    (parentRec : LineageRecord) (parentPath : String) (found : ClusterReport) : ClusterReport :=
  let place := s!"lineage record {lineageText tool key} at {path}:{item.seq} "
  let parentText := lineageText tool parent
  let prov := item.provenance
  let parentProv := parentRec.provenance
  let found := found.reportIf (prov.hops ≠ saturatingAdd parentProv.hops 1)
    (place ++ s!"has hops={prov.hops} but parent {parentText} at " ++
      s!"{parentPath}:{parentRec.seq} has hops={parentProv.hops}")
  let found := found.reportIf (prov.originMsgId ≠ parentProv.originMsgId)
    (place ++ s!"origin_msg_id={prov.originMsgId} does not match parent {parentText} " ++
      s!"origin_msg_id={parentProv.originMsgId}")
  let found := found.reportIf (prov.originNode ≠ parentProv.originNode)
    (place ++ s!"origin_node={prov.originNode} does not match parent {parentText} " ++
      s!"origin_node={parentProv.originNode}")
  found.reportIf (prov.originService ≠ parentProv.originService)
    (place ++ s!"origin_service={prov.originService} does not match parent {parentText} " ++
      s!"origin_service={parentProv.originService}")

def checkGlobal (included : Finset NodeId) (lineage : GlobalLineage) (found : ClusterReport)
    (entry : Sigma fun _ : LineageKey => LineageRecord × String) : ClusterReport :=
  let key := entry.1
  let item := entry.2.1
  let path := entry.2.2
  let place := s!"lineage record {lineageText tool key} at {path}:{item.seq} "
  if item.provenance.hops = 0 then found
  else
    match lineageParentKey tool item with
    | .error err => found.report (place ++ s!"has invalid parent reference: {err}")
    | .ok parent =>
        match lineage.lookup parent with
        | some (parentRec, parentPath) =>
            checkGlobalParent tool key parent item path parentRec parentPath
              { found with resolvedLineageParents := found.resolvedLineageParents + 1 }
        | none =>
            if parent.1 ∈ included then
              found.report (place ++ "references missing in-cluster parent " ++
                lineageText tool parent)
            else { found with externalLineageParents := found.externalLineageParents + 1 }

end GlobalLineage

section Verify

variable {V : Type} (tool : ToolHost V) [DecidableEq V]

def verifyCluster (traces : List (ClusterTrace V)) : ClusterReport :=
  let (found, included) := traces.foldl (includeTrace tool) (.empty, ∅)
  let index := traces.foldl (indexTrace tool) ⟨found, ∅, ∅, ∅⟩
  let found := index.recvs.entries.foldl (checkRecv tool included index) index.report
  let found := index.drops.entries.foldl (checkDrop tool included index) found
  let found := index.sends.keys.foldl (checkSent tool included index) found
  let (found, lineage) := traces.foldl (mergeTrace tool) (found, ∅)
  lineage.entries.foldl (checkGlobal tool included lineage) found

end Verify

end UcoStack.Tool
