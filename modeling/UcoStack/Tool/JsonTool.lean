import UcoStack.Tool.Verify

/-!
# The verifier on JSON documents

A concrete verifier host over the documents of `jsonHost`.  It reads the fields
of a payload that the verifier's records name; `parent_node` may be absent.
-/

namespace UcoStack.Tool

open UcoStack.Runtime

namespace JsonDoc

def toMessageProvenance (fields : List (String × JsonScalar)) : Option MessageProvenance := do
  let originNode ← JsonDoc.stringEntry fields "origin_node"
  let originService ← JsonDoc.stringEntry fields "origin_service"
  let originMsgId ← JsonDoc.stringEntry fields "origin_msg_id"
  let parentNode ←
    if (fields.lookup "parent_node").isNone then some ""
    else JsonDoc.stringEntry fields "parent_node"
  let parentMsgId ← JsonDoc.stringEntry fields "parent_msg_id"
  let hops ← JsonDoc.numberEntry fields "hops"
  pure ⟨originNode, originService, originMsgId, parentNode, parentMsgId, hops⟩

def provenanceField (doc : JsonDoc) : Option (Option MessageProvenance) :=
  match doc.lookup "provenance" with
  | none => some none
  | some (.scalar .null) => some none
  | some (.object fields) => (toMessageProvenance fields).map some
  | some _ => none

def toRuntimePayload (doc : JsonDoc) : Option RuntimePayload := do
  let msgType ← doc.stringField "type"
  let fromNode ← doc.stringField "from_node"
  let fromService ← doc.stringField "from_service"
  let provenance ← provenanceField doc
  pure ⟨msgType, fromNode, fromService, provenance⟩

theorem toRuntimePayload_ofMessage (msg : RuntimeMessage) (representable : msg.Representable) :
    toRuntimePayload (JsonDoc.ofMessage msg) = some (.ofMessage msg) := by
  obtain ⟨msgType, fromNode, fromService, text, provenance⟩ := msg
  cases provenance with
  | none => rfl
  | some prov =>
      have hops : prov.hops ≤ u64Max := representable prov rfl
      have number : JsonDoc.numberEntry [("hops", .number prov.hops)] "hops" = some prov.hops := by
        change (if prov.hops ≤ u64Max then some prov.hops else none) = some prov.hops
        rw [if_pos hops]
      change ((JsonDoc.numberEntry [("hops", .number prov.hops)] "hops").bind fun hops =>
          some (⟨prov.originNode, prov.originService, prov.originMsgId, prov.parentNode,
            prov.parentMsgId, hops⟩ : Provenance)).map some >>= _ = _
      rw [number]
      rfl

end JsonDoc

def jsonTool : ToolHost JsonDoc :=
  { jsonHost with
    decodePayload := fun doc =>
      match JsonDoc.toRuntimePayload doc with
      | some payload => .ok payload
      | none => .error "invalid payload"
    debugEvent := fun kind => toString (repr kind) }

theorem jsonTool_lawful : jsonTool.Lawful where
  host := jsonHost_lawful
  decode_toValue := fun msg representable => by
    have decoded := JsonDoc.toRuntimePayload_ofMessage msg representable
    have unfolded : jsonTool.decodePayload (jsonTool.toValue msg) =
        match JsonDoc.toRuntimePayload (JsonDoc.ofMessage msg) with
        | some payload => .ok payload
        | none => .error "invalid payload" := rfl
    rw [unfolded, decoded]

/-! ## A sample trace -/

/-- A message of node 7 without hops. -/
def samplePayload : JsonDoc :=
  JsonDoc.ofMessage
    { msgType := "start"
      fromNode := UuidText.print 7
      fromService := "A"
      text := "hi"
      provenance := some
        { originNode := UuidText.print 7
          originService := "A"
          originMsgId := UuidText.print 1
          parentNode := UuidText.print 7
          parentMsgId := UuidText.print 1
          hops := 0 } }

/-- Two actors, one message from the first to the second. -/
def sampleTrace : List (TraceEvent JsonDoc) :=
  [⟨0, 7, .spawn 7 11 "A"⟩, ⟨1, 7, .spawn 7 22 "B"⟩, ⟨2, 7, .send 11 22 1 samplePayload⟩,
    ⟨3, 7, .deliver 7 22 1⟩, ⟨4, 7, .effectObserved 7 22 "B" "start" 1 [] []⟩]

end UcoStack.Tool
