import UcoStack.Library.Formats
import UcoStack.Runtime.JsonHost

/-!
# The invariants of the verifiers

Every check of the verifiers is an `Invariant` with the format of its message and the
code that the tool has for it.
-/

namespace UcoStack.Tool

open UcoStack.Runtime
open Format

/-! ## Slots -/

def isNonzeroDigit (c : Char) : Bool := c.isDigit && c != '0'

/-- The characters of a hyphenated UUID. -/
def isUuidChar (c : Char) : Bool := c == '-' || UuidText.hexDigits.elem c

/-- The characters of effect names and of the separator between them. -/
def isEffectChar (c : Char) : Bool :=
  ['l', 'o', 'g', 's', 't', 'a', 'e', '_', 'r', 'd', 'w', 'i', 'n', 'c', 'm', ',', ' '].elem c

def isNodeListChar (c : Char) : Bool := isUuidChar c || c == ',' || c == ' '

def number (rest : Format) : Format := .many Char.isDigit :: rest

def positive (rest : Format) : Format := .led isNonzeroDigit Char.isDigit :: rest

def uuid (rest : Format) : Format := .many isUuidChar :: rest

def effects (rest : Format) : Format := .many isEffectChar :: rest

def nodeList (rest : Format) : Format := .many isNodeListChar :: rest

/-- A text of an event or the path of a trace. -/
def text (rest : Format) : Format := .free :: rest

/-! ## Codes -/

/-- The codes of problems. -/
inductive ProblemCode where
  | traceSeqMismatch
  | traceSeedMismatch
  | deliverWithoutSource
  | deliverWithoutEffectObserved
  | effectWithoutDeliver
  | effectDeliverMismatch
  | effectUndeclaredObserved
  | effectDeclaredDuplicate
  | effectObservedDuplicate
  | payloadDecodeFailed
  | payloadMissingProvenance
  | payloadInvalidProvenanceField
  | lineageInvalidRoot
  | lineageParentSelf
  | lineageParentMismatch
  | faultDropRecvConflict
  | timerWithoutImmediateEmit
  | timerEmitActorMismatch
  | timerWithoutEmitEndOfTrace
  | unknownActorReference
  | clusterSendMissingInboundEvidence
  | clusterMissingSend
  | clusterPayloadMismatch
  | clusterConflictingRecvAndDrop
  | clusterMissingLineageParent
  | clusterDuplicateNetworkKey
  | clusterDuplicateLineageKey
  | lineageInvalidParentReference
  | clusterTraceMixedNodes
  | clusterTraceMissingNodeScope
  | unknown
  deriving DecidableEq, Repr

def ProblemCode.text : ProblemCode → String
  | .traceSeqMismatch => "trace_seq_mismatch"
  | .traceSeedMismatch => "trace_seed_mismatch"
  | .deliverWithoutSource => "deliver_without_source"
  | .deliverWithoutEffectObserved => "deliver_without_effect_observed"
  | .effectWithoutDeliver => "effect_without_deliver"
  | .effectDeliverMismatch => "effect_deliver_mismatch"
  | .effectUndeclaredObserved => "effect_undeclared_observed"
  | .effectDeclaredDuplicate => "effect_declared_duplicate"
  | .effectObservedDuplicate => "effect_observed_duplicate"
  | .payloadDecodeFailed => "payload_decode_failed"
  | .payloadMissingProvenance => "payload_missing_provenance"
  | .payloadInvalidProvenanceField => "payload_invalid_provenance_field"
  | .lineageInvalidRoot => "lineage_invalid_root"
  | .lineageParentSelf => "lineage_parent_self"
  | .lineageParentMismatch => "lineage_parent_mismatch"
  | .faultDropRecvConflict => "fault_drop_recv_conflict"
  | .timerWithoutImmediateEmit => "timer_without_immediate_emit"
  | .timerEmitActorMismatch => "timer_emit_actor_mismatch"
  | .timerWithoutEmitEndOfTrace => "timer_without_emit_end_of_trace"
  | .unknownActorReference => "unknown_actor_reference"
  | .clusterSendMissingInboundEvidence => "cluster_send_missing_inbound_evidence"
  | .clusterMissingSend => "cluster_missing_send"
  | .clusterPayloadMismatch => "cluster_payload_mismatch"
  | .clusterConflictingRecvAndDrop => "cluster_conflicting_recv_and_drop"
  | .clusterMissingLineageParent => "cluster_missing_lineage_parent"
  | .clusterDuplicateNetworkKey => "cluster_duplicate_network_key"
  | .clusterDuplicateLineageKey => "cluster_duplicate_lineage_key"
  | .lineageInvalidParentReference => "lineage_invalid_parent_reference"
  | .clusterTraceMixedNodes => "cluster_trace_mixed_nodes"
  | .clusterTraceMissingNodeScope => "cluster_trace_missing_node_scope"
  | .unknown => "unknown"

/-! ## The checks -/

/-- The kind of an event and the role of the actor it names. -/
inductive Naming where
  | sendFrom
  | sendTo
  | netRecvTo
  | deliverTo
  | netSendFrom
  | logFrom
  | effectFrom
  deriving DecidableEq, Repr

/-- The provenance fields that are read as UUIDs. -/
inductive UuidField where
  | originMsgId
  | parentNode
  | parentMsgId
  | fromNode
  deriving DecidableEq, Repr

/-- The provenance fields that are compared as texts. -/
inductive TextField where
  | originMsgId
  | originNode
  | originService
  deriving DecidableEq, Repr

inductive Evidence where
  | netSend
  | netRecv
  | drop
  deriving DecidableEq, Repr

inductive Invariant where
  | seqNext
  | seedSame
  | effectGap
  | timerActor
  | timerGap
  | spawnOnce
  | spawnSame
  | known (naming : Naming)
  | notDropped
  | sourced
  | fieldValid (field : UuidField)
  | payloadDecodes
  | hasProvenance
  | rootOrigin
  | rootParentMsg
  | rootParentNode
  | rootOriginNode
  | rootOriginService
  | parentNotSelf
  | parentHops
  | parentOrigin
  | parentOriginNode
  | parentOriginService
  | effectMatches
  | effectAfterDeliver
  | declaredOnce
  | observedOnce
  | observedDeclared
  | timerEnd
  | deliverEnd
  | traceHasNode
  | traceOneNode
  | keyOnce (evidence : Evidence)
  | recvSent
  | dropSent
  | samePayload
  | recvOrDrop
  | sendSeen
  | lineageOnce
  | parentReadable
  | globalHops
  | globalOrigin (field : TextField)
  | parentInCluster
  deriving DecidableEq, Repr

/-- The kind of the event. -/
def Naming.what : Naming → String
  | .sendFrom => "Send"
  | .sendTo => "Send"
  | .netRecvTo => "NetRecv"
  | .deliverTo => "Deliver"
  | .netSendFrom => "NetSend"
  | .logFrom => "Log"
  | .effectFrom => "EffectObserved"

def Naming.role : Naming → String
  | .sendFrom => "from"
  | .sendTo => "to"
  | .netRecvTo => "to"
  | .deliverTo => "to"
  | .netSendFrom => "from"
  | .logFrom => "from"
  | .effectFrom => "from"

def UuidField.name : UuidField → String
  | .originMsgId => "origin_msg_id"
  | .parentNode => "parent_node"
  | .parentMsgId => "parent_msg_id"
  | .fromNode => "from_node"

def TextField.name : TextField → String
  | .originMsgId => "origin_msg_id"
  | .originNode => "origin_node"
  | .originService => "origin_service"

def Evidence.name : Evidence → String
  | .netSend => "NetSend"
  | .netRecv => "NetRecv"
  | .drop => "Drop fault"

/-! ## The formats -/

/-- The start of a message about a delivered payload. -/
def delivered (rest : Format) : Format :=
  lit "Deliver at seq " <| number <| lit " msg_id=" <| uuid rest

/-- A path and a sequence number. -/
def place (rest : Format) : Format :=
  text <| lit ":" <| number rest

def clusterKey (rest : Format) : Format :=
  uuid <| lit "/" <| uuid <| lit "/" <| uuid rest

def lineageKey (rest : Format) : Format :=
  uuid <| lit "/" <| uuid rest

def lineageRecordAt (rest : Format) : Format :=
  lit "lineage record " <| lineageKey <| lit " at " <| place <| lit " " rest

def timerFiredAt (rest : Format) : Format :=
  lit "TimerFired at seq " <| number <| lit " (timer_id=" <| uuid rest

namespace Invariant

/-- The format string of the message. -/
def format : Invariant → Format
  | .seqNext => lit "seq mismatch: expected " <| number <| lit ", got " <| number []
  | .seedSame =>
      lit "seed mismatch at seq " <| number <| lit ": expected " <| number <| lit ", got " <|
        number []
  | .effectGap =>
      lit "Deliver at seq " <| number <| lit " not followed by EffectObserved; saw " <| text <|
        lit " at seq " <| number []
  | .timerActor =>
      timerFiredAt <| lit ")" <| lit " expected next send from actor " <| uuid <| lit ", " <|
        lit "got actor " <| uuid <| lit " at seq " <| number []
  | .timerGap =>
      timerFiredAt <| lit ")" <| lit " not followed by Send/NetSend; saw " <| text <|
        lit " at seq " <| number []
  | .spawnOnce =>
      lit "duplicate Spawn at seq " <| number <| lit " for actor " <| uuid <|
        lit " and service `" <| text <| lit "`" []
  | .spawnSame =>
      lit "conflicting Spawn at seq " <| number <| lit " for actor " <| uuid <| lit ": `" <|
        text <| lit "` vs `" <| text <| lit "`" []
  | .known naming =>
      word naming.what <| lit " at seq " <| number <| lit " " <| word naming.role <|
        lit " unknown actor " <| uuid []
  | .notDropped =>
      lit "message dropped earlier but later NetRecv observed at seq " <| number <| lit " for " <|
        lit "from_node=" <| uuid <| lit ", to=" <| uuid <| lit ", " <| lit "msg_id=" <| uuid []
  | .sourced =>
      lit "Deliver at seq " <| number <| lit " without prior Send/NetRecv for " <| lit "to=" <|
        uuid <| lit ", msg_id=" <| uuid []
  | .fieldValid field =>
      lit "Deliver at seq " <| number <| lit " has invalid provenance field " <| word field.name <|
        lit "=`" <| text <| lit "`" []
  | .payloadDecodes => delivered <| lit " payload decode failed: " <| text []
  | .hasProvenance => delivered <| lit " payload missing provenance" []
  | .rootOrigin => delivered <| lit " has hops=0 but " <| lit "origin_msg_id=" <| uuid []
  | .rootParentMsg => delivered <| lit " has hops=0 but " <| lit "parent_msg_id=" <| uuid []
  | .rootParentNode =>
      delivered <| lit " has hops=0 but " <| lit "parent_node=" <| uuid <| lit " " <|
        lit "!= from_node=" <| uuid []
  | .rootOriginNode =>
      delivered <| lit " has hops=0 but " <| lit "origin_node=" <| text <|
        lit " != from_node=" <| text []
  | .rootOriginService =>
      delivered <| lit " has hops=0 but " <| lit "origin_service=" <| text <| lit " " <|
        lit "!= from_service=" <| text []
  | .parentNotSelf => delivered <| lit " has hops>0 but " <| lit "parent_msg_id is self" []
  | .parentHops =>
      delivered <| lit " " <| lit "has hops=" <| positive <| lit " but parent " <| lineageKey <|
        lit " has hops=" <| number []
  | .parentOrigin =>
      delivered <| lit " " <| lit "origin_msg_id=" <| uuid <| lit " does not match parent " <|
        lineageKey <| lit " origin " <| uuid []
  | .parentOriginNode =>
      delivered <| lit " " <| lit "origin_node=" <| text <| lit " does not match parent " <|
        lineageKey <| lit " " <| lit "origin_node=" <| text []
  | .parentOriginService =>
      delivered <| lit " " <| lit "origin_service=" <| text <| lit " does not match parent " <|
        lineageKey <| lit " " <| lit "origin_service=" <| text []
  | .effectMatches =>
      lit "EffectObserved at seq " <| number <| lit " does not match preceding Deliver at seq " <|
        number <| lit " (deliver node=" <| uuid <| lit ", " <| lit "to=" <| uuid <| lit ", " <|
        lit "msg_id=" <| uuid <| lit "; effect " <| lit "node=" <| uuid <| lit ", actor=" <| uuid <|
        lit ", " <| lit "msg_id=" <| uuid <| lit ")" []
  | .effectAfterDeliver =>
      lit "EffectObserved at seq " <| number <| lit " without preceding Deliver" []
  | .declaredOnce =>
      lit "EffectObserved at seq " <| number <| lit " has duplicate declared effects" []
  | .observedOnce =>
      lit "EffectObserved at seq " <| number <| lit " has duplicate observed effects" []
  | .observedDeclared =>
      lit "EffectObserved at seq " <| number <| lit " reports undeclared observed effects " <|
        lit "[" <| effects <| lit "] not in declared [" <| effects <| lit "]" []
  | .timerEnd => timerFiredAt <| lit ") reached end-of-trace without Send/NetSend" []
  | .deliverEnd =>
      lit "Deliver at seq " <| number <| lit " reached end-of-trace without EffectObserved" []
  | .traceHasNode => lit "trace `" <| text <| lit "` has no node-scoped events" []
  | .traceOneNode =>
      lit "trace `" <| text <| lit "` mixes multiple node ids: " <| lit "\x7b" <| nodeList <|
        lit "\x7d" []
  | .keyOnce evidence =>
      lit "duplicate " <| word evidence.name <| lit " key " <| clusterKey <| lit " at " <| place <|
        lit " and " <| place []
  | .recvSent =>
      lit "NetRecv " <| clusterKey <| lit " at " <| place <| lit " " <|
        lit "has no matching NetSend in provided traces" []
  | .dropSent =>
      lit "Drop fault " <| clusterKey <| lit " at " <| place <| lit " " <|
        lit "has no matching NetSend in provided traces" []
  | .samePayload =>
      lit "payload mismatch for " <| clusterKey <| lit ": NetSend at " <| place <|
        lit " differs from NetRecv at " <| place []
  | .recvOrDrop =>
      lit "message " <| clusterKey <| lit " has both NetRecv and Drop fault evidence" []
  | .sendSeen =>
      lit "NetSend " <| clusterKey <| lit " has no matching NetRecv or Drop fault " <|
        lit "in provided traces" []
  | .lineageOnce =>
      lit "duplicate delivered lineage key " <| lineageKey <| lit " at " <| place <| lit " and " <|
        place []
  | .parentReadable => lineageRecordAt <| lit "has invalid parent reference: " <| text []
  | .globalHops =>
      lineageRecordAt <| lit "has hops=" <| positive <| lit " but parent " <| lineageKey <|
        lit " at " <| place <| lit " has hops=" <| number []
  | .globalOrigin field =>
      lineageRecordAt <| word field.name <| lit "=" <| text <| lit " does not match parent " <|
        lineageKey <| lit " " <| word field.name <| lit "=" <| text []
  | .parentInCluster =>
      lineageRecordAt <| lit "references missing in-cluster parent " <| lineageKey []

/-- The code of a check; there is none for the checks of spawned actors. -/
def code : Invariant → Option ProblemCode
  | .seqNext => some .traceSeqMismatch
  | .seedSame => some .traceSeedMismatch
  | .effectGap => some .deliverWithoutEffectObserved
  | .timerActor => some .timerEmitActorMismatch
  | .timerGap => some .timerWithoutImmediateEmit
  | .spawnOnce => none
  | .spawnSame => none
  | .known _ => some .unknownActorReference
  | .notDropped => some .faultDropRecvConflict
  | .sourced => some .deliverWithoutSource
  | .fieldValid _ => some .payloadInvalidProvenanceField
  | .payloadDecodes => some .payloadDecodeFailed
  | .hasProvenance => some .payloadMissingProvenance
  | .rootOrigin => some .lineageInvalidRoot
  | .rootParentMsg => some .lineageInvalidRoot
  | .rootParentNode => some .lineageInvalidRoot
  | .rootOriginNode => some .lineageInvalidRoot
  | .rootOriginService => some .lineageInvalidRoot
  | .parentNotSelf => some .lineageParentSelf
  | .parentHops => some .lineageParentMismatch
  | .parentOrigin => some .lineageParentMismatch
  | .parentOriginNode => some .lineageParentMismatch
  | .parentOriginService => some .lineageParentMismatch
  | .effectMatches => some .effectDeliverMismatch
  | .effectAfterDeliver => some .effectWithoutDeliver
  | .declaredOnce => some .effectDeclaredDuplicate
  | .observedOnce => some .effectObservedDuplicate
  | .observedDeclared => some .effectUndeclaredObserved
  | .timerEnd => some .timerWithoutEmitEndOfTrace
  | .deliverEnd => some .deliverWithoutEffectObserved
  | .traceHasNode => some .clusterTraceMissingNodeScope
  | .traceOneNode => some .clusterTraceMixedNodes
  | .keyOnce _ => some .clusterDuplicateNetworkKey
  | .recvSent => some .clusterMissingSend
  | .dropSent => some .clusterMissingSend
  | .samePayload => some .clusterPayloadMismatch
  | .recvOrDrop => some .clusterConflictingRecvAndDrop
  | .sendSeen => some .clusterSendMissingInboundEvidence
  | .lineageOnce => some .clusterDuplicateLineageKey
  | .parentReadable => some .lineageInvalidParentReference
  | .globalHops => some .lineageParentMismatch
  | .globalOrigin _ => some .lineageParentMismatch
  | .parentInCluster => some .clusterMissingLineageParent

end Invariant

end UcoStack.Tool
