import UcoStack.Runtime.Event

/-!
# Runtime messages and the libraries behind them

Message payloads are JSON values built and read by a serialization library, and
identifiers have a text form given by a UUID library.  Neither library is part
of the repository: `Host` collects the calls, `Host.Lawful` their documented
behaviour.
-/

namespace UcoStack.Runtime

structure Provenance where
  originNode : String
  originService : String
  originMsgId : String
  parentNode : String
  parentMsgId : String
  hops : Nat
  deriving DecidableEq, Repr

structure RuntimeMessage where
  msgType : String
  fromNode : String
  fromService : String
  text : String
  provenance : Option Provenance
  deriving DecidableEq, Repr

/-- The hop count of a message is a `u64`. -/
def RuntimeMessage.Representable (msg : RuntimeMessage) : Prop :=
  ∀ prov, msg.provenance = some prov → prov.hops ≤ u64Max

/-- The library calls of the runtime: text form, parsing and name-based (v5,
object-identifier namespace) construction of UUIDs, and the two directions of
JSON conversion of a runtime message. -/
structure Host (V : Type) where
  uuidToString : Uuid → String
  uuidParse : String → Option Uuid
  uuidV5 : String → Uuid
  toValue : RuntimeMessage → V
  fromValue : V → Option RuntimeMessage

/-- Text forms parse back, and so do serialized messages; the empty text is no
identifier. -/
structure Host.Lawful {V : Type} (host : Host V) : Prop where
  parse_toString : ∀ id, host.uuidParse (host.uuidToString id) = some id
  parse_empty : host.uuidParse "" = none
  fromValue_toValue : ∀ msg : RuntimeMessage,
    msg.Representable → host.fromValue (host.toValue msg) = some msg

theorem Host.Lawful.toString_injective {V : Type} {host : Host V} (lawful : host.Lawful)
    {first second : Uuid} (same : host.uuidToString first = host.uuidToString second) :
    first = second := by
  have parsed := congrArg host.uuidParse same
  rw [lawful.parse_toString, lawful.parse_toString] at parsed
  exact Option.some.inj parsed

theorem Host.Lawful.toString_nonempty {V : Type} {host : Host V} (lawful : host.Lawful)
    (id : Uuid) : (host.uuidToString id).isEmpty = false := by
  rw [Bool.eq_false_iff]
  intro empty
  have parsed := lawful.parse_toString id
  rw [String.isEmpty_iff.mp empty, lawful.parse_empty] at parsed
  cases parsed

section Messages

variable {V : Type} (host : Host V)

def encodeMsg (msg : RuntimeMessage) : V := host.toValue msg

def decodeMsg (payload : V) : Option RuntimeMessage := host.fromValue payload

def actorIdForService (service : String) : Uuid := host.uuidV5 service

def systemActorId : Uuid := actorIdForService host "System"

def nextOutboundProvenance (incoming : RuntimeMessage) (incomingMsgId : Uuid) : Provenance :=
  match incoming.provenance with
  | some prev =>
      { originNode := prev.originNode
        originService := prev.originService
        originMsgId := prev.originMsgId
        parentNode := incoming.fromNode
        parentMsgId := host.uuidToString incomingMsgId
        hops := saturatingAdd prev.hops 1 }
  | none =>
      { originNode := incoming.fromNode
        originService := incoming.fromService
        originMsgId := host.uuidToString incomingMsgId
        parentNode := incoming.fromNode
        parentMsgId := host.uuidToString incomingMsgId
        hops := 1 }

def buildOutboundMessage (msgType text : String) (selfNode : Uuid) (service : String)
    (incoming : RuntimeMessage) (incomingMsgId : Uuid) : RuntimeMessage :=
  { msgType := msgType
    fromNode := host.uuidToString selfNode
    fromService := service
    text := text
    provenance := some (nextOutboundProvenance host incoming incomingMsgId) }

theorem nextOutboundProvenance_hops_le (incoming : RuntimeMessage) (incomingMsgId : Uuid) :
    (nextOutboundProvenance host incoming incomingMsgId).hops ≤ u64Max := by
  unfold nextOutboundProvenance
  split
  · exact saturatingAdd_le _ _
  · exact (by decide : 1 ≤ u64Max)

theorem buildOutboundMessage_representable (msgType text : String) (selfNode : Uuid)
    (service : String) (incoming : RuntimeMessage) (incomingMsgId : Uuid) :
    (buildOutboundMessage host msgType text selfNode service incoming
      incomingMsgId).Representable := by
  intro prov same
  cases same
  exact nextOutboundProvenance_hops_le host incoming incomingMsgId

end Messages

end UcoStack.Runtime
