import UcoStack.Tool.Cluster
import UcoStack.Tool.Invariants

/-!
# Violations

A `Violation` is a failed check with the values that its message quotes.  The message
is the format of the check filled with texts of the classes of its slots.
-/

namespace UcoStack.Tool

open UcoStack.Runtime
open Format

/-! ## Failed checks -/

/-- Path, sequence number. -/
abbrev TracePlace := String × Nat

/-- A failed check with the values in its message. -/
inductive Violation where
  | seqNext (expected got : Nat)
  | seedSame (seq expected got : Nat)
  | effectGap (seq : Nat) (seen : String) (seenSeq : Nat)
  | timerActor (seq : Nat) (timerId : Uuid) (expected got : ActorId) (seenSeq : Nat)
  | timerGap (seq : Nat) (timerId : Uuid) (seen : String) (seenSeq : Nat)
  | spawnOnce (seq : Nat) (actor : ActorId) (service : String)
  | spawnSame (seq : Nat) (actor : ActorId) (prev service : String)
  | known (naming : Naming) (seq : Nat) (actor : ActorId)
  | notDropped (seq : Nat) (fromNode : NodeId) (receiver : ActorId) (msgId : MsgId)
  | sourced (seq : Nat) (receiver : ActorId) (msgId : MsgId)
  | fieldValid (seq : Nat) (field : UuidField) (raw : String)
  | payloadDecodes (seq : Nat) (msgId : MsgId) (err : String)
  | hasProvenance (seq : Nat) (msgId : MsgId)
  | rootOrigin (seq : Nat) (msgId originMsgId : MsgId)
  | rootParentMsg (seq : Nat) (msgId parentMsgId : MsgId)
  | rootParentNode (seq : Nat) (msgId : MsgId) (parentNode fromNode : Uuid)
  | rootOriginNode (seq : Nat) (msgId : MsgId) (originNode fromNode : String)
  | rootOriginService (seq : Nat) (msgId : MsgId) (originService fromService : String)
  | parentNotSelf (seq : Nat) (msgId : MsgId)
  | parentHops (seq : Nat) (msgId : MsgId) (hops : Nat) (later : hops ≠ 0) (parent : LineageKey)
      (previous : Nat)
  | parentOrigin (seq : Nat) (msgId originMsgId : MsgId) (parent : LineageKey)
      (previous : MsgId)
  | parentOriginNode (seq : Nat) (msgId : MsgId) (originNode : String) (parent : LineageKey)
      (previous : String)
  | parentOriginService (seq : Nat) (msgId : MsgId) (originService : String)
      (parent : LineageKey) (previous : String)
  | effectMatches (seq : Nat) (pending : PendingEffect) (node : NodeId) (actor : ActorId)
      (msgId : MsgId)
  | effectAfterDeliver (seq : Nat)
  | declaredOnce (seq : Nat)
  | observedOnce (seq : Nat)
  | observedDeclared (seq : Nat) (unexpected declared : Finset EffectKind)
  | timerEnd (seq : Nat) (timerId : Uuid)
  | deliverEnd (seq : Nat)
  | traceHasNode (path : String)
  | traceOneNode (path : String) (nodes : List NodeId)
  | keyOnce (evidence : Evidence) (key : ClusterKey) (first second : TracePlace)
  | recvSent (key : ClusterKey) (recv : TracePlace)
  | dropSent (key : ClusterKey) (drop : TracePlace)
  | samePayload (key : ClusterKey) (send recv : TracePlace)
  | recvOrDrop (key : ClusterKey)
  | sendSeen (key : ClusterKey)
  | lineageOnce (key : LineageKey) (first second : TracePlace)
  | parentReadable (key : LineageKey) (item : TracePlace) (err : String)
  | globalHops (key : LineageKey) (item : TracePlace) (hops : Nat) (later : hops ≠ 0)
      (parent : LineageKey) (parentItem : TracePlace) (previous : Nat)
  | globalOrigin (key : LineageKey) (item : TracePlace) (field : TextField) (own : String)
      (parent : LineageKey) (previous : String)
  | parentInCluster (key : LineageKey) (item : TracePlace) (parent : LineageKey)

namespace Violation

/-- The check that failed. -/
def invariant : Violation → Invariant
  | .seqNext .. => .seqNext
  | .seedSame .. => .seedSame
  | .effectGap .. => .effectGap
  | .timerActor .. => .timerActor
  | .timerGap .. => .timerGap
  | .spawnOnce .. => .spawnOnce
  | .spawnSame .. => .spawnSame
  | .known naming _ _ => .known naming
  | .notDropped .. => .notDropped
  | .sourced .. => .sourced
  | .fieldValid _ field _ => .fieldValid field
  | .payloadDecodes .. => .payloadDecodes
  | .hasProvenance .. => .hasProvenance
  | .rootOrigin .. => .rootOrigin
  | .rootParentMsg .. => .rootParentMsg
  | .rootParentNode .. => .rootParentNode
  | .rootOriginNode .. => .rootOriginNode
  | .rootOriginService .. => .rootOriginService
  | .parentNotSelf .. => .parentNotSelf
  | .parentHops .. => .parentHops
  | .parentOrigin .. => .parentOrigin
  | .parentOriginNode .. => .parentOriginNode
  | .parentOriginService .. => .parentOriginService
  | .effectMatches .. => .effectMatches
  | .effectAfterDeliver .. => .effectAfterDeliver
  | .declaredOnce .. => .declaredOnce
  | .observedOnce .. => .observedOnce
  | .observedDeclared .. => .observedDeclared
  | .timerEnd .. => .timerEnd
  | .deliverEnd .. => .deliverEnd
  | .traceHasNode .. => .traceHasNode
  | .traceOneNode .. => .traceOneNode
  | .keyOnce evidence _ _ _ => .keyOnce evidence
  | .recvSent .. => .recvSent
  | .dropSent .. => .dropSent
  | .samePayload .. => .samePayload
  | .recvOrDrop .. => .recvOrDrop
  | .sendSeen .. => .sendSeen
  | .lineageOnce .. => .lineageOnce
  | .parentReadable .. => .parentReadable
  | .globalHops .. => .globalHops
  | .globalOrigin _ _ field _ _ _ => .globalOrigin field
  | .parentInCluster .. => .parentInCluster

section Message

variable {V : Type} (tool : ToolHost V)

def keyTexts (key : ClusterKey) : List String :=
  [tool.uuidToString key.1, tool.uuidToString key.2.1, tool.uuidToString key.2.2]

def lineageTexts (key : LineageKey) : List String :=
  [tool.uuidToString key.1, tool.uuidToString key.2]

def placeTexts (place : TracePlace) : List String := [place.1, toString place.2]

/-- The texts that fill the format of the message. -/
def texts : Violation → List String
  | .seqNext expected got => [toString expected, toString got]
  | .seedSame seq expected got => [toString seq, toString expected, toString got]
  | .effectGap seq seen seenSeq => [toString seq, seen, toString seenSeq]
  | .timerActor seq timerId expected got seenSeq =>
      [toString seq, tool.uuidToString timerId, tool.uuidToString expected, tool.uuidToString got,
        toString seenSeq]
  | .timerGap seq timerId seen seenSeq =>
      [toString seq, tool.uuidToString timerId, seen, toString seenSeq]
  | .spawnOnce seq actor service => [toString seq, tool.uuidToString actor, service]
  | .spawnSame seq actor prev service => [toString seq, tool.uuidToString actor, prev, service]
  | .known _ seq actor => [toString seq, tool.uuidToString actor]
  | .notDropped seq fromNode receiver msgId =>
      [toString seq, tool.uuidToString fromNode, tool.uuidToString receiver,
        tool.uuidToString msgId]
  | .sourced seq receiver msgId =>
      [toString seq, tool.uuidToString receiver, tool.uuidToString msgId]
  | .fieldValid seq _ raw => [toString seq, raw]
  | .payloadDecodes seq msgId err => [toString seq, tool.uuidToString msgId, err]
  | .hasProvenance seq msgId => [toString seq, tool.uuidToString msgId]
  | .rootOrigin seq msgId originMsgId =>
      [toString seq, tool.uuidToString msgId, tool.uuidToString originMsgId]
  | .rootParentMsg seq msgId parentMsgId =>
      [toString seq, tool.uuidToString msgId, tool.uuidToString parentMsgId]
  | .rootParentNode seq msgId parentNode fromNode =>
      [toString seq, tool.uuidToString msgId, tool.uuidToString parentNode,
        tool.uuidToString fromNode]
  | .rootOriginNode seq msgId originNode fromNode =>
      [toString seq, tool.uuidToString msgId, originNode, fromNode]
  | .rootOriginService seq msgId originService fromService =>
      [toString seq, tool.uuidToString msgId, originService, fromService]
  | .parentNotSelf seq msgId => [toString seq, tool.uuidToString msgId]
  | .parentHops seq msgId hops _ parent previous =>
      [toString seq, tool.uuidToString msgId, toString hops] ++ lineageTexts tool parent ++
        [toString previous]
  | .parentOrigin seq msgId originMsgId parent previous =>
      [toString seq, tool.uuidToString msgId, tool.uuidToString originMsgId] ++
        lineageTexts tool parent ++ [tool.uuidToString previous]
  | .parentOriginNode seq msgId originNode parent previous =>
      [toString seq, tool.uuidToString msgId, originNode] ++ lineageTexts tool parent ++
        [previous]
  | .parentOriginService seq msgId originService parent previous =>
      [toString seq, tool.uuidToString msgId, originService] ++ lineageTexts tool parent ++
        [previous]
  | .effectMatches seq pending node actor msgId =>
      [toString seq, toString pending.seq, tool.uuidToString pending.node,
        tool.uuidToString pending.receiver, tool.uuidToString pending.msgId,
        tool.uuidToString node, tool.uuidToString actor, tool.uuidToString msgId]
  | .effectAfterDeliver seq => [toString seq]
  | .declaredOnce seq => [toString seq]
  | .observedOnce seq => [toString seq]
  | .observedDeclared seq unexpected declared =>
      [toString seq, formatEffects unexpected, formatEffects declared]
  | .timerEnd seq timerId => [toString seq, tool.uuidToString timerId]
  | .deliverEnd seq => [toString seq]
  | .traceHasNode path => [path]
  | .traceOneNode path nodes =>
      [path, String.intercalate ", " (nodes.map tool.uuidToString)]
  | .keyOnce _ key first second => keyTexts tool key ++ placeTexts first ++ placeTexts second
  | .recvSent key recv => keyTexts tool key ++ placeTexts recv
  | .dropSent key drop => keyTexts tool key ++ placeTexts drop
  | .samePayload key send recv => keyTexts tool key ++ placeTexts send ++ placeTexts recv
  | .recvOrDrop key => keyTexts tool key
  | .sendSeen key => keyTexts tool key
  | .lineageOnce key first second => lineageTexts tool key ++ placeTexts first ++ placeTexts second
  | .parentReadable key item err => lineageTexts tool key ++ placeTexts item ++ [err]
  | .globalHops key item hops _ parent parentItem previous =>
      lineageTexts tool key ++ placeTexts item ++ [toString hops] ++ lineageTexts tool parent ++
        placeTexts parentItem ++ [toString previous]
  | .globalOrigin key item _ own parent previous =>
      lineageTexts tool key ++ placeTexts item ++ [own] ++ lineageTexts tool parent ++ [previous]
  | .parentInCluster key item parent =>
      lineageTexts tool key ++ placeTexts item ++ lineageTexts tool parent

def slotTexts (violation : Violation) : List (List Char) :=
  (violation.texts tool).map String.toList

def delivery (seq : Nat) (msgId : MsgId) : String :=
  s!"Deliver at seq {seq} msg_id={tool.uuidToString msgId} "

def rootDelivery (seq : Nat) (msgId : MsgId) : String :=
  s!"Deliver at seq {seq} msg_id={tool.uuidToString msgId} has hops=0 but "

def firedTimer (seq : Nat) (timerId : Uuid) : String :=
  s!"TimerFired at seq {seq} (timer_id=" ++ s!"{tool.uuidToString timerId})"

def lineageRecord (key : LineageKey) (item : TracePlace) : String :=
  s!"lineage record {lineageText tool key} at {item.1}:{item.2} "

/-- The problem that is reported. -/
def message : Violation → String
  | .seqNext expected got => s!"seq mismatch: expected {expected}, got {got}"
  | .seedSame seq expected got => s!"seed mismatch at seq {seq}: expected {expected}, got {got}"
  | .effectGap seq seen seenSeq =>
      s!"Deliver at seq {seq} not followed by EffectObserved; saw " ++ s!"{seen} at seq {seenSeq}"
  | .timerActor seq timerId expected got seenSeq =>
      firedTimer tool seq timerId ++
        s!" expected next send from actor {tool.uuidToString expected}, " ++
        s!"got actor {tool.uuidToString got} at seq {seenSeq}"
  | .timerGap seq timerId seen seenSeq =>
      firedTimer tool seq timerId ++ s!" not followed by Send/NetSend; saw " ++
        s!"{seen} at seq {seenSeq}"
  | .spawnOnce seq actor service =>
      s!"duplicate Spawn at seq {seq} for actor {tool.uuidToString actor} and service `{service}`"
  | .spawnSame seq actor prev service =>
      s!"conflicting Spawn at seq {seq} for actor {tool.uuidToString actor}: `{prev}` vs `{service}`"
  | .known naming seq actor =>
      s!"{naming.what} at seq {seq} {naming.role} unknown actor {tool.uuidToString actor}"
  | .notDropped seq fromNode receiver msgId =>
      s!"message dropped earlier but later NetRecv observed at seq {seq} for " ++
        s!"from_node={tool.uuidToString fromNode}, to={tool.uuidToString receiver}, " ++
        s!"msg_id={tool.uuidToString msgId}"
  | .sourced seq receiver msgId =>
      s!"Deliver at seq {seq} without prior Send/NetRecv for " ++
        s!"to={tool.uuidToString receiver}, msg_id={tool.uuidToString msgId}"
  | .fieldValid seq field raw =>
      s!"Deliver at seq {seq} has invalid provenance field {field.name}=`{raw}`"
  | .payloadDecodes seq msgId err =>
      s!"Deliver at seq {seq} msg_id={tool.uuidToString msgId} payload decode failed: {err}"
  | .hasProvenance seq msgId =>
      s!"Deliver at seq {seq} msg_id={tool.uuidToString msgId} payload missing provenance"
  | .rootOrigin seq msgId originMsgId =>
      rootDelivery tool seq msgId ++ s!"origin_msg_id={tool.uuidToString originMsgId}"
  | .rootParentMsg seq msgId parentMsgId =>
      rootDelivery tool seq msgId ++ s!"parent_msg_id={tool.uuidToString parentMsgId}"
  | .rootParentNode seq msgId parentNode fromNode =>
      rootDelivery tool seq msgId ++ s!"parent_node={tool.uuidToString parentNode} " ++
        s!"!= from_node={tool.uuidToString fromNode}"
  | .rootOriginNode seq msgId originNode fromNode =>
      rootDelivery tool seq msgId ++ s!"origin_node={originNode} != from_node={fromNode}"
  | .rootOriginService seq msgId originService fromService =>
      rootDelivery tool seq msgId ++ s!"origin_service={originService} " ++
        s!"!= from_service={fromService}"
  | .parentNotSelf seq msgId =>
      s!"Deliver at seq {seq} msg_id={tool.uuidToString msgId} has hops>0 but " ++
        "parent_msg_id is self"
  | .parentHops seq msgId hops _ parent previous =>
      delivery tool seq msgId ++
        s!"has hops={hops} but parent {lineageText tool parent} has hops={previous}"
  | .parentOrigin seq msgId originMsgId parent previous =>
      delivery tool seq msgId ++
        s!"origin_msg_id={tool.uuidToString originMsgId} does not match parent " ++
        s!"{lineageText tool parent} origin {tool.uuidToString previous}"
  | .parentOriginNode seq msgId originNode parent previous =>
      delivery tool seq msgId ++
        s!"origin_node={originNode} does not match parent {lineageText tool parent} " ++
        s!"origin_node={previous}"
  | .parentOriginService seq msgId originService parent previous =>
      delivery tool seq msgId ++
        s!"origin_service={originService} does not match parent {lineageText tool parent} " ++
        s!"origin_service={previous}"
  | .effectMatches seq pending node actor msgId =>
      s!"EffectObserved at seq {seq} does not match preceding Deliver at seq " ++
        s!"{pending.seq} (deliver node={tool.uuidToString pending.node}, " ++
        s!"to={tool.uuidToString pending.receiver}, " ++
        s!"msg_id={tool.uuidToString pending.msgId}; effect " ++
        s!"node={tool.uuidToString node}, actor={tool.uuidToString actor}, " ++
        s!"msg_id={tool.uuidToString msgId})"
  | .effectAfterDeliver seq => s!"EffectObserved at seq {seq} without preceding Deliver"
  | .declaredOnce seq => s!"EffectObserved at seq {seq} has duplicate declared effects"
  | .observedOnce seq => s!"EffectObserved at seq {seq} has duplicate observed effects"
  | .observedDeclared seq unexpected declared =>
      s!"EffectObserved at seq {seq} reports undeclared observed effects " ++
        s!"[{formatEffects unexpected}] not in declared [{formatEffects declared}]"
  | .timerEnd seq timerId =>
      s!"TimerFired at seq {seq} (timer_id=" ++
        s!"{tool.uuidToString timerId}) reached end-of-trace without Send/NetSend"
  | .deliverEnd seq => s!"Deliver at seq {seq} reached end-of-trace without EffectObserved"
  | .traceHasNode path => s!"trace `{path}` has no node-scoped events"
  | .traceOneNode path nodes =>
      s!"trace `{path}` mixes multiple node ids: " ++ "\x7b" ++
        String.intercalate ", " (nodes.map tool.uuidToString) ++ "\x7d"
  | .keyOnce evidence key first second =>
      s!"duplicate {evidence.name} key {keyText tool key} at " ++
        s!"{first.1}:{first.2} and {second.1}:{second.2}"
  | .recvSent key recv =>
      s!"NetRecv {keyText tool key} at {recv.1}:{recv.2} " ++
        "has no matching NetSend in provided traces"
  | .dropSent key drop =>
      s!"Drop fault {keyText tool key} at {drop.1}:{drop.2} " ++
        "has no matching NetSend in provided traces"
  | .samePayload key send recv =>
      s!"payload mismatch for {keyText tool key}: NetSend at " ++
        s!"{send.1}:{send.2} differs from NetRecv at {recv.1}:{recv.2}"
  | .recvOrDrop key => s!"message {keyText tool key} has both NetRecv and Drop fault evidence"
  | .sendSeen key =>
      s!"NetSend {keyText tool key} has no matching NetRecv or Drop fault " ++
        "in provided traces"
  | .lineageOnce key first second =>
      s!"duplicate delivered lineage key {lineageText tool key} at " ++
        s!"{first.1}:{first.2} and {second.1}:{second.2}"
  | .parentReadable key item err =>
      lineageRecord tool key item ++ s!"has invalid parent reference: {err}"
  | .globalHops key item hops _ parent parentItem previous =>
      lineageRecord tool key item ++
        s!"has hops={hops} but parent {lineageText tool parent} at " ++
        s!"{parentItem.1}:{parentItem.2} has hops={previous}"
  | .globalOrigin key item field own parent previous =>
      lineageRecord tool key item ++
        s!"{field.name}={own} does not match parent {lineageText tool parent} " ++
        s!"{field.name}={previous}"
  | .parentInCluster key item parent =>
      lineageRecord tool key item ++ "references missing in-cluster parent " ++
        lineageText tool parent

end Message

/-- The texts of events and the paths that the message quotes. -/
def quotes : Violation → List String
  | .effectGap _ seen _ => [seen]
  | .timerGap _ _ seen _ => [seen]
  | .spawnOnce _ _ service => [service]
  | .spawnSame _ _ prev service => [prev, service]
  | .fieldValid _ _ raw => [raw]
  | .payloadDecodes _ _ err => [err]
  | .rootOriginNode _ _ originNode fromNode => [originNode, fromNode]
  | .rootOriginService _ _ originService fromService => [originService, fromService]
  | .parentOriginNode _ _ originNode _ previous => [originNode, previous]
  | .parentOriginService _ _ originService _ previous => [originService, previous]
  | .traceHasNode path => [path]
  | .traceOneNode path _ => [path]
  | .keyOnce _ _ first second => [first.1, second.1]
  | .recvSent _ recv => [recv.1]
  | .dropSent _ drop => [drop.1]
  | .samePayload _ send recv => [send.1, recv.1]
  | .lineageOnce _ first second => [first.1, second.1]
  | .parentReadable _ item err => [item.1, err]
  | .globalHops _ item _ _ _ parentItem _ => [item.1, parentItem.1]
  | .globalOrigin _ item _ own _ previous => [item.1, own, previous]
  | .parentInCluster _ item _ => [item.1]
  | _ => []

end Violation

/-! ## The texts fit the formats -/

/-- Identifiers are printed as hexadecimal digits and hyphens. -/
def PrintsHex {V : Type} (tool : ToolHost V) : Prop :=
  ∀ id, ∀ c ∈ (tool.uuidToString id).toList, isUuidChar c = true

theorem digits_toString (n : Nat) : ∀ c ∈ (toString n).toList, c.isDigit = true := by
  intro c member
  rw [Nat.toString_eq_ofList_toDigits, String.toList_ofList] at member
  exact Nat.isDigit_of_mem_toDigits (by decide) (by decide) member

theorem toDigits_positive (n : Nat) (later : n ≠ 0) :
    ∃ c rest, Nat.toDigits 10 n = c :: rest ∧ isNonzeroDigit c = true := by
  induction n using Nat.strongRecOn with
  | ind n ih =>
      by_cases small : n < 10
      · have every : ∀ digit : Fin 10, digit.val ≠ 0 →
            isNonzeroDigit digit.val.digitChar = true := by decide
        exact ⟨n.digitChar, [], Nat.toDigits_of_lt_base small, every ⟨n, small⟩ later⟩
      · obtain ⟨c, rest, digits, leads⟩ := ih (n / 10) (by omega) (by omega)
        refine ⟨c, rest ++ [(n % 10).digitChar], ?_, leads⟩
        rw [Nat.toDigits_of_base_le (by decide) (by omega), digits, List.cons_append]

theorem toString_positive (n : Nat) (later : n ≠ 0) :
    ∃ c rest, (toString n).toList = c :: rest ∧ isNonzeroDigit c = true ∧
      ∀ d ∈ rest, d.isDigit = true := by
  obtain ⟨c, rest, digits, leads⟩ := toDigits_positive n later
  have spelled : (toString n).toList = c :: rest := by
    rw [Nat.toString_eq_ofList_toDigits, String.toList_ofList, digits]
  exact ⟨c, rest, spelled, leads, fun d member =>
    digits_toString n d (spelled ▸ List.mem_cons_of_mem c member)⟩

theorem mem_intercalate {sep : List Char} {parts : List (List Char)} {c : Char}
    (member : c ∈ sep.intercalate parts) : c ∈ sep ∨ ∃ part ∈ parts, c ∈ part := by
  induction parts with
  | nil => cases member
  | cons part rest ih =>
      cases rest with
      | nil =>
          rw [List.intercalate_singleton] at member
          exact .inr ⟨part, List.mem_cons_self, member⟩
      | cons next rest =>
          rw [List.intercalate_cons_cons, List.mem_append, List.mem_append] at member
          rcases member with (here | between) | later
          · exact .inr ⟨part, List.mem_cons_self, here⟩
          · exact .inl between
          · refine (ih later).imp_right ?_
            rintro ⟨found, among, inside⟩
            exact ⟨found, List.mem_cons_of_mem part among, inside⟩

/-- The characters of names that are joined by a comma and a space. -/
theorem joined_chars {cls : Char → Bool} {names : List String}
    (separators : cls ',' = true ∧ cls ' ' = true)
    (every : ∀ name ∈ names, ∀ c ∈ name.toList, cls c = true) :
    ∀ c ∈ (String.intercalate ", " names).toList, cls c = true := by
  intro c member
  rw [String.toList_intercalate] at member
  rcases mem_intercalate member with between | ⟨part, among, inside⟩
  · have either : c = ',' ∨ c = ' ' := by simpa using between
    rcases either with rfl | rfl
    · exact separators.1
    · exact separators.2
  · obtain ⟨name, named, rfl⟩ := List.mem_map.mp among
    exact every name named c inside

theorem formatEffects_chars (effects : Finset EffectKind) :
    ∀ c ∈ (formatEffects effects).toList, isEffectChar c = true := by
  refine joined_chars (by decide) fun name member => ?_
  obtain ⟨effect, _, rfl⟩ := List.mem_map.mp member
  cases effect <;> exact List.forall_iff_forall_mem.mp (by decide)

theorem nodeNames_chars {V : Type} {tool : ToolHost V} (prints : PrintsHex tool)
    (nodes : List NodeId) :
    ∀ c ∈ (String.intercalate ", " (nodes.map tool.uuidToString)).toList,
      isNodeListChar c = true := by
  refine joined_chars (by decide) fun name member c inside => ?_
  obtain ⟨node, _, rfl⟩ := List.mem_map.mp member
  unfold isNodeListChar
  rw [prints node c inside]
  rfl

section Fitting

variable {V : Type} {tool : ToolHost V} {cells : Format} {texts : List (List Char)}

theorem fits_nil : Fits [] [] := rfl

theorem fits_number (n : Nat) :
    Fits (number cells) ((toString n).toList :: texts) ↔ Fits cells texts :=
  and_iff_right (digits_toString n)

theorem fits_positive {n : Nat} (later : n ≠ 0) :
    Fits (positive cells) ((toString n).toList :: texts) ↔ Fits cells texts :=
  and_iff_right (toString_positive n later)

theorem fits_uuid (prints : PrintsHex tool) (id : Uuid) :
    Fits (uuid cells) ((tool.uuidToString id).toList :: texts) ↔ Fits cells texts :=
  and_iff_right (prints id)

theorem fits_effects (kinds : Finset EffectKind) :
    Fits (effects cells) ((formatEffects kinds).toList :: texts) ↔ Fits cells texts :=
  and_iff_right (formatEffects_chars kinds)

theorem fits_nodeList (prints : PrintsHex tool) (nodes : List NodeId) :
    Fits (nodeList cells)
      ((String.intercalate ", " (nodes.map tool.uuidToString)).toList :: texts) ↔
        Fits cells texts :=
  and_iff_right (nodeNames_chars prints nodes)

theorem fits_text (quote : List Char) :
    Fits (text cells) (quote :: texts) ↔ Fits cells texts :=
  Iff.rfl

/-- Every value is of the class of its slot. -/
theorem Violation.fits (prints : PrintsHex tool) (violation : Violation) :
    Fits violation.invariant.format (violation.slotTexts tool) := by
  unfold Invariant.format
  cases violation with
  | parentHops seq msgId hops later parent previous =>
      simp only [slotTexts, Violation.texts, lineageTexts, invariant, delivered, lineageKey,
        List.cons_append, List.nil_append, List.map_cons, List.map_nil,
        fits_lit, fits_number, fits_positive later, fits_uuid prints, fits_nil]
  | globalHops key item hops later parent parentItem previous =>
      simp only [slotTexts, Violation.texts, lineageTexts, placeTexts, invariant,
        lineageRecordAt, lineageKey, place, List.cons_append,
        List.nil_append, List.map_cons, List.map_nil, fits_lit, fits_number, fits_positive later,
        fits_uuid prints, fits_text, fits_nil]
  | _ =>
      simp only [slotTexts, Violation.texts, keyTexts, lineageTexts, placeTexts, invariant,
        delivered, place, clusterKey, lineageKey, lineageRecordAt, timerFiredAt,
        List.cons_append, List.nil_append, List.map_cons, List.map_nil,
        fits_lit, fits_number, fits_uuid prints, fits_effects, fits_nodeList prints, fits_text,
        fits_word, fits_nil]

/-! ## The messages are the filled formats -/

theorem fill_nil : fill [] texts = [] := rfl

theorem fill_number (value : List Char) :
    fill (number cells) (value :: texts) = value ++ fill cells texts := rfl

theorem fill_positive (value : List Char) :
    fill (positive cells) (value :: texts) = value ++ fill cells texts := rfl

theorem fill_uuid (value : List Char) :
    fill (uuid cells) (value :: texts) = value ++ fill cells texts := rfl

theorem fill_effects (value : List Char) :
    fill (effects cells) (value :: texts) = value ++ fill cells texts := rfl

theorem fill_nodeList (value : List Char) :
    fill (nodeList cells) (value :: texts) = value ++ fill cells texts := rfl

theorem fill_text (value : List Char) :
    fill (text cells) (value :: texts) = value ++ fill cells texts := rfl

theorem toString_string (value : String) : toString value = value := rfl

theorem Violation.message_toList (violation : Violation) :
    (violation.message tool).toList =
      fill violation.invariant.format (violation.slotTexts tool) := by
  rw [← List.append_nil (message _ _).toList]
  unfold Invariant.format message delivery rootDelivery firedTimer lineageRecord lineageText keyText
  cases violation <;>
    simp only [slotTexts, Violation.texts, keyTexts, lineageTexts, placeTexts, invariant,
      delivered, place, clusterKey, lineageKey, lineageRecordAt, timerFiredAt, toString_string,
      String.toList_append, List.append_assoc, List.cons_append, List.nil_append,
      List.map_cons, List.map_nil, fill_lit, fill_word, fill_number, fill_positive, fill_uuid,
      fill_effects, fill_nodeList, fill_text, fill_nil]

/-- The message is its format filled with texts of the classes of its slots. -/
theorem Violation.filled (prints : PrintsHex tool) (violation : Violation) :
    Filled violation.invariant.format (violation.slotTexts tool)
      (violation.message tool).toList := by
  rw [violation.message_toList]
  exact (violation.fits prints).filled

/-! ## The quoted texts -/

theorem quoted_nil : quoted [] texts = [] := by
  cases texts <;> rfl

theorem quoted_number (value : List Char) :
    quoted (number cells) (value :: texts) = quoted cells texts := rfl

theorem quoted_positive (value : List Char) :
    quoted (positive cells) (value :: texts) = quoted cells texts := rfl

theorem quoted_uuid (value : List Char) :
    quoted (uuid cells) (value :: texts) = quoted cells texts := rfl

theorem quoted_effects (value : List Char) :
    quoted (effects cells) (value :: texts) = quoted cells texts := rfl

theorem quoted_nodeList (value : List Char) :
    quoted (nodeList cells) (value :: texts) = quoted cells texts := rfl

theorem quoted_text (value : List Char) :
    quoted (text cells) (value :: texts) = value :: quoted cells texts := rfl

theorem Violation.quoted_eq (violation : Violation) :
    quoted violation.invariant.format (violation.slotTexts tool) =
      violation.quotes.map String.toList := by
  unfold Invariant.format
  cases violation <;>
    simp only [slotTexts, Violation.texts, keyTexts, lineageTexts, placeTexts, invariant, quotes,
      delivered, place, clusterKey, lineageKey, lineageRecordAt, timerFiredAt,
      List.cons_append, List.nil_append, List.map_cons, List.map_nil, quoted_lit, quoted_word,
      quoted_number, quoted_positive, quoted_uuid, quoted_effects, quoted_nodeList, quoted_text,
      quoted_nil]

end Fitting

end UcoStack.Tool
