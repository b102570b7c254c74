import UcoStack.System.Ancestry
import UcoStack.System.Fifo
import UcoStack.Tool.LineageScan

/-!
# What the verifier reads of delivered messages

The lineages in a trace are those of the messages the node delivered, in order, and
each of them tells the ancestry of its message.  So a lineage read before never
contradicts one read later, although the verifier looks parents up by sender and
message id only.
-/

namespace UcoStack.System

open UcoStack.Runtime UcoStack.Tool

/-! ## Delivered messages in the trace -/

section Trace

variable {V : Type} (tool : ToolHost V)

/-- What the verifier keeps of a delivered message. -/
def lineageEntry (message : MsgId × V) : Option (LineageKey × DeliveredLineage) :=
  (readLineage tool message.2).map fun parsed => ((parsed.fromNode, message.1), parsed.record)

/-- The payload the verifier takes for a delivery belongs to a delivered message. -/
def DeliversFrom (delivered : List (MsgId × V)) (past : List (EventKind V)) (kind : EventKind V) :
    Prop :=
  ∀ node receiver msgId, kind = .deliver node receiver msgId →
    ∃ payload, (waiting (receiver, msgId) past).head? = some payload ∧ (msgId, payload) ∈ delivered

/-- The trace and the core agree on what was delivered. -/
structure Remembers (past : List (EventKind V)) (core : Core V) : Prop where
  fifo : Fifo past core.actors
  lineages : lineages tool past = core.delivered.filterMap (lineageEntry tool)
  payloads : EveryPosition (DeliversFrom core.delivered) past
  traced : ∀ message ∈ core.delivered, ∃ delivery, DeliveredIn past delivery ∧
    delivery.msgId = message.1 ∧ delivery.payload = message.2

variable {tool} {host : Host V} {site : Site} {Wire : WireEnvelope V → Prop}
  {entryActor : ActorId}

theorem lineages_append_of_stays {past kinds : List (EventKind V)}
    (stays : ∀ kind ∈ kinds, removal kind = none) :
    Tool.lineages tool (past ++ kinds) = Tool.lineages tool past := by
  induction kinds using List.reverseRecOn with
  | nil => rw [List.append_nil]
  | append_singleton before last ih =>
      have none : lineageOf tool (past ++ before) last = none := by
        unfold lineageOf deliveredPayload
        rw [stays last (List.mem_append_right _ List.mem_cons_self)]
      rw [← List.append_assoc, lineages_snoc, none,
        ih fun kind member => stays kind (List.mem_append_left _ member)]
      exact List.append_nil _

/-- An operation delivers nothing, or it takes the first message out of an inbox. -/
theorem CoreOp.delivers {core final : Core V} {kinds : List (EventKind V)}
    (op : CoreOp host site Wire entryActor core kinds final) :
    ((∀ kind ∈ kinds, removal kind = none) ∧ final.delivered = core.delivered) ∨
      ∃ receiver actor message rest, core.actors.lookup receiver = some actor ∧
        actor.inbox = message :: rest ∧ kinds = [.deliver site.nodeId receiver message.1] ∧
        final.delivered = core.delivered ++ [message] := by
  have quiet {fromActor : ActorId} {target : Target} {payload : V} {cause : MsgId × V}
      {before : Core V} {dispatched : Dispatched V}
      (routed : routeOutgoing site fromActor target payload cause before = .ok dispatched) :
      removal dispatched.event = none := by
    rcases (routeOutgoing_ok site).mp routed with ⟨_, _, _, _, _, _, rfl⟩ | ⟨_, _, _, _, _, rfl⟩
    · rfl
    · rfl
  cases op with
  | note event isNote =>
      refine .inl ⟨List.forall_mem_singleton.mpr ?_, rfl⟩
      cases event <;> first | rfl | exact isNote.elim
  | receive env arrived =>
      refine .inl ⟨List.forall_mem_singleton.mpr rfl, ?_⟩
      unfold Core.receive
      split
      · rfl
      · rfl
  | pop receiver actor message rest found inbox =>
      exact .inr ⟨receiver, actor, message, rest, found, inbox, rfl, rfl⟩
  | write id actor state found keys => exact .inl ⟨nofun, rfl⟩
  | schedule step actorId cause out delivered answers => exact .inl ⟨nofun, rfl⟩
  | send fromActor target payload cause dispatched delivered answers routed =>
      exact .inl ⟨List.forall_mem_singleton.mpr (quiet routed), routeOutgoing_delivered routed⟩
  | setTimers timers fewer => exact .inl ⟨nofun, rfl⟩
  | fire timer rest dispatched split routed =>
      have same : dispatched.core.delivered = (core.setTimers rest).delivered :=
        routeOutgoing_delivered routed
      refine .inl ⟨List.forall_mem_cons.mpr ⟨rfl, ?_⟩, same⟩
      exact List.forall_mem_singleton.mpr (quiet routed)
  | bootstrap index actor msgId payload allocated allocates encoded found =>
      cases allocates
      exact .inl ⟨List.forall_mem_singleton.mpr rfl, rfl⟩

/-- The step lemma. -/
theorem Remembers.op {past kinds : List (EventKind V)} {core final : Core V}
    (remembers : Remembers tool past core)
    (op : CoreOp host site Wire entryActor core kinds final) :
    Remembers tool (past ++ kinds) final := by
  have fifo := remembers.fifo.move (CoreOp.inboxMove op)
  have before : ∀ message ∈ core.delivered, ∃ delivery, DeliveredIn (past ++ kinds) delivery ∧
      delivery.msgId = message.1 ∧ delivery.payload = message.2 := by
    intro message delivered
    obtain ⟨delivery, inTrace, fields⟩ := remembers.traced message delivered
    exact ⟨delivery, inTrace.append kinds, fields⟩
  rcases CoreOp.delivers op with ⟨stays, same⟩ | ⟨receiver, actor, message, rest, found, inbox,
    rfl, longer⟩
  · refine ⟨fifo, ?_, ?_, ?_⟩
    · rw [same, ← remembers.lineages]
      exact lineages_append_of_stays stays
    · rw [same]
      refine remembers.payloads.append_of_forall ?_
      rintro _ member early node receiver msgId rfl
      cases stays _ member
    · rw [same]
      exact before
  · have first : (waiting (receiver, message.1) past).head? = some message.2 := by
      rw [remembers.fifo.waiting found, inbox]
      simp
    refine ⟨fifo, ?_, ?_, ?_⟩
    · have entry : lineageOf tool past (.deliver site.nodeId receiver message.1) =
          lineageEntry tool message := by
        unfold lineageOf deliveredPayload lineageEntry
        simp only [removal, first, Option.map_some]
      rw [lineages_snoc, longer, List.filterMap_append, remembers.lineages, entry]
      cases h : lineageEntry tool message <;> simp [h]
    · rw [longer, EveryPosition.snoc]
      constructor
      · refine remembers.payloads.mono ?_
        intro before kind later split delivers node receiver msgId same
        obtain ⟨payload, waits, member⟩ := delivers node receiver msgId same
        exact ⟨payload, waits, List.mem_append_left _ member⟩
      · rintro _ _ _ ⟨⟩
        exact ⟨message.2, first, List.mem_append_right _ List.mem_cons_self⟩
    · rw [longer]
      refine List.forall_mem_append.mpr ⟨before, List.forall_mem_singleton.mpr ?_⟩
      exact ⟨⟨0, site.nodeId, receiver, message.1, message.2⟩, ⟨past, [], rfl, first⟩, rfl, rfl⟩

/-- The run lemma. -/
theorem coreRun_remembers {core final : Core V} {kinds : List (EventKind V)}
    (empty : ∀ id actor, core.actors.lookup id = some actor → actor.inbox = [])
    (nothing : core.delivered = [])
    (run : Run (CoreOp host site Wire entryActor) core kinds final) :
    Remembers tool kinds final := by
  have start : Remembers tool [] core := ⟨.initial empty, by rw [nothing]; rfl, .nil,
    by rw [nothing]; exact nofun⟩
  exact Run.history (fun _ _ _ _ remembers op => remembers.op op) start run

theorem lineages_append (past later : List (EventKind V)) :
    Tool.lineages tool past ⊆ Tool.lineages tool (past ++ later) := by
  induction later using List.reverseRecOn with
  | nil =>
      rw [List.append_nil]
      exact List.Subset.refl _
  | append_singleton before last ih =>
      rw [← List.append_assoc, lineages_snoc]
      exact List.Subset.trans ih (List.subset_append_left _ _)

/-- A lineage found at some point of a trace is that of a delivered message. -/
theorem Remembers.lastLineage {past later : List (EventKind V)} {core : Core V}
    (remembers : Remembers tool (past ++ later) core) {key : LineageKey}
    {record : DeliveredLineage} (found : lastLineage tool past key = some record) :
    ∃ message ∈ core.delivered, lineageEntry tool message = some (key, record) := by
  have member := lineages_append past later (lastLineage_some found)
  rw [remembers.lineages] at member
  exact List.mem_filterMap.mp member

end Trace

/-! ## Lineages tell ancestries -/

section Ancestries

variable {ι V : Type} {tool : ToolHost V} {sites : ι → Site} {cores : ι → Core V}

/-- The parent the provenance of a message names; a bootstrap message names itself. -/
def NamesParent (cores : ι → Core V) (message parent : Message ι V) : Nat → Prop
  | 0 => parent = message
  | _ + 1 => IsParent cores message parent

/-- The lineage of a message with `n` ancestors up to `root`. -/
structure Reads (tool : ToolHost V) (sites : ι → Site) (message parent root : Message ι V)
    (n : Nat) (parsed : ParsedLineage) : Prop where
  reads : ReadsAs tool message.2.payload parsed
  fromNode : parsed.fromNode = (sites message.1).nodeId
  fromNodeText : parsed.fromNodeText = tool.uuidToString (sites message.1).nodeId
  originMsgId : parsed.originMsgId = root.2.msgId
  originText : parsed.prov.originMsgId = tool.uuidToString root.2.msgId
  parentNode : parsed.parentNode = (sites parent.1).nodeId
  parentMsgId : parsed.parentMsgId = parent.2.msgId
  hops : parsed.prov.hops = min n u64Max
  originNode : parsed.prov.originNode = tool.uuidToString (sites root.1).nodeId
  originService : parsed.prov.originService = "System"
  boot : n = 0 → parsed.fromService = "System"

/-- The texts of a message that carries its provenance parse. -/
theorem Carries.reads (lawful : tool.Lawful) {message parent root : Message ι V} {n : Nat}
    {msg : RuntimeMessage} {prov : Provenance}
    (carries : Carries tool.toHost sites message n root msg prov)
    (names : Names tool.toHost sites prov parent) (boot : n = 0 → message.2.cause = none) :
    ∃ parsed, Reads tool sites message parent root n parsed := by
  have decoded : tool.decodePayload message.2.payload =
      .ok ⟨msg.msgType, msg.fromNode, msg.fromService, some prov⟩ := by
    rw [carries.payload]
    refine (lawful.decode_toValue msg carries.representable).trans ?_
    rw [RuntimePayload.ofMessage, carries.provenance]
  have parses (id : Uuid) : tool.uuidParse (tool.uuidToString id) = some id :=
    lawful.host.parse_toString id
  obtain ⟨parentNode, parentMsgId⟩ := names
  refine ⟨⟨msg.fromNode, msg.fromService, prov, root.2.msgId, (sites parent.1).nodeId,
    parent.2.msgId, (sites message.1).nodeId⟩, ⟨⟨msg.msgType, decoded⟩, ?_, ?_, ?_, ?_⟩, rfl,
    carries.sender, rfl, carries.originMsgId, rfl, rfl, carries.hops, carries.originNode,
    carries.originService, fun zero => (carries.boot (boot zero)).1⟩
  · rw [carries.originMsgId]
    exact parses _
  · have nonempty : prov.parentNode.isEmpty = false := by
      rw [parentNode]
      exact lawful.host.toString_nonempty _
    rw [nonempty, if_neg Bool.false_ne_true, parentNode]
    exact parses _
  · rw [parentMsgId]
    exact parses _
  · rw [carries.sender]
    exact parses _

theorem Reads.unique {message parent root : Message ι V} {n : Nat} {parsed other : ParsedLineage}
    (reads : Reads tool sites message parent root n parsed)
    (again : ReadsAs tool message.2.payload other) : parsed = other :=
  Option.some.inj ((readLineage_eq_some.mpr reads.reads).symm.trans
    (readLineage_eq_some.mpr again))

variable [Fintype ι]

/-- Every message that was made has a readable lineage. -/
theorem Sound.reads (sound : Sound tool.toHost sites cores) (lawful : tool.Lawful)
    {message root : Message ι V} {n : Nat} (ancestry : Ancestry cores message n root) :
    ∃ parent parsed, NamesParent cores message parent n ∧
      Reads tool sites message parent root n parsed := by
  obtain ⟨msg, prov, carries⟩ := ancestry.carries lawful.host sound.grounded
  cases ancestry with
  | root isRoot =>
      obtain ⟨_, parentNode, parentMsgId⟩ := carries.boot isRoot.2
      obtain ⟨parsed, reads⟩ :=
        carries.reads lawful ⟨parentNode, parentMsgId⟩ fun _ => isRoot.2
      exact ⟨message, parsed, rfl, reads⟩
  | child isParent up =>
      obtain ⟨_, _, above⟩ := Ancestry.carries lawful.host sound.grounded up
      have names := isParent.named lawful.host sound.grounded carries above
      obtain ⟨parsed, reads⟩ := carries.reads lawful names nofun
      exact ⟨_, parsed, isParent, reads⟩

/-- The lineage read from a message starts with its sender. -/
theorem Sound.fromNode (sound : Sound tool.toHost sites cores) (lawful : tool.Lawful)
    {message : Message ι V} (made : IsMade cores message) {parsed : ParsedLineage}
    (reads : ReadsAs tool message.2.payload parsed) :
    parsed.fromNode = (sites message.1).nodeId := by
  obtain ⟨n, root, ancestry, _⟩ := sound.ancestral message made
  obtain ⟨_, found, _, foundReads⟩ := sound.reads lawful ancestry
  obtain rfl := foundReads.unique reads
  exact foundReads.fromNode

/-- One lineage is a hop after another and has the same origin. -/
structure OneHopAfter (parsed other : ParsedLineage) : Prop where
  hops : parsed.prov.hops = saturatingAdd other.prov.hops 1
  originMsgId : parsed.originMsgId = other.originMsgId
  originText : parsed.prov.originMsgId = other.prov.originMsgId
  originNode : parsed.prov.originNode = other.prov.originNode
  originService : parsed.prov.originService = other.prov.originService

omit [Fintype ι] in
theorem Reads.oneHopAfter {message parent grand root : Message ι V} {n : Nat}
    {parsed other : ParsedLineage} (reads : Reads tool sites message parent root (n + 1) parsed)
    (above : Reads tool sites parent grand root n other) : OneHopAfter parsed other where
  hops := by
    rw [reads.hops, above.hops]
    unfold saturatingAdd
    omega
  originMsgId := reads.originMsgId.trans above.originMsgId.symm
  originText := reads.originText.trans above.originText.symm
  originNode := reads.originNode.trans above.originNode.symm
  originService := reads.originService.trans above.originService.symm

/-- A lineage with hops names the parent of its message, and is a hop after every
lineage that is read under this name. -/
theorem Sound.follows (sound : Sound tool.toHost sites cores) (distinct : Distinct sites cores)
    (lawful : tool.Lawful) {message : Message ι V} (made : IsMade cores message)
    {parsed : ParsedLineage} (reads : ReadsAs tool message.2.payload parsed)
    (hops : parsed.prov.hops ≠ 0) :
    ∃ parent, IsParent cores message parent ∧ parsed.parentNode = (sites parent.1).nodeId ∧
      parsed.parentMsgId = parent.2.msgId ∧
      ∀ other otherParsed, IsMade cores other → ReadsAs tool other.2.payload otherParsed →
        otherParsed.fromNode = parsed.parentNode → other.2.msgId = parsed.parentMsgId →
          other = parent ∧ OneHopAfter parsed otherParsed := by
  obtain ⟨n, root, ancestry, _⟩ := sound.ancestral message made
  obtain ⟨parent, found, namesParent, foundReads⟩ := sound.reads lawful ancestry
  obtain rfl := foundReads.unique reads
  cases ancestry with
  | root isRoot => exact absurd foundReads.hops hops
  | @child _ above _ n isParent up =>
      have child : IsParent cores message parent := namesParent
      obtain rfl : parent = above := sound.parent_unique lawful.host distinct child isParent
      obtain ⟨grand, parentParsed, _, parentReads⟩ := sound.reads lawful up
      refine ⟨parent, child, foundReads.parentNode, foundReads.parentMsgId, ?_⟩
      intro other otherParsed otherMade otherReads otherNode otherId
      have sender := sound.fromNode lawful otherMade otherReads
      obtain rfl : other = parent := sound.message_unique distinct otherMade child.2.1
        ((sender.symm.trans otherNode).trans foundReads.parentNode)
        (otherId.trans foundReads.parentMsgId)
      obtain rfl := parentReads.unique otherReads
      exact ⟨rfl, foundReads.oneHopAfter parentReads⟩

/-- A table of lineages that were read from messages. -/
def ReadFrom (tool : ToolHost V) (cores : ι → Core V)
    (delivered : LineageKey → Option DeliveredLineage) : Prop :=
  ∀ key record, delivered key = some record →
    ∃ message parsed, IsMade cores message ∧ ReadsAs tool message.2.payload parsed ∧
      key = (parsed.fromNode, message.2.msgId) ∧ record = parsed.record

/-- The lineage of a message is in order with all lineages read from messages. -/
theorem Sound.inOrder (sound : Sound tool.toHost sites cores) (distinct : Distinct sites cores)
    (lawful : tool.Lawful) {message : Message ι V} (made : IsMade cores message)
    {delivered : LineageKey → Option DeliveredLineage}
    (readFrom : ReadFrom tool cores delivered) :
    ∃ parsed, ReadsAs tool message.2.payload parsed ∧
      parsed.InOrder message.2.msgId delivered := by
  obtain ⟨n, root, ancestry, _⟩ := sound.ancestral message made
  obtain ⟨parent, parsed, namesParent, reads⟩ := sound.reads lawful ancestry
  refine ⟨parsed, reads.reads, ?_, ?_, ?_⟩
  · intro noHops
    have zero : n = 0 := by
      have limit : u64Max = 2 ^ 64 - 1 := rfl
      have few := reads.hops
      omega
    subst zero
    obtain rfl : parent = message := namesParent
    cases ancestry
    refine ⟨reads.originMsgId, reads.parentMsgId, reads.parentNode.trans reads.fromNode.symm,
      reads.originNode.trans reads.fromNodeText.symm, ?_⟩
    rw [reads.originService, reads.boot rfl]
  · rintro hops ⟨sameNode, sameId⟩
    obtain ⟨above, isParent, parentNode, parentMsgId, _⟩ :=
      sound.follows distinct lawful made reads.reads hops
    obtain rfl : above = message := sound.message_unique distinct isParent.2.1 made
      ((parentNode.symm.trans sameNode).trans reads.fromNode) (parentMsgId.symm.trans sameId)
    exact sound.not_own_parent lawful.host distinct made isParent
  · rintro hops record found
    obtain ⟨other, otherParsed, otherMade, otherReads, key, rfl⟩ := readFrom _ _ found
    obtain ⟨otherNode, otherId⟩ := Prod.mk.inj key
    obtain ⟨_, _, _, _, follows⟩ := sound.follows distinct lawful made reads.reads hops
    obtain ⟨_, after⟩ := follows other otherParsed otherMade otherReads otherNode.symm otherId.symm
    exact ⟨after.hops, after.originMsgId, after.originNode, after.originService⟩

end Ancestries

end UcoStack.System
