import Mathlib.Tactic.IntervalCases
import UcoStack.Tool.LineageIndex

/-!
# Links the local verifier does not compare

The local verifier enters a delivery into its lineage table when it reads it, so a
delivery is compared with the last delivery of its parent before it, and with none
when the parent comes later.  The links of an accepted trace are all consistent when
no delivery stands before its parent and no parent is delivered with two lineages;
without the second condition they never are.
-/

namespace UcoStack.Tool

open UcoStack.Runtime

section Deliveries

variable {V : Type}

/-- A readable delivery and the events before it. -/
structure Delivery (V : Type) where
  past : List (EventKind V)
  msgId : MsgId
  parsed : ParsedLineage

namespace Delivery

def key (delivery : Delivery V) : LineageKey := (delivery.parsed.fromNode, delivery.msgId)

/-- The trace has this delivery. -/
def In (tool : ToolHost V) (events : List (TraceEvent V)) (delivery : Delivery V) : Prop :=
  ∃ node receiver later payload,
    kindsOf events = delivery.past ++ .deliver node receiver delivery.msgId :: later ∧
      (waiting (receiver, delivery.msgId) delivery.past).head? = some payload ∧
        ReadsAs tool payload delivery.parsed

/-- A delivery with hops whose parent reference is the key of the other one. -/
def Names (child parent : Delivery V) : Prop :=
  child.parsed.prov.hops ≠ 0 ∧ (child.parsed.parentNode, child.parsed.parentMsgId) = parent.key

/-- One hop after the other, with the same origin. -/
def Continues (child parent : Delivery V) : Prop := child.parsed.Continues parent.parsed.record

def Before (first second : Delivery V) : Prop := first.past.length < second.past.length

/-- Nothing could continue one of the two and not the other. -/
structure Alike (first second : Delivery V) : Prop where
  hops : saturatingAdd first.parsed.prov.hops 1 = saturatingAdd second.parsed.prov.hops 1
  originMsgId : first.parsed.originMsgId = second.parsed.originMsgId
  originNode : first.parsed.prov.originNode = second.parsed.prov.originNode
  originService : first.parsed.prov.originService = second.parsed.prov.originService

theorem Continues.alike {child first second : Delivery V} (toFirst : child.Continues first)
    (toSecond : child.Continues second) : first.Alike second where
  hops := toFirst.hops.symm.trans toSecond.hops
  originMsgId := toFirst.originMsgId.symm.trans toSecond.originMsgId
  originNode := toFirst.originNode.symm.trans toSecond.originNode
  originService := toFirst.originService.symm.trans toSecond.originService

theorem Alike.continues {child first second : Delivery V} (alike : first.Alike second)
    (toFirst : child.Continues first) : child.Continues second where
  hops := toFirst.hops.trans alike.hops
  originMsgId := toFirst.originMsgId.trans alike.originMsgId
  originNode := toFirst.originNode.trans alike.originNode
  originService := toFirst.originService.trans alike.originService

end Delivery

/-- Every delivery with hops continues every delivery of its parent, in any order. -/
def LinksConsistent (tool : ToolHost V) (events : List (TraceEvent V)) : Prop :=
  ∀ child parent : Delivery V, child.In tool events → parent.In tool events →
    child.Names parent → child.Continues parent

/-- No delivery stands before all deliveries of the parent that it names. -/
def ParentsFirst (tool : ToolHost V) (events : List (TraceEvent V)) : Prop :=
  ∀ child parent : Delivery V, child.In tool events → parent.In tool events →
    child.Names parent →
      ∃ other : Delivery V, other.In tool events ∧ child.Names other ∧ other.Before child

/-- A parent that is named by a delivery is delivered with one lineage only. -/
def ParentsAlike (tool : ToolHost V) (events : List (TraceEvent V)) : Prop :=
  ∀ child first second : Delivery V, child.In tool events → first.In tool events →
    second.In tool events → child.Names first → child.Names second → first.Alike second

end Deliveries

/-! ## The table of the scan -/

section Table

variable {V : Type} {tool : ToolHost V} {kinds : List (EventKind V)}

theorem mem_lineages {key : LineageKey} {record : DeliveredLineage} :
    (key, record) ∈ lineages tool kinds ↔
      ∃ past kind later, kinds = past ++ kind :: later ∧
        lineageOf tool past kind = some (key, record) := by
  induction kinds using List.reverseRecOn with
  | nil =>
      constructor
      · intro member
        cases member
      · rintro ⟨past, kind, later, split, _⟩
        simp at split
  | append_singleton before last ih =>
      rw [lineages_snoc, List.mem_append, ih, Option.mem_toList]
      constructor
      · rintro (⟨past, kind, later, rfl, found⟩ | found)
        · exact ⟨past, kind, later ++ [last], by rw [List.append_assoc, List.cons_append], found⟩
        · exact ⟨before, last, [], rfl, found⟩
      · rintro ⟨past, kind, later, split, found⟩
        rcases List.eq_nil_or_concat later with rfl | ⟨rest, final, rfl⟩
        · obtain ⟨rfl, same⟩ := List.append_inj' split rfl
          cases same
          exact .inr found
        · have longer : before ++ [last] = (past ++ kind :: rest) ++ [final] := by
            rw [split, List.append_assoc, List.cons_append, List.concat_eq_append]
          exact .inl ⟨past, kind, rest, (List.append_inj' longer rfl).1, found⟩

/-- The table has an entry for a key exactly when a message with it was delivered. -/
theorem lastLineage_some {key : LineageKey} {record : DeliveredLineage}
    (found : lastLineage tool kinds key = some record) : (key, record) ∈ lineages tool kinds := by
  obtain ⟨entry, first, rfl⟩ := Option.map_eq_some_iff.mp found
  obtain ⟨same, _⟩ := List.find?_eq_some_iff_append.mp first
  rw [← of_decide_eq_true same]
  exact List.mem_reverse.mp (List.mem_of_find?_eq_some first)

theorem lastLineage_exists {key : LineageKey} {record : DeliveredLineage}
    (member : (key, record) ∈ lineages tool kinds) :
    ∃ last, lastLineage tool kinds key = some last := by
  unfold lastLineage
  cases found : (lineages tool kinds).reverse.find? fun entry => entry.1 = key with
  | none =>
      have absent := List.find?_eq_none.mp found _ (List.mem_reverse.mpr member)
      exact absurd (decide_eq_true rfl) absent
  | some entry => exact ⟨entry.2, rfl⟩

variable {events : List (TraceEvent V)}

/-- What the scan enters for a delivery. -/
theorem Delivery.In.lineage {delivery : Delivery V} (inside : delivery.In tool events) :
    ∃ kind later, kindsOf events = delivery.past ++ kind :: later ∧
      lineageOf tool delivery.past kind = some (delivery.key, delivery.parsed.record) := by
  obtain ⟨node, receiver, later, payload, split, first, reads⟩ := inside
  refine ⟨_, later, split, ?_⟩
  have delivered : deliveredPayload delivery.past (.deliver node receiver delivery.msgId) =
      some (delivery.msgId, payload) := by
    change (waiting (receiver, delivery.msgId) delivery.past).head?.map _ = _
    rw [first]
    rfl
  unfold lineageOf
  rw [delivered]
  dsimp only
  rw [readLineage_eq_some.mpr reads]
  rfl

/-- What the scan has entered is a delivery. -/
theorem delivery_of_lineage {past later : List (EventKind V)} {kind : EventKind V}
    {key : LineageKey} {record : DeliveredLineage}
    (split : kindsOf events = past ++ kind :: later)
    (found : lineageOf tool past kind = some (key, record)) :
    ∃ delivery : Delivery V, delivery.In tool events ∧ delivery.past = past ∧
      delivery.key = key ∧ delivery.parsed.record = record := by
  unfold lineageOf at found
  cases delivered : deliveredPayload past kind with
  | none =>
      rw [delivered] at found
      cases found
  | some message =>
      obtain ⟨msgId, payload⟩ := message
      rw [delivered] at found
      obtain ⟨parsed, reads, same⟩ := Option.map_eq_some_iff.mp found
      cases same
      cases kind with
      | deliver node receiver other =>
          obtain ⟨first, waits, same⟩ := Option.map_eq_some_iff.mp delivered
          cases same
          exact ⟨⟨past, other, parsed⟩, ⟨node, receiver, later, payload, split, waits,
            readLineage_eq_some.mp reads⟩, rfl, rfl, rfl⟩
      | _ => cases delivered

/-- The table at a delivery holds exactly the deliveries before it. -/
theorem Delivery.In.mem_lineages {child : Delivery V} (inside : child.In tool events)
    {key : LineageKey} {record : DeliveredLineage} :
    (key, record) ∈ lineages tool child.past ↔
      ∃ other : Delivery V, other.In tool events ∧ other.Before child ∧ other.key = key ∧
        other.parsed.record = record := by
  obtain ⟨kind, later, split, _⟩ := inside.lineage
  rw [Tool.mem_lineages]
  constructor
  · rintro ⟨past, earlier, rest, inPast, found⟩
    have whole : kindsOf events = past ++ earlier :: (rest ++ kind :: later) := by
      rw [split, inPast, List.append_assoc, List.cons_append]
    obtain ⟨other, otherIn, rfl, sameKey, sameRecord⟩ := delivery_of_lineage whole found
    refine ⟨other, otherIn, ?_, sameKey, sameRecord⟩
    unfold Before
    rw [inPast, List.length_append, List.length_cons]
    omega
  · rintro ⟨other, otherIn, before, rfl, rfl⟩
    obtain ⟨earlier, rest, otherSplit, found⟩ := otherIn.lineage
    unfold Before at before
    have same := split.symm.trans otherSplit
    obtain ⟨middle, even | ⟨isPast, isRest⟩⟩ : ∃ middle : List (EventKind V),
        child.past = other.past ∨ child.past = other.past ++ earlier :: middle ∧
          rest = middle ++ kind :: later := by
      rcases List.append_eq_append_iff.mp same with ⟨extra, long, _⟩ | ⟨extra, long, tail⟩
      · rw [long, List.length_append] at before
        omega
      · cases extra with
        | nil => exact ⟨[], .inl (by simpa using long)⟩
        | cons head middle =>
            rw [List.cons_append] at tail
            obtain ⟨rfl, rfl⟩ := List.cons.inj tail
            exact ⟨middle, .inr ⟨long, rfl⟩⟩
    · rw [even] at before
      omega
    · exact ⟨other.past, earlier, middle, isPast, found⟩

end Table

/-! ## The exact gap -/

section Gap

variable {V : Type} {tool : ToolHost V} {events : List (TraceEvent V)}

/-- What the verifier checks: the last delivery of the parent before the child. -/
theorem accepted_continues (clean : (verifyTrace tool events).problems = [])
    {child : Delivery V} (inside : child.In tool events) (hops : child.parsed.prov.hops ≠ 0)
    {record : DeliveredLineage}
    (found : lastLineage tool child.past (child.parsed.parentNode, child.parsed.parentMsgId) =
      some record) : child.parsed.Continues record := by
  obtain ⟨node, receiver, later, payload, split, first, reads⟩ := inside
  obtain ⟨other, waits, parsed, parse, inOrder⟩ := accepted_own clean split
  rw [first] at waits
  cases waits
  rw [readLineage_eq_some.mpr reads] at parse
  cases parse
  exact inOrder.parent hops record found

/-- The scan compares every delivery that has its parent before it with the last
delivery of that parent. -/
theorem accepted_continues_last (clean : (verifyTrace tool events).problems = [])
    {child other : Delivery V} (childIn : child.In tool events) (otherIn : other.In tool events)
    (names : child.Names other) (before : other.Before child) :
    ∃ last : Delivery V, last.In tool events ∧ child.Names last ∧ child.Continues last := by
  have entered := childIn.mem_lineages.mpr ⟨other, otherIn, before, rfl, rfl⟩
  obtain ⟨record, found⟩ := lastLineage_exists entered
  obtain ⟨last, lastIn, _, lastKey, rfl⟩ := childIn.mem_lineages.mp (lastLineage_some found)
  refine ⟨last, lastIn, ⟨names.1, names.2.trans lastKey.symm⟩, ?_⟩
  rw [← names.2] at found
  exact accepted_continues clean childIn names.1 found

/-- The links of an accepted trace are consistent when parents come first and are alike,
and only when they are alike. -/
theorem links_consistent_of_parents_first (clean : (verifyTrace tool events).problems = []) :
    (ParentsFirst tool events → ParentsAlike tool events → LinksConsistent tool events) ∧
      (LinksConsistent tool events → ParentsAlike tool events) := by
  constructor
  · intro ordered alike child parent childIn parentIn names
    obtain ⟨other, otherIn, otherNames, before⟩ := ordered child parent childIn parentIn names
    obtain ⟨last, lastIn, lastNames, checked⟩ :=
      accepted_continues_last clean childIn otherIn otherNames before
    exact (alike child last parent childIn lastIn parentIn lastNames names).continues checked
  · intro consistent child first second childIn firstIn secondIn namesFirst namesSecond
    exact (consistent child first childIn firstIn namesFirst).alike
      (consistent child second childIn secondIn namesSecond)

/-- A root and the message sent when it is handled. -/
def rootAndReplyTrace : List (TraceEvent JsonDoc) :=
  [⟨0, 7, .spawn 7 11 "A"⟩, ⟨1, 7, .spawn 7 22 "B"⟩, ⟨2, 7, .send 11 22 1 samplePayload⟩,
    ⟨3, 7, .deliver 7 22 1⟩, ⟨4, 7, .effectObserved 7 22 "B" "start" 1 [] []⟩,
    ⟨5, 7, .send 22 11 2 (sampleMessage sampleReply)⟩, ⟨6, 7, .deliver 7 11 2⟩,
    ⟨7, 7, .effectObserved 7 11 "A" "start" 2 [] []⟩]

/-- What the two payloads say. -/
def rootParsed : ParsedLineage :=
  ⟨UuidText.print 7, "A", { sampleReply with hops := 0 }, 1, 7, 1, 7⟩

def replyParsed : ParsedLineage := ⟨UuidText.print 7, "B", sampleReply, 1, 7, 1, 7⟩

def rootDelivery : Delivery JsonDoc := ⟨(kindsOf rootAndReplyTrace).take 3, 1, rootParsed⟩

def replyDelivery : Delivery JsonDoc := ⟨(kindsOf rootAndReplyTrace).take 6, 2, replyParsed⟩

theorem rootDelivery_in : rootDelivery.In jsonTool rootAndReplyTrace :=
  ⟨7, 22, (kindsOf rootAndReplyTrace).drop 4, samplePayload, rfl, rfl,
    readLineage_eq_some.mp (by decide +kernel)⟩

theorem replyDelivery_in : replyDelivery.In jsonTool rootAndReplyTrace :=
  ⟨7, 11, (kindsOf rootAndReplyTrace).drop 7, sampleMessage sampleReply, rfl, rfl,
    readLineage_eq_some.mp (by decide +kernel)⟩

theorem rootAndReply_deliveries {delivery : Delivery JsonDoc}
    (inside : delivery.In jsonTool rootAndReplyTrace) :
    delivery = rootDelivery ∨ delivery = replyDelivery := by
  obtain ⟨past, msgId, parsed⟩ := delivery
  obtain ⟨node, receiver, later, payload, split, first, reads⟩ := inside
  have here : (kindsOf rootAndReplyTrace)[past.length]? = some (.deliver node receiver msgId) := by
    rw [split, List.getElem?_append_right (Nat.le_refl _), Nat.sub_self]
    rfl
  have short : past.length < 8 := (List.getElem?_eq_some_iff.mp here).1
  have taken : past = (kindsOf rootAndReplyTrace).take past.length := by
    rw [split, List.take_left]
  clear split
  generalize past.length = length at here short taken
  subst taken
  -- Only the events at 3 and 6 are deliveries.
  interval_cases length <;> cases here
  · have payloadIs : samplePayload = payload := Option.some.inj first
    have read := readLineage_eq_some.mpr reads
    rw [← payloadIs, show readLineage jsonTool samplePayload = some rootParsed by decide +kernel]
      at read
    cases read
    exact .inl rfl
  · have payloadIs : sampleMessage sampleReply = payload := Option.some.inj first
    have read := readLineage_eq_some.mpr reads
    rw [← payloadIs, show readLineage jsonTool (sampleMessage sampleReply) = some replyParsed by
      decide +kernel] at read
    cases read
    exact .inr rfl

/-- Only the reply names a parent, and that is the root. -/
theorem rootAndReply_names {child parent : Delivery JsonDoc}
    (childIn : child.In jsonTool rootAndReplyTrace)
    (parentIn : parent.In jsonTool rootAndReplyTrace) (names : child.Names parent) :
    child = replyDelivery ∧ parent = rootDelivery := by
  rcases rootAndReply_deliveries childIn with rfl | rfl
  · exact absurd rfl names.1
  · rcases rootAndReply_deliveries parentIn with rfl | rfl
    · exact ⟨rfl, rfl⟩
    · exact absurd (congrArg Prod.snd names.2) (by decide)

theorem links_consistent_of_parents_first_sample :
    LinksConsistent jsonTool rootAndReplyTrace ∧ ∃ child parent : Delivery JsonDoc,
      child.In jsonTool rootAndReplyTrace ∧ parent.In jsonTool rootAndReplyTrace ∧
        child.Names parent := by
  have linked : replyDelivery.Names rootDelivery := ⟨by decide, rfl⟩
  refine ⟨(links_consistent_of_parents_first (by decide +kernel)).1 ?_ ?_,
    replyDelivery, rootDelivery, replyDelivery_in, rootDelivery_in, linked⟩
  · intro child parent childIn parentIn names
    obtain ⟨rfl, rfl⟩ := rootAndReply_names childIn parentIn names
    exact ⟨rootDelivery, rootDelivery_in, linked, (by decide : 3 < 6)⟩
  · intro child first second childIn firstIn secondIn namesFirst namesSecond
    obtain ⟨_, rfl⟩ := rootAndReply_names childIn firstIn namesFirst
    obtain ⟨_, rfl⟩ := rootAndReply_names childIn secondIn namesSecond
    exact ⟨rfl, rfl, rfl, rfl⟩

/-- A message three hops after message 1. -/
def sampleOrphan : MessageProvenance := { sampleReply with hops := 3 }

/-- The orphan is delivered before its parent, which has no hops. -/
def lateParentTrace : List (TraceEvent JsonDoc) :=
  [⟨0, 7, .spawn 7 11 "A"⟩, ⟨1, 7, .spawn 7 22 "B"⟩,
    ⟨2, 7, .send 22 11 2 (sampleMessage sampleOrphan)⟩, ⟨3, 7, .deliver 7 11 2⟩,
    ⟨4, 7, .effectObserved 7 11 "A" "start" 2 [] []⟩, ⟨5, 7, .send 11 22 1 samplePayload⟩,
    ⟨6, 7, .deliver 7 22 1⟩, ⟨7, 7, .effectObserved 7 22 "B" "start" 1 [] []⟩]

/-- What the payload of the orphan says. -/
def orphanParsed : ParsedLineage := ⟨UuidText.print 7, "B", sampleOrphan, 1, 7, 1, 7⟩

/-- A child that is delivered before its parent is accepted with any hops. -/
theorem late_parent_accepted :
    (verifyTrace jsonTool lateParentTrace).problems = [] ∧
      ¬LinksConsistent jsonTool lateParentTrace := by
  refine ⟨by decide +kernel, fun consistent => ?_⟩
  have child : (⟨(kindsOf lateParentTrace).take 3, 2, orphanParsed⟩ : Delivery JsonDoc).In
      jsonTool lateParentTrace := by
    refine ⟨7, 11, (kindsOf lateParentTrace).drop 4, sampleMessage sampleOrphan, rfl, rfl, ?_⟩
    exact readLineage_eq_some.mp (by decide +kernel)
  have parent : (⟨(kindsOf lateParentTrace).take 6, 1, rootParsed⟩ : Delivery JsonDoc).In
      jsonTool lateParentTrace := by
    refine ⟨7, 22, (kindsOf lateParentTrace).drop 7, samplePayload, rfl, rfl, ?_⟩
    exact readLineage_eq_some.mp (by decide +kernel)
  have continues := consistent _ _ child parent ⟨by decide, rfl⟩
  have hops : (3 : Nat) = saturatingAdd 0 1 := continues.hops
  exact absurd hops (by decide)

end Gap

end UcoStack.Tool
