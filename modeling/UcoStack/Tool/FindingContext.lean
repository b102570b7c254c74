import UcoStack.Tool.MessageFields

/-!
# The events of findings

Every finding of a trace is about an event of the trace, and the identifiers of its
violation are those of the event as far as the check reads them there.  The state
remembers only the delivery and the timer of the event before.
-/

namespace UcoStack.Tool

open UcoStack.Runtime

section Identifiers

variable {V : Type}

def nodesOf : EventKind V → List NodeId
  | .spawn node _ _ => [node]
  | .send _ _ _ _ => []
  | .deliver node _ _ => [node]
  | .timerFired node _ _ => [node]
  | .netRecv node fromNode _ _ _ => [node, fromNode]
  | .netSend node toNode _ _ _ => [node, toNode]
  | .log node _ _ _ => [node]
  | .effectObserved node _ _ _ _ _ _ => [node]
  | .faultInjected node fromNode _ _ _ => [node, fromNode]
  | .faultPolicy node _ _ _ _ => [node]

def actorsOf : EventKind V → List ActorId
  | .spawn _ actor _ => [actor]
  | .send sender receiver _ _ => [sender, receiver]
  | .deliver _ receiver _ => [receiver]
  | .timerFired _ sender _ => [sender]
  | .netRecv _ _ receiver _ _ => [receiver]
  | .netSend _ _ sender _ _ => [sender]
  | .log _ sender _ _ => [sender]
  | .effectObserved _ actor _ _ _ _ _ => [actor]
  | .faultInjected _ _ receiver _ _ => [receiver]
  | .faultPolicy _ _ _ _ _ => []

def messagesOf : EventKind V → List MsgId
  | .send _ _ msgId _ => [msgId]
  | .deliver _ _ msgId => [msgId]
  | .netRecv _ _ _ msgId _ => [msgId]
  | .netSend _ _ _ msgId _ => [msgId]
  | .effectObserved _ _ _ _ msgId _ _ => [msgId]
  | .faultInjected _ _ _ msgId _ => [msgId]
  | _ => []

/-- The numbers of an event are `u64` values. -/
structure InRange (ev : TraceEvent V) : Prop where
  seq : ev.seq ≤ u64Max
  seed : ev.seed ≤ u64Max

def Delivers (ev : TraceEvent V) (seq : Nat) (msgId : MsgId) : Prop :=
  ev.seq = seq ∧ ∃ node receiver, ev.kind = .deliver node receiver msgId

/-- The event has the sequence number and the identifiers that the check reads off it. -/
def Violation.Concerns (ev : TraceEvent V) : Violation → Prop
  | .seqNext _ got => ev.seq = got
  | .seedSame seq _ _ => ev.seq = seq
  | .effectGap seq _ _ => ∃ msgId, Delivers ev seq msgId
  | .timerActor seq timerId expected got _ =>
      ev.seq = seq ∧ (∃ node, ev.kind = .timerFired node expected timerId) ∧ expected ≠ got
  | .timerGap seq timerId _ _ =>
      ev.seq = seq ∧ ∃ node sender, ev.kind = .timerFired node sender timerId
  | .spawnOnce seq actor service => ev.seq = seq ∧ ∃ node, ev.kind = .spawn node actor service
  | .spawnSame seq actor _ service => ev.seq = seq ∧ ∃ node, ev.kind = .spawn node actor service
  | .known _ seq actor => ev.seq = seq ∧ actor ∈ actorsOf ev.kind
  | .notDropped seq fromNode receiver msgId =>
      ev.seq = seq ∧ ∃ node payload, ev.kind = .netRecv node fromNode receiver msgId payload
  | .sourced seq receiver msgId => ev.seq = seq ∧ ∃ node, ev.kind = .deliver node receiver msgId
  | .fieldValid seq _ _ => ∃ msgId, Delivers ev seq msgId
  | .payloadDecodes seq msgId _ => Delivers ev seq msgId
  | .hasProvenance seq msgId => Delivers ev seq msgId
  | .rootOrigin seq msgId _ => Delivers ev seq msgId
  | .rootParentMsg seq msgId _ => Delivers ev seq msgId
  | .rootParentNode seq msgId _ _ => Delivers ev seq msgId
  | .rootOriginNode seq msgId _ _ => Delivers ev seq msgId
  | .rootOriginService seq msgId _ _ => Delivers ev seq msgId
  | .parentNotSelf seq msgId => Delivers ev seq msgId
  | .parentHops seq msgId _ _ _ _ => Delivers ev seq msgId
  | .parentOrigin seq msgId _ _ _ => Delivers ev seq msgId
  | .parentOriginNode seq msgId _ _ _ => Delivers ev seq msgId
  | .parentOriginService seq msgId _ _ _ => Delivers ev seq msgId
  | .effectMatches seq _ node actor msgId =>
      ev.seq = seq ∧ ∃ service msgType declared observed,
        ev.kind = .effectObserved node actor service msgType msgId declared observed
  | .effectAfterDeliver seq => ev.seq = seq
  | .declaredOnce seq => ev.seq = seq
  | .observedOnce seq => ev.seq = seq
  | .observedDeclared seq _ _ => ev.seq = seq
  | .timerEnd seq timerId => ev.seq = seq ∧ ∃ node sender, ev.kind = .timerFired node sender timerId
  | .deliverEnd seq => ∃ msgId, Delivers ev seq msgId
  | _ => False

/-- The finding is about the event. -/
structure Finding.IsAbout (finding : Finding V) (ev : TraceEvent V) : Prop where
  about : finding.about = some ev
  concerns : finding.violation.Concerns ev
  small : ∀ n ∈ finding.violation.numbers, n ≤ u64Max

end Identifiers

/-! ## What the state remembers -/

section Memory

variable {V : Type} {tool : ToolHost V}

/-- The state after an event: its numbers are `u64` values, and the timer and the
delivery that are still awaited are those of the event before. -/
structure Remembers (previous : Option (TraceEvent V)) (st : VerifyState V) : Prop where
  expectedSeq : st.expectedSeq ≤ u64Max
  seed : ∀ seed, st.seed = some seed → seed ≤ u64Max
  hops : ∀ key record, st.deliveredLineage.lookup key = some record → record.hops ≤ u64Max
  timer : st.pendingTimerEmit = previous.bind fun ev => firedBy ev.seq ev.kind
  effect : st.pendingEffectObserved = previous.bind fun ev => deliveredBy ev.seq ev.kind

theorem Remembers.initial : Remembers none (.initial : VerifyState V) where
  expectedSeq := Nat.zero_le _
  seed := fun seed same => by cases same
  hops := fun key record found => by cases found
  timer := rfl
  effect := rfl

theorem readLineage_hops (reads : ReadsUuids tool) {payload : V} {parsed : ParsedLineage}
    (read : readLineage tool payload = some parsed) : parsed.prov.hops ≤ u64Max := by
  obtain ⟨msgType, decoded⟩ := (readLineage_eq_some.mp read).decoded
  exact reads.hops payload _ _ decoded rfl

theorem lineageAfter_hops (reads : ReadsUuids tool) {table : HashMap LineageKey DeliveredLineage}
    (small : ∀ key record, table.lookup key = some record → record.hops ≤ u64Max) (msgId : MsgId)
    (payload : V) (key : LineageKey) (record : DeliveredLineage)
    (found : (lineageAfter tool table msgId payload).lookup key = some record) :
    record.hops ≤ u64Max := by
  unfold lineageAfter at found
  cases read : readLineage tool payload with
  | none =>
      rw [read] at found
      exact small key record found
  | some parsed =>
      rw [read] at found
      dsimp only at found
      by_cases same : key = (parsed.fromNode, msgId)
      · subst same
        rw [AList.lookup_insert] at found
        cases found
        exact readLineage_hops reads read
      · rw [AList.lookup_insert_ne same] at found
        exact small key record found

/-- The step lemma. -/
theorem Remembers.step (reads : ReadsUuids tool) {previous : Option (TraceEvent V)}
    {st : VerifyState V} (remembers : Remembers previous st) {ev : TraceEvent V}
    (range : InRange ev) : Remembers (some ev) (verifyEvent tool st ev) := by
  rw [verifyEvent_logs previous ev st]
  exact
    { expectedSeq := saturatingAdd_le _ _
      seed := fun seed same => by
        cases known : st.seed with
        | none =>
            have first : some (st.seed.getD ev.seed) = some seed := same
            rw [known] at first
            cases first
            exact range.seed
        | some old =>
            have kept : some (st.seed.getD ev.seed) = some seed := same
            rw [known] at kept
            cases kept
            exact remembers.seed _ known
      hops := fun key record found => by
        have found : (deliveredAfter tool st.produced st.deliveredLineage ev.kind).lookup key =
          some record := found
        unfold deliveredAfter at found
        split at found
        · split at found
          · exact lineageAfter_hops reads remembers.hops _ _ key record found
          · exact remembers.hops key record found
        · exact remembers.hops key record found
      timer := rfl
      effect := rfl }

end Memory

/-! ## Every finding is about an event -/

section Contexts

variable {V : Type} {tool : ToolHost V} {ev : TraceEvent V}

/-- All findings are about the event. -/
def AllAbout (ev : TraceEvent V) (findings : List (Finding V)) : Prop :=
  ∀ finding ∈ findings, finding.IsAbout ev

namespace AllAbout

variable {first later : List (Finding V)}

theorem nil : AllAbout ev [] := fun finding member => by cases member

theorem one {violation : Violation} (concerns : violation.Concerns ev)
    (small : ∀ n ∈ violation.numbers, n ≤ u64Max) : AllAbout ev [⟨violation, some ev⟩] := by
  intro finding member
  rw [List.mem_singleton.mp member]
  exact ⟨rfl, concerns, small⟩

theorem append (front : AllAbout ev first) (back : AllAbout ev later) :
    AllAbout ev (first ++ later) := by
  intro finding member
  rcases List.mem_append.mp member with here | there
  · exact front finding here
  · exact back finding there

theorem findingIf {fails : Prop} [Decidable fails] {violation : Violation}
    (concerns : fails → violation.Concerns ev)
    (small : fails → ∀ n ∈ violation.numbers, n ≤ u64Max) :
    AllAbout ev (findingIf fails violation (some ev)) := by
  unfold Tool.findingIf
  split
  · rename_i failed
    exact one (concerns failed) (small failed)
  · exact nil

end AllAbout

section Deliveries

variable {msgId : MsgId} (range : InRange ev) (delivery : Delivers ev ev.seq msgId)

include range delivery

end Deliveries

section Events

variable {previous : Option (TraceEvent V)} {st : VerifyState V} (range : InRange ev)

include range

omit range in
/-- The delivery that is awaited is the event before. -/
theorem Remembers.delivered (remembers : Remembers previous st) {pending : PendingEffect}
    (awaited : st.pendingEffectObserved = some pending) :
    ∃ before, previous = some before ∧ before.seq = pending.seq ∧
      before.kind = .deliver pending.node pending.receiver pending.msgId := by
  rw [remembers.effect] at awaited
  obtain ⟨⟨seq, seed, kind⟩, before, delivered⟩ := Option.bind_eq_some_iff.mp awaited
  cases kind with
  | deliver node receiver msgId =>
      cases delivered
      exact ⟨_, before, rfl, rfl⟩
  | _ => cases delivered

omit range in
/-- The timer that is awaited is the event before. -/
theorem Remembers.fired (remembers : Remembers previous st) {pending : PendingTimerEmit}
    (awaited : st.pendingTimerEmit = some pending) :
    ∃ before node, previous = some before ∧ before.seq = pending.seq ∧
      before.kind = .timerFired node pending.sender pending.timerId := by
  rw [remembers.timer] at awaited
  obtain ⟨⟨seq, seed, kind⟩, before, fired⟩ := Option.bind_eq_some_iff.mp awaited
  cases kind with
  | timerFired node sender timerId =>
      cases fired
      exact ⟨_, node, before, rfl, rfl⟩
  | _ => cases fired

end Events

end Contexts

end UcoStack.Tool
