import UcoStack.Library.ExceptRun
import UcoStack.Tool.Verify

/-!
# One step of the local verifier

What reading one event does to the state, and when it adds no problem.  The
variables other than the problems change in the same way whether or not a check
fails, so a step is a pure update, `advance`, plus a list of new problems that is
empty exactly when the event passes.
-/

namespace UcoStack.Tool

open UcoStack.Runtime

/-! ## Reported problems -/

section Reporting

variable {V : Type}

def VerifyState.addProblems (st : VerifyState V) (more : List String) : VerifyState V :=
  { st with problems := st.problems ++ more }

theorem VerifyState.addProblems_nil (st : VerifyState V) : st.addProblems [] = st := by
  simp [addProblems]

theorem VerifyState.addProblems_addProblems (st : VerifyState V) (first second : List String) :
    (st.addProblems first).addProblems second = st.addProblems (first ++ second) := by
  simp [addProblems]

/-- The state `result` is `after` with new problems, none exactly when `ok` holds. -/
def Reports (after : VerifyState V) (ok : Prop) (result : VerifyState V) : Prop :=
  ∃ more, result = after.addProblems more ∧ (more = [] ↔ ok)

namespace Reports

variable {after result : VerifyState V} {ok other : Prop}

theorem silent (st : VerifyState V) : Reports st True st :=
  ⟨[], st.addProblems_nil.symm, by simp⟩

theorem failing (st : VerifyState V) (problem : String) : Reports st False (st.report problem) :=
  ⟨[problem], rfl, by simp⟩

theorem iff (reports : Reports after ok result) (same : ok ↔ other) :
    Reports after other result := by
  obtain ⟨more, found, empty⟩ := reports
  exact ⟨more, found, empty.trans same⟩

theorem reportIf (st : VerifyState V) (fails : Prop) [Decidable fails] (problem : String) :
    Reports st (¬fails) (st.reportIf fails problem) := by
  unfold VerifyState.reportIf
  split
  · rename_i holds
    exact (failing st problem).iff (by simp [holds])
  · rename_i holds
    exact (silent st).iff (by simp [holds])

/-- A step that neither reads nor changes the problems comes next. -/
theorem andThen {next update : VerifyState V → VerifyState V} {Ok : VerifyState V → Prop}
    (first : Reports after ok result) (step : ∀ st, Reports (update st) (Ok st) (next st))
    (updates : ∀ st more, update (st.addProblems more) = (update st).addProblems more)
    (checks : ∀ st more, Ok (st.addProblems more) ↔ Ok st) :
    Reports (update after) (ok ∧ Ok after) (next result) := by
  obtain ⟨found, rfl, firstOk⟩ := first
  obtain ⟨more, same, secondOk⟩ := step (after.addProblems found)
  refine ⟨found ++ more, ?_, ?_⟩
  · rw [same, updates, VerifyState.addProblems_addProblems]
  · rw [List.append_eq_nil_iff, firstOk, secondOk, checks]

theorem thenIf (first : Reports after ok result) (fails : Prop) [Decidable fails]
    (problem : String) : Reports after (ok ∧ ¬fails) (result.reportIf fails problem) :=
  first.andThen (fun st => reportIf st fails problem) (fun _ _ => rfl) fun _ _ => Iff.rfl

/-- A pure update of the other variables comes next. -/
theorem update (first : Reports after ok result) (change : VerifyState V → VerifyState V)
    (updates : ∀ st more, change (st.addProblems more) = (change st).addProblems more) :
    Reports (change after) ok (change result) := by
  obtain ⟨found, rfl, firstOk⟩ := first
  exact ⟨found, updates after found, firstOk⟩

end Reports

end Reporting

/-! ## Lineage -/

section Lineage

variable {V : Type} {tool : ToolHost V}

/-- The fields read from a payload. -/
structure ReadsAs (tool : ToolHost V) (payload : V) (parsed : ParsedLineage) : Prop where
  decoded : ∃ msgType, tool.decodePayload payload =
    .ok ⟨msgType, parsed.fromNodeText, parsed.fromService, some parsed.prov⟩
  origin : tool.uuidParse parsed.prov.originMsgId = some parsed.originMsgId
  parentNode : tool.uuidParse
    (if parsed.prov.parentNode.isEmpty then parsed.fromNodeText else parsed.prov.parentNode) =
      some parsed.parentNode
  parentMsg : tool.uuidParse parsed.prov.parentMsgId = some parsed.parentMsgId
  sender : tool.uuidParse parsed.fromNodeText = some parsed.fromNode

theorem parseUuidField_ok {seq : Nat} {field raw : String} {id : Uuid} :
    parseUuidField tool seq field raw = .ok id ↔ tool.uuidParse raw = some id := by
  unfold parseUuidField
  cases tool.uuidParse raw with
  | none => simp
  | some parsed => simp

theorem parseLineage_ok {seq : Nat} {msgId : MsgId} {payload : V} {parsed : ParsedLineage} :
    parseLineage tool seq msgId payload = .ok parsed ↔ ReadsAs tool payload parsed := by
  constructor
  · intro ran
    unfold parseLineage at ran
    dsimp only at ran
    split at ran
    · cases ran
    · rename_i runtimePayload decoded
      split at ran
      · cases ran
      · rename_i prov present
        obtain ⟨originMsgId, origin, ran⟩ := ExceptRun.bind_ok.mp ran
        obtain ⟨parentNode, node, ran⟩ := ExceptRun.bind_ok.mp ran
        obtain ⟨parentMsgId, msg, ran⟩ := ExceptRun.bind_ok.mp ran
        obtain ⟨fromNode, sender, ran⟩ := ExceptRun.bind_ok.mp ran
        cases ran
        obtain ⟨msgType, fromNodeText, fromService, provenance⟩ := runtimePayload
        cases present
        exact ⟨⟨msgType, decoded⟩, parseUuidField_ok.mp origin, parseUuidField_ok.mp node,
          parseUuidField_ok.mp msg, parseUuidField_ok.mp sender⟩
  · rintro ⟨⟨msgType, decoded⟩, origin, node, msg, sender⟩
    unfold parseLineage
    simp only [decoded]
    refine ExceptRun.bind_ok.mpr ⟨_, parseUuidField_ok.mpr origin, ?_⟩
    refine ExceptRun.bind_ok.mpr ⟨_, parseUuidField_ok.mpr node, ?_⟩
    refine ExceptRun.bind_ok.mpr ⟨_, parseUuidField_ok.mpr msg, ?_⟩
    exact ExceptRun.bind_ok.mpr ⟨_, parseUuidField_ok.mpr sender, rfl⟩

/-- The fields of a payload, without the text of a failure. -/
def readLineage (tool : ToolHost V) (payload : V) : Option ParsedLineage :=
  (parseLineage tool 0 0 payload).toOption

theorem readLineage_eq_some {payload : V} {parsed : ParsedLineage} :
    readLineage tool payload = some parsed ↔ ReadsAs tool payload parsed := by
  unfold readLineage
  rw [← @parseLineage_ok V tool 0 0]
  cases parseLineage tool 0 0 payload with
  | error problem => simp [Except.toOption]
  | ok found => simp [Except.toOption]

theorem readLineage_eq_none {seq : Nat} {msgId : MsgId} {payload : V} {problem : String}
    (failed : parseLineage tool seq msgId payload = .error problem) :
    readLineage tool payload = none := by
  cases found : readLineage tool payload with
  | none => rfl
  | some parsed =>
      have reads : parseLineage tool seq msgId payload = .ok parsed :=
        parseLineage_ok.mpr (readLineage_eq_some.mp found)
      rw [failed] at reads
      cases reads

/-- What the table of delivered messages keeps. -/
def ParsedLineage.record (parsed : ParsedLineage) : DeliveredLineage :=
  { originMsgId := parsed.originMsgId
    originNode := parsed.prov.originNode
    originService := parsed.prov.originService
    hops := parsed.prov.hops }

/-- A message without hops names itself. -/
structure ParsedLineage.IsRoot (parsed : ParsedLineage) (msgId : MsgId) : Prop where
  originMsgId : parsed.originMsgId = msgId
  parentMsgId : parsed.parentMsgId = msgId
  parentNode : parsed.parentNode = parsed.fromNode
  originNode : parsed.prov.originNode = parsed.fromNodeText
  originService : parsed.prov.originService = parsed.fromService

/-- A message one hop after `parent`. -/
structure ParsedLineage.Continues (parsed : ParsedLineage) (parent : DeliveredLineage) : Prop where
  hops : parsed.prov.hops = saturatingAdd parent.hops 1
  originMsgId : parsed.originMsgId = parent.originMsgId
  originNode : parsed.prov.originNode = parent.originNode
  originService : parsed.prov.originService = parent.originService

/-- The lineage of a delivered payload is in order; `delivered` gives the messages
delivered before. -/
structure ParsedLineage.InOrder (parsed : ParsedLineage) (msgId : MsgId)
    (delivered : LineageKey → Option DeliveredLineage) : Prop where
  root : parsed.prov.hops = 0 → parsed.IsRoot msgId
  notSelf : parsed.prov.hops ≠ 0 →
    ¬(parsed.parentNode = parsed.fromNode ∧ parsed.parentMsgId = msgId)
  parent : parsed.prov.hops ≠ 0 →
    ∀ parent, delivered (parsed.parentNode, parsed.parentMsgId) = some parent →
      parsed.Continues parent

theorem checkRoot_reports (seq : Nat) (msgId : MsgId) (parsed : ParsedLineage)
    (st : VerifyState V) :
    Reports st (parsed.IsRoot msgId) (checkRoot tool seq msgId parsed st) := by
  unfold checkRoot
  refine Reports.iff (Reports.thenIf (Reports.thenIf (Reports.thenIf (Reports.thenIf
    (Reports.reportIf st _ _) _ _) _ _) _ _) _ _) ?_
  simp only [not_not]
  constructor
  · rintro ⟨⟨⟨⟨originMsgId, parentMsgId⟩, parentNode⟩, originNode⟩, originService⟩
    exact ⟨originMsgId, parentMsgId, parentNode, originNode, originService⟩
  · rintro ⟨originMsgId, parentMsgId, parentNode, originNode, originService⟩
    exact ⟨⟨⟨⟨originMsgId, parentMsgId⟩, parentNode⟩, originNode⟩, originService⟩

theorem checkParent_reports (seq : Nat) (msgId : MsgId) (parsed : ParsedLineage)
    (parent : DeliveredLineage) (st : VerifyState V) :
    Reports st (parsed.Continues parent) (checkParent tool seq msgId parsed parent st) := by
  unfold checkParent
  refine Reports.iff (Reports.thenIf (Reports.thenIf (Reports.thenIf
    (Reports.reportIf st _ _) _ _) _ _) _ _) ?_
  simp only [not_not]
  constructor
  · rintro ⟨⟨⟨hops, originMsgId⟩, originNode⟩, originService⟩
    exact ⟨hops, originMsgId, originNode, originService⟩
  · rintro ⟨hops, originMsgId, originNode, originService⟩
    exact ⟨⟨⟨hops, originMsgId⟩, originNode⟩, originService⟩

theorem checkDeliveredParent_reports (seq : Nat) (msgId : MsgId) (parsed : ParsedLineage)
    (st : VerifyState V) :
    Reports (id st)
      (∀ parent, st.deliveredLineage.lookup (parsed.parentNode, parsed.parentMsgId) =
        some parent → parsed.Continues parent)
      (checkDeliveredParent tool seq msgId parsed st) := by
  unfold checkDeliveredParent
  cases found : st.deliveredLineage.lookup (parsed.parentNode, parsed.parentMsgId) with
  | none => exact (Reports.silent st).iff (by simp)
  | some parent => exact (checkParent_reports seq msgId parsed parent st).iff (by simp)

/-- The table after a delivery: a payload that could be read is entered. -/
def lineageAfter (tool : ToolHost V) (table : HashMap LineageKey DeliveredLineage)
    (msgId : MsgId) (payload : V) : HashMap LineageKey DeliveredLineage :=
  match readLineage tool payload with
  | some parsed => table.insert (parsed.fromNode, msgId) parsed.record
  | none => table

theorem verifyPayloadLineage_reports (seq : Nat) (msgId : MsgId) (payload : V)
    (st : VerifyState V) :
    Reports { st with deliveredLineage := lineageAfter tool st.deliveredLineage msgId payload }
      (∃ parsed, readLineage tool payload = some parsed ∧
        parsed.InOrder msgId fun key => st.deliveredLineage.lookup key)
      (verifyPayloadLineage tool seq msgId payload st) := by
  unfold verifyPayloadLineage lineageAfter
  cases parse : parseLineage tool seq msgId payload with
  | error problem =>
      rw [readLineage_eq_none parse]
      exact (Reports.failing st problem).iff (by simp)
  | ok parsed =>
      rw [readLineage_eq_some.mpr (parseLineage_ok.mp parse)]
      let enter (st : VerifyState V) : VerifyState V :=
        { st with
          deliveredLineage := st.deliveredLineage.insert (parsed.fromNode, msgId) parsed.record }
      have entered {ok : Prop} {result : VerifyState V} (checked : Reports st ok result) :
          Reports (enter st) ok (enter result) :=
        checked.update enter fun _ _ => rfl
      dsimp only
      by_cases root : parsed.prov.hops = 0
      · rw [if_pos root]
        refine (entered (checkRoot_reports seq msgId parsed st)).iff ?_
        constructor
        · intro isRoot
          exact ⟨parsed, rfl, fun _ => isRoot, fun more => absurd root more,
            fun more => absurd root more⟩
        · rintro ⟨_, same, inOrder⟩
          cases same
          exact inOrder.root root
      · rw [if_neg root]
        have notSelf := Reports.reportIf st
          (parsed.parentNode = parsed.fromNode ∧ parsed.parentMsgId = msgId)
          (s!"Deliver at seq {seq} msg_id={tool.uuidToString msgId} has hops>0 but " ++
            "parent_msg_id is self")
        have parents := notSelf.andThen (@checkDeliveredParent_reports V tool seq msgId parsed)
          (fun _ _ => rfl) fun _ _ => Iff.rfl
        refine (entered parents).iff ?_
        constructor
        · rintro ⟨self, continues⟩
          exact ⟨parsed, rfl, fun zero => absurd zero root, fun _ => self, fun _ => continues⟩
        · rintro ⟨_, same, inOrder⟩
          cases same
          exact ⟨inOrder.notSelf root, inOrder.parent root⟩

end Lineage

/-! ## The variables after an event -/

section Advance

variable {V : Type}

def spawnedAfter (spawned : HashMap ActorId String) : EventKind V → HashMap ActorId String
  | .spawn _ actor service => spawned.insert actor service
  | _ => spawned

def pushPayload (produced : HashMap DeliveryKey (List V)) (key : DeliveryKey) (payload : V) :
    HashMap DeliveryKey (List V) :=
  produced.insert key ((produced.lookup key).getD [] ++ [payload])

/-- The first payload of a key is taken; a key without payloads is removed. -/
def popPayload (produced : HashMap DeliveryKey (List V)) (key : DeliveryKey) :
    HashMap DeliveryKey (List V) :=
  match produced.lookup key with
  | none => produced
  | some [] => produced.erase key
  | some (_ :: queue) => if queue.isEmpty then produced.erase key else produced.insert key queue

def producedAfter (produced : HashMap DeliveryKey (List V)) :
    EventKind V → HashMap DeliveryKey (List V)
  | .send _ receiver msgId payload => pushPayload produced (receiver, msgId) payload
  | .netRecv _ _ receiver msgId payload => pushPayload produced (receiver, msgId) payload
  | .deliver _ receiver msgId => popPayload produced (receiver, msgId)
  | _ => produced

def deliveredAfter (tool : ToolHost V) (produced : HashMap DeliveryKey (List V))
    (table : HashMap LineageKey DeliveredLineage) :
    EventKind V → HashMap LineageKey DeliveredLineage
  | .deliver _ receiver msgId =>
      match produced.lookup (receiver, msgId) with
      | some (payload :: _) => lineageAfter tool table msgId payload
      | _ => table
  | _ => table

def droppedAfter (dropped : Finset (NodeId × ActorId × MsgId)) :
    EventKind V → Finset (NodeId × ActorId × MsgId)
  | .faultInjected _ fromNode receiver msgId .drop => insert (fromNode, receiver, msgId) dropped
  | _ => dropped

/-- The timer an event fires. -/
def firedBy (seq : Nat) : EventKind V → Option PendingTimerEmit
  | .timerFired _ sender timerId => some ⟨seq, sender, timerId⟩
  | _ => none

def deliveredBy (seq : Nat) : EventKind V → Option PendingEffect
  | .deliver node receiver msgId => some ⟨seq, node, receiver, msgId⟩
  | _ => none

def advance (tool : ToolHost V) (ev : TraceEvent V) (st : VerifyState V) : VerifyState V :=
  { problems := st.problems
    seed := some (st.seed.getD ev.seed)
    expectedSeq := saturatingAdd ev.seq 1
    spawned := spawnedAfter st.spawned ev.kind
    produced := producedAfter st.produced ev.kind
    deliveredLineage := deliveredAfter tool st.produced st.deliveredLineage ev.kind
    dropped := droppedAfter st.dropped ev.kind
    pendingTimerEmit := firedBy ev.seq ev.kind
    pendingEffectObserved := deliveredBy ev.seq ev.kind }

end Advance

/-! ## When an event passes -/

section Passing

variable {V : Type}

/-- The actors an event names, a spawned one apart. -/
def named : EventKind V → List ActorId
  | .send sender receiver _ _ => [sender, receiver]
  | .netRecv _ _ receiver _ _ => [receiver]
  | .deliver _ receiver _ => [receiver]
  | .netSend _ _ sender _ _ => [sender]
  | .log _ sender _ _ => [sender]
  | .effectObserved _ actor _ _ _ _ _ => [actor]
  | _ => []

def isEffectObserved : EventKind V → Bool
  | .effectObserved .. => true
  | _ => false

/-- The checks of single kinds of events. -/
def KindPasses (tool : ToolHost V) (st : VerifyState V) : EventKind V → Prop
  | .spawn _ actor _ => st.spawned.lookup actor = none
  | .netRecv _ fromNode receiver msgId _ => (fromNode, receiver, msgId) ∉ st.dropped
  | .deliver _ receiver msgId => ∃ payload queue,
      st.produced.lookup (receiver, msgId) = some (payload :: queue) ∧
        ∃ parsed, readLineage tool payload = some parsed ∧
          parsed.InOrder msgId fun key => st.deliveredLineage.lookup key
  | .effectObserved node actor _ _ msgId declared observed =>
      (∃ pending, st.pendingEffectObserved = some pending ∧
        node = pending.node ∧ actor = pending.receiver ∧ msgId = pending.msgId) ∧
        declared.Nodup ∧ observed.Nodup ∧ observed ⊆ declared
  | _ => True

structure Passes (tool : ToolHost V) (ev : TraceEvent V) (st : VerifyState V) : Prop where
  seq : ev.seq = st.expectedSeq
  seed : ∀ seed, st.seed = some seed → seed = ev.seed
  effect : st.pendingEffectObserved.isSome → isEffectObserved ev.kind = true
  timer : ∀ pending, st.pendingTimerEmit = some pending → emitter ev.kind = some pending.sender
  known : ∀ actor ∈ named ev.kind, ¬st.Unknown actor
  kind : KindPasses tool st ev.kind

end Passing

/-! ## The step lemma -/

section Steps

variable {V : Type} {tool : ToolHost V}

theorem checkSeq_reports (ev : TraceEvent V) (st : VerifyState V) :
    Reports { st with expectedSeq := saturatingAdd ev.seq 1 } (ev.seq = st.expectedSeq)
      (checkSeq ev st) := by
  unfold checkSeq
  split
  · rename_i differs
    exact ⟨[_], rfl, by simpa using differs⟩
  · rename_i same
    rw [not_not.mp same]
    exact (Reports.silent _).iff (by simp)

theorem checkSeed_reports (ev : TraceEvent V) (st : VerifyState V) :
    Reports { st with seed := some (st.seed.getD ev.seed) }
      (∀ seed, st.seed = some seed → seed = ev.seed) (checkSeed ev st) := by
  unfold checkSeed
  obtain ⟨problems, seed, expectedSeq, spawned, produced, lineage, dropped, timer, effect⟩ := st
  cases seed with
  | none => exact (Reports.silent _).iff (by simp)
  | some seed => exact (Reports.reportIf _ _ _).iff (by simp)

theorem checkEffectGap_reports (ev : TraceEvent V) (st : VerifyState V) :
    Reports { st with pendingEffectObserved :=
        if isEffectObserved ev.kind then st.pendingEffectObserved else none }
      (st.pendingEffectObserved.isSome → isEffectObserved ev.kind = true)
      (checkEffectGap tool ev st) := by
  obtain ⟨problems, seed, expectedSeq, spawned, produced, lineage, dropped, timer, effect⟩ := st
  obtain ⟨seq, seed', kind⟩ := ev
  unfold checkEffectGap
  cases effect with
  | none =>
      cases kind <;> exact (Reports.silent _).iff (by simp)
  | some pending =>
      cases kind with
      | effectObserved => exact (Reports.silent _).iff (by simp [isEffectObserved])
      | _ => exact ⟨[_], rfl, by simp [isEffectObserved]⟩

theorem checkTimerGap_reports (ev : TraceEvent V) (st : VerifyState V) :
    Reports { st with pendingTimerEmit := none }
      (∀ pending, st.pendingTimerEmit = some pending → emitter ev.kind = some pending.sender)
      (checkTimerGap tool ev st) := by
  obtain ⟨problems, seed, expectedSeq, spawned, produced, lineage, dropped, timer, effect⟩ := st
  unfold checkTimerGap
  cases timer with
  | none => exact (Reports.silent _).iff (by simp)
  | some pending =>
      dsimp only
      cases emits : emitter ev.kind with
      | none => exact ⟨[_], rfl, by simp⟩
      | some sender =>
          refine Reports.iff (Reports.update (Reports.reportIf _ _ _) VerifyState.clearTimer
            fun _ _ => rfl) ?_
          simp

theorem checkKnown_reports (tool : ToolHost V) (what : String) (seq : Nat) (role : String)
    (actor : ActorId) (st : VerifyState V) :
    Reports (id st) (¬st.Unknown actor) (checkKnown tool what seq role actor st) :=
  Reports.reportIf st _ _

theorem checkSpawn_reports (seq : Nat) (actor : ActorId) (service : String)
    (st : VerifyState V) :
    Reports { st with spawned := st.spawned.insert actor service }
      (st.spawned.lookup actor = none) (checkSpawn tool seq actor service st) := by
  unfold checkSpawn
  cases found : st.spawned.lookup actor with
  | none => exact (Reports.silent _).iff (by simp)
  | some prev =>
      dsimp only
      split
      · exact (Reports.failing _ _).iff (by simp)
      · exact (Reports.failing _ _).iff (by simp)

theorem checkSend_reports (seq : Nat) (sender receiver : ActorId) (msgId : MsgId) (payload : V)
    (st : VerifyState V) :
    Reports { st with produced := pushPayload st.produced (receiver, msgId) payload }
      (¬st.Unknown sender ∧ ¬st.Unknown receiver)
      (checkSend tool seq sender receiver msgId payload st) := by
  have first := checkKnown_reports tool "Send" seq "from" sender st
  have both := first.andThen (checkKnown_reports tool "Send" seq "to" receiver)
    (fun _ _ => rfl) fun _ _ => Iff.rfl
  exact both.update (fun st => st.pushProduced (receiver, msgId) payload) fun _ _ => rfl

theorem checkNetRecv_reports (seq : Nat) (fromNode : NodeId) (receiver : ActorId)
    (msgId : MsgId) (payload : V) (st : VerifyState V) :
    Reports { st with produced := pushPayload st.produced (receiver, msgId) payload }
      (¬st.Unknown receiver ∧ (fromNode, receiver, msgId) ∉ st.dropped)
      (checkNetRecv tool seq fromNode receiver msgId payload st) := by
  have first := checkKnown_reports tool "NetRecv" seq "to" receiver st
  unfold checkNetRecv
  refine Reports.update (Reports.andThen first
    (fun st => Reports.reportIf st ((fromNode, receiver, msgId) ∈ st.dropped) _)
    (fun _ _ => rfl) fun _ _ => Iff.rfl) (fun st => st.pushProduced (receiver, msgId) payload) ?_
  exact fun _ _ => rfl

/-- A payload waiting for the delivery is taken and its lineage checked. -/
theorem takePayload_reports (seq : Nat) (node : NodeId) (receiver : ActorId) (msgId : MsgId)
    (st : VerifyState V) :
    Reports
      { st with
        produced := popPayload st.produced (receiver, msgId)
        deliveredLineage := deliveredAfter tool st.produced st.deliveredLineage
          (.deliver node receiver msgId) }
      (KindPasses tool st (.deliver node receiver msgId))
      (takePayload tool seq receiver msgId st) := by
  unfold takePayload popPayload deliveredAfter KindPasses
  dsimp only
  cases found : st.produced.lookup (receiver, msgId) with
  | none =>
      dsimp only
      refine (Reports.failing st _).iff ?_
      simp
  | some payloads =>
      cases payloads with
      | nil =>
          dsimp only
          refine Reports.iff (Reports.update (Reports.failing st _)
            (fun after => after.setProduced (st.produced.erase (receiver, msgId)))
            fun _ _ => rfl) ?_
          simp
      | cons payload queue =>
          dsimp only
          refine Reports.iff (Reports.update
            (verifyPayloadLineage_reports seq msgId payload st)
            (fun st => st.setProduced (if queue.isEmpty then st.produced.erase (receiver, msgId)
              else st.produced.insert (receiver, msgId) queue)) fun _ _ => rfl) ?_
          simp

theorem checkDeliver_reports (seq : Nat) (node : NodeId) (receiver : ActorId) (msgId : MsgId)
    (st : VerifyState V) :
    Reports
      { st with
        produced := popPayload st.produced (receiver, msgId)
        deliveredLineage := deliveredAfter tool st.produced st.deliveredLineage
          (.deliver node receiver msgId)
        pendingEffectObserved := some ⟨seq, node, receiver, msgId⟩ }
      (¬st.Unknown receiver ∧ KindPasses tool st (.deliver node receiver msgId))
      (checkDeliver tool seq node receiver msgId st) := by
  have first := checkKnown_reports tool "Deliver" seq "to" receiver st
  have taken := first.andThen (@takePayload_reports V tool seq node receiver msgId)
    (fun _ _ => rfl) fun _ _ => Iff.rfl
  exact taken.update (fun st => st.expectEffect ⟨seq, node, receiver, msgId⟩) fun _ _ => rfl

/-- The effect record is compared with the delivery before it. -/
theorem matchEffect_reports (seq : Nat) (node : NodeId) (actor : ActorId) (msgId : MsgId)
    (st : VerifyState V) :
    Reports st.clearEffect
      (∃ pending, st.pendingEffectObserved = some pending ∧
        node = pending.node ∧ actor = pending.receiver ∧ msgId = pending.msgId)
      (matchEffect tool seq node actor msgId st) := by
  obtain ⟨problems, seed, expectedSeq, spawned, produced, lineage, dropped, timer, effect⟩ := st
  unfold matchEffect
  cases effect with
  | none => exact (Reports.failing _ _).iff (by simp)
  | some pending =>
      refine Reports.iff (Reports.update (Reports.reportIf _ _ _) VerifyState.clearEffect
        fun _ _ => rfl) ?_
      simp

theorem toFinset_card_eq (effects : List EffectKind) :
    effects.toFinset.card = effects.length ↔ effects.Nodup :=
  Multiset.toFinset_card_eq_card_iff_nodup (m := (effects : Multiset EffectKind))

theorem checkEffects_reports (seq : Nat) (declared observed : List EffectKind)
    (st : VerifyState V) :
    Reports (id st) (declared.Nodup ∧ observed.Nodup ∧ observed ⊆ declared)
      (checkEffects seq declared observed st) := by
  unfold checkEffects
  apply Reports.iff (Reports.thenIf (Reports.thenIf (Reports.reportIf st _ _) _ _) _ _)
  have subset : observed.toFinset \ declared.toFinset = ∅ ↔ observed ⊆ declared := by
    rw [Finset.sdiff_eq_empty_iff_subset]
    simp [Finset.subset_iff, List.subset_def]
  simp only [ne_eq, not_not, toFinset_card_eq, subset, and_assoc]

theorem checkEffectObserved_reports (seq : Nat) (node : NodeId) (actor : ActorId)
    (msgId : MsgId) (declared observed : List EffectKind) (st : VerifyState V) :
    Reports st.clearEffect
      ((¬st.Unknown actor ∧ ∃ pending, st.pendingEffectObserved = some pending ∧
        node = pending.node ∧ actor = pending.receiver ∧ msgId = pending.msgId) ∧
        declared.Nodup ∧ observed.Nodup ∧ observed ⊆ declared)
      (checkEffectObserved tool seq node actor msgId declared observed st) := by
  have first := checkKnown_reports tool "EffectObserved" seq "from" actor st
  have second := first.andThen (@matchEffect_reports V tool seq node actor msgId)
    (fun _ _ => rfl) fun _ _ => Iff.rfl
  exact second.andThen (checkEffects_reports seq declared observed) (fun _ _ => rfl)
    fun _ _ => Iff.rfl

/-- What the last check does to the variables. -/
def advanceKind (tool : ToolHost V) (ev : TraceEvent V) (st : VerifyState V) : VerifyState V :=
  { st with
    spawned := spawnedAfter st.spawned ev.kind
    produced := producedAfter st.produced ev.kind
    deliveredLineage := deliveredAfter tool st.produced st.deliveredLineage ev.kind
    dropped := droppedAfter st.dropped ev.kind
    pendingTimerEmit := (firedBy ev.seq ev.kind).or st.pendingTimerEmit
    pendingEffectObserved :=
      if isEffectObserved ev.kind then none
      else (deliveredBy ev.seq ev.kind).or st.pendingEffectObserved }

theorem checkKind_reports (ev : TraceEvent V) (st : VerifyState V) :
    Reports (advanceKind tool ev st)
      ((∀ actor ∈ named ev.kind, ¬st.Unknown actor) ∧ KindPasses tool st ev.kind)
      (checkKind tool ev st) := by
  obtain ⟨seq, seed, kind⟩ := ev
  cases kind with
  | spawn node actor service =>
      refine (checkSpawn_reports seq actor service st).iff ?_
      simp [named, KindPasses]
  | send sender receiver msgId payload =>
      refine (checkSend_reports seq sender receiver msgId payload st).iff ?_
      simp [named, KindPasses]
  | netRecv node fromNode receiver msgId payload =>
      refine (checkNetRecv_reports seq fromNode receiver msgId payload st).iff ?_
      simp [named, KindPasses]
  | deliver node receiver msgId =>
      refine (checkDeliver_reports seq node receiver msgId st).iff ?_
      simp [named]
  | netSend node toNode sender msgId payload =>
      refine (checkKnown_reports tool "NetSend" seq "from" sender st).iff ?_
      simp [named, KindPasses]
  | log node sender service text =>
      refine (checkKnown_reports tool "Log" seq "from" sender st).iff ?_
      simp [named, KindPasses]
  | effectObserved node actor service msgType msgId declared observed =>
      refine (checkEffectObserved_reports seq node actor msgId declared observed st).iff ?_
      simp [named, KindPasses, and_assoc]
  | faultInjected node fromNode receiver msgId action =>
      cases action with
      | drop => exact (Reports.silent _).iff (by simp [named, KindPasses])
      | delay steps => exact (Reports.silent _).iff (by simp [named, KindPasses])
      | reorder window => exact (Reports.silent _).iff (by simp [named, KindPasses])
  | faultPolicy node step dropEvery delaySteps reorderWindow =>
      exact (Reports.silent _).iff (by simp [named, KindPasses])
  | timerFired node sender timerId =>
      exact (Reports.silent _).iff (by simp [named, KindPasses])

/-- The step lemma: reading an event advances the variables and adds no problem
exactly when the event passes. -/
theorem verifyEvent_reports (ev : TraceEvent V) (st : VerifyState V) :
    Reports (advance tool ev st) (Passes tool ev st) (verifyEvent tool st ev) := by
  have seq := checkSeq_reports ev st
  have seed := seq.andThen (checkSeed_reports ev) (fun _ _ => rfl) fun _ _ => Iff.rfl
  have effect := seed.andThen (@checkEffectGap_reports V tool ev) (fun _ _ => rfl)
    fun _ _ => Iff.rfl
  have timer := effect.andThen (@checkTimerGap_reports V tool ev) (fun _ _ => rfl)
    fun _ _ => Iff.rfl
  have whole := timer.andThen (@checkKind_reports V tool ev) (fun _ _ => rfl) fun _ _ => Iff.rfl
  clear seq seed effect timer
  obtain ⟨more, result, passes⟩ := whole
  obtain ⟨seq, seed, kind⟩ := ev
  refine ⟨more, ?_, passes.trans ?_⟩
  · refine result.trans (congrArg (VerifyState.addProblems · more) ?_)
    cases kind <;> rfl
  · constructor
    · rintro ⟨⟨⟨⟨seqOk, seedOk⟩, effectOk⟩, timerOk⟩, knownOk, kindOk⟩
      refine ⟨seqOk, seedOk, effectOk, timerOk, knownOk, ?_⟩
      cases kind <;> exact kindOk
    · rintro ⟨seqOk, seedOk, effectOk, timerOk, knownOk, kindOk⟩
      refine ⟨⟨⟨⟨seqOk, seedOk⟩, effectOk⟩, timerOk⟩, knownOk, ?_⟩
      cases kind <;> exact kindOk

end Steps

end UcoStack.Tool
