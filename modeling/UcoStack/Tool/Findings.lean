import UcoStack.Tool.LocalStep
import UcoStack.Tool.Violations

/-!
# Findings

The problems of a trace are the messages of its findings: each is a violation
together with the event that it is about.  A check between two events is about the
first of them.
-/

namespace UcoStack.Tool

open UcoStack.Runtime
open Format

structure Finding (V : Type) where
  violation : Violation
  about : Option (TraceEvent V)

def Finding.problem {V : Type} (tool : ToolHost V) (finding : Finding V) : String :=
  finding.violation.message tool

section Findings

variable {V : Type} (tool : ToolHost V)

def findingIf (fails : Prop) [Decidable fails] (violation : Violation)
    (about : Option (TraceEvent V)) : List (Finding V) :=
  if fails then [⟨violation, about⟩] else []

/-! ## Lineage -/

def readField (seq : Nat) (field : UuidField) (raw : String) : Except Violation Uuid :=
  match tool.uuidParse raw with
  | some id => .ok id
  | none => .error (.fieldValid seq field raw)

/-- `parseLineage` with the failed check in place of its message. -/
def readPayload (seq : Nat) (msgId : MsgId) (payload : V) : Except Violation ParsedLineage :=
  match tool.decodePayload payload with
  | .error err => .error (.payloadDecodes seq msgId err)
  | .ok runtimePayload =>
      match runtimePayload.provenance with
      | none => .error (.hasProvenance seq msgId)
      | some prov => do
          let originMsgId ← readField tool seq .originMsgId prov.originMsgId
          let parentNodeRaw :=
            if prov.parentNode.isEmpty then runtimePayload.fromNode else prov.parentNode
          let parentNode ← readField tool seq .parentNode parentNodeRaw
          let parentMsgId ← readField tool seq .parentMsgId prov.parentMsgId
          let fromNode ← readField tool seq .fromNode runtimePayload.fromNode
          pure
            { fromNodeText := runtimePayload.fromNode
              fromService := runtimePayload.fromService
              prov := prov
              originMsgId := originMsgId
              parentNode := parentNode
              parentMsgId := parentMsgId
              fromNode := fromNode }

def rootFindings (seq : Nat) (msgId : MsgId) (parsed : ParsedLineage)
    (about : Option (TraceEvent V)) : List (Finding V) :=
  findingIf (parsed.originMsgId ≠ msgId) (.rootOrigin seq msgId parsed.originMsgId) about ++
    findingIf (parsed.parentMsgId ≠ msgId) (.rootParentMsg seq msgId parsed.parentMsgId) about ++
    findingIf (parsed.parentNode ≠ parsed.fromNode)
      (.rootParentNode seq msgId parsed.parentNode parsed.fromNode) about ++
    findingIf (parsed.prov.originNode ≠ parsed.fromNodeText)
      (.rootOriginNode seq msgId parsed.prov.originNode parsed.fromNodeText) about ++
    findingIf (parsed.prov.originService ≠ parsed.fromService)
      (.rootOriginService seq msgId parsed.prov.originService parsed.fromService) about

def ParsedLineage.parent (parsed : ParsedLineage) : LineageKey :=
  (parsed.parentNode, parsed.parentMsgId)

def parentFindings (seq : Nat) (msgId : MsgId) (parsed : ParsedLineage)
    (later : parsed.prov.hops ≠ 0) (parent : DeliveredLineage)
    (about : Option (TraceEvent V)) : List (Finding V) :=
  findingIf (parsed.prov.hops ≠ saturatingAdd parent.hops 1)
      (.parentHops seq msgId parsed.prov.hops later parsed.parent parent.hops) about ++
    findingIf (parsed.originMsgId ≠ parent.originMsgId)
      (.parentOrigin seq msgId parsed.originMsgId parsed.parent parent.originMsgId) about ++
    findingIf (parsed.prov.originNode ≠ parent.originNode)
      (.parentOriginNode seq msgId parsed.prov.originNode parsed.parent parent.originNode) about ++
    findingIf (parsed.prov.originService ≠ parent.originService)
      (.parentOriginService seq msgId parsed.prov.originService parsed.parent
        parent.originService) about

def deliveredParentFindings (seq : Nat) (msgId : MsgId) (parsed : ParsedLineage)
    (later : parsed.prov.hops ≠ 0) (about : Option (TraceEvent V)) (st : VerifyState V) :
    List (Finding V) :=
  match st.deliveredLineage.lookup parsed.parent with
  | some parent => parentFindings seq msgId parsed later parent about
  | none => []

def lineageFindings (seq : Nat) (msgId : MsgId) (payload : V) (about : Option (TraceEvent V))
    (st : VerifyState V) : List (Finding V) :=
  match readPayload tool seq msgId payload with
  | .error violation => [⟨violation, about⟩]
  | .ok parsed =>
      if later : parsed.prov.hops ≠ 0 then
        findingIf (parsed.parentNode = parsed.fromNode ∧ parsed.parentMsgId = msgId)
            (.parentNotSelf seq msgId) about ++
          deliveredParentFindings seq msgId parsed later about st
      else rootFindings seq msgId parsed about

/-! ## Events -/

def seqFindings (ev : TraceEvent V) (st : VerifyState V) : List (Finding V) :=
  findingIf (ev.seq ≠ st.expectedSeq) (.seqNext st.expectedSeq ev.seq) (some ev)

def seedFindings (ev : TraceEvent V) (st : VerifyState V) : List (Finding V) :=
  match st.seed with
  | none => []
  | some seed => findingIf (seed ≠ ev.seed) (.seedSame ev.seq seed ev.seed) (some ev)

variable (previous : Option (TraceEvent V))

def effectGapFindings (ev : TraceEvent V) (st : VerifyState V) : List (Finding V) :=
  match st.pendingEffectObserved with
  | none => []
  | some pending =>
      findingIf (isEffectObserved ev.kind = false)
        (.effectGap pending.seq (tool.debugEvent ev.kind) ev.seq) previous

def timerGapFindings (ev : TraceEvent V) (st : VerifyState V) : List (Finding V) :=
  match st.pendingTimerEmit with
  | none => []
  | some pending =>
      match emitter ev.kind with
      | some sender =>
          findingIf (sender ≠ pending.sender)
            (.timerActor pending.seq pending.timerId pending.sender sender ev.seq) previous
      | none =>
          [⟨.timerGap pending.seq pending.timerId (tool.debugEvent ev.kind) ev.seq, previous⟩]

def spawnFindings (ev : TraceEvent V) (actor : ActorId) (service : String)
    (st : VerifyState V) : List (Finding V) :=
  match st.spawned.lookup actor with
  | none => []
  | some prev =>
      if prev = service then [⟨.spawnOnce ev.seq actor service, some ev⟩]
      else [⟨.spawnSame ev.seq actor prev service, some ev⟩]

def knownFindings (naming : Naming) (ev : TraceEvent V) (actor : ActorId)
    (st : VerifyState V) : List (Finding V) :=
  findingIf (st.Unknown actor) (.known naming ev.seq actor) (some ev)

def payloadFindings (ev : TraceEvent V) (receiver : ActorId) (msgId : MsgId)
    (st : VerifyState V) : List (Finding V) :=
  match st.produced.lookup (receiver, msgId) with
  | some (payload :: _) => lineageFindings tool ev.seq msgId payload (some ev) st
  | _ => [⟨.sourced ev.seq receiver msgId, some ev⟩]

/-- The effect record is about itself, also where it differs from the delivery before it. -/
def matchFindings (ev : TraceEvent V) (node : NodeId) (actor : ActorId) (msgId : MsgId)
    (st : VerifyState V) : List (Finding V) :=
  match st.pendingEffectObserved with
  | some pending =>
      findingIf (node ≠ pending.node ∨ actor ≠ pending.receiver ∨ msgId ≠ pending.msgId)
        (.effectMatches ev.seq pending node actor msgId) (some ev)
  | none => [⟨.effectAfterDeliver ev.seq, some ev⟩]

def effectFindings (ev : TraceEvent V) (declared observed : List EffectKind) :
    List (Finding V) :=
  findingIf (declared.toFinset.card ≠ declared.length) (.declaredOnce ev.seq) (some ev) ++
    findingIf (observed.toFinset.card ≠ observed.length) (.observedOnce ev.seq) (some ev) ++
    findingIf (observed.toFinset \ declared.toFinset ≠ ∅)
      (.observedDeclared ev.seq (observed.toFinset \ declared.toFinset) declared.toFinset) (some ev)

def kindFindings (ev : TraceEvent V) (st : VerifyState V) : List (Finding V) :=
  match ev.kind with
  | .spawn _ actor service => spawnFindings ev actor service st
  | .send sender receiver _ _ =>
      knownFindings .sendFrom ev sender st ++ knownFindings .sendTo ev receiver st
  | .netRecv _ fromNode receiver msgId _ =>
      knownFindings .netRecvTo ev receiver st ++
        findingIf ((fromNode, receiver, msgId) ∈ st.dropped)
          (.notDropped ev.seq fromNode receiver msgId) (some ev)
  | .deliver _ receiver msgId =>
      knownFindings .deliverTo ev receiver st ++ payloadFindings tool ev receiver msgId st
  | .netSend _ _ sender _ _ => knownFindings .netSendFrom ev sender st
  | .log _ sender _ _ => knownFindings .logFrom ev sender st
  | .effectObserved node actor _ _ msgId declared observed =>
      knownFindings .effectFrom ev actor st ++ matchFindings ev node actor msgId st ++
        effectFindings ev declared observed
  | .faultInjected .. => []
  | .faultPolicy .. => []
  | .timerFired .. => []

/-- What reading an event adds; `previous` is the event before it. -/
def eventFindings (ev : TraceEvent V) (st : VerifyState V) : List (Finding V) :=
  seqFindings ev st ++ seedFindings ev st ++ effectGapFindings tool previous ev st ++
    timerGapFindings tool previous ev st ++ kindFindings tool ev st

def endFindings (st : VerifyState V) : List (Finding V) :=
  (st.pendingTimerEmit.map fun pending =>
      (⟨.timerEnd pending.seq pending.timerId, previous⟩ : Finding V)).toList ++
    (st.pendingEffectObserved.map fun pending =>
      (⟨.deliverEnd pending.seq, previous⟩ : Finding V)).toList

/-- The findings of the rest of a trace. -/
def findingsFrom : Option (TraceEvent V) → VerifyState V → List (TraceEvent V) →
    List (Finding V)
  | previous, st, [] => endFindings previous st
  | previous, st, ev :: rest =>
      eventFindings tool previous ev st ++ findingsFrom (some ev) (verifyEvent tool st ev) rest

def traceFindings (events : List (TraceEvent V)) : List (Finding V) :=
  findingsFrom tool none .initial events

end Findings

/-! ## The problems are the messages of the findings -/

section Logging

variable {V : Type} {tool : ToolHost V}

/-- The state `result` is `after` with the messages of new findings. -/
def Logs (tool : ToolHost V) (after : VerifyState V) (found : List (Finding V))
    (result : VerifyState V) : Prop :=
  result = after.addProblems (found.map (Finding.problem tool))

namespace Logs

variable {after result : VerifyState V} {found : List (Finding V)}

theorem silent (st : VerifyState V) : Logs tool st [] st := st.addProblems_nil.symm

theorem report (st : VerifyState V) (violation : Violation) (about : Option (TraceEvent V))
    {problem : String} (spelled : problem = violation.message tool) :
    Logs tool st [⟨violation, about⟩] (st.report problem) := by
  rw [spelled]
  rfl

theorem reportIf (st : VerifyState V) (fails : Prop) [Decidable fails] (violation : Violation)
    (about : Option (TraceEvent V)) {problem : String}
    (spelled : problem = violation.message tool) :
    Logs tool st (findingIf fails violation about) (st.reportIf fails problem) := by
  unfold VerifyState.reportIf findingIf
  split
  · exact report st violation about spelled
  · exact silent st

/-- A check that neither reads nor changes the problems comes next. -/
theorem andThen {next update : VerifyState V → VerifyState V}
    {findings : VerifyState V → List (Finding V)} (first : Logs tool after found result)
    (step : ∀ st, Logs tool (update st) (findings st) (next st))
    (updates : ∀ st more, update (st.addProblems more) = (update st).addProblems more)
    (checks : ∀ st more, findings (st.addProblems more) = findings st) :
    Logs tool (update after) (found ++ findings after) (next result) := by
  rw [Logs, step result, first, updates, checks, VerifyState.addProblems_addProblems,
    List.map_append]

theorem thenIf (first : Logs tool after found result) (fails : Prop) [Decidable fails]
    (violation : Violation) (about : Option (TraceEvent V)) {problem : String}
    (spelled : problem = violation.message tool) :
    Logs tool after (found ++ findingIf fails violation about) (result.reportIf fails problem) :=
  first.andThen (fun st => reportIf st fails violation about spelled) (fun _ _ => rfl)
    fun _ _ => rfl

/-- A pure update of the other variables comes next. -/
theorem update (first : Logs tool after found result) (change : VerifyState V → VerifyState V)
    (updates : ∀ st more, change (st.addProblems more) = (change st).addProblems more) :
    Logs tool (change after) found (change result) := by
  rw [Logs, first, updates]

end Logs

/-- The checks that reading a payload can fail. -/
theorem readPayload_error {seq : Nat} {msgId : MsgId} {payload : V} {violation : Violation}
    (failed : readPayload tool seq msgId payload = .error violation) :
    (∃ field raw, violation = .fieldValid seq field raw) ∨
      (∃ err, violation = .payloadDecodes seq msgId err) ∨
      violation = .hasProvenance seq msgId := by
  have field {name : UuidField} {raw : String}
      (failed : readField tool seq name raw = .error violation) :
      ∃ field raw, violation = .fieldValid seq field raw := by
    unfold readField at failed
    cases parsed : tool.uuidParse raw with
    | none =>
        rw [parsed] at failed
        cases failed
        exact ⟨name, raw, rfl⟩
    | some id =>
        rw [parsed] at failed
        cases failed
  unfold readPayload at failed
  split at failed
  · cases failed
    exact .inr (.inl ⟨_, rfl⟩)
  · split at failed
    · cases failed
      exact .inr (.inr rfl)
    · rcases ExceptRun.bind_error failed with failed | ⟨_, _, failed⟩
      · exact .inl (field failed)
      rcases ExceptRun.bind_error failed with failed | ⟨_, _, failed⟩
      · exact .inl (field failed)
      rcases ExceptRun.bind_error failed with failed | ⟨_, _, failed⟩
      · exact .inl (field failed)
      rcases ExceptRun.bind_error failed with failed | ⟨_, _, failed⟩
      · exact .inl (field failed)
      · cases failed

theorem parseUuidField_eq (seq : Nat) (field : UuidField) (raw : String) :
    parseUuidField tool seq field.name raw =
      (readField tool seq field raw).mapError (Violation.message tool) := by
  unfold parseUuidField readField
  cases tool.uuidParse raw <;> rfl

theorem parseLineage_eq (seq : Nat) (msgId : MsgId) (payload : V) :
    parseLineage tool seq msgId payload =
      (readPayload tool seq msgId payload).mapError (Violation.message tool) := by
  unfold parseLineage readPayload
  cases tool.decodePayload payload with
  | error err => rfl
  | ok runtimePayload =>
      obtain ⟨msgType, fromNode, fromService, provenance⟩ := runtimePayload
      cases provenance with
      | none => rfl
      | some prov =>
          have origin := @parseUuidField_eq V tool seq .originMsgId prov.originMsgId
          have parentNode := @parseUuidField_eq V tool seq .parentNode
            (if prov.parentNode.isEmpty then fromNode else prov.parentNode)
          have parentMsg := @parseUuidField_eq V tool seq .parentMsgId prov.parentMsgId
          have sender := @parseUuidField_eq V tool seq .fromNode fromNode
          dsimp only [UuidField.name] at origin parentNode parentMsg sender
          simp only [origin, parentNode, parentMsg, sender, ExceptRun.mapError_bind]
          rfl

theorem checkSeq_logs (ev : TraceEvent V) (st : VerifyState V) :
    Logs tool { st with expectedSeq := saturatingAdd ev.seq 1 } (seqFindings ev st)
      (checkSeq ev st) := by
  unfold checkSeq seqFindings findingIf
  split
  · rfl
  · rename_i same
    rw [not_not.mp same]
    exact Logs.silent _

theorem checkSeed_logs (ev : TraceEvent V) (st : VerifyState V) :
    Logs tool { st with seed := some (st.seed.getD ev.seed) } (seedFindings ev st)
      (checkSeed ev st) := by
  obtain ⟨problems, seed, expectedSeq, spawned, produced, lineage, dropped, timer, effect⟩ := st
  unfold checkSeed seedFindings
  cases seed with
  | none => exact Logs.silent _
  | some seed => exact Logs.reportIf _ _ _ _ rfl

theorem checkRoot_logs (seq : Nat) (msgId : MsgId) (parsed : ParsedLineage)
    (about : Option (TraceEvent V)) (st : VerifyState V) :
    Logs tool st (rootFindings seq msgId parsed about) (checkRoot tool seq msgId parsed st) := by
  unfold checkRoot rootFindings
  refine Logs.thenIf (Logs.thenIf (Logs.thenIf (Logs.thenIf
    (Logs.reportIf st _ _ _ ?_) _ _ _ ?_) _ _ _ ?_) _ _ _ ?_) _ _ _ ?_
  all_goals
    unfold Violation.message
    rfl

theorem checkParent_logs (seq : Nat) (msgId : MsgId) (parsed : ParsedLineage)
    (later : parsed.prov.hops ≠ 0) (parent : DeliveredLineage) (about : Option (TraceEvent V))
    (st : VerifyState V) :
    Logs tool st (parentFindings seq msgId parsed later parent about)
      (checkParent tool seq msgId parsed parent st) := by
  unfold checkParent parentFindings
  refine Logs.thenIf (Logs.thenIf (Logs.thenIf
    (Logs.reportIf st _ _ _ ?_) _ _ _ ?_) _ _ _ ?_) _ _ _ ?_
  all_goals
    unfold Violation.message
    rfl

theorem checkDeliveredParent_logs (seq : Nat) (msgId : MsgId) (parsed : ParsedLineage)
    (later : parsed.prov.hops ≠ 0) (about : Option (TraceEvent V)) (st : VerifyState V) :
    Logs tool (id st) (deliveredParentFindings seq msgId parsed later about st)
      (checkDeliveredParent tool seq msgId parsed st) := by
  unfold checkDeliveredParent deliveredParentFindings ParsedLineage.parent
  cases st.deliveredLineage.lookup (parsed.parentNode, parsed.parentMsgId) with
  | none => exact Logs.silent st
  | some parent => exact checkParent_logs seq msgId parsed later parent about st

theorem readLineage_of_readPayload {seq : Nat} {msgId : MsgId} {payload : V} :
    readLineage tool payload = (readPayload tool seq msgId payload).toOption := by
  have parsing := @parseLineage_eq V tool seq msgId payload
  cases found : readPayload tool seq msgId payload with
  | error violation =>
      rw [found] at parsing
      exact readLineage_eq_none parsing
  | ok parsed =>
      rw [found] at parsing
      exact readLineage_eq_some.mpr (parseLineage_ok.mp parsing)

theorem verifyPayloadLineage_logs (seq : Nat) (msgId : MsgId) (payload : V)
    (about : Option (TraceEvent V)) (st : VerifyState V) :
    Logs tool
      { st with deliveredLineage := lineageAfter tool st.deliveredLineage msgId payload }
      (lineageFindings tool seq msgId payload about st)
      (verifyPayloadLineage tool seq msgId payload st) := by
  unfold verifyPayloadLineage lineageFindings lineageAfter
  rw [parseLineage_eq, @readLineage_of_readPayload V tool seq msgId]
  cases readPayload tool seq msgId payload with
  | error violation => exact Logs.report st violation about rfl
  | ok parsed =>
      let enter (st : VerifyState V) : VerifyState V :=
        { st with
          deliveredLineage := st.deliveredLineage.insert (parsed.fromNode, msgId) parsed.record }
      dsimp only [Except.mapError, Except.toOption]
      by_cases later : parsed.prov.hops ≠ 0
      · rw [dif_pos later, if_neg later]
        have notSelf : Logs tool st
            (findingIf (parsed.parentNode = parsed.fromNode ∧ parsed.parentMsgId = msgId)
              (.parentNotSelf seq msgId) about)
            (st.reportIf (parsed.parentNode = parsed.fromNode ∧ parsed.parentMsgId = msgId)
              (s!"Deliver at seq {seq} msg_id={tool.uuidToString msgId} has hops>0 but " ++
                "parent_msg_id is self")) := by
          apply Logs.reportIf st _ _ _
          unfold Violation.message
          rfl
        have parents := notSelf.andThen
          (checkDeliveredParent_logs seq msgId parsed later about) (fun _ _ => rfl) fun _ _ => rfl
        exact parents.update enter fun _ _ => rfl
      · rw [dif_neg later, if_pos (not_not.mp later)]
        exact (checkRoot_logs seq msgId parsed about st).update enter fun _ _ => rfl

theorem checkEffectGap_logs (previous : Option (TraceEvent V)) (ev : TraceEvent V)
    (st : VerifyState V) :
    Logs tool { st with pendingEffectObserved :=
        if isEffectObserved ev.kind then st.pendingEffectObserved else none }
      (effectGapFindings tool previous ev st) (checkEffectGap tool ev st) := by
  obtain ⟨problems, seed, expectedSeq, spawned, produced, lineage, dropped, timer, effect⟩ := st
  obtain ⟨seq, seed', kind⟩ := ev
  unfold checkEffectGap effectGapFindings
  cases effect with
  | none => cases kind <;> exact Logs.silent _
  | some pending =>
      cases kind with
      | effectObserved => exact Logs.silent _
      | _ => exact (Logs.report _ _ previous rfl).update VerifyState.clearEffect fun _ _ => rfl

theorem checkTimerGap_logs (previous : Option (TraceEvent V)) (ev : TraceEvent V)
    (st : VerifyState V) :
    Logs tool { st with pendingTimerEmit := none } (timerGapFindings tool previous ev st)
      (checkTimerGap tool ev st) := by
  obtain ⟨problems, seed, expectedSeq, spawned, produced, lineage, dropped, timer, effect⟩ := st
  unfold checkTimerGap timerGapFindings
  cases timer with
  | none => exact Logs.silent _
  | some pending =>
      dsimp only
      cases emitter ev.kind with
      | none =>
          refine Logs.update (Logs.report _ _ previous ?_) VerifyState.clearTimer fun _ _ => rfl
          unfold Violation.message
          rfl
      | some sender =>
          refine Logs.update (Logs.reportIf _ _ _ previous ?_) VerifyState.clearTimer
            fun _ _ => rfl
          unfold Violation.message
          rfl

theorem checkKnown_logs (naming : Naming) (ev : TraceEvent V) (actor : ActorId)
    (st : VerifyState V) :
    Logs tool (id st) (knownFindings naming ev actor st)
      (checkKnown tool naming.what ev.seq naming.role actor st) :=
  Logs.reportIf st _ _ _ rfl

theorem checkSpawn_logs (ev : TraceEvent V) (actor : ActorId) (service : String)
    (st : VerifyState V) :
    Logs tool { st with spawned := st.spawned.insert actor service }
      (spawnFindings ev actor service st) (checkSpawn tool ev.seq actor service st) := by
  unfold checkSpawn spawnFindings
  cases st.spawned.lookup actor with
  | none => exact Logs.silent _
  | some prev =>
      dsimp only
      split
      · exact Logs.report _ _ _ rfl
      · exact Logs.report _ _ _ rfl

theorem checkSend_logs (ev : TraceEvent V) (sender receiver : ActorId) (msgId : MsgId)
    (payload : V) (st : VerifyState V) :
    Logs tool { st with produced := pushPayload st.produced (receiver, msgId) payload }
      (knownFindings .sendFrom ev sender st ++ knownFindings .sendTo ev receiver st)
      (checkSend tool ev.seq sender receiver msgId payload st) := by
  have first := @checkKnown_logs V tool .sendFrom ev sender st
  have both := first.andThen (checkKnown_logs .sendTo ev receiver) (fun _ _ => rfl)
    fun _ _ => rfl
  exact both.update (fun st => st.pushProduced (receiver, msgId) payload) fun _ _ => rfl

theorem checkNetRecv_logs (ev : TraceEvent V) (fromNode : NodeId) (receiver : ActorId)
    (msgId : MsgId) (payload : V) (st : VerifyState V) :
    Logs tool { st with produced := pushPayload st.produced (receiver, msgId) payload }
      (knownFindings .netRecvTo ev receiver st ++
        findingIf ((fromNode, receiver, msgId) ∈ st.dropped)
          (.notDropped ev.seq fromNode receiver msgId) (some ev))
      (checkNetRecv tool ev.seq fromNode receiver msgId payload st) := by
  have first := @checkKnown_logs V tool .netRecvTo ev receiver st
  unfold checkNetRecv
  refine Logs.update (Logs.andThen first
    (fun st => Logs.reportIf st ((fromNode, receiver, msgId) ∈ st.dropped) _ _ ?_)
    (fun _ _ => rfl) fun _ _ => rfl) (fun st => st.pushProduced (receiver, msgId) payload)
    fun _ _ => rfl
  unfold Violation.message
  rfl

theorem takePayload_logs (ev : TraceEvent V) (node : NodeId) (receiver : ActorId)
    (msgId : MsgId) (st : VerifyState V) :
    Logs tool
      { st with
        produced := popPayload st.produced (receiver, msgId)
        deliveredLineage := deliveredAfter tool st.produced st.deliveredLineage
          (.deliver node receiver msgId) }
      (payloadFindings tool ev receiver msgId st) (takePayload tool ev.seq receiver msgId st) := by
  have missing : s!"Deliver at seq {ev.seq} without prior Send/NetRecv for " ++
      s!"to={tool.uuidToString receiver}, msg_id={tool.uuidToString msgId}" =
        (Violation.sourced ev.seq receiver msgId).message tool := by
    unfold Violation.message
    rfl
  unfold takePayload popPayload deliveredAfter payloadFindings
  dsimp only
  cases st.produced.lookup (receiver, msgId) with
  | none => exact Logs.report st _ _ missing
  | some payloads =>
      cases payloads with
      | nil =>
          exact (Logs.report st _ _ missing).update
            (fun after => after.setProduced (st.produced.erase (receiver, msgId))) fun _ _ => rfl
      | cons payload queue =>
          exact (verifyPayloadLineage_logs ev.seq msgId payload (some ev) st).update
            (fun st => st.setProduced
              (if queue.isEmpty then st.produced.erase (receiver, msgId)
                else st.produced.insert (receiver, msgId) queue)) fun _ _ => rfl

theorem checkDeliver_logs (ev : TraceEvent V) (node : NodeId) (receiver : ActorId)
    (msgId : MsgId) (st : VerifyState V) :
    Logs tool
      { st with
        produced := popPayload st.produced (receiver, msgId)
        deliveredLineage := deliveredAfter tool st.produced st.deliveredLineage
          (.deliver node receiver msgId)
        pendingEffectObserved := some ⟨ev.seq, node, receiver, msgId⟩ }
      (knownFindings .deliverTo ev receiver st ++ payloadFindings tool ev receiver msgId st)
      (checkDeliver tool ev.seq node receiver msgId st) := by
  have first := @checkKnown_logs V tool .deliverTo ev receiver st
  have taken := first.andThen (@takePayload_logs V tool ev node receiver msgId)
    (fun _ _ => rfl) fun _ _ => rfl
  exact taken.update (fun st => st.expectEffect ⟨ev.seq, node, receiver, msgId⟩) fun _ _ => rfl

theorem matchEffect_logs (ev : TraceEvent V) (node : NodeId) (actor : ActorId) (msgId : MsgId)
    (st : VerifyState V) :
    Logs tool st.clearEffect (matchFindings ev node actor msgId st)
      (matchEffect tool ev.seq node actor msgId st) := by
  obtain ⟨problems, seed, expectedSeq, spawned, produced, lineage, dropped, timer, effect⟩ := st
  unfold matchEffect matchFindings
  cases effect with
  | none => exact Logs.report _ _ _ rfl
  | some pending =>
      refine Logs.update (Logs.reportIf _ _ _ _ ?_) VerifyState.clearEffect fun _ _ => rfl
      unfold Violation.message
      rfl

theorem checkEffects_logs (ev : TraceEvent V) (declared observed : List EffectKind)
    (st : VerifyState V) :
    Logs tool (id st) (effectFindings ev declared observed)
      (checkEffects ev.seq declared observed st) := by
  unfold checkEffects effectFindings
  refine Logs.thenIf (Logs.thenIf (Logs.reportIf st _ _ _ ?_) _ _ _ ?_) _ _ _ ?_
  all_goals
    unfold Violation.message
    rfl

theorem checkEffectObserved_logs (ev : TraceEvent V) (node : NodeId) (actor : ActorId)
    (msgId : MsgId) (declared observed : List EffectKind) (st : VerifyState V) :
    Logs tool st.clearEffect
      (knownFindings .effectFrom ev actor st ++ matchFindings ev node actor msgId st ++
        effectFindings ev declared observed)
      (checkEffectObserved tool ev.seq node actor msgId declared observed st) := by
  have first := @checkKnown_logs V tool .effectFrom ev actor st
  have second := first.andThen (@matchEffect_logs V tool ev node actor msgId)
    (fun _ _ => rfl) fun _ _ => rfl
  exact second.andThen (checkEffects_logs ev declared observed) (fun _ _ => rfl) fun _ _ => rfl

theorem checkKind_logs (ev : TraceEvent V) (st : VerifyState V) :
    Logs tool (advanceKind tool ev st) (kindFindings tool ev st) (checkKind tool ev st) := by
  obtain ⟨seq, seed, kind⟩ := ev
  cases kind with
  | spawn node actor service => exact checkSpawn_logs ⟨seq, seed, _⟩ actor service st
  | send sender receiver msgId payload =>
      exact checkSend_logs ⟨seq, seed, _⟩ sender receiver msgId payload st
  | netRecv node fromNode receiver msgId payload =>
      exact checkNetRecv_logs ⟨seq, seed, _⟩ fromNode receiver msgId payload st
  | deliver node receiver msgId => exact checkDeliver_logs ⟨seq, seed, _⟩ node receiver msgId st
  | netSend node toNode sender msgId payload =>
      exact checkKnown_logs .netSendFrom ⟨seq, seed, _⟩ sender st
  | log node sender service text => exact checkKnown_logs .logFrom ⟨seq, seed, _⟩ sender st
  | effectObserved node actor service msgType msgId declared observed =>
      exact checkEffectObserved_logs ⟨seq, seed, _⟩ node actor msgId declared observed st
  | faultInjected node fromNode receiver msgId action =>
      cases action with
      | drop => exact Logs.silent _
      | delay steps => exact Logs.silent _
      | reorder window => exact Logs.silent _
  | faultPolicy node step dropEvery delaySteps reorderWindow => exact Logs.silent _
  | timerFired node sender timerId => exact Logs.silent _

/-- The step lemma: reading an event adds the messages of its findings. -/
theorem verifyEvent_logs (previous : Option (TraceEvent V)) (ev : TraceEvent V)
    (st : VerifyState V) :
    Logs tool (advance tool ev st) (eventFindings tool previous ev st)
      (verifyEvent tool st ev) := by
  have seq := @checkSeq_logs V tool ev st
  have seed := seq.andThen (checkSeed_logs ev) (fun _ _ => rfl) fun _ _ => rfl
  have effect := seed.andThen (@checkEffectGap_logs V tool previous ev) (fun _ _ => rfl)
    fun _ _ => rfl
  have timer := effect.andThen (@checkTimerGap_logs V tool previous ev) (fun _ _ => rfl)
    fun _ _ => rfl
  have whole := timer.andThen (@checkKind_logs V tool ev) (fun _ _ => rfl) fun _ _ => rfl
  clear seq seed effect timer
  obtain ⟨seq, seed, kind⟩ := ev
  cases kind <;> exact whole

theorem checkEnd_logs (previous : Option (TraceEvent V)) (st : VerifyState V) :
    (checkEnd tool st).problems =
      st.problems ++ (endFindings previous st).map (Finding.problem tool) := by
  obtain ⟨problems, seed, expectedSeq, spawned, produced, lineage, dropped, timer, effect⟩ := st
  have fired (pending : PendingTimerEmit) : s!"TimerFired at seq {pending.seq} (timer_id=" ++
      s!"{tool.uuidToString pending.timerId}) reached end-of-trace without Send/NetSend" =
        (Violation.timerEnd pending.seq pending.timerId).message tool := by
    unfold Violation.message
    rfl
  unfold checkEnd endFindings
  cases timer with
  | none =>
      cases effect with
      | none => exact (List.append_nil problems).symm
      | some pending => rfl
  | some pendingTimer =>
      dsimp only
      rw [fired]
      cases effect with
      | none => rfl
      | some pending => exact List.append_assoc problems [_] [_]

/-- The problems of the rest of a trace are the messages of its findings. -/
theorem findingsFrom_problems (previous : Option (TraceEvent V)) (events : List (TraceEvent V))
    (st : VerifyState V) :
    (checkEnd tool (events.foldl (verifyEvent tool) st)).problems =
      st.problems ++ (findingsFrom tool previous st events).map (Finding.problem tool) := by
  induction events generalizing previous st with
  | nil => exact checkEnd_logs previous st
  | cons ev rest ih =>
      have step : (verifyEvent tool st ev).problems =
          st.problems ++ (eventFindings tool previous ev st).map (Finding.problem tool) := by
        rw [verifyEvent_logs previous ev st]
        rfl
      rw [List.foldl_cons, ih (some ev), step, findingsFrom, List.map_append, List.append_assoc]

theorem traceFindings_problems (events : List (TraceEvent V)) :
    (verifyTrace tool events).problems =
      (traceFindings tool events).map (Finding.problem tool) :=
  findingsFrom_problems none events .initial

end Logging

end UcoStack.Tool
