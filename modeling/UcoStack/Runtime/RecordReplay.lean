import UcoStack.Runtime.Identifiers
import UcoStack.Runtime.Regenerate

/-!
# Record, then replay

Replaying a recording is a simulation.  The two cores agree on everything but the
due steps of the pending timers and their order, which replay mode never reads;
the identifiers in the trace select the same timers.  A replayed iteration covers
the recorded steps up to the next delivery.
-/

namespace UcoStack.Runtime

open StateRun

/-! ## Agreement -/

section Agreement

variable {V : Type}

/-- A pending timer without its due step. -/
def PendingTimer.undated (timer : PendingTimer V) : PendingTimer V := { timer with dueStep := 0 }

def undatedTimers (core : Core V) : List (PendingTimer V) :=
  core.pendingTimers.map PendingTimer.undated

structure Core.Agrees (recorded replayed : Core V) : Prop where
  core : replayed = recorded.setTimers replayed.pendingTimers
  timers : (undatedTimers recorded).Perm (undatedTimers replayed)

theorem Core.Agrees.refl (core : Core V) : core.Agrees core where
  core := rfl
  timers := List.Perm.refl _

theorem Core.Agrees.actors {recorded replayed : Core V} (agrees : recorded.Agrees replayed) :
    replayed.actors = recorded.actors := by
  rw [agrees.core]
  rfl

theorem receive_setTimers (core : Core V) (timers : List (PendingTimer V)) (id : ActorId)
    (msgId : MsgId) (payload : V) :
    (core.setTimers timers).receive id msgId payload =
      (core.receive id msgId payload).setTimers timers := by
  have same : (core.setTimers timers).actors = core.actors := rfl
  unfold Core.receive
  rw [same]
  cases core.actors.lookup id <;> rfl

theorem receive_pendingTimers (core : Core V) (id : ActorId) (msgId : MsgId) (payload : V) :
    (core.receive id msgId payload).pendingTimers = core.pendingTimers := by
  unfold Core.receive
  cases core.actors.lookup id <;> rfl

theorem Core.Agrees.receive {recorded replayed : Core V} (agrees : recorded.Agrees replayed)
    (id : ActorId) (msgId : MsgId) (payload : V) :
    (recorded.receive id msgId payload).Agrees (replayed.receive id msgId payload) := by
  constructor
  · rw [receive_pendingTimers, ← receive_setTimers, ← agrees.core]
  · unfold undatedTimers
    rw [receive_pendingTimers, receive_pendingTimers]
    exact agrees.timers

/-- A message that the recording dispatched can be dispatched by the replay. -/
theorem Core.Agrees.route {site : Site} {recorded replayed : Core V}
    (agrees : recorded.Agrees replayed) {fromActor : ActorId} {target : Target} {payload : V}
    {cause : MsgId × V} {dispatched : Dispatched V}
    (routed : routeOutgoing site fromActor target payload cause recorded = .ok dispatched) :
    ∃ again, routeOutgoing site fromActor target payload cause replayed = .ok again ∧
      again.event = dispatched.event ∧ dispatched.core.Agrees again.core := by
  obtain ⟨routedAgain, kept⟩ := routeOutgoing_setTimers site replayed.pendingTimers routed
  rw [← agrees.core] at routedAgain
  refine ⟨_, routedAgain, rfl, rfl, ?_⟩
  unfold undatedTimers
  rw [kept]
  exact agrees.timers

theorem Core.Agrees.schedule {site : Site} {recorded replayed : Core V}
    (agrees : recorded.Agrees replayed) (step step' : Nat) (actorId : ActorId)
    (cause : MsgId × V) (out : Outgoing V) :
    (scheduleTimer site step actorId cause out recorded).Agrees
      (scheduleTimer site step' actorId cause out replayed) := by
  obtain ⟨timers, rfl⟩ : ∃ timers, replayed = recorded.setTimers timers := ⟨_, agrees.core⟩
  constructor
  · rfl
  · unfold undatedTimers scheduleTimer
    rw [List.map_append, List.map_append]
    exact agrees.timers.append_right _

theorem Core.Agrees.sendAll {site : Site} {step : Nat} {actorId : ActorId} {cause : MsgId × V}
    {outbox : List (Outgoing V)} {recorded replayed final : Core V} {kinds : List (EventKind V)}
    (agrees : recorded.Agrees replayed) (step' : Nat)
    (sending : sendAll site step actorId cause outbox recorded = .ok (kinds, final)) :
    ∃ final', Runtime.sendAll site step' actorId cause outbox replayed = .ok (kinds, final') ∧
      final.Agrees final' := by
  induction outbox generalizing recorded replayed kinds with
  | nil =>
      cases sending
      exact ⟨replayed, rfl, agrees⟩
  | cons item rest ih =>
      rw [Runtime.sendAll] at sending ⊢
      split at sending
      · rename_i delayed
        rw [if_pos delayed]
        exact ih (agrees.schedule step step' actorId cause item) sending
      · rename_i immediate
        obtain ⟨dispatched, routed, sending⟩ := ExceptRun.bind_ok.mp sending
        obtain ⟨⟨later, last⟩, remaining, sending⟩ := ExceptRun.bind_ok.mp sending
        cases sending
        obtain ⟨again, routedAgain, event, agreesNext⟩ := agrees.route routed
        obtain ⟨final', remainingAgain, agreesFinal⟩ := ih agreesNext remaining
        refine ⟨final', ?_, agreesFinal⟩
        rw [if_neg immediate, routedAgain]
        refine ExceptRun.bind_ok.mpr ⟨again, rfl, ExceptRun.bind_ok.mpr ⟨_, remainingAgain, ?_⟩⟩
        rw [event]
        rfl

/-- A delivery of the recording succeeds in the replay and emits the same events. -/
theorem Core.Agrees.deliver {host : Host V} {site : Site} {step : Nat} {receiver : ActorId}
    {recorded replayed : Core V} {handled : Handled V} (agrees : recorded.Agrees replayed)
    (step' : Nat) (handles : handleDelivery host site step receiver recorded = .ok handled) :
    ∃ again, handleDelivery host site step' receiver replayed = .ok again ∧
      again.msgId = handled.msgId ∧ again.events = handled.events ∧
      handled.core.Agrees again.core := by
  obtain ⟨actor, payload, rest, incoming, current, executed, sent, found, inbox, decoded, stored,
    ran, emitted, events⟩ := (handleDelivery_ok host site).mp handles
  let message : MsgId × V := (handled.msgId, payload)
  let before := (recorded.pop receiver actor message rest).setActor actor.id
    { current with state := executed.state }
  let before' := (replayed.pop receiver actor message rest).setActor actor.id
    { current with state := executed.state }
  have agreesBefore : before.Agrees before' := by
    constructor
    · change (((replayed.pop receiver actor message rest).setActor actor.id
        { current with state := executed.state })) = _
      conv_lhs => rw [agrees.core]
      rfl
    · exact agrees.timers
  obtain ⟨final', emittedAgain, agreesFinal⟩ := agreesBefore.sendAll step' emitted
  have foundAgain : replayed.actors.lookup receiver = some actor := agrees.actors ▸ found
  have storedAgain : (replayed.pop receiver actor message rest).actors.lookup actor.id =
      some current := by
    change (replayed.actors.insert receiver { actor with inbox := rest }).lookup actor.id = _
    rw [agrees.actors]
    exact stored
  refine ⟨⟨handled.msgId, handled.events, final'⟩, ?_, rfl, rfl, agreesFinal⟩
  exact (handleDelivery_ok host site).mpr ⟨⟨actor, payload, rest, incoming, current, executed, sent,
    foundAgain, inbox, decoded, storedAgain, ran, emittedAgain, events⟩⟩

end Agreement

/-! ## Firing timers -/

section Timers

variable {V : Type} {site : Site}

/-- `swap_remove` takes exactly the element at the index out. -/
theorem swapRemove_perm {α : Type} {xs : List α} {index : Nat} {x : α}
    (found : xs[index]? = some x) : (x :: swapRemove xs index).Perm xs := by
  induction xs using List.reverseRecOn with
  | nil => cases found
  | append_singleton before last =>
      unfold swapRemove
      rw [List.getLast?_concat]
      dsimp only
      obtain ⟨inside, same⟩ := List.getElem?_eq_some_iff.mp found
      rw [List.length_append, List.length_singleton] at inside
      by_cases isLast : index = before.length
      · subst isLast
        have isX : last = x := by simpa using same
        rw [List.set_append_right _ _ (Nat.le_refl _)]
        simp only [Nat.sub_self, List.set_cons_zero, List.dropLast_concat, isX]
        exact (List.perm_append_singleton x before).symm
      · have early : index < before.length := by omega
        rw [List.set_append_left _ _ early, List.dropLast_concat]
        have isX : before[index] = x := by
          rw [List.getElem_append_left early] at same
          exact same
        have swapped := List.set_eq_take_append_cons_drop (a := last) (l := before) (i := index)
        rw [if_pos early] at swapped
        have parts : before.take index ++ x :: before.drop (index + 1) = before := by
          rw [← isX, List.getElem_cons_drop, List.take_append_drop]
        have rest : (before.take index ++ last :: before.drop (index + 1)).Perm
            (last :: (before.take index ++ before.drop (index + 1))) := List.perm_middle
        have whole : (before.take index ++ x :: before.drop (index + 1)).Perm
            (x :: (before.take index ++ before.drop (index + 1))) := List.perm_middle
        rw [parts] at whole
        rw [swapped]
        refine (rest.cons x).trans ((List.Perm.swap last x _).trans ?_)
        exact (whole.symm.cons last).trans (List.perm_append_singleton last before).symm

/-- The timer that the recording fired is the one the replay finds. -/
theorem Core.Agrees.fire {recorded replayed : Core V} (agrees : recorded.Agrees replayed)
    (distinct : (recorded.pendingTimers.map PendingTimer.timerId).Nodup) {timer : PendingTimer V}
    {rest : List (PendingTimer V)} {dispatched : Dispatched V}
    (split : recorded.pendingTimers.Perm (timer :: rest))
    (routed : routeOutgoing site timer.fromActor timer.target timer.payload timer.cause
      (recorded.setTimers rest) = .ok dispatched) :
    ∃ next, replayTimer site timer.fromActor timer.timerId replayed =
        some (dispatched.event, next) ∧ dispatched.core.Agrees next := by
  have sameTimers : ((timer :: rest).map PendingTimer.undated).Perm (undatedTimers replayed) :=
    (split.map PendingTimer.undated).symm.trans agrees.timers
  have sameIds : (recorded.pendingTimers.map PendingTimer.timerId).Perm
      (replayed.pendingTimers.map PendingTimer.timerId) := by
    have ids := agrees.timers.map PendingTimer.timerId
    unfold undatedTimers at ids
    rw [List.map_map, List.map_map] at ids
    exact ids
  have distinctAgain := sameIds.nodup_iff.mp distinct
  obtain ⟨stored, inStored, storedUndated⟩ : ∃ stored ∈ replayed.pendingTimers,
      stored.undated = timer.undated := by
    have member : timer.undated ∈ undatedTimers replayed :=
      sameTimers.mem_iff.mp List.mem_cons_self
    exact List.mem_map.mp member
  let wanted (candidate : PendingTimer V) : Bool :=
    candidate.timerId = timer.timerId && candidate.fromActor = timer.fromActor
  obtain ⟨_, storedId, storedActor, target, payload, cause⟩ := PendingTimer.mk.inj storedUndated
  have isWanted : wanted stored = true := by
    simp [wanted, storedId, storedActor]
  have inside : replayed.pendingTimers.findIdx wanted < replayed.pendingTimers.length :=
    List.findIdx_lt_length_of_exists ⟨stored, inStored, isWanted⟩
  let found := replayed.pendingTimers[replayed.pendingTimers.findIdx wanted]
  have foundWanted : wanted found = true := List.findIdx_getElem
  have sameId : found.timerId = stored.timerId := by
    have both := foundWanted
    simp only [wanted, Bool.and_eq_true, decide_eq_true_eq] at both
    exact both.1.trans storedId.symm
  have isStored : found = stored :=
    List.inj_on_of_nodup_map distinctAgain (List.getElem_mem inside) inStored sameId
  have search : replayed.pendingTimers.find? wanted = some stored := by
    rw [← isStored]
    exact List.find?_eq_some_iff_getElem.mpr ⟨foundWanted,
      replayed.pendingTimers.findIdx wanted, inside, rfl, fun index before => by
        simpa using List.not_of_lt_findIdx before⟩
  let waiting := swapRemove replayed.pendingTimers (replayed.pendingTimers.findIdx wanted)
  have removed : (stored :: waiting).Perm replayed.pendingTimers :=
    swapRemove_perm ((List.getElem?_eq_getElem inside).trans (congrArg some isStored))
  have agreesRest : (recorded.setTimers rest).Agrees (replayed.setTimers waiting) := by
    constructor
    · conv_lhs => rw [agrees.core]
      rfl
    · have both := sameTimers.trans (removed.map PendingTimer.undated).symm
      rw [List.map_cons, List.map_cons, storedUndated] at both
      exact both.cons_inv
  obtain ⟨again, routedAgain, event, agreesNext⟩ := agreesRest.route routed
  refine ⟨again.core, ?_, agreesNext⟩
  unfold replayTimer
  dsimp only
  rw [search]
  dsimp only
  rw [storedActor, target, payload, cause, routedAgain]
  dsimp only
  rw [event]

end Timers

/-! ## The simulation -/

section Simulation

variable {V : Type} [DecidableEq V] {host : Host V} {site : Site}

/-- The network only hands over envelopes addressed to the node. -/
def Addressed (nodeId : NodeId) (env : WireEnvelope V) : Prop := env.toNode = nodeId

/-- A recorded core whose timers can be told apart by their identifiers. -/
structure Recognizable (host : Host V) (site : Site) (core final : Core V) : Prop where
  accepted : Accepted host site.program
  hosts : core.Hosts host site.program
  numbered : Numbered site core
  few : final.timersCreated ≤ u64Max

omit [DecidableEq V] in
theorem Recognizable.step {core next final : Core V} {kinds : List (EventKind V)}
    (recognizable : Recognizable host site core final)
    (step : NodeStep host site (Addressed site.nodeId) core kinds next) :
    Recognizable host site next final := by
  have ops : Run (CoreOp host site (Addressed site.nodeId) 0) core kinds next :=
    step.ops recognizable.accepted recognizable.hosts
  exact ⟨recognizable.accepted, CoreRun.hosts ops recognizable.hosts,
    CoreRun.numbered ops recognizable.numbered, recognizable.few⟩

omit [DecidableEq V] in
/-- The count of timers never shrinks, so the bound holds all along a run. -/
theorem Recognizable.of_run {core next final : Core V} {kinds : List (EventKind V)}
    (recognizable : Recognizable host site core final)
    (run : Run (NodeStep host site (Addressed site.nodeId)) core kinds next) :
    Recognizable host site next final := by
  induction run with
  | refl core => exact recognizable
  | head step _ ih => exact ih (recognizable.step step)

/-- A quiet step of the recording is read without a delivery. -/
theorem quietStep_replays {recorded next replayed : Core V} {kinds : List (EventKind V)}
    (agrees : recorded.Agrees replayed) (numbered : Numbered site recorded)
    (few : recorded.timersCreated ≤ u64Max)
    (step : QuietStep site (Addressed site.nodeId) recorded kinds next) :
    ∃ next', next.Agrees next' ∧ ∀ rest,
      quietScript site none replayed (kinds ++ rest) = quietScript site none next' rest := by
  cases step with
  | fault event isFault =>
      refine ⟨replayed, agrees, fun rest => ?_⟩
      cases event with
      | faultInjected node fromNode receiver msgId action => rfl
      | faultPolicy node at' dropEvery delaySteps reorderWindow => rfl
      | _ => exact isFault.elim
  | receive env arrived =>
      refine ⟨replayed.receive env.toActor env.msgId env.payload,
        agrees.receive env.toActor env.msgId env.payload, fun rest => ?_⟩
      have own : env.toNode = site.nodeId := arrived
      change quietScript site none replayed (.netRecv env.toNode env.fromNode env.toActor env.msgId
        env.payload :: rest) = _
      rw [quietScript, if_pos own]
  | fire timer rest dispatched split routed =>
      obtain ⟨next', fires, agreesNext⟩ :=
        agrees.fire (numbered.timerIds few).1 split routed
      refine ⟨next', agreesNext, fun later => ?_⟩
      change quietScript site none replayed (.timerFired site.nodeId timer.fromActor timer.timerId ::
        dispatched.event :: later) = _
      rw [quietScript, if_pos rfl, fires]
      dsimp only
      rw [quietScript, if_pos rfl]

theorem quietRun_replays {recorded next final replayed : Core V} {kinds : List (EventKind V)}
    (agrees : recorded.Agrees replayed) (recognizable : Recognizable host site recorded final)
    (run : Run (QuietStep site (Addressed site.nodeId)) recorded kinds next)
    (later : next.timersCreated ≤ final.timersCreated) :
    ∃ next', next.Agrees next' ∧ ∀ rest,
      quietScript site none replayed (kinds ++ rest) = quietScript site none next' rest := by
  induction run generalizing replayed with
  | refl core => exact ⟨replayed, agrees, fun rest => rfl⟩
  | head step run ih =>
      have node : NodeStep host site (Addressed site.nodeId) _ _ _ := .quiet step
      have nodeRun := run.mono fun core kinds final step =>
        (NodeStep.quiet step : NodeStep host site (Addressed site.nodeId) core kinds final)
      have rest := recognizable.step node
      have here : Run (CoreOp host site (Addressed site.nodeId) 0) _ _ _ :=
        node.ops recognizable.accepted recognizable.hosts
      have others : Run (CoreOp host site (Addressed site.nodeId) 0) _ _ _ :=
        nodeRun_ops rest.accepted rest.hosts nodeRun
      have grows := CoreRun.timersCreated_le (here.trans others)
      have limit := recognizable.few
      obtain ⟨middle, agreesMiddle, first⟩ :=
        quietStep_replays agrees recognizable.numbered (by omega) step
      obtain ⟨next', agreesNext, second⟩ := ih agreesMiddle rest later
      refine ⟨next', agreesNext, fun others => ?_⟩
      rw [List.append_assoc, first, second]

/-- The iteration depends on the quiet phase alone. -/
theorem replayScript_quiet {step count : Nat} {core core' : Core V}
    {script script' : List (EventKind V)}
    (same : quietScript site none core script = quietScript site none core' script') :
    replayScript host site step (count + 1) core script =
      replayScript host site step (count + 1) core' script' := by
  rw [replayScript, replayScript]
  unfold roundScript
  rw [same]

omit [DecidableEq V] in
theorem quietRun_head {core next : Core V} {kinds : List (EventKind V)}
    (run : Run (QuietStep site (Addressed site.nodeId)) core kinds next) (rest : List (EventKind V))
    (plain : (rest.head?.map EventKind.isExtraEmit).getD false = false) :
    ((kinds ++ rest).head?.map EventKind.isExtraEmit).getD false = false := by
  cases run with
  | refl core => exact plain
  | head step run =>
      cases step with
      | fault event isFault =>
          cases event with
          | faultInjected node fromNode receiver msgId action => rfl
          | faultPolicy node at' dropEvery delaySteps reorderWindow => rfl
          | _ => exact isFault.elim
      | receive env arrived => rfl
      | fire timer rest dispatched split routed => rfl

omit [DecidableEq V] in
/-- No recorded step starts with an emission. -/
theorem Rounds.head {count : Nat} {core final : Core V} {kinds : List (EventKind V)}
    (rounds : Rounds host site (Addressed site.nodeId) count core kinds final) :
    (kinds.head?.map EventKind.isExtraEmit).getD false = false := by
  induction rounds with
  | done core => rfl
  | idle quiet later ih => exact quietRun_head quiet _ ih
  | busy quiet step receiver handled handles later ih =>
      rw [List.append_assoc]
      exact quietRun_head quiet _ rfl

omit [DecidableEq V] in
theorem Rounds.run {count : Nat} {core final : Core V} {kinds : List (EventKind V)}
    (rounds : Rounds host site (Addressed site.nodeId) count core kinds final) :
    Run (NodeStep host site (Addressed site.nodeId)) core kinds final := by
  have ofQuiet {core next : Core V} {kinds : List (EventKind V)}
      (quiet : Run (QuietStep site (Addressed site.nodeId)) core kinds next) :
      Run (NodeStep host site (Addressed site.nodeId)) core kinds next :=
    quiet.mono fun _ _ _ step => .quiet step
  induction rounds with
  | done core => exact .refl core
  | idle quiet later ih => exact (ofQuiet quiet).trans ih
  | busy quiet step receiver handled handles later ih =>
      exact ((ofQuiet quiet).snoc (.deliver step receiver handled handles)).trans ih

/-- The simulation: with at least as many iterations as recorded steps, the replay
reads the whole recording and ends in an agreeing core; it succeeds exactly when
no message is left in an inbox. -/
theorem Rounds.replays {count bound step : Nat} {recorded final replayed : Core V}
    {kinds : List (EventKind V)}
    (rounds : Rounds host site (Addressed site.nodeId) count recorded kinds final)
    (agrees : recorded.Agrees replayed) (recognizable : Recognizable host site recorded final)
    (enough : count ≤ bound) :
    ∃ final', final.Agrees final' ∧ replayScript host site step bound replayed kinds =
      if final.pendingInboxMessages = 0 then some final' else none := by
  have samePending {first second : Core V} (agrees : first.Agrees second) :
      second.pendingInboxMessages = first.pendingInboxMessages := by
    unfold Core.pendingInboxMessages
    rw [agrees.actors]
  have bounded {next : Core V} {kinds : List (EventKind V)} {rest : Nat}
      (later : Rounds host site (Addressed site.nodeId) rest next kinds final)
      (known : Recognizable host site next final) : next.timersCreated ≤ final.timersCreated :=
    CoreRun.timersCreated_le (nodeRun_ops known.accepted known.hosts later.run :
      Run (CoreOp host site (Addressed site.nodeId) 0) _ _ _)
  induction rounds generalizing replayed bound step with
  | done core =>
      refine ⟨replayed, agrees, ?_⟩
      cases bound with
      | zero =>
          rw [replayScript, samePending agrees]
          simp
      | succ bound =>
          have round : roundScript host site step replayed [] =
              if core.pendingInboxMessages = 0 then some (true, replayed, []) else none := by
            rw [← samePending agrees]
            rfl
          rw [replayScript, round]
          by_cases empty : core.pendingInboxMessages = 0
          · rw [if_pos empty, if_pos empty]
          · rw [if_neg empty, if_neg empty]
  | @idle count core next final kinds rest quiet later ih =>
      obtain ⟨bound, rfl⟩ := Nat.exists_eq_add_of_lt enough
      have quietNode := quiet.mono fun core kinds final step =>
        (NodeStep.quiet step : NodeStep host site (Addressed site.nodeId) core kinds final)
      have known := recognizable.of_run quietNode
      obtain ⟨next', agreesNext, reads⟩ :=
        quietRun_replays agrees recognizable quiet (bounded later known)
      obtain ⟨final', agreesFinal, replays⟩ :=
        ih agreesNext known (by omega : count ≤ count + bound + 1) bounded
      exact ⟨final', agreesFinal, (replayScript_quiet (reads rest)).trans replays⟩
  | @busy count core next final kinds rest quiet recordedStep receiver handled handles later ih =>
      obtain ⟨bound, rfl⟩ := Nat.exists_eq_add_of_lt enough
      have quietNode := quiet.mono fun core kinds final step =>
        (NodeStep.quiet step : NodeStep host site (Addressed site.nodeId) core kinds final)
      have known := recognizable.of_run quietNode
      have knownLater := known.step (.deliver recordedStep receiver handled handles)
      have deliverRun : Run (CoreOp host site (Addressed site.nodeId) 0) next _ handled.core :=
        handleDelivery_ops known.accepted known.hosts.to_hosted handles
      have grows := CoreRun.timersCreated_le deliverRun
      have growsLater := bounded later knownLater
      obtain ⟨next', agreesNext, reads⟩ :=
        quietRun_replays agrees recognizable quiet (by omega)
      obtain ⟨again, handlesAgain, sameId, sameEvents, agreesHandled⟩ :=
        agreesNext.deliver step handles
      obtain ⟨final', agreesFinal, replays⟩ :=
        @ih (count + bound) (step + 1) again.core agreesHandled knownLater (by omega) bounded
      refine ⟨final', agreesFinal, ?_⟩
      rw [List.append_assoc, replayScript_quiet (reads _), replayScript]
      have round : roundScript host site step next'
          ((.deliver site.nodeId receiver handled.msgId :: handled.events) ++ rest) =
          some (false, again.core, rest) := by
        unfold roundScript
        rw [List.cons_append, quietScript, if_pos rfl]
        dsimp only
        rw [handlesAgain]
        dsimp only
        rw [if_pos sameId, sameEvents, matchScript_eq.mpr ⟨rfl, later.head⟩]
        rfl
      rw [round]
      exact replays

end Simulation

/-! ## Whole runs -/

section Whole

variable {V : Type} [DecidableEq V] {host : Host V} {program : Program} {cfg : Config}
  {inbound : Nat → List (WireEnvelope V)} {Wire : WireEnvelope V → Prop} {st : MainState V}

omit [DecidableEq V] in
theorem arrivals_addressed (inbound : Nat → List (WireEnvelope V)) (cfg : Config) :
    ∀ env ∈ arrivals cfg.nodeId inbound 0 cfg.steps, Addressed cfg.nodeId env := by
  intro env member
  obtain ⟨index, _, own⟩ := List.mem_flatMap.mp member
  obtain ⟨_, addressed⟩ := List.mem_filter.mp own
  exact beq_iff_eq.mp addressed

omit [DecidableEq V] in
/-- The loop of a recording starts from a core that can be recognized. -/
theorem Recording.recognizable (accepted : Accepted host program)
    (recording : Recording host program cfg inbound Wire st)
    (few : st.core.timersCreated ≤ u64Max) :
    Recognizable host recording.launched.site recording.booted st.core := by
  have ready := launch_launched recording.launches
  have boots : Run (CoreOp host recording.launched.site (fun _ => True) recording.entryActor)
      (.initial recording.launched.actors) recording.boots recording.booted :=
    bootRun_ops (bootAll_run host recording.launched.site recording.boot)
  refine ⟨?_, CoreRun.hosts boots recording.hosts, CoreRun.numbered boots (.initial _ _), few⟩
  rw [ready.program_eq]
  exact accepted

/-- What replay mode does with the trace of a recording. -/
theorem Recording.replays
    (recording : Recording host program cfg inbound (Addressed cfg.nodeId) st)
    (accepted : Accepted host program) (few : st.core.timersCreated ≤ u64Max)
    {steps : Nat} (enough : cfg.steps ≤ steps) (fault : FaultConfig) :
    ∃ final, st.core.Agrees final ∧ ∀ core,
      (∃ st', replay host program { cfg with steps := steps, fault := fault }
          (stamp 0 recording.events) = .ok () st' ∧ st'.core = core) ↔
        st.core.pendingInboxMessages = 0 ∧ core = final := by
  have ready := launch_launched recording.launches
  have sameWire : (Addressed recording.launched.site.nodeId : WireEnvelope V → Prop) =
      Addressed cfg.nodeId := congrArg Addressed ready.nodeId_eq
  have rounds : Rounds host recording.launched.site (Addressed recording.launched.site.nodeId)
      cfg.steps recording.booted recording.kinds st.core := by
    rw [sameWire]
    exact recording.rounds
  obtain ⟨final, agrees, reads⟩ :=
    @Rounds.replays _ _ _ _ _ _ 0 _ _ _ _ rounds (.refl _)
      (recording.recognizable accepted few) enough
  refine ⟨final, agrees, fun core => replay_script.trans ?_⟩
  have started : matchScript (spawnList host cfg.nodeId program.services ++ recording.boots)
      ((stamp 0 recording.events).map TraceEvent.kind) = some recording.kinds := by
    rw [stamp_kind]
    exact matchScript_eq.mpr ⟨rfl, rounds.head⟩
  constructor
  · rintro ⟨launched, entryActor, boots, booted, rest, launches, entry, boot, matched, replays⟩
    cases Except.ok.inj (recording.launches.symm.trans launches)
    cases Option.some.inj (recording.entry.symm.trans entry)
    cases Except.ok.inj (recording.boot.symm.trans boot)
    cases Option.some.inj (started.symm.trans matched)
    have result := reads.symm.trans replays
    by_cases empty : st.core.pendingInboxMessages = 0
    · rw [if_pos empty] at result
      exact ⟨empty, (Option.some.inj result).symm⟩
    · rw [if_neg empty] at result
      cases result
  · rintro ⟨empty, rfl⟩
    rw [if_pos empty] at reads
    exact ⟨recording.launched, recording.entryActor, recording.boots, recording.booted,
      recording.kinds, recording.launches, recording.entry, recording.boot, started, reads⟩

/-- Record, then replay: with no fewer iterations and any fault configuration the
replay succeeds exactly when the recording left no message behind, and it ends in
the recorded state. -/
theorem record_replay {src : String} (loaded : loadProgram host src = .ok program)
    (ran : record host program cfg inbound = .ok () st)
    (timers : st.core.timersCreated < u64Max) :
    ∃ trace, st.writer = some trace ∧ ∀ (steps : Nat) (fault : FaultConfig), cfg.steps ≤ steps →
      ((∃ st', replay host program { cfg with steps := steps, fault := fault } trace =
          .ok () st') ↔
        ∀ id actor, st.core.actors.lookup id = some actor → actor.inbox = []) ∧
      ∀ st', replay host program { cfg with steps := steps, fault := fault } trace = .ok () st' →
        st'.core.actors = st.core.actors ∧ st'.core.msgCounter = st.core.msgCounter ∧
          st'.core.timerCounter = st.core.timerCounter := by
  obtain ⟨recording⟩ := record_ok (arrivals_addressed inbound cfg) ran
  refine ⟨_, recording.writer, fun steps fault enough => ?_⟩
  obtain ⟨final, agrees, replays⟩ := recording.replays (loadProgram_accepted loaded)
    (Nat.le_of_lt timers) enough fault
  rw [← pendingInboxMessages_eq_zero]
  constructor
  · constructor
    · rintro ⟨st', again⟩
      exact ((replays st'.core).mp ⟨st', again, rfl⟩).1
    · intro empty
      obtain ⟨st', again, _⟩ := (replays final).mpr ⟨empty, rfl⟩
      exact ⟨st', again⟩
  · intro st' again
    obtain ⟨_, same⟩ := (replays st'.core).mp ⟨st', again, rfl⟩
    rw [same, agrees.core]
    exact ⟨rfl, rfl, rfl⟩

theorem record_replay_sample :
    ∃ st trace, record jsonHost sampleProgram (sampleConfig 8) sampleInbound = .ok () st ∧
      st.writer = some trace ∧ ∀ (steps : Nat) (fault : FaultConfig), 8 ≤ steps →
      ((∃ st', replay jsonHost sampleProgram { sampleConfig 8 with steps := steps, fault := fault }
          trace = .ok () st') ↔
        ∀ id actor, st.core.actors.lookup id = some actor → actor.inbox = []) ∧
      ∀ st', replay jsonHost sampleProgram { sampleConfig 8 with steps := steps, fault := fault }
          trace = .ok () st' →
        st'.core.actors = st.core.actors ∧ st'.core.msgCounter = st.core.msgCounter ∧
          st'.core.timerCounter = st.core.timerCounter := by
  have succeeds : ∃ a st,
      record jsonHost sampleProgram (sampleConfig 8) sampleInbound = .ok a st :=
    exists_ok (by decide +kernel)
  have few : (finalState (record jsonHost sampleProgram (sampleConfig 8)
      sampleInbound)).core.timersCreated < u64Max := by
    decide +kernel
  obtain ⟨⟨⟩, st, ran⟩ := succeeds
  rw [ran] at few
  obtain ⟨trace, rest⟩ := record_replay sampleProgram_loaded ran few
  exact ⟨st, trace, ran, rest⟩

end Whole

end UcoStack.Runtime
