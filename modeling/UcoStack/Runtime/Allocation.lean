import UcoStack.Runtime.Outcome
import UcoStack.Runtime.Trace

/-!
# The identifiers a run hands out

A change of the core hands out the next message identifier, the next timer
identifier, or none.  Every run, in either mode and with any outcome, is made of
such changes; its labels are the identifiers in the order they were handed out.
-/

namespace UcoStack.Runtime

open StateRun

/-! ## Allocations -/

inductive Allocation where
  | message (msgId : MsgId)
  | timer (timerId : Uuid)
  deriving DecidableEq, Repr

namespace Allocation

def msgId : Allocation → Option MsgId
  | message msgId => some msgId
  | timer _ => none

def timerId : Allocation → Option Uuid
  | message _ => none
  | timer timerId => some timerId

end Allocation

def allocatedMsgIds (log : List Allocation) : List MsgId := log.filterMap Allocation.msgId

def allocatedTimerIds (log : List Allocation) : List Uuid := log.filterMap Allocation.timerId

section Changes

variable {V : Type}

/-- No message identifier was taken. -/
structure KeepsMessages (core final : Core V) : Prop where
  msgCounter : final.msgCounter = core.msgCounter
  history : final.history = core.history

/-- No timer identifier was taken; timers may be gone. -/
structure KeepsTimers (core final : Core V) : Prop where
  timerCounter : final.timerCounter = core.timerCounter
  timersCreated : final.timersCreated = core.timersCreated
  pendingTimers : final.pendingTimers ⊆ core.pendingTimers

/-- A change of the core, with the identifier it takes. -/
inductive Allocates (nodeId : NodeId) : Core V → List Allocation → Core V → Prop where
  | nothing {core final : Core V} (messages : KeepsMessages core final)
      (timers : KeepsTimers core final) : Allocates nodeId core [] final
  | message {core final : Core V} (made : Produced V)
      (next : nextDeterministicMsgId nodeId core.msgCounter = (made.msgId, final.msgCounter))
      (history : final.history = core.history ++ [made]) (timers : KeepsTimers core final) :
      Allocates nodeId core [.message made.msgId] final
  | timer {core final : Core V} (made : PendingTimer V)
      (next : nextDeterministicTimerId nodeId core.timerCounter =
        (made.timerId, final.timerCounter))
      (pendingTimers : final.pendingTimers = core.pendingTimers ++ [made])
      (timersCreated : final.timersCreated = core.timersCreated + 1)
      (messages : KeepsMessages core final) :
      Allocates nodeId core [.timer made.timerId] final

/-- The core changed by allocations only. -/
def Allots (nodeId : NodeId) (s s' : MainState V) : Prop :=
  ∃ log, Run (Allocates nodeId) s.core log s'.core

variable {nodeId : NodeId}

instance : IsPreorder (MainState V) (Allots nodeId) where
  refl s := ⟨[], .refl s.core⟩
  trans _ _ _ first second := by
    obtain ⟨log, before⟩ := first
    obtain ⟨log', after⟩ := second
    exact ⟨log ++ log', before.trans after⟩

theorem Allots.still {s s' : MainState V} (same : s'.core = s.core) : Allots nodeId s s' :=
  ⟨[], by rw [same]; exact .refl s.core⟩

theorem Allots.step {s s' : MainState V} {log : List Allocation}
    (step : Allocates nodeId s.core log s'.core) : Allots nodeId s s' :=
  ⟨log, .single step⟩

theorem Rests.allots {s s' : MainState V} (rests : Rests s s') : Allots nodeId s s' :=
  .still rests.core

theorem Allocates.receive (core : Core V) (id : ActorId) (msgId : MsgId) (payload : V) :
    Allocates nodeId core [] (core.receive id msgId payload) := by
  unfold Core.receive
  split
  · exact .nothing ⟨rfl, rfl⟩ ⟨rfl, rfl, List.Subset.refl _⟩
  · exact .nothing ⟨rfl, rfl⟩ ⟨rfl, rfl, List.Subset.refl _⟩

theorem Allocates.setTimers {core : Core V} {timers : List (PendingTimer V)}
    (fewer : timers ⊆ core.pendingTimers) : Allocates nodeId core [] (core.setTimers timers) :=
  .nothing ⟨rfl, rfl⟩ ⟨rfl, rfl, fewer⟩

theorem Allocates.schedule (site : Site) (step : Nat) (actorId : ActorId) (cause : MsgId × V)
    (out : Outgoing V) (core : Core V) :
    ∃ made, Allocates site.nodeId core [.timer made]
      (scheduleTimer site step actorId cause out core) :=
  ⟨_, .timer _ rfl rfl rfl ⟨rfl, rfl⟩⟩

end Changes

/-! ## The parts of a run -/

section Parts

variable {V : Type} (host : Host V) (site : Site) (mode : Mode)

theorem recordEvent_allots {nodeId : NodeId} (kind : EventKind V) :
    Moves (Allots nodeId) (recordEvent kind) :=
  fun s => (recordEvent_rests kind s).allots

theorem recordIn_allots {nodeId : NodeId} (kind : EventKind V) :
    Moves (Allots nodeId) (recordIn mode kind) := by
  cases mode with
  | record => exact recordEvent_allots kind
  | replay => exact .pure ()

theorem emit_allots {nodeId : NodeId} (expected : List (EventKind V)) (kind : EventKind V) :
    Moves (Allots nodeId) (emit mode expected kind) := by
  cases mode with
  | record => exact .bind (recordEvent_allots kind) fun _ => .pure _
  | replay => exact .pure _

theorem updateCore_allots {nodeId : NodeId} {change : Core V → Core V} {s : MainState V}
    (same : Allocates nodeId s.core [] (change s.core)) :
    Allots nodeId s (finalState (updateCore change s)) :=
  .step same

theorem dispatchOutgoing_allots (fromActor : ActorId) (target : Target) (payload : V)
    (cause : MsgId × V) :
    Moves (Allots site.nodeId) (dispatchOutgoing site mode fromActor target payload cause) := by
  intro s
  rw [dispatchOutgoing_eq]
  cases routes : routeOutgoing site fromActor target payload cause s.core with
  | error error => exact .still rfl
  | ok dispatched =>
      have change := routeOutgoing_routed routes
      have timers : KeepsTimers s.core dispatched.core :=
        ⟨change.timerCounter, change.timersCreated, by rw [change.pendingTimers]; exact fun _ => id⟩
      have next : nextDeterministicMsgId site.nodeId s.core.msgCounter =
          ((s.core.allocate site.nodeId).1, dispatched.core.msgCounter) := by
        rw [change.msgCounter]
        rfl
      exact .step (.message _ next change.history timers)

theorem fireTimer_allots (timer : PendingTimer V) :
    Moves (Allots site.nodeId) (fireTimer site timer) :=
  .bind (recordEvent_allots _) fun _ =>
    .bind (dispatchOutgoing_allots site .record _ _ _ _) fun _ => recordEvent_allots _

theorem fireDueTimers_allots (step : Nat) :
    Moves (Allots site.nodeId) (fireDueTimers (V := V) site step) := by
  refine .get_bind fun s => moves_bind (updateCore_allots (.setTimers ?_)) fun _ m _ => ?_
  · exact fun _ member => List.mem_of_mem_filter member
  · exact Moves.forM (fun timer => fireTimer_allots site timer) m

theorem sendOutgoing_allots (step : Nat) (actorId : ActorId) (cause : MsgId × V)
    (expected : List (EventKind V)) (out : Outgoing V) :
    Moves (Allots site.nodeId) (sendOutgoing site mode step actorId cause expected out) := by
  unfold sendOutgoing
  split
  · refine .bind (fun s => ?_) fun _ => .pure _
    obtain ⟨_, schedules⟩ := Allocates.schedule site step actorId cause out s.core
    exact .step schedules
  · exact .bind (dispatchOutgoing_allots site mode _ _ _ _) fun _ => emit_allots mode _ _

theorem emitExecuted_allots (step : Nat) (popped : Popped V) (incoming : RuntimeMessage)
    (executed : Executed V) :
    Moves (Allots site.nodeId) (emitExecuted site mode step popped incoming executed) :=
  .bind (emit_allots mode _ _) fun _ =>
    .bind (.foldlM (fun _ _ => emit_allots mode _ _) _) fun _ =>
      .foldlM (fun _ _ => sendOutgoing_allots site mode _ _ _ _ _) _

theorem popInbox_allots {nodeId : NodeId} (receiver : ActorId) :
    Moves (Allots nodeId) (popInbox (V := V) receiver) := by
  refine .get_bind fun s => ?_
  cases s.core.actors.lookup receiver with
  | none => exact .still rfl
  | some actor =>
      cases inbox : actor.inbox with
      | nil =>
          simp only [inbox]
          exact .still rfl
      | cons message rest =>
          simp only [inbox]
          refine moves_bind (updateCore_allots ?_) fun _ m _ => refl_of _ m
          exact .nothing ⟨rfl, rfl⟩ ⟨rfl, rfl, List.Subset.refl _⟩

theorem runHandler_allots {nodeId : NodeId} (popped : Popped V) (incoming : RuntimeMessage) :
    Moves (Allots nodeId) (runHandler host site popped incoming) := by
  refine .get_bind fun s => ?_
  cases s.core.actors.lookup popped.actorId with
  | none => exact .still rfl
  | some actor =>
      cases ran : executeActions host popped.service popped.msgId incoming site.peers site.program
          actor.state (.new site.nodeId) with
      | error error =>
          simp only [ran]
          exact .still rfl
      | ok executed =>
          simp only [ran]
          refine moves_bind (updateCore_allots ?_) fun _ m _ => refl_of _ m
          exact .nothing ⟨rfl, rfl⟩ ⟨rfl, rfl, List.Subset.refl _⟩

theorem processMessage_allots (step : Nat) (chosen : PendingDelivery) :
    Moves (Allots site.nodeId) (processMessage host site mode step chosen) := by
  refine .bind (popInbox_allots _) fun popped => ?_
  split
  · exact .throw _
  · cases decodeMsg host popped.payload with
    | none => exact .throw _
    | some incoming =>
        exact .bind (runHandler_allots host site _ _) fun _ => emitExecuted_allots site mode _ _ _ _

theorem bootstrapOne_allots (entryActor : ActorId) (emitted : List (EventKind V)) (index : Nat) :
    Moves (Allots site.nodeId) (bootstrapOne host site mode entryActor emitted index) := by
  refine .get_bind fun s => ?_
  dsimp only
  cases (s.core.allocate site.nodeId).2.actors.lookup entryActor with
  | none => exact .still rfl
  | some actor =>
      refine moves_bind (.step (.message _ rfl rfl ⟨rfl, rfl, List.Subset.refl _⟩)) fun _ m _ => ?_
      exact Moves.bind (recordIn_allots mode _) (fun _ => .pure _) m

theorem drainNetwork_allots {nodeId : NodeId} (step : Nat) (batch : List (WireEnvelope V)) :
    Moves (Allots nodeId) (drainNetwork nodeId step batch) := by
  have ignores : IgnoresInjector nodeId (Allots (V := V) nodeId) :=
    ⟨fun _ _ => .still rfl, fun _ _ => recordEvent_allots _, fun _ _ => recordEvent_allots _⟩
  refine drainNetwork_moves ignores (fun env => ?_) step batch
  exact .bind (recordEvent_allots _) fun _ s => updateCore_allots (.receive _ _ _ _)

/-! ## Replay -/

theorem nextEvent_allots {nodeId : NodeId} : Moves (Allots nodeId) (nextEvent (V := V)) := by
  intro s
  unfold nextEvent
  split
  · exact .still rfl
  · split
    · exact .still rfl
    · exact .still rfl

theorem unread_allots {nodeId : NodeId} (ev : TraceEvent V) :
    Moves (Allots nodeId) (unread ev) := by
  intro s
  unfold unread
  split
  · exact .still rfl
  · exact .still rfl

theorem replayEnd_allots {nodeId : NodeId} (steps : Nat) :
    Moves (Allots nodeId) (replayEnd (V := V) steps) := by
  refine .bind nextEvent_allots fun next => ?_
  cases next with
  | some next => exact .throw _
  | none =>
      refine .get_bind fun s => ?_
      by_cases left : s.core.pendingInboxMessages > 0
      · simp only [if_pos left]
        exact .still rfl
      · simp only [if_neg left]
        exact .still rfl

theorem injectReplayNetrecv_allots (node : NodeId) (receiver : ActorId) (msgId : MsgId)
    (payload : V) :
    Moves (Allots site.nodeId) (injectReplayNetrecv site node receiver msgId payload) := by
  unfold injectReplayNetrecv
  split
  · exact fun s => updateCore_allots (.receive _ _ _ _)
  · exact .pure ()

theorem drainReplayLoop_allots (fuel : Nat) :
    Moves (Allots site.nodeId) (drainReplayLoop (V := V) site fuel) := by
  induction fuel with
  | zero => exact .throw _
  | succ fuel ih =>
      refine .bind nextEvent_allots fun next => ?_
      cases next with
      | none => exact .pure ()
      | some ev =>
          dsimp only
          split
          · exact .bind (injectReplayNetrecv_allots site _ _ _ _) fun _ => ih
          · exact ih
          · exact ih
          · exact unread_allots ev

theorem swapRemove_subset {α : Type} (xs : List α) (index : Nat) : swapRemove xs index ⊆ xs := by
  unfold swapRemove
  split
  · exact List.Subset.refl xs
  · rename_i last ending
    intro x member
    rcases List.mem_or_eq_of_mem_set (List.mem_of_mem_dropLast member) with inside | rfl
    · exact inside
    · exact List.mem_of_getLast? ending

variable [DecidableEq V]

theorem replayFireTimer_allots (node : NodeId) (fromActor : ActorId) (timerId : Uuid) :
    Moves (Allots site.nodeId) (replayFireTimer (V := V) site node fromActor timerId) := by
  unfold replayFireTimer
  split
  · exact .pure ()
  refine .get_bind fun s => ?_
  let wanted (timer : PendingTimer V) : Bool :=
    timer.timerId = timerId && timer.fromActor = fromActor
  cases s.core.pendingTimers.find? wanted with
  | none => exact .still rfl
  | some timer =>
      refine moves_bind (updateCore_allots (.setTimers (swapRemove_subset _ _))) fun _ m _ => ?_
      refine Moves.bind (dispatchOutgoing_allots site .replay _ _ _ _) (fun expected => ?_) m
      refine .bind nextEvent_allots fun next => ?_
      cases next with
      | none => exact .throw _
      | some actual =>
          dsimp only
          split
          · exact .throw _
          · exact .pure ()

theorem nextReplayLoop_allots (fuel : Nat) :
    Moves (Allots site.nodeId) (nextReplayLoop (V := V) site fuel) := by
  induction fuel with
  | zero => exact .throw _
  | succ fuel ih =>
      refine .bind nextEvent_allots fun next => ?_
      cases next with
      | none => exact .pure none
      | some ev =>
          dsimp only
          split
          · exact .bind (injectReplayNetrecv_allots site _ _ _ _) fun _ => ih
          · split
            · exact .pure _
            · exact ih
          · exact ih
          · exact ih
          · exact .bind (replayFireTimer_allots site _ _ _) fun _ => ih
          all_goals exact .throw _

theorem compareReplayEmits_allots {nodeId : NodeId} (index : Nat)
    (expected : List (EventKind V)) :
    Moves (Allots nodeId) (compareReplayEmits index expected) := by
  induction expected generalizing index with
  | nil => exact .pure ()
  | cons kind rest ih =>
      refine .bind nextEvent_allots fun next => ?_
      cases next with
      | none => exact .throw _
      | some actual =>
          dsimp only
          split
          · exact .throw _
          · exact ih (index + 1)

theorem verifyReplayEmits_allots {nodeId : NodeId} (expected : List (EventKind V)) :
    Moves (Allots nodeId) (verifyReplayEmits expected) := by
  refine .bind (compareReplayEmits_allots 0 expected) fun _ => .bind nextEvent_allots fun next => ?_
  cases next with
  | none => exact .pure ()
  | some ev =>
      dsimp only
      split
      all_goals first | exact .throw _ | exact unread_allots ev

/-! ## Whole runs -/

theorem deliver_allots (step : Nat) (chosen : PendingDelivery) :
    Moves (Allots site.nodeId) (deliver host site mode step chosen) := by
  cases mode with
  | record =>
      exact .bind (recordEvent_allots _) fun _ =>
        .bind (processMessage_allots host site .record _ _) fun _ => .pure _
  | replay =>
      exact .bind (processMessage_allots host site .replay _ _) fun expected =>
        verifyReplayEmits_allots expected

theorem startup_allots (cfg : Config) (entryService : String) :
    Moves (Allots site.nodeId) (startup host site mode cfg entryService) := by
  have spawns : Moves (Allots site.nodeId) (ofExcept (spawnEvents (V := V) host site)) := by
    intro s
    unfold ofExcept
    split
    · exact .still rfl
    · exact .still rfl
  have boots : Moves (Allots site.nodeId)
      (enqueueBootstrap (V := V) host site mode cfg entryService) := by
    unfold enqueueBootstrap
    split
    · exact .throw _
    · exact .foldlM (fun _ _ => bootstrapOne_allots host site mode _ _ _) _
  refine .bind spawns fun spawned => .bind (.forM fun kind => recordIn_allots mode kind) fun _ => ?_
  refine .bind boots fun bootstraps => ?_
  cases mode with
  | record => exact .pure ()
  | replay => exact verifyReplayEmits_allots _

theorem recordStep_allots (step : Nat) (batch : List (WireEnvelope V)) :
    Moves (Allots site.nodeId) (recordStep host site step batch) := by
  refine .bind (drainNetwork_allots step batch) fun _ =>
    .bind (fireDueTimers_allots site step) fun _ => .get_bind fun s => ?_
  cases chooseNextDeterministic (pendingDeliveries site.nodeId s.core) with
  | none => exact .still rfl
  | some chosen => exact deliver_allots host site .record step chosen s

theorem recordLoop_allots (inbound : Nat → List (WireEnvelope V)) (step count : Nat) :
    Moves (Allots site.nodeId) (recordLoop host site inbound step count) := by
  induction count generalizing step with
  | zero => exact .pure ()
  | succ count ih => exact .bind (recordStep_allots host site step _) fun _ => ih (step + 1)

theorem replayStep_allots (step : Nat) :
    Moves (Allots site.nodeId) (replayStep host site step) := by
  refine .bind (.get_bind fun s => drainReplayLoop_allots site _ s) fun _ =>
    .bind (.get_bind fun s => nextReplayLoop_allots site _ s) fun next => ?_
  cases next with
  | none =>
      refine .get_bind fun s => ?_
      by_cases left : s.core.pendingInboxMessages > 0
      · simp only [if_pos left]
        exact .still rfl
      · simp only [if_neg left]
        exact .still rfl
  | some chosen => exact .bind (deliver_allots host site .replay step chosen) fun _ => .pure _

theorem replayLoop_allots (step count : Nat) :
    Moves (Allots site.nodeId) (replayLoop host site step count) := by
  induction count generalizing step with
  | zero => exact .pure _
  | succ count ih =>
      refine .bind (replayStep_allots host site step) fun exhausted => ?_
      cases exhausted with
      | true => exact .pure _
      | false => exact ih (step + 1)

end Parts

/-! ## Distinct identifiers -/

/-- The offset of the timers is out of the reach of the message counter. -/
theorem timer_offset_apart (base : Uuid) {number number' : Nat} (small : number ≤ u64Max)
    (small' : number' ≤ u64Max) :
    base + BitVec.ofNat 128 number ≠
      base + BitVec.ofNat 128 (2 ^ 96) + BitVec.ofNat 128 number' := by
  intro same
  rw [BitVec.add_assoc, BitVec.add_right_inj] at same
  have equal := congrArg BitVec.toNat same
  have limit : u64Max = 2 ^ 64 - 1 := rfl
  rw [BitVec.toNat_add, BitVec.toNat_ofNat, BitVec.toNat_ofNat, BitVec.toNat_ofNat] at equal
  omega

section Ledger

variable {V : Type} {nodeId : NodeId}

/-- The log accounts for the counters, the messages and the timers of the core. -/
structure Ledger (nodeId : NodeId) (log : List Allocation) (core : Core V) : Prop where
  messages : Counted nodeId core.msgCounter (allocatedMsgIds log)
  timers : Counted (nodeId + BitVec.ofNat 128 (2 ^ 96)) core.timerCounter (allocatedTimerIds log)
  history : core.history.map Produced.msgId = allocatedMsgIds log
  created : core.timersCreated = (allocatedTimerIds log).length
  pending : ∀ timer ∈ core.pendingTimers, timer.timerId ∈ allocatedTimerIds log

theorem Ledger.initial (nodeId : NodeId) (actors : ActorSystem V) :
    Ledger nodeId [] (.initial actors) where
  messages := ⟨rfl, fun _ => rfl⟩
  timers := ⟨rfl, fun _ => rfl⟩
  history := rfl
  created := rfl
  pending := fun _ member => absurd member List.not_mem_nil

/-- The step lemma. -/
theorem Ledger.step {log labels : List Allocation} {core final : Core V}
    (ledger : Ledger nodeId log core) (step : Allocates nodeId core labels final) :
    Ledger nodeId (log ++ labels) final := by
  have messageIds : allocatedMsgIds (log ++ labels) =
      allocatedMsgIds log ++ allocatedMsgIds labels := List.filterMap_append
  have timerIds : allocatedTimerIds (log ++ labels) =
      allocatedTimerIds log ++ allocatedTimerIds labels := List.filterMap_append
  cases step with
  | nothing messages timers =>
      rw [List.append_nil]
      exact
        { messages := messages.msgCounter ▸ ledger.messages
          timers := timers.timerCounter ▸ ledger.timers
          history := messages.history ▸ ledger.history
          created := timers.timersCreated ▸ ledger.created
          pending := fun timer member => ledger.pending timer (timers.pendingTimers member) }
  | message made next history timers =>
      have taken := ledger.messages.take
      obtain ⟨sameId, advanced⟩ := Prod.mk.inj next
      constructor
      · rw [messageIds, ← advanced, ← sameId]
        exact taken
      · rw [timerIds, timers.timerCounter]
        exact (List.append_nil (allocatedTimerIds log)).symm ▸ ledger.timers
      · rw [history, List.map_append, ledger.history, messageIds]
        rfl
      · rw [timers.timersCreated, ledger.created, timerIds]
        exact congrArg List.length (List.append_nil _).symm
      · intro timer member
        rw [timerIds]
        exact List.mem_append_left _ (ledger.pending timer (timers.pendingTimers member))
  | timer made next pendingTimers timersCreated messages =>
      have taken := ledger.timers.take
      obtain ⟨sameId, advanced⟩ := Prod.mk.inj next
      constructor
      · rw [messageIds, messages.msgCounter]
        exact (List.append_nil (allocatedMsgIds log)).symm ▸ ledger.messages
      · rw [timerIds, ← advanced, ← sameId]
        exact taken
      · rw [messages.history, ledger.history, messageIds]
        exact (List.append_nil _).symm
      · rw [timersCreated, ledger.created, timerIds, List.length_append]
        rfl
      · intro timer member
        rw [timerIds]
        rw [pendingTimers] at member
        rcases List.mem_append.mp member with old | new
        · exact List.mem_append_left _ (ledger.pending timer old)
        · rw [List.mem_singleton.mp new]
          exact List.mem_append_right _ List.mem_cons_self

/-- The run lemma. -/
theorem Ledger.run {log : List Allocation} {core : Core V} {actors : ActorSystem V}
    (run : Run (Allocates nodeId) (.initial actors) log core) : Ledger nodeId log core := by
  have keeps (past : List Allocation) (core : Core V) (labels : List Allocation) (final : Core V)
      (ledger : Ledger nodeId past core) (step : Allocates nodeId core labels final) :
      Ledger nodeId (past ++ labels) final := ledger.step step
  exact Run.history keeps (Ledger.initial nodeId actors) run

/-- No two identifiers of the log are the same. -/
structure DistinctIds (log : List Allocation) : Prop where
  messages : (allocatedMsgIds log).Nodup
  timers : (allocatedTimerIds log).Nodup
  apart : ∀ id ∈ allocatedMsgIds log, id ∉ allocatedTimerIds log

theorem Ledger.distinct {log : List Allocation} {core : Core V} (ledger : Ledger nodeId log core)
    (few : core.history.length ≤ u64Max) (few' : core.timersCreated ≤ u64Max) :
    DistinctIds log := by
  have count : (allocatedMsgIds log).length = core.history.length := by
    rw [← ledger.history, List.length_map]
  rw [← count] at few
  rw [ledger.created] at few'
  refine ⟨ledger.messages.nodup few, ledger.timers.nodup few', fun id message timer => ?_⟩
  obtain ⟨number, small, rfl⟩ := ledger.messages.number few message
  obtain ⟨number', small', same⟩ := ledger.timers.number few' timer
  exact timer_offset_apart nodeId small small' same

end Ledger

section Runs

variable {V : Type} [DecidableEq V]

/-- The state in which a run ends, whatever its outcome. -/
inductive EndsIn (host : Host V) (program : Program) (cfg : Config) : MainState V → Prop where
  | recorded (inbound : Nat → List (WireEnvelope V)) :
      EndsIn host program cfg (finalState (record host program cfg inbound))
  | replayed (trace : List (TraceEvent V)) :
      EndsIn host program cfg (finalState (replay host program cfg trace))

variable {host : Host V} {program : Program} {cfg : Config}

theorem EndsIn.allocated {st : MainState V} (ends : EndsIn host program cfg st) :
    ∃ actors log, Run (Allocates cfg.nodeId) (.initial actors) log st.core := by
  have site {launched : Launch V} (launches : launch host program cfg = .ok launched) :
      launched.site.nodeId = cfg.nodeId := by
    obtain ⟨_, _, rest⟩ := ExceptRun.bind_ok.mp launches
    obtain ⟨_, _, same⟩ := ExceptRun.bind_ok.mp rest
    cases same
    rfl
  cases ends with
  | recorded inbound =>
      unfold record
      cases launches : launch host program cfg with
      | error error => exact ⟨∅, [], .refl _⟩
      | ok launched =>
          have moves : Moves (Allots launched.site.nodeId)
              (recordMain host launched cfg inbound) :=
            .bind (startup_allots host _ .record cfg _) fun _ => recordLoop_allots host _ inbound _ _
          rw [site launches] at moves
          exact ⟨launched.actors, moves (.initial .record cfg launched.actors [])⟩
  | replayed trace =>
      unfold replay
      cases launches : launch host program cfg with
      | error error => exact ⟨∅, [], .refl _⟩
      | ok launched =>
          have moves : Moves (Allots launched.site.nodeId) (replayMain host launched cfg) := by
            refine .bind (startup_allots host _ .replay cfg _) fun _ =>
              .bind (replayLoop_allots host _ _ _) fun exhausted => ?_
            cases exhausted with
            | true => exact .pure ()
            | false => exact replayEnd_allots _
          rw [site launches] at moves
          exact ⟨launched.actors, moves (.initial .replay cfg launched.actors trace)⟩

/-- In a run that does not exhaust the counters no identifier is handed out twice. -/
theorem run_distinctIds {st : MainState V} (ends : EndsIn host program cfg st)
    (few : st.core.history.length ≤ u64Max) (few' : st.core.timersCreated ≤ u64Max) :
    ∃ actors log, Run (Allocates cfg.nodeId) (.initial actors) log st.core ∧
      allocatedMsgIds log = st.core.history.map Produced.msgId ∧
      (allocatedTimerIds log).length = st.core.timersCreated ∧
      (∀ timer ∈ st.core.pendingTimers, timer.timerId ∈ allocatedTimerIds log) ∧
      DistinctIds log := by
  obtain ⟨actors, log, run⟩ := ends.allocated
  have ledger := Ledger.run run
  exact ⟨actors, log, run, ledger.history.symm, ledger.created.symm, ledger.pending,
    ledger.distinct few few'⟩

/-- A node whose first message identifier wraps around. -/
def wrappingConfig : Config := { sampleConfig 2 with nodeId := BitVec.allOnes 128 }

def wrappingRun : MainState JsonDoc :=
  finalState (record jsonHost sampleProgram wrappingConfig sampleInbound)

theorem run_distinctIds_sample :
    wrappingRun.core.history.head?.map Produced.msgId = some 0 ∧
      ∃ actors log, Run (Allocates wrappingConfig.nodeId) (.initial actors) log wrappingRun.core ∧
        allocatedMsgIds log = wrappingRun.core.history.map Produced.msgId ∧
        (allocatedTimerIds log).length = wrappingRun.core.timersCreated ∧
        (∀ timer ∈ wrappingRun.core.pendingTimers, timer.timerId ∈ allocatedTimerIds log) ∧
        DistinctIds log :=
  ⟨by decide +kernel, run_distinctIds (.recorded sampleInbound) (by decide +kernel)
    (by decide +kernel)⟩

end Runs

end UcoStack.Runtime
