import Mathlib.Logic.Function.Basic
import UcoStack.Runtime.FaultRun
import UcoStack.Runtime.Launch
import UcoStack.Runtime.Trace

/-!
# A recorded run drains at every step

Startup, timers and deliveries leave the fault injector alone, so the drains of a
run in record mode are a `DrainRun`.
-/

namespace UcoStack.Runtime

open StateRun

/-! ## Computations that leave the injector alone -/

section Working

variable {V : Type}

/-- The events recorded so far. -/
def MainState.recorded (s : MainState V) : List (EventKind V) :=
  (s.writer.getD []).map TraceEvent.kind

theorem recorded_logged {s : MainState V} (writes : s.writer.isSome = true)
    (kinds : List (EventKind V)) : (s.logged kinds).recorded = s.recorded ++ kinds := by
  obtain ⟨trace, writer⟩ := Option.isSome_iff_exists.mp writes
  simp [MainState.recorded, MainState.logged, writer, stamp_kind]

/-- The events of a handler: what it does to the messages, the timers apart. -/
def EventKind.isHandling : EventKind V → Bool
  | .spawn .. | .send .. | .deliver .. | .netSend .. | .log .. | .effectObserved .. => true
  | .timerFired .. | .netRecv .. | .faultInjected .. | .faultPolicy .. => false

/-- The events that messages leave: the actors are spawned before them. -/
def EventKind.isExchange : EventKind V → Bool
  | .spawn .. => false
  | kind => kind.isHandling

theorem EventKind.isHandling_of_isExchange {kind : EventKind V} (exchange : kind.isExchange = true) :
    kind.isHandling = true := by
  cases kind with
  | spawn node actor service => cases exchange
  | _ => exact exchange

/-- The events of the actors: the network and the fault injector write the others. -/
def EventKind.isWork : EventKind V → Bool
  | .timerFired .. => true
  | kind => kind.isHandling

theorem EventKind.isWork_of_isHandling {kind : EventKind V} (handling : kind.isHandling = true) :
    kind.isWork = true := by
  cases kind with
  | timerFired node sender timerId => rfl
  | _ => exact handling

theorem EventKind.isWork_of_isExchange {kind : EventKind V} (exchange : kind.isExchange = true) :
    kind.isWork = true :=
  isWork_of_isHandling (isHandling_of_isExchange exchange)

def Spares (s s' : MainState V) : Prop := s'.injector = s.injector

instance : IsPreorder (MainState V) Spares where
  refl _ := rfl
  trans _ _ _ first second := second.trans first

/-- The injector is as it was, and the events written satisfy `P`. -/
structure Works (P : EventKind V → Bool) (s s' : MainState V) : Prop where
  spares : Spares s s'
  writes : ∃ kinds, s'.recorded = s.recorded ++ kinds ∧ ∀ kind ∈ kinds, P kind = true

theorem Works.silent {P : EventKind V → Bool} {s s' : MainState V} (spares : Spares s s')
    (same : s'.recorded = s.recorded) : Works P s s' :=
  ⟨spares, [], same.trans (List.append_nil _).symm, fun _ member => by cases member⟩

instance (P : EventKind V → Bool) : IsPreorder (MainState V) (Works P) where
  refl _ := .silent rfl rfl
  trans := by
    rintro s m s' ⟨spares, first, wrote, all⟩ ⟨sparesNext, second, wroteNext, allNext⟩
    refine ⟨sparesNext.trans spares, first ++ second, ?_, ?_⟩
    · rw [wroteNext, wrote, List.append_assoc]
    · exact fun kind member => (List.mem_append.mp member).elim (all kind) (allNext kind)

section Steps

variable {P : EventKind V → Bool}

theorem recordEvent_works {kind : EventKind V} (holds : P kind = true) :
    Moves (Works P) (recordEvent kind) := by
  intro s
  unfold recordEvent
  split
  · exact .silent rfl rfl
  · split
    · exact .silent rfl rfl
    · rename_i writes
      have writes : s.writer.isSome = true := by simpa [Option.isSome_iff_ne_none] using writes
      refine ⟨rfl, [kind], recorded_logged writes [kind], fun other member => ?_⟩
      rw [List.mem_singleton.mp member]
      exact holds

theorem updateCore_works (change : Core V → Core V) : Moves (Works P) (updateCore change) :=
  fun _ => .silent rfl rfl

theorem ofExcept_works {α : Type} (result : Except (RunError V) α) :
    Moves (Works P) (ofExcept result) := by
  intro s
  cases result with
  | error error => exact .silent rfl rfl
  | ok value => exact .silent rfl rfl

theorem recordIn_works (mode : Mode) {kind : EventKind V} (holds : P kind = true) :
    Moves (Works P) (recordIn mode kind) := by
  cases mode with
  | record => exact recordEvent_works holds
  | replay => exact .pure ()

theorem emit_works (mode : Mode) (expected : List (EventKind V)) {kind : EventKind V}
    (holds : P kind = true) : Moves (Works P) (emit mode expected kind) := by
  cases mode with
  | record => exact .bind (recordEvent_works holds) fun _ => .pure _
  | replay => exact .pure _

end Steps

variable (host : Host V) (site : Site) (mode : Mode)

/-- What is dispatched is announced by a `Send` or a `NetSend`. -/
theorem routeOutgoing_isExchange {fromActor : ActorId} {target : Target} {payload : V}
    {cause : MsgId × V} {core : Core V} {dispatched : Dispatched V}
    (routed : routeOutgoing site fromActor target payload cause core = .ok dispatched) :
    dispatched.event.isExchange = true := by
  rcases (routeOutgoing_ok site).mp routed with ⟨_, _, _, _, _, _, rfl⟩ | ⟨_, _, _, _, _, rfl⟩
  · rfl
  · rfl

theorem popInbox_works {P : EventKind V → Bool} (receiver : ActorId) :
    Moves (Works P) (popInbox (V := V) receiver) := by
  refine .get_bind fun s => ?_
  cases s.core.actors.lookup receiver with
  | none => exact .silent rfl rfl
  | some actor =>
      cases inbox : actor.inbox with
      | nil =>
          simp only [inbox]
          exact .silent rfl rfl
      | cons message rest =>
          simp only [inbox]
          exact Moves.bind (updateCore_works _) (fun _ => .pure _) s

theorem runHandler_works {P : EventKind V → Bool} (popped : Popped V)
    (incoming : RuntimeMessage) : Moves (Works P) (runHandler host site popped incoming) := by
  refine .get_bind fun s => ?_
  cases s.core.actors.lookup popped.actorId with
  | none => exact .silent rfl rfl
  | some actor =>
      cases ran : executeActions host popped.service popped.msgId incoming site.peers site.program
          actor.state (.new site.nodeId) with
      | error error =>
          simp only [ran]
          exact .silent rfl rfl
      | ok executed =>
          simp only [ran]
          exact Moves.bind (updateCore_works _) (fun _ => .pure _) s

section Exchanges

variable {P : EventKind V → Bool} (exchanges : ∀ kind, kind.isExchange = true → P kind = true)

include exchanges

/-- Dispatching writes nothing itself; its event is written next. -/
theorem dispatchOutgoing_works {β : Type} (fromActor : ActorId) (target : Target) (payload : V)
    (cause : MsgId × V) {rest : EventKind V → MainM V β}
    (next : ∀ event, P event = true → Moves (Works P) (rest event)) :
    Moves (Works P) (dispatchOutgoing site mode fromActor target payload cause >>= rest) := by
  intro s
  apply moves_bind
  · rw [dispatchOutgoing_eq]
    cases routeOutgoing site fromActor target payload cause s.core with
    | error error => exact .silent rfl rfl
    | ok dispatched => exact .silent rfl rfl
  · intro event m ran
    rw [dispatchOutgoing_eq] at ran
    cases routes : routeOutgoing site fromActor target payload cause s.core with
    | error error =>
        rw [routes] at ran
        cases ran
    | ok dispatched =>
        rw [routes] at ran
        cases ran
        exact next _ (exchanges _ (routeOutgoing_isExchange site routes)) _

theorem fireTimer_works (fires : ∀ node sender timerId, P (.timerFired node sender timerId) = true)
    (timer : PendingTimer V) : Moves (Works P) (fireTimer site timer) :=
  .bind (recordEvent_works (fires _ _ _)) fun _ =>
    dispatchOutgoing_works site .record exchanges timer.fromActor timer.target timer.payload
      timer.cause fun _ holds => recordEvent_works holds

theorem fireDueTimers_works
    (fires : ∀ node sender timerId, P (.timerFired node sender timerId) = true) (step : Nat) :
    Moves (Works P) (fireDueTimers (V := V) site step) :=
  .get_bind fun s => Moves.bind (updateCore_works _)
    (fun _ => .forM fun timer => fireTimer_works site exchanges fires timer) s

theorem sendOutgoing_works (step : Nat) (actorId : ActorId) (cause : MsgId × V)
    (expected : List (EventKind V)) (out : Outgoing V) :
    Moves (Works P) (sendOutgoing site mode step actorId cause expected out) := by
  unfold sendOutgoing
  split
  · exact .bind (updateCore_works _) fun _ => .pure _
  · exact dispatchOutgoing_works site mode exchanges _ _ _ _ fun _ holds => emit_works mode _ holds

theorem emitExecuted_works (step : Nat) (popped : Popped V) (incoming : RuntimeMessage)
    (executed : Executed V) :
    Moves (Works P) (emitExecuted site mode step popped incoming executed) :=
  .bind (emit_works mode _ (exchanges _ rfl)) fun _ =>
    .bind (.foldlM (fun _ _ => emit_works mode _ (exchanges _ rfl)) _) fun _ =>
      .foldlM (fun _ _ => sendOutgoing_works site mode exchanges _ _ _ _ _) _

theorem processMessage_works (step : Nat) (chosen : PendingDelivery) :
    Moves (Works P) (processMessage host site mode step chosen) := by
  refine .bind (popInbox_works _) fun popped => ?_
  split
  · exact .throw _
  · cases decodeMsg host popped.payload with
    | none => exact .throw _
    | some incoming =>
        exact .bind (runHandler_works host site _ _) fun _ =>
          emitExecuted_works site mode exchanges _ _ _ _

theorem deliver_works [DecidableEq V] (step : Nat) (chosen : PendingDelivery) :
    Moves (Works P) (deliver host site .record step chosen) :=
  .bind (recordEvent_works (exchanges _ rfl)) fun _ =>
    .bind (processMessage_works host site .record exchanges _ _) fun _ => .pure _

theorem bootstrapOne_works (entryActor : ActorId) (emitted : List (EventKind V)) (index : Nat) :
    Moves (Works P) (bootstrapOne host site mode entryActor emitted index) := by
  refine .get_bind fun s => ?_
  dsimp only
  cases (s.core.allocate site.nodeId).2.actors.lookup entryActor with
  | none => exact .silent rfl rfl
  | some actor =>
      exact Moves.bind (updateCore_works _)
        (fun _ => .bind (recordIn_works mode (exchanges _ rfl)) fun _ => .pure _) s

theorem enqueueBootstrap_works (cfg : Config) (entryService : String) :
    Moves (Works P) (enqueueBootstrap host site mode cfg entryService) := by
  unfold enqueueBootstrap
  split
  · exact .throw _
  · exact .foldlM (fun _ _ => bootstrapOne_works host site mode exchanges _ _ _) _

end Exchanges

variable [DecidableEq V]

theorem startup_works {program : Program} {cfg : Config} {launched : Launch V}
    (ready : Launched host program cfg launched) (entryService : String) :
    Moves (Works EventKind.isHandling) (startup host launched.site .record cfg entryService) := by
  have spawns : ∀ kind ∈ spawnList host cfg.nodeId program.services, kind.isHandling = true := by
    intro kind member
    rcases List.mem_cons.mp member with rfl | member
    · rfl
    · obtain ⟨service, _, rfl⟩ := List.mem_map.mp member
      rfl
  intro s
  refine moves_bind (ofExcept_works _ s) fun spawned m ran => ?_
  rw [spawnEvents_eq ready] at ran
  cases ran
  have boots := enqueueBootstrap_works host launched.site .record
    (fun _ => EventKind.isHandling_of_isExchange) cfg entryService
  exact Moves.bind (.forM_mem fun kind member => recordIn_works .record (spawns kind member))
    (fun _ => .bind boots fun _ => .pure _) _

end Working

/-! ## The drains of a recorded run -/

section Recorded

variable {V : Type} [DecidableEq V] {host : Host V} {site : Site}
  {inbound : Nat → List (WireEnvelope V)}

/-- A step drains the network first and leaves the injector alone then. -/
theorem recordStep_drains {step : Nat} {batch : List (WireEnvelope V)} {s s' : MainState V}
    (ran : recordStep host site step batch s = .ok () s') :
    ∃ m, drainNetwork site.nodeId step batch s = .ok () m ∧ s'.injector = m.injector := by
  obtain ⟨_, m, drains, ran⟩ := bind_ok.mp ran
  refine ⟨m, drains, ?_⟩
  obtain ⟨_, fired, fires, ran⟩ := bind_ok.mp ran
  obtain ⟨_, _, read, ran⟩ := bind_ok.mp ran
  cases read
  have before : Spares m fired := by
    have moved := (fireDueTimers_works site (fun _ => EventKind.isWork_of_isExchange)
      (fun _ _ _ => rfl) step m).spares
    rwa [fires] at moved
  cases chosen : chooseNextDeterministic (pendingDeliveries site.nodeId fired.core) with
  | none =>
      rw [chosen] at ran
      cases ran
      exact before
  | some delivery =>
      rw [chosen] at ran
      have delivered : deliver host site .record step delivery fired = .ok () s' := ran
      have moved : Spares fired s' := by
        have spared := (deliver_works host site (fun _ => EventKind.isWork_of_isExchange) step
          delivery fired).spares
        rwa [delivered] at spared
      exact moved.trans before

theorem recordLoop_drains {step count : Nat} {s s' : MainState V}
    (ran : recordLoop host site inbound step count s = .ok () s') :
    ∃ before after : Nat → MainState V, before step = s ∧
      (∀ index, step ≤ index → index < step + count →
        drainNetwork site.nodeId index (inbound index) (before index) = .ok () (after index)) ∧
      ∀ index, step ≤ index → index + 1 < step + count →
        (before (index + 1)).injector = (after index).injector := by
  induction count generalizing step s with
  | zero => exact ⟨fun _ => s, fun _ => s, rfl, by omega, by omega⟩
  | succ count ih =>
      obtain ⟨_, m, here, later⟩ := bind_ok.mp ran
      obtain ⟨drained, drains, spared⟩ := recordStep_drains here
      obtain ⟨before, after, first, rest, kept⟩ := ih later
      refine ⟨Function.update before step s, Function.update after step drained,
        Function.update_self .., ?_, ?_⟩
      · intro index reached below
        by_cases same : index = step
        · subst same
          rw [Function.update_self, Function.update_self]
          exact drains
        · rw [Function.update_of_ne same, Function.update_of_ne same]
          exact rest index (by omega) (by omega)
      · intro index reached below
        rw [Function.update_of_ne (by omega)]
        by_cases same : index = step
        · subst same
          rw [Function.update_self, first, spared]
        · rw [Function.update_of_ne same]
          exact kept index (by omega) (by omega)

/-- What is proved of runs of drains holds of every run in record mode. -/
theorem record_drainRun {program : Program} {cfg : Config} {st : MainState V}
    (ran : record host program cfg inbound = .ok () st) :
    ∃ before after, DrainRun cfg.fault cfg.nodeId inbound cfg.steps before after := by
  unfold record at ran
  cases launches : launch host program cfg with
  | error error =>
      rw [launches] at ran
      cases ran
  | ok launched =>
      rw [launches] at ran
      obtain ⟨_, m, starts, loops⟩ := bind_ok.mp ran
      have spared := (startup_works host (launch_launched launches) launched.entryService
        (.initial .record cfg launched.actors [])).spares
      rw [starts] at spared
      obtain ⟨before, after, first, drains, kept⟩ := recordLoop_drains loops
      rw [(launch_launched launches).nodeId_eq] at drains
      refine ⟨before, after, ?_, ?_, ?_⟩
      · rw [first]
        exact spared
      · exact fun step below => drains step (Nat.zero_le _) (by omega)
      · exact fun step below => kept step (Nat.zero_le _) (by omega)

end Recorded

end UcoStack.Runtime
