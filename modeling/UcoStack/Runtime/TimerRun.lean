import UcoStack.Runtime.Identifiers
import UcoStack.Runtime.Pacing
import UcoStack.Runtime.PolicyTimeline

/-!
# The timers of a recorded run

A delivery turns the delayed items of an outbox into timers.  A timer stays pending
until its step begins, and is then fired together with the others of that step, in
the order of their identifiers and before the delivery.  `TimerBook` accounts for
the identifiers: the fired ones and the pending ones are all that were handed out.
-/

namespace UcoStack.Runtime

open StateRun

/-! ## The timers a delivery creates -/

section Creating

variable {V : Type} (host : Host V) (site : Site)

/-- The delayed items of an outbox as timers, each with its delay. -/
def createdTimers (step : Nat) (actorId : ActorId) (cause : MsgId × V) :
    Nat → List (Outgoing V) → List (Nat × PendingTimer V)
  | _, [] => []
  | counter, out :: rest =>
      if out.delaySteps > 0 then
        let next := nextDeterministicTimerId site.nodeId counter
        (out.delaySteps,
          { dueStep := saturatingAdd step out.delaySteps
            timerId := next.1
            fromActor := actorId
            target := out.target
            payload := out.payload
            cause := cause }) :: createdTimers step actorId cause next.2 rest
      else createdTimers step actorId cause counter rest

/-- The timers created when the head of an inbox is delivered. -/
def createdBy (step : Nat) (receiver : ActorId) (core : Core V) : List (Nat × PendingTimer V) :=
  match core.actors.lookup receiver with
  | none => []
  | some actor =>
      match actor.inbox with
      | [] => []
      | (msgId, payload) :: rest =>
          match decodeMsg host payload with
          | none => []
          | some incoming =>
              match (core.pop receiver actor (msgId, payload) rest).actors.lookup actor.id with
              | none => []
              | some current =>
                  match executeActions host actor.service msgId incoming site.peers site.program
                      current.state (.new site.nodeId) with
                  | .error _ => []
                  | .ok executed =>
                      createdTimers site step actor.id (msgId, payload) core.timerCounter
                        executed.ctx.outbox

/-- The timers that the delivery of a step creates, if the step starts in this state. -/
def createdFrom (step : Nat) (batch : List (WireEnvelope V)) (before : MainState V) :
    List (Nat × PendingTimer V) :=
  match (drainNetwork site.nodeId step batch >>= fun _ => fireDueTimers site step) before with
  | .error _ _ => []
  | .ok _ ready =>
      match chooseNextDeterministic (pendingDeliveries site.nodeId ready.core) with
      | none => []
      | some chosen => createdBy host site step chosen.receiver ready.core

/-- The timers that the delivery of a step of a run creates, each with its delay. -/
def createdAt [DecidableEq V] (program : Program) (cfg : Config)
    (inbound : Nat → List (WireEnvelope V)) (step : Nat) : List (Nat × PendingTimer V) :=
  match launch host program cfg, recordFirst host program cfg inbound step with
  | .ok launched, .ok _ before => createdFrom host launched.site step (inbound step) before
  | _, _ => []

variable {host site}

theorem Delivery.created {step : Nat} {receiver : ActorId} {core : Core V} {handled : Handled V}
    (delivery : Delivery host site step receiver core handled) :
    createdBy host site step receiver core =
      createdTimers site step delivery.actor.id (handled.msgId, delivery.payload)
        core.timerCounter delivery.executed.ctx.outbox := by
  unfold createdBy
  simp only [delivery.found, delivery.inbox, delivery.decoded, delivery.again, delivery.ran]

/-- A created timer is due after its delay. -/
theorem createdTimers_due {step : Nat} {actorId : ActorId} {cause : MsgId × V} {counter : Nat}
    {outbox : List (Outgoing V)} {entry : Nat × PendingTimer V}
    (created : entry ∈ createdTimers site step actorId cause counter outbox) :
    0 < entry.1 ∧ entry.2.dueStep = saturatingAdd step entry.1 := by
  induction outbox generalizing counter with
  | nil => cases created
  | cons out rest ih =>
      rw [createdTimers] at created
      split at created
      · rename_i delayed
        rcases List.mem_cons.mp created with rfl | later
        · exact ⟨delayed, rfl⟩
        · exact ih later
      · exact ih created

theorem createdBy_due {step : Nat} {receiver : ActorId} {core : Core V}
    {entry : Nat × PendingTimer V} (created : entry ∈ createdBy host site step receiver core) :
    0 < entry.1 ∧ entry.2.dueStep = saturatingAdd step entry.1 := by
  unfold createdBy at created
  split at created
  · cases created
  · split at created
    · cases created
    · split at created
      · cases created
      · split at created
        · cases created
        · split at created
          · cases created
          · exact createdTimers_due created

theorem createdFrom_due {step : Nat} {batch : List (WireEnvelope V)} {before : MainState V}
    {entry : Nat × PendingTimer V} (created : entry ∈ createdFrom host site step batch before) :
    0 < entry.1 ∧ entry.2.dueStep = saturatingAdd step entry.1 := by
  unfold createdFrom at created
  split at created
  · cases created
  · split at created
    · cases created
    · exact createdBy_due created

end Creating

/-! ## What fires, and what it emits -/

section Firing

variable {V : Type}

def EventKind.firedTimer : EventKind V → Option Uuid
  | .timerFired _ _ timerId => some timerId
  | _ => none

def EventKind.isDeliver : EventKind V → Bool
  | .deliver .. => true
  | _ => false

/-- The identifiers of the timers fired, in the order of the trace. -/
def firedTimers (kinds : List (EventKind V)) : List Uuid := kinds.filterMap EventKind.firedTimer

theorem firedTimers_append (first second : List (EventKind V)) :
    firedTimers (first ++ second) = firedTimers first ++ firedTimers second :=
  List.filterMap_append

theorem firedTimers_eq_nil {kinds : List (EventKind V)}
    (quiet : ∀ kind ∈ kinds, kind.firedTimer = none) : firedTimers kinds = [] :=
  List.filterMap_eq_nil_iff.mpr quiet

/-- The event is the emission of the payload of the timer to its target by its actor. -/
def PendingTimer.Emits (site : Site) (timer : PendingTimer V) (event : EventKind V) : Prop :=
  (∃ service receiver msgId, timer.target = .localService service ∧
      site.serviceToActor.lookup service = some receiver ∧
      event = .send timer.fromActor receiver msgId timer.payload) ∨
    ∃ node service msgId, timer.target = .remoteService node service ∧
      event = .netSend site.nodeId node timer.fromActor msgId timer.payload

theorem PendingTimer.Emits.quiet {site : Site} {timer : PendingTimer V} {event : EventKind V}
    (emits : timer.Emits site event) : event.firedTimer = none ∧ event.isDeliver = false := by
  rcases emits with ⟨_, _, _, _, _, rfl⟩ | ⟨_, _, _, _, rfl⟩
  · exact ⟨rfl, rfl⟩
  · exact ⟨rfl, rfl⟩

theorem routeOutgoing_emits {site : Site} {timer : PendingTimer V} {core : Core V}
    {dispatched : Dispatched V}
    (routed : routeOutgoing site timer.fromActor timer.target timer.payload timer.cause core =
      .ok dispatched) : timer.Emits site dispatched.event := by
  rcases (routeOutgoing_ok site).mp routed with
    ⟨service, receiver, _, target, mapped, _, rfl⟩ | ⟨node, service, _, target, _, rfl⟩
  · exact .inl ⟨service, receiver, _, target, mapped, rfl⟩
  · exact .inr ⟨node, service, _, target, rfl⟩

/-- The timers of a core are as they were. -/
structure SameTimers (core final : Core V) : Prop where
  pending : final.pendingTimers = core.pendingTimers
  counter : final.timerCounter = core.timerCounter
  created : final.timersCreated = core.timersCreated

theorem SameTimers.refl (core : Core V) : SameTimers core core := ⟨rfl, rfl, rfl⟩

theorem SameTimers.trans {core middle final : Core V} (left : SameTimers core middle)
    (right : SameTimers middle final) : SameTimers core final where
  pending := right.pending.trans left.pending
  counter := right.counter.trans left.counter
  created := right.created.trans left.created

theorem SameTimers.route {site : Site} {fromActor : ActorId} {target : Target} {payload : V}
    {cause : MsgId × V} {core : Core V} {dispatched : Dispatched V}
    (routed : routeOutgoing site fromActor target payload cause core = .ok dispatched) :
    SameTimers core dispatched.core :=
  have change := routeOutgoing_routed routed
  ⟨change.pendingTimers, change.timerCounter, change.timersCreated⟩

theorem SameTimers.receiveAll (core : Core V) (received : List (WireEnvelope V)) :
    SameTimers core (core.receiveAll received) := by
  induction received generalizing core with
  | nil => exact .refl _
  | cons env rest ih =>
      have one : SameTimers core (core.receive env.toActor env.msgId env.payload) := by
        unfold Core.receive
        split
        · exact ⟨rfl, rfl, rfl⟩
        · exact .refl _
      exact one.trans (ih _)

variable {site : Site} {core final : Core V} {due : List (PendingTimer V)}
  {kinds : List (EventKind V)}

/-- Firing changes no other timer, and names the timers in order. -/
theorem fireList_timers (fires : fireList site due core = some (kinds, final)) :
    SameTimers core final ∧ firedTimers kinds = due.map PendingTimer.timerId ∧
      ∀ kind ∈ kinds, kind.isDeliver = false := by
  induction due generalizing core kinds with
  | nil =>
      cases fires
      exact ⟨.refl _, rfl, fun _ member => absurd member List.not_mem_nil⟩
  | cons timer rest ih =>
      rw [fireList] at fires
      split at fires
      · cases fires
      · rename_i dispatched routed
        obtain ⟨⟨later, last⟩, others, same⟩ := Option.map_eq_some_iff.mp fires
        cases same
        obtain ⟨kept, names, quiet⟩ := ih others
        have emits := (routeOutgoing_emits routed).quiet
        have named : (timer.firedEvent site).firedTimer = some timer.timerId := rfl
        have here : firedTimers [timer.firedEvent site, dispatched.event] = [timer.timerId] := by
          unfold firedTimers
          rw [List.filterMap_cons_some named, List.filterMap_cons_none emits.1, List.filterMap_nil]
        refine ⟨(SameTimers.route routed).trans kept, ?_, ?_⟩
        · rw [firedTimers_append, names, here]
          rfl
        · intro kind member
          rcases List.mem_append.mp member with here | there
          · rcases List.mem_cons.mp here with rfl | here
            · rfl
            · rw [List.mem_singleton.mp here]
              exact emits.2
          · exact quiet kind there

/-- A timer that fires is followed by its emission. -/
theorem fireList_emits (fires : fireList site due core = some (kinds, final))
    {timer : PendingTimer V} (member : timer ∈ due) :
    ∃ front emission back, kinds = front ++ timer.firedEvent site :: emission :: back ∧
      timer.Emits site emission := by
  induction due generalizing core kinds with
  | nil => cases member
  | cons first rest ih =>
      rw [fireList] at fires
      split at fires
      · cases fires
      · rename_i dispatched routed
        obtain ⟨⟨later, last⟩, others, same⟩ := Option.map_eq_some_iff.mp fires
        cases same
        rcases List.mem_cons.mp member with rfl | inside
        · exact ⟨[], dispatched.event, later, rfl, routeOutgoing_emits routed⟩
        · obtain ⟨front, emission, back, split, emits⟩ := ih others inside
          refine ⟨first.firedEvent site :: dispatched.event :: front, emission, back, ?_, emits⟩
          rw [split]
          rfl

end Firing

/-! ## The account of the identifiers -/

section Accounting

variable {V : Type} {host : Host V} {site : Site} {core final : Core V} {fired : List Uuid}

/-- As long as the counter has not saturated, the timers that have fired and the pending ones
have the identifiers handed out, each once. -/
structure TimerBook (nodeId : NodeId) (fired : List Uuid) (core : Core V) : Prop where
  counter : core.timerCounter = min (core.timersCreated + 1) u64Max
  accounts : core.timersCreated ≤ u64Max →
    (fired ++ core.pendingTimers.map PendingTimer.timerId).Perm
      ((List.range core.timersCreated).map fun number => timerIdAt nodeId (number + 1))

theorem TimerBook.initial (nodeId : NodeId) (actors : ActorSystem V) :
    TimerBook nodeId [] (.initial actors) where
  counter := rfl
  accounts _ := .nil

theorem TimerBook.same (book : TimerBook site.nodeId fired core)
    (kept : SameTimers core final) : TimerBook site.nodeId fired final := by
  obtain ⟨pending, counter, created⟩ := kept
  constructor
  · rw [counter, created]
    exact book.counter
  · rw [pending, created]
    exact book.accounts

/-- The identifiers in the account are distinct. -/
theorem TimerBook.nodup (book : TimerBook site.nodeId fired core)
    (few : core.timersCreated ≤ u64Max) :
    (fired ++ core.pendingTimers.map PendingTimer.timerId).Nodup := by
  rw [(book.accounts few).nodup_iff]
  refine List.Nodup.map_on ?_ List.nodup_range
  intro first inFirst second inSecond same
  have small := List.mem_range.mp inFirst
  have small' := List.mem_range.mp inSecond
  have equal := offset_injective _ (by omega) (by omega) same
  omega

theorem mem_dueTimers {step : Nat} {timers : List (PendingTimer V)} {timer : PendingTimer V} :
    timer ∈ dueTimers step timers ↔ timer ∈ timers ∧ timer.dueStep ≤ step := by
  unfold dueTimers
  rw [List.mem_insertionSort, List.mem_filter]
  exact and_congr_right fun _ => decide_eq_true_iff

/-- Firing moves the due timers from the pending side of the account to the other. -/
theorem TimerBook.fireDue (book : TimerBook site.nodeId fired core) {step : Nat}
    {kinds : List (EventKind V)} (fires : Runtime.fireDue site step core = some (kinds, final)) :
    TimerBook site.nodeId (fired ++ firedTimers kinds) final := by
  obtain ⟨kept, names, -⟩ := fireList_timers fires
  have waiting : TimerBook site.nodeId (fired ++ firedTimers kinds)
      (core.setTimers (core.pendingTimers.filter fun timer => !timerDue step timer)) := by
    refine ⟨book.counter, fun few => ?_⟩
    have ids := (dueTimers_perm step core.pendingTimers).symm.map PendingTimer.timerId
    rw [List.map_append] at ids
    rw [names, List.append_assoc]
    exact (ids.append_left fired).trans (book.accounts few)
  exact waiting.same kept

theorem TimerBook.schedule (book : TimerBook site.nodeId fired core) (step : Nat)
    (actorId : ActorId) (cause : MsgId × V) (out : Outgoing V) :
    TimerBook site.nodeId fired (scheduleTimer site step actorId cause out core) := by
  constructor
  · change saturatingAdd core.timerCounter 1 = min (core.timersCreated + 1 + 1) u64Max
    rw [book.counter, saturatingAdd_min]
  · intro few
    have created : core.timersCreated + 1 ≤ u64Max := few
    have next : (nextDeterministicTimerId site.nodeId core.timerCounter).1 =
        timerIdAt site.nodeId (core.timersCreated + 1) := by
      unfold nextDeterministicTimerId
      rw [book.counter, Nat.min_eq_left created]
      rfl
    change (fired ++ (core.pendingTimers ++ [_]).map PendingTimer.timerId).Perm
      ((List.range (core.timersCreated + 1)).map fun number => timerIdAt site.nodeId (number + 1))
    rw [List.map_append, List.range_succ, List.map_append, ← List.append_assoc]
    refine (book.accounts (by omega)).append ?_
    exact .of_eq (congrArg (fun id => [id]) next)

/-- The outbox loop adds the created timers to the pending ones. -/
theorem sendAll_timers {step : Nat} {actorId : ActorId} {cause : MsgId × V}
    {outbox : List (Outgoing V)} {kinds : List (EventKind V)}
    (sending : sendAll site step actorId cause outbox core = .ok (kinds, final))
    (book : TimerBook site.nodeId fired core) :
    final.pendingTimers = core.pendingTimers ++
        (createdTimers site step actorId cause core.timerCounter outbox).map Prod.snd ∧
      (∀ kind ∈ kinds, kind.firedTimer = none) ∧ TimerBook site.nodeId fired final ∧
      core.timersCreated ≤ final.timersCreated := by
  induction outbox generalizing core kinds with
  | nil =>
      cases sending
      exact ⟨(List.append_nil _).symm, fun _ member => absurd member List.not_mem_nil, book,
        le_refl _⟩
  | cons out rest ih =>
      rw [sendAll] at sending
      rw [createdTimers]
      split at sending
      · rename_i delayed
        obtain ⟨pending, quiet, booked, more⟩ := ih sending (book.schedule step actorId cause out)
        rw [if_pos delayed]
        refine ⟨?_, quiet, booked, Nat.le_of_succ_le more⟩
        rw [pending]
        exact List.append_assoc _ _ _
      · rename_i immediate
        obtain ⟨dispatched, routed, sending⟩ := ExceptRun.bind_ok.mp sending
        obtain ⟨⟨others, last⟩, later, sending⟩ := ExceptRun.bind_ok.mp sending
        cases sending
        have kept := SameTimers.route routed
        obtain ⟨pending, quiet, booked, more⟩ := ih later (book.same kept)
        rw [kept.pending, kept.counter] at pending
        rw [kept.created] at more
        rw [if_neg immediate]
        refine ⟨pending, fun kind member => ?_, booked, more⟩
        rcases List.mem_cons.mp member with rfl | inside
        · rcases (routeOutgoing_ok site).mp routed with
            ⟨_, _, _, _, _, _, rfl⟩ | ⟨_, _, _, _, _, rfl⟩
          · rfl
          · rfl
        · exact quiet kind inside

/-- A delivery adds the timers it creates and fires none. -/
theorem handleDelivery_timers {step : Nat} {receiver : ActorId} {handled : Handled V}
    (handles : handleDelivery host site step receiver core = .ok handled)
    (book : TimerBook site.nodeId fired core) :
    handled.core.pendingTimers =
        core.pendingTimers ++ (createdBy host site step receiver core).map Prod.snd ∧
      (∀ kind ∈ handled.events, kind.firedTimer = none) ∧
      TimerBook site.nodeId fired handled.core ∧
      core.timersCreated ≤ handled.core.timersCreated := by
  obtain ⟨delivery⟩ := (handleDelivery_ok host site).mp handles
  have kept : SameTimers core ((core.pop receiver delivery.actor (handled.msgId, delivery.payload)
      delivery.rest).setActor delivery.actor.id
        { delivery.current with state := delivery.executed.state }) := ⟨rfl, rfl, rfl⟩
  obtain ⟨pending, quiet, booked, more⟩ := sendAll_timers delivery.emitted (book.same kept)
  refine ⟨?_, ?_, booked, more⟩
  · rw [delivery.created, pending]
    rfl
  · intro kind member
    rw [delivery.events] at member
    rcases List.mem_cons.mp member with rfl | later
    · rfl
    · rcases List.mem_append.mp later with log | sent
      · obtain ⟨_, _, rfl⟩ := List.mem_map.mp log
        rfl
      · exact quiet kind sent

end Accounting

/-! ## One step -/

section Stepping

variable {V : Type} {host : Host V} {site : Site} {step : Nat} {batch : List (WireEnvelope V)}

/-- What a recorded step does to the timers: the events are what arrives, the firings of the
due timers, and the delivery with what it emits. -/
structure TimedStep (host : Host V) (site : Site) (step : Nat) (batch : List (WireEnvelope V))
    (s s' : MainState V) (arrivals firings handling : List (EventKind V)) : Prop where
  wrote : s'.recorded = s.recorded ++ (arrivals ++ firings ++ handling)
  arriving : ∀ kind ∈ arrivals, kind.isArrival = true
  fires : firedTimers firings = (dueTimers step s.core.pendingTimers).map PendingTimer.timerId
  emits : ∀ timer ∈ dueTimers step s.core.pendingTimers, ∃ front emission back,
    firings = front ++ timer.firedEvent site :: emission :: back ∧ timer.Emits site emission
  undelivered : ∀ kind ∈ firings, kind.isDeliver = false
  delivers : handling = [] ∨ ∃ receiver msgId rest,
    handling = .deliver site.nodeId receiver msgId :: rest
  quiet : ∀ kind ∈ handling, kind.firedTimer = none
  pending : s'.core.pendingTimers =
    (s.core.pendingTimers.filter fun timer => !timerDue step timer) ++
      (createdFrom host site step batch s).map Prod.snd
  grows : s.core.timersCreated ≤ s'.core.timersCreated

theorem Logs.recorded {s s' : MainState V} {kinds : List (EventKind V)} (logs : Logs s kinds s')
    (writes : s.writer.isSome = true) :
    s'.recorded = s.recorded ++ kinds ∧ s'.writer.isSome = true := by
  obtain ⟨trace, writer⟩ := Option.isSome_iff_exists.mp writes
  have same := logs.writer
  rw [writer] at same
  unfold MainState.recorded
  rw [same, writer]
  exact ⟨by simp [stamp_kind], rfl⟩

theorem firedTimers_arriving {kinds : List (EventKind V)}
    (arriving : ∀ kind ∈ kinds, kind.isArrival = true) : firedTimers kinds = [] := by
  refine firedTimers_eq_nil fun kind member => ?_
  have arrives := arriving kind member
  cases kind with
  | timerFired => cases arrives
  | _ => rfl

section Created

variable {s m n : MainState V} (draining : drainNetwork site.nodeId step batch s = .ok () m)
  (firing : fireDueTimers site step m = .ok () n)

include draining firing

theorem createdFrom_idle
    (choice : chooseNextDeterministic (pendingDeliveries site.nodeId n.core) = none) :
    createdFrom host site step batch s = [] := by
  unfold createdFrom
  rw [bind_of_ok draining, firing]
  dsimp only
  rw [choice]

theorem createdFrom_busy {chosen : PendingDelivery}
    (choice : chooseNextDeterministic (pendingDeliveries site.nodeId n.core) = some chosen) :
    createdFrom host site step batch s = createdBy host site step chosen.receiver n.core := by
  unfold createdFrom
  rw [bind_of_ok draining, firing]
  dsimp only
  rw [choice]

end Created

/-- The step lemma. -/
theorem recordStep_timed [DecidableEq V] {s s' : MainState V} (writes : s.writer.isSome = true)
    (book : TimerBook site.nodeId (firedTimers s.recorded) s.core)
    (ran : recordStep host site step batch s = .ok () s') :
    (∃ arrivals firings handling,
        TimedStep host site step batch s s' arrivals firings handling) ∧
      s'.writer.isSome = true ∧ TimerBook site.nodeId (firedTimers s'.recorded) s'.core := by
  obtain ⟨_, m, draining, ran⟩ := bind_ok.mp ran
  obtain ⟨_, n, firing, ran⟩ := bind_ok.mp ran
  obtain ⟨faults, received, drained⟩ := drainNetwork_ok draining
  obtain ⟨drainLogs, drainCore⟩ := drained.logs
  obtain ⟨fired, fires, fireLogs⟩ := fireDueTimers_fires firing
  have arriving : ∀ kind ∈ faults ++ received.map WireEnvelope.recvEvent,
      kind.isArrival = true := by
    intro kind member
    rcases List.mem_append.mp member with fault | receipt
    · have isFault := drained.isFault kind fault
      cases kind with
      | faultInjected => rfl
      | faultPolicy => rfl
      | _ => cases isFault
    · obtain ⟨env, -, rfl⟩ := List.mem_map.mp receipt
      rfl
  have same : SameTimers s.core m.core := drainCore ▸ SameTimers.receiveAll s.core received
  have booked := (book.same same).fireDue fires
  obtain ⟨kept, names, undelivered⟩ := fireList_timers fires
  have emits := fun timer (member : timer ∈ _) => fireList_emits fires member
  have waiting : n.core.pendingTimers =
      s.core.pendingTimers.filter fun timer => !timerDue step timer := by
    rw [kept.pending, ← same.pending]
    rfl
  have created : n.core.timersCreated = s.core.timersCreated := kept.created.trans same.created
  rw [same.pending] at names emits
  rw [get_bind] at ran
  cases choice : chooseNextDeterministic (pendingDeliveries site.nodeId n.core) with
  | none =>
      rw [choice] at ran
      cases ran
      obtain ⟨wrote, writing⟩ := (drainLogs.trans fireLogs).recorded writes
      refine ⟨⟨_, fired, [], ?_, arriving, names, emits, undelivered, .inl rfl,
        fun _ member => absurd member List.not_mem_nil, ?_, created.ge⟩, writing, ?_⟩
      · rw [wrote, List.append_nil]
      · rw [createdFrom_idle draining firing choice, waiting]
        exact (List.append_nil _).symm
      · rw [wrote, firedTimers_append, firedTimers_append, firedTimers_arriving arriving]
        exact booked
  | some chosen =>
      rw [choice] at ran
      have member := chooseNextDeterministic_mem choice
      obtain ⟨handled, sent, handles, reached, delivered⟩ :=
        deliver_record_ok (fun _ => True) member ran
      obtain ⟨pending, quiet, final, more⟩ := handleDelivery_timers handles booked
      obtain ⟨wrote, writing⟩ := ((drainLogs.trans fireLogs).trans delivered.logs).recorded writes
      have silent : ∀ kind ∈ EventKind.deliver site.nodeId chosen.receiver handled.msgId ::
          handled.events, kind.firedTimer = none := by
        intro kind inside
        rcases List.mem_cons.mp inside with rfl | later
        · rfl
        · exact quiet kind later
      refine ⟨⟨_, fired, _, wrote, arriving, names, emits, undelivered,
        .inr ⟨chosen.receiver, handled.msgId, handled.events, rfl⟩, silent, ?_, ?_⟩, writing, ?_⟩
      · rw [createdFrom_busy draining firing choice, reached, pending, waiting]
      · rw [reached, ← created]
        exact more
      · rw [reached, wrote, firedTimers_append, firedTimers_append, firedTimers_append,
          firedTimers_arriving arriving, firedTimers_eq_nil silent, List.append_nil]
        exact final

end Stepping

/-! ## The loop -/

section Looping

variable {V : Type} {host : Host V} {site : Site} {inbound : Nat → List (WireEnvelope V)}

/-- The trace is being written, and the identifiers of its timers are accounted for. -/
structure Booked (site : Site) (s : MainState V) : Prop where
  writes : s.writer.isSome = true
  book : TimerBook site.nodeId (firedTimers s.recorded) s.core

variable [DecidableEq V]

theorem recordStep_booked {step : Nat} {s s' : MainState V} (booked : Booked site s)
    (ran : recordStep host site step (inbound step) s = .ok () s') : Booked site s' := by
  obtain ⟨-, writes, book⟩ := recordStep_timed booked.writes booked.book ran
  exact ⟨writes, book⟩

/-- A loop that ended without error has reached every step on the way. -/
theorem recordLoop_prefix {first index rest : Nat} {s s' : MainState V}
    (ran : recordLoop host site inbound first (index + rest) s = .ok () s') :
    ∃ m, recordLoop host site inbound first index s = .ok () m ∧
      recordLoop host site inbound (first + index) rest m = .ok () s' := by
  induction index generalizing first s with
  | zero =>
      rw [Nat.zero_add] at ran
      exact ⟨s, rfl, ran⟩
  | succ index ih =>
      rw [Nat.add_right_comm] at ran
      obtain ⟨_, next, here, later⟩ := bind_ok.mp ran
      obtain ⟨m, reached, remaining⟩ := ih later
      refine ⟨m, ?_, ?_⟩
      · rw [recordLoop_of_ok here]
        exact reached
      · rw [Nat.add_right_comm] at remaining
        exact remaining

/-- The run lemma: the books stay right, the trace grows, and a timer that is not due stays. -/
theorem recordLoop_booked {first count : Nat} {s s' : MainState V} (booked : Booked site s)
    (ran : recordLoop host site inbound first count s = .ok () s') :
    Booked site s' ∧ s.recorded <+: s'.recorded ∧
      s.core.timersCreated ≤ s'.core.timersCreated ∧
      ∀ timer ∈ s.core.pendingTimers, first + count ≤ timer.dueStep →
        timer ∈ s'.core.pendingTimers := by
  induction count generalizing first s with
  | zero =>
      cases ran
      exact ⟨booked, List.prefix_refl _, le_refl _, fun _ member _ => member⟩
  | succ count ih =>
      obtain ⟨_, m, here, later⟩ := bind_ok.mp ran
      obtain ⟨⟨arrivals, firings, handling, timed⟩, -⟩ :=
        recordStep_timed booked.writes booked.book here
      obtain ⟨final, grows, more, stays⟩ := ih (recordStep_booked booked here) later
      refine ⟨final, ?_, timed.grows.trans more, fun timer member due => ?_⟩
      · exact (timed.wrote ▸ List.prefix_append _ _).trans grows
      · have waits : timer ∈ m.core.pendingTimers := by
          rw [timed.pending]
          refine List.mem_append_left _ (List.mem_filter.mpr ⟨member, ?_⟩)
          have late : ¬timer.dueStep ≤ first := by omega
          unfold timerDue
          rw [decide_eq_false late]
          rfl
        exact stays timer waits (by omega)

end Looping

/-! ## Whole runs -/

section Runs

variable {V : Type} {host : Host V} {site : Site}

theorem bootAll_timers {entryActor : ActorId} {indices : List Nat} {core final : Core V}
    {events : List (EventKind V)}
    (booted : bootAll host site entryActor indices core = .ok (events, final)) :
    SameTimers core final ∧ ∀ kind ∈ events, kind.firedTimer = none := by
  induction indices generalizing core events with
  | nil =>
      cases booted
      exact ⟨.refl _, fun _ member => absurd member List.not_mem_nil⟩
  | cons index rest ih =>
      simp only [bootAll] at booted
      split at booted
      · cases booted
      · rename_i actor found
        obtain ⟨⟨others, last⟩, later, booted⟩ := ExceptRun.bind_ok.mp booted
        cases booted
        obtain ⟨⟨pending, counter, created⟩, quiet⟩ := ih later
        refine ⟨⟨pending, counter, created⟩, fun kind member => ?_⟩
        rcases List.mem_cons.mp member with rfl | inside
        · rfl
        · exact quiet kind inside

theorem spawnList_quiet (nodeId : NodeId) (services : List String) :
    ∀ kind ∈ spawnList host nodeId services, kind.firedTimer = none := by
  intro kind member
  rcases List.mem_cons.mp member with rfl | member
  · rfl
  · obtain ⟨service, -, rfl⟩ := List.mem_map.mp member
    rfl

/-- The due timers fire in the order of their identifiers. -/
theorem dueTimers_sorted {step : Nat} {timers : List (PendingTimer V)}
    (distinct : (timers.map PendingTimer.timerId).Nodup) :
    ((dueTimers step timers).map PendingTimer.timerId).Pairwise (· < ·) := by
  let order (left right : PendingTimer V) : Prop := left.timerId ≤ right.timerId
  have : Std.Total order := ⟨fun left right => BitVec.le_total _ _⟩
  have : IsTrans (PendingTimer V) order := ⟨fun _ _ _ => BitVec.le_trans⟩
  have sorted : (dueTimers step timers).Pairwise order := List.pairwise_insertionSort order _
  have ids := ((dueTimers_perm step timers).map PendingTimer.timerId).nodup_iff.mp distinct
  rw [List.map_append] at ids
  have unequal := List.pairwise_map.mp (List.nodup_append.mp ids).1
  rw [List.pairwise_map]
  refine (sorted.and unequal).imp fun ⟨le, ne⟩ => BitVec.lt_def.mpr ?_
  exact Nat.lt_of_le_of_ne (BitVec.le_def.mp le) fun same => ne (BitVec.eq_of_toNat_eq same)

variable [DecidableEq V] {program : Program} {cfg : Config}
  {inbound : Nat → List (WireEnvelope V)} {st : MainState V}

/-- A run that ended without error started its loop with its books in order. -/
theorem record_booked (ran : record host program cfg inbound = .ok () st) :
    ∃ launched booted, launch host program cfg = .ok launched ∧ Booked launched.site booted ∧
      ∀ steps, recordFirst host program cfg inbound steps =
        recordLoop host launched.site inbound 0 steps booted := by
  cases launches : launch host program cfg with
  | error error =>
      unfold record at ran
      rw [launches] at ran
      cases ran
  | ok launched =>
      have begins := recordFirst_eq launches inbound
      have whole : recordFirst host program cfg inbound cfg.steps = .ok () st := ran
      rw [begins] at whole
      obtain ⟨_, booted, starting, -⟩ := bind_ok.mp whole
      have ready := launch_launched launches
      obtain ⟨entryActor, boots, core, -, boot, same⟩ := startup_record_ok ready starting
      obtain ⟨kept, quiet⟩ := bootAll_timers boot
      have recorded : booted.recorded = spawnList host cfg.nodeId program.services ++ boots := by
        have begun := recorded_logged
          (s := .initial .record cfg launched.actors []) rfl
          (spawnList host cfg.nodeId program.services ++ boots)
        rw [same]
        exact begun
      refine ⟨launched, booted, rfl, ⟨?_, ?_⟩, fun steps => ?_⟩
      · rw [same]
        rfl
      · rw [recorded, firedTimers_append, firedTimers_eq_nil (spawnList_quiet _ _),
          firedTimers_eq_nil quiet, same]
        exact (TimerBook.initial _ _).same kept
      · rw [begins, bind_of_ok starting]

section Stages

variable {booted : MainState V} (booked : Booked site booted)
  (loops : ∀ steps, recordFirst host program cfg inbound steps =
    recordLoop host site inbound 0 steps booted)

include loops

theorem recordFirst_reaches {steps index : Nat} (le : index ≤ steps)
    (ran : recordFirst host program cfg inbound steps = .ok () st) :
    ∃ m, recordFirst host program cfg inbound index = .ok () m := by
  rw [loops, ← Nat.add_sub_cancel' le] at ran
  obtain ⟨m, reached, -⟩ := recordLoop_prefix ran
  exact ⟨m, by rw [loops, reached]⟩

theorem recordFirst_steps {step : Nat} {before after : MainState V}
    (started : recordFirst host program cfg inbound step = .ok () before)
    (ended : recordFirst host program cfg inbound (step + 1) = .ok () after) :
    recordStep host site step (inbound step) before = .ok () after := by
  rw [loops] at started ended
  rw [recordLoop_add started, Nat.zero_add] at ended
  obtain ⟨_, m, here, done⟩ := bind_ok.mp ended
  cases done
  exact here

include booked

/-- Between two stages of a run the trace grows, and a timer that is not due stays. -/
theorem recordFirst_grows {index steps : Nat} (le : index ≤ steps) {a b : MainState V}
    (reached : recordFirst host program cfg inbound index = .ok () a)
    (later : recordFirst host program cfg inbound steps = .ok () b) :
    Booked site a ∧ a.recorded <+: b.recorded ∧ a.core.timersCreated ≤ b.core.timersCreated ∧
      ∀ timer ∈ a.core.pendingTimers, steps ≤ timer.dueStep →
        timer ∈ b.core.pendingTimers := by
  rw [loops] at reached later
  have here := (recordLoop_booked booked reached).1
  rw [← Nat.add_sub_cancel' le, recordLoop_add reached, Nat.zero_add] at later
  obtain ⟨-, grows, more, stays⟩ := recordLoop_booked here later
  rw [Nat.add_sub_cancel' le] at stays
  exact ⟨here, grows, more, stays⟩

end Stages

/-- In the trace of `st` the timer fires once, in the step that leads from `before` to `after`,
and its emission comes next. -/
def FiresOnce (site : Site) (timer : PendingTimer V) (before after st : MainState V) : Prop :=
  ∃ front emission back,
    st.recorded = front ++ timer.firedEvent site :: emission :: back ∧
      timer.Emits site emission ∧ before.recorded <+: front ∧
      front ++ [timer.firedEvent site, emission] <+: after.recorded ∧
      ∀ kind ∈ front ++ emission :: back, kind.firedTimer ≠ some timer.timerId

omit [DecidableEq V] in
/-- A timer that is due in a step fires there, and nowhere else. -/
theorem firesOnce_of_due {step : Nat} {batch : List (WireEnvelope V)}
    {before after : MainState V} {arrivals firings handling : List (EventKind V)}
    (timed : TimedStep host site step batch before after arrivals firings handling)
    (grows : after.recorded <+: st.recorded) (distinct : (firedTimers st.recorded).Nodup)
    {timer : PendingTimer V} (pending : timer ∈ before.core.pendingTimers)
    (due : timer.dueStep ≤ step) : FiresOnce site timer before after st := by
  obtain ⟨front, emission, back, split, emits⟩ :=
    timed.emits timer (mem_dueTimers.mpr ⟨pending, due⟩)
  obtain ⟨later, whole⟩ := grows
  have trace : st.recorded = (before.recorded ++ arrivals ++ front) ++
      timer.firedEvent site :: emission :: (back ++ handling ++ later) := by
    rw [← whole, timed.wrote, split]
    simp only [List.append_assoc, List.cons_append]
  refine ⟨before.recorded ++ arrivals ++ front, emission, back ++ handling ++ later, trace, emits,
    ?_, ?_, ?_⟩
  · rw [List.append_assoc]
    exact List.prefix_append _ _
  · refine ⟨back ++ handling, ?_⟩
    rw [timed.wrote, split]
    simp only [List.append_assoc, List.cons_append, List.nil_append]
  · have named : (timer.firedEvent site).firedTimer = some timer.timerId := rfl
    rw [trace, firedTimers_append] at distinct
    unfold firedTimers at distinct
    rw [List.filterMap_cons_some named] at distinct
    have absent := (List.nodup_middle.mp distinct).notMem
    rw [← List.filterMap_append] at absent
    intro kind member same
    exact absent (List.mem_filterMap.mpr ⟨kind, member, same⟩)

/-- Every timer that a delivery creates fires once, when its delay is over, or never if the run
ends before; the timers due in a step fire in the order of their identifiers and before the
delivery of the step. -/
theorem record_timers (range : cfg.steps ≤ u64Max)
    (ran : record host program cfg inbound = .ok () st)
    (few : st.core.timersCreated ≤ u64Max) :
    ∃ launched, launch host program cfg = .ok launched ∧
      ∀ step < cfg.steps, ∃ before after,
        recordFirst host program cfg inbound step = .ok () before ∧
        recordFirst host program cfg inbound (step + 1) = .ok () after ∧
        after.recorded <+: st.recorded ∧
        (∃ arrivals firings handling,
          TimedStep host launched.site step (inbound step) before after arrivals firings
            handling ∧ (firedTimers firings).Pairwise (· < ·)) ∧
        ∀ entry ∈ createdAt host program cfg inbound step, 0 < entry.1 ∧
          (step + entry.1 < cfg.steps → ∃ due dueAfter,
            recordFirst host program cfg inbound (step + entry.1) = .ok () due ∧
            recordFirst host program cfg inbound (step + entry.1 + 1) = .ok () dueAfter ∧
            FiresOnce launched.site entry.2 due dueAfter st) ∧
          (cfg.steps ≤ step + entry.1 →
            ∀ kind ∈ st.recorded, kind.firedTimer ≠ some entry.2.timerId) := by
  obtain ⟨launched, booted, launches, booked, loops⟩ := record_booked ran
  have whole : recordFirst host program cfg inbound cfg.steps = .ok () st := ran
  have final := (recordFirst_grows booked loops (le_refl _) whole whole).1.book.nodup few
  have distinct := (List.nodup_append.mp final).1
  -- What holds of every step, whether or not it creates timers.
  have stage (step : Nat) (below : step < cfg.steps) : ∃ before after,
      recordFirst host program cfg inbound step = .ok () before ∧
      recordFirst host program cfg inbound (step + 1) = .ok () after ∧
      after.recorded <+: st.recorded ∧
      ∃ arrivals firings handling, TimedStep host launched.site step (inbound step) before after
        arrivals firings handling ∧ (firedTimers firings).Pairwise (· < ·) := by
    obtain ⟨before, started⟩ := recordFirst_reaches loops (Nat.le_of_lt below) whole
    obtain ⟨after, ended⟩ := recordFirst_reaches loops below whole
    obtain ⟨here, -, more, -⟩ := recordFirst_grows booked loops (Nat.le_of_lt below) started whole
    obtain ⟨⟨arrivals, firings, handling, timed⟩, -⟩ :=
      recordStep_timed here.writes here.book (recordFirst_steps loops started ended)
    have grows := (recordFirst_grows booked loops below ended whole).2.1
    refine ⟨before, after, started, ended, grows, arrivals, firings, handling, timed, ?_⟩
    rw [timed.fires]
    exact dueTimers_sorted (List.nodup_append.mp (here.book.nodup (more.trans few))).2.1
  refine ⟨launched, launches, fun step below => ?_⟩
  obtain ⟨before, after, started, ended, grows, arrivals, firings, handling, timed, sorted⟩ :=
    stage step below
  refine ⟨before, after, started, ended, grows, ⟨arrivals, firings, handling, timed, sorted⟩, ?_⟩
  intro entry created
  unfold createdAt at created
  rw [launches, started] at created
  dsimp only at created
  obtain ⟨positive, dueStep⟩ := createdFrom_due created
  have pending : entry.2 ∈ after.core.pendingTimers := by
    rw [timed.pending]
    exact List.mem_append_right _ (List.mem_map_of_mem created)
  refine ⟨positive, fun inside => ?_, fun outside kind member fired => ?_⟩
  · have punctual : entry.2.dueStep = step + entry.1 :=
      dueStep.trans (saturatingAdd_of_le (by omega))
    obtain ⟨due, dueAfter, reached, passed, grows, arrivals, firings, handling, timed, -⟩ :=
      stage (step + entry.1) inside
    have stays := (recordFirst_grows booked loops (by omega : step + 1 ≤ step + entry.1) ended
      reached).2.2.2
    exact ⟨due, dueAfter, reached, passed,
      firesOnce_of_due timed grows distinct (stays entry.2 pending punctual.ge) punctual.le⟩
  · have late : cfg.steps ≤ entry.2.dueStep := by
      rw [dueStep]
      unfold saturatingAdd
      omega
    have stays := (recordFirst_grows booked loops below ended whole).2.2.2 entry.2 pending late
    have inFired : entry.2.timerId ∈ firedTimers st.recorded :=
      List.mem_filterMap.mpr ⟨kind, member, fired⟩
    exact (List.nodup_append.mp final).2.2 _ inFired _ (List.mem_map_of_mem stays) rfl

/-- The sample program starts a timer in its first step, which fires in the second. -/
theorem record_timers_sample :
    ∃ launched entry due dueAfter st,
      launch jsonHost sampleProgram (sampleConfig 2) = .ok launched ∧
      entry ∈ createdAt jsonHost sampleProgram (sampleConfig 2) sampleInbound 0 ∧ entry.1 = 1 ∧
      record jsonHost sampleProgram (sampleConfig 2) sampleInbound = .ok () st ∧
      recordFirst jsonHost sampleProgram (sampleConfig 2) sampleInbound 1 = .ok () due ∧
      recordFirst jsonHost sampleProgram (sampleConfig 2) sampleInbound 2 = .ok () dueAfter ∧
      FiresOnce launched.site entry.2 due dueAfter st := by
  have creates : ((createdAt jsonHost sampleProgram (sampleConfig 2) sampleInbound 0).map
      Prod.fst).head? = some 1 := by
    decide +kernel
  have few : (finalState (record jsonHost sampleProgram (sampleConfig 2)
      sampleInbound)).core.timersCreated ≤ u64Max := by
    decide +kernel
  obtain ⟨⟨⟩, st, ran⟩ := sampleRecord_succeeds
  rw [ran] at few
  obtain ⟨launched, launches, every⟩ := record_timers (by decide) ran few
  obtain ⟨before, after, -, -, -, -, fires⟩ := every 0 (by decide)
  obtain ⟨entry, created, delay⟩ := List.mem_map.mp (List.mem_of_head? creates)
  obtain ⟨-, inTime, -⟩ := fires entry created
  rw [delay] at inTime
  obtain ⟨due, dueAfter, reached, passed, once⟩ := inTime (by decide)
  exact ⟨launched, entry, due, dueAfter, st, launches, created, delay, ran, reached, passed, once⟩

end Runs

end UcoStack.Runtime
