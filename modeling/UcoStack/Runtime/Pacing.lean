import UcoStack.Runtime.Injector
import UcoStack.Runtime.RecordReplay

/-!
# The pace of a busy node

While some inbox is not empty, a recorded step leaves nothing open but what
arrives from the network: the due timers fire in order of their ids, and the
scheduler takes one message.  `pacedScript` reads a trace at this pace up to the
first time all inboxes are empty.  Every recording passes it, and opens with the
fault policy of its first step.
-/

namespace UcoStack.Runtime

open StateRun

section Reading

variable {V : Type} (host : Host V) (site : Site)

/-- Arrivals and fault evidence are written before anything else in a step. -/
def EventKind.isArrival : EventKind V → Bool
  | .netRecv .. => true
  | .faultInjected .. => true
  | .faultPolicy .. => true
  | _ => false

/-- Take in everything that arrives before the next other event. -/
def readArrivals : Core V → List (EventKind V) → Core V × List (EventKind V)
  | core, [] => (core, [])
  | core, kind :: rest =>
      match kind with
      | .netRecv _ _ receiver msgId payload =>
          readArrivals (core.receive receiver msgId payload) rest
      | .faultInjected .. | .faultPolicy .. => readArrivals core rest
      | _ => (core, kind :: rest)

/-- Fire a list of timers: the events, and the core. -/
def fireList : List (PendingTimer V) → Core V → Option (List (EventKind V) × Core V)
  | [], core => some ([], core)
  | timer :: rest, core =>
      match routeOutgoing site timer.fromActor timer.target timer.payload timer.cause core with
      | .error _ => none
      | .ok dispatched =>
          (fireList rest dispatched.core).map fun later =>
            ([timer.firedEvent site, dispatched.event] ++ later.1, later.2)

/-- `fire_due_timers`. -/
def fireDue (step : Nat) (core : Core V) : Option (List (EventKind V) × Core V) :=
  fireList site (dueTimers step core.pendingTimers)
    (core.setTimers (core.pendingTimers.filter fun timer => !timerDue step timer))

/-- A step after the arrivals: the timers that fire, the delivery and what it emits. -/
def busyStep (step : Nat) (core : Core V) : Option (List (EventKind V) × Core V) :=
  match fireDue site step core with
  | none => none
  | some (fired, next) =>
      match chooseNextDeterministic (pendingDeliveries site.nodeId next) with
      | none => none
      | some chosen =>
          match handleDelivery host site step chosen.receiver next with
          | .error _ => none
          | .ok handled => some (fired ++ chosen.event :: handled.events, handled.core)

variable [DecidableEq V]

/-- Read up to `fuel` steps of a busy node.  Nothing is said of the trace from the
first time all inboxes are empty, and it may stop after the arrivals of a step. -/
def pacedScript : (fuel step : Nat) → Core V → List (EventKind V) → Bool
  | 0, _, _, _ => true
  | fuel + 1, step, core, script =>
      if (readArrivals core script).2 = [] ∨ core.pendingInboxMessages = 0 then true
      else
        match busyStep host site step (readArrivals core script).1 with
        | none => false
        | some (kinds, next) =>
            kinds.isPrefixOf (readArrivals core script).2 &&
              pacedScript fuel (step + 1) next ((readArrivals core script).2.drop kinds.length)

end Reading

/-! ## Arrivals -/

section Arrivals

variable {V : Type} {site : Site}

theorem readArrivals_faults {faults : List (EventKind V)} (core : Core V)
    (isFault : ∀ kind ∈ faults, kind.IsFault site.nodeId) (rest : List (EventKind V)) :
    readArrivals core (faults ++ rest) = readArrivals core rest := by
  induction faults with
  | nil => rfl
  | cons kind faults ih =>
      obtain ⟨first, others⟩ := List.forall_mem_cons.mp isFault
      cases kind with
      | faultInjected node fromNode receiver msgId action => exact ih others
      | faultPolicy node at' dropEvery delaySteps reorderWindow => exact ih others
      | _ => exact first.elim

theorem readArrivals_received (core : Core V) (received : List (WireEnvelope V))
    (rest : List (EventKind V)) :
    readArrivals core (received.map WireEnvelope.recvEvent ++ rest) =
      readArrivals (core.receiveAll received) rest := by
  induction received generalizing core with
  | nil => rfl
  | cons env received ih => exact ih (core.receive env.toActor env.msgId env.payload)

theorem readArrivals_stops (core : Core V) {rest : List (EventKind V)}
    (other : ∀ kind, rest.head? = some kind → kind.isArrival = false) :
    readArrivals core rest = (core, rest) := by
  cases rest with
  | nil => rfl
  | cons kind rest =>
      have foreign := other kind rfl
      cases kind <;> first | rfl | cases foreign

end Arrivals

/-! ## A busy node stays busy -/

section Busy

variable {V : Type} {site : Site}

/-- Some inbox is not empty. -/
def Core.Busy (core : Core V) : Prop :=
  ∃ id actor, core.actors.lookup id = some actor ∧ actor.inbox ≠ []

theorem busy_iff (core : Core V) : core.Busy ↔ core.pendingInboxMessages ≠ 0 := by
  rw [ne_eq, pendingInboxMessages_eq_zero]
  unfold Core.Busy
  push Not
  exact Iff.rfl

theorem Core.Busy.enqueue {core : Core V} (id : ActorId) (actor : Actor V) (msgId : MsgId)
    (payload : V) (busy : core.Busy) : (core.enqueue id actor msgId payload).Busy := by
  obtain ⟨other, waiting, found, inbox⟩ := busy
  by_cases same : other = id
  · refine ⟨id, { actor with inbox := actor.inbox ++ [(msgId, payload)] }, ?_, by simp⟩
    exact AList.lookup_insert core.actors
  · refine ⟨other, waiting, ?_, inbox⟩
    exact (AList.lookup_insert_ne same).trans found

theorem Core.Busy.receive {core : Core V} (busy : core.Busy) (id : ActorId) (msgId : MsgId)
    (payload : V) : (core.receive id msgId payload).Busy := by
  unfold Core.receive
  cases core.actors.lookup id with
  | none => exact busy
  | some actor => exact busy.enqueue id actor msgId payload

theorem Core.Busy.receiveAll {core : Core V} (busy : core.Busy)
    (received : List (WireEnvelope V)) : (core.receiveAll received).Busy := by
  induction received generalizing core with
  | nil => exact busy
  | cons env received ih => exact ih (busy.receive env.toActor env.msgId env.payload)

theorem Core.Busy.route {core : Core V} (busy : core.Busy) {fromActor : ActorId}
    {target : Target} {payload : V} {cause : MsgId × V} {dispatched : Dispatched V}
    (routed : routeOutgoing site fromActor target payload cause core = .ok dispatched) :
    dispatched.core.Busy := by
  rcases (routeOutgoing_ok site).mp routed with
    ⟨_, toActorId, toActor, _, _, _, rfl⟩ | ⟨_, _, _, _, _, rfl⟩
  · have allocated : (core.allocate site.nodeId).2.Busy := busy
    exact allocated.enqueue toActorId toActor _ payload
  · exact busy

theorem Core.Busy.fireList {core next : Core V} (busy : core.Busy) {due : List (PendingTimer V)}
    {kinds : List (EventKind V)} (fires : Runtime.fireList site due core = some (kinds, next)) :
    next.Busy := by
  induction due generalizing core kinds with
  | nil =>
      cases fires
      exact busy
  | cons timer rest ih =>
      rw [Runtime.fireList] at fires
      split at fires
      · cases fires
      · rename_i dispatched routed
        obtain ⟨later, others, same⟩ := Option.map_eq_some_iff.mp fires
        cases same
        exact ih (busy.route routed) others

theorem Core.Busy.fireDue {step : Nat} {core next : Core V} {kinds : List (EventKind V)}
    (busy : core.Busy) (fires : Runtime.fireDue site step core = some (kinds, next)) :
    next.Busy := by
  have waiting : (core.setTimers
      (core.pendingTimers.filter fun timer => !timerDue step timer)).Busy := busy
  exact waiting.fireList fires

/-- The scheduler of a busy node has a choice. -/
theorem Core.Busy.chooses {core : Core V} (busy : core.Busy) (nodeId : NodeId) :
    chooseNextDeterministic (pendingDeliveries nodeId core) ≠ none := by
  obtain ⟨id, actor, found, inbox⟩ := busy
  obtain ⟨message, rest, split⟩ := List.exists_cons_of_ne_nil inbox
  have candidate : (⟨nodeId, id, message.1⟩ : PendingDelivery) ∈ pendingDeliveries nodeId core := by
    refine List.mem_filterMap.mpr ⟨⟨id, actor⟩, AList.mem_lookup_iff.mp found, ?_⟩
    rw [split]
    rfl
  intro nothing
  have sorted := List.head?_eq_none_iff.mp nothing
  have perm := List.perm_insertionSort deliveryKeyLe (pendingDeliveries nodeId core)
  rw [sorted] at perm
  rw [perm.symm.eq_nil] at candidate
  exact List.not_mem_nil candidate

end Busy

/-! ## Recorded steps -/

section Steps

variable {V : Type} {host : Host V} {site : Site} {s s' : MainState V}

/-- `kinds` is what the trace got from `s` to `s'`. -/
structure Logs (s : MainState V) (kinds : List (EventKind V)) (s' : MainState V) : Prop where
  seq : s'.seq = s.seq + kinds.length
  writer : s'.writer = s.writer.map (· ++ stamp s.seq kinds)

theorem Logs.trans {m : MainState V} {first second : List (EventKind V)} (left : Logs s first m)
    (right : Logs m second s') : Logs s (first ++ second) s' where
  seq := by
    rw [right.seq, left.seq, List.length_append, Nat.add_assoc]
  writer := by
    rw [right.writer, left.writer, left.seq, Option.map_map, MainState.stamp_append]
    congr 1
    funext trace
    exact List.append_assoc _ _ _

theorem Recorded.logs {Step : Core V → List (EventKind V) → Core V → Prop}
    {arrived sent : List (WireEnvelope V)} {kinds : List (EventKind V)}
    (recorded : Recorded Step s arrived kinds sent s') : Logs s kinds s' := by
  rw [recorded.state]
  exact ⟨rfl, rfl⟩

theorem Drained.logs {batch received : List (WireEnvelope V)} {faults : List (EventKind V)}
    (drained : Drained site.nodeId s batch faults received s') :
    Logs s (faults ++ received.map WireEnvelope.recvEvent) s' ∧
      s'.core = s.core.receiveAll received := by
  rw [drained.state]
  exact ⟨⟨rfl, rfl⟩, rfl⟩

theorem fireAll_fires {due : List (PendingTimer V)}
    (ran : due.forM (fireTimer site) s = .ok () s') :
    ∃ kinds, fireList site due s.core = some (kinds, s'.core) ∧ Logs s kinds s' := by
  induction due generalizing s with
  | nil =>
      cases ran
      exact ⟨[], rfl, rfl, by simp [stamp]⟩
  | cons timer rest ih =>
      obtain ⟨_, m, here, later⟩ := bind_ok.mp ran
      obtain ⟨dispatched, routed, state⟩ := fireTimer_ok here
      obtain ⟨kinds, others, logs⟩ := ih later
      have core : m.core = dispatched.core := by
        rw [state]
        rfl
      have first : Logs s [timer.firedEvent site, dispatched.event] m := by
        rw [state]
        exact ⟨rfl, rfl⟩
      refine ⟨_, ?_, first.trans logs⟩
      rw [fireList, routed]
      dsimp only
      rw [← core, others]
      rfl

theorem fireDueTimers_fires {step : Nat} (ran : fireDueTimers site step s = .ok () s') :
    ∃ kinds, fireDue site step s.core = some (kinds, s'.core) ∧ Logs s kinds s' := by
  unfold fireDueTimers at ran
  rw [get_bind, updateCore_bind] at ran
  obtain ⟨kinds, fires, logs⟩ := fireAll_fires ran
  exact ⟨kinds, fires, logs.seq, logs.writer⟩

theorem fireDue_head {step : Nat} {core next : Core V} {fired : List (EventKind V)}
    (fires : fireDue site step core = some (fired, next)) (event : EventKind V)
    (other : event.isArrival = false) (rest : List (EventKind V)) (kind : EventKind V)
    (first : (fired ++ event :: rest).head? = some kind) : kind.isArrival = false := by
  unfold fireDue at fires
  cases due : dueTimers step core.pendingTimers with
  | nil =>
      rw [due] at fires
      cases fires
      cases first
      exact other
  | cons timer later =>
      rw [due, fireList] at fires
      split at fires
      · cases fires
      · obtain ⟨_, _, same⟩ := Option.map_eq_some_iff.mp fires
        cases same
        cases first
        rfl

/-- A step of a busy node, down to what arrives. -/
theorem recordStep_busy [DecidableEq V] {step : Nat} {batch : List (WireEnvelope V)}
    (busy : s.core.Busy) (ran : recordStep host site step batch s = .ok () s') :
    ∃ faults received kinds, (∀ kind ∈ faults, kind.IsFault site.nodeId) ∧
      busyStep host site step (s.core.receiveAll received) = some (kinds, s'.core) ∧
      (∀ (rest : List (EventKind V)) (kind : EventKind V),
        (kinds ++ rest).head? = some kind → kind.isArrival = false) ∧
      Logs s (faults ++ received.map WireEnvelope.recvEvent ++ kinds) s' := by
  obtain ⟨_, m, draining, ran⟩ := bind_ok.mp ran
  obtain ⟨_, n, firing, ran⟩ := bind_ok.mp ran
  obtain ⟨faults, received, drained⟩ := drainNetwork_ok draining
  obtain ⟨drainLogs, drainCore⟩ := drained.logs
  obtain ⟨fired, fires, fireLogs⟩ := fireDueTimers_fires firing
  rw [drainCore] at fires
  have stillBusy : n.core.Busy := (busy.receiveAll received).fireDue fires
  rw [get_bind] at ran
  cases choice : chooseNextDeterministic (pendingDeliveries site.nodeId n.core) with
  | none => exact absurd choice (stillBusy.chooses site.nodeId)
  | some chosen =>
      rw [choice] at ran
      have member := chooseNextDeterministic_mem choice
      obtain ⟨handled, sent, handles, reached, delivered⟩ :=
        deliver_record_ok (fun _ => True) member ran
      have event := chosen_event member handles
      refine ⟨faults, received, fired ++ chosen.event :: handled.events, drained.isFault, ?_, ?_, ?_⟩
      · unfold busyStep
        rw [fires]
        dsimp only
        rw [choice]
        dsimp only
        rw [handles, reached]
      · intro rest kind first
        rw [List.append_assoc] at first
        exact fireDue_head fires chosen.event rfl (handled.events ++ rest) kind first
      · rw [event]
        have logs := (drainLogs.trans fireLogs).trans delivered.logs
        rwa [List.append_assoc _ fired] at logs

/-- A loop that ended without error is read at the pace of a busy node. -/
theorem recordLoop_paced [DecidableEq V] {inbound : Nat → List (WireEnvelope V)}
    {step count : Nat} (ran : recordLoop host site inbound step count s = .ok () s') :
    ∃ kinds, Logs s kinds s' ∧ ∀ fuel, pacedScript host site fuel step s.core kinds = true := by
  induction count generalizing step s with
  | zero =>
      cases ran
      refine ⟨[], ⟨rfl, by simp [stamp]⟩, fun fuel => ?_⟩
      cases fuel with
      | zero => rfl
      | succ fuel => rw [pacedScript, if_pos (.inl rfl)]
  | succ count ih =>
      by_cases busy : s.core.Busy
      · obtain ⟨_, m, here, later⟩ := bind_ok.mp ran
        obtain ⟨faults, received, kinds, isFault, stepped, starts, logs⟩ :=
          recordStep_busy busy here
        obtain ⟨rest, restLogs, paced⟩ := ih later
        refine ⟨_, logs.trans restLogs, fun fuel => ?_⟩
        cases fuel with
        | zero => rfl
        | succ fuel =>
            have arrivals : readArrivals s.core
                (faults ++ received.map WireEnvelope.recvEvent ++ kinds ++ rest) =
                (s.core.receiveAll received, kinds ++ rest) := by
              rw [List.append_assoc, List.append_assoc, readArrivals_faults s.core isFault,
                readArrivals_received]
              exact readArrivals_stops _ (starts rest)
            rw [pacedScript, arrivals]
            by_cases stop : kinds ++ rest = [] ∨ s.core.pendingInboxMessages = 0
            · rw [if_pos stop]
            · rw [if_neg stop, stepped]
              dsimp only
              rw [List.drop_left, paced fuel, Bool.and_true]
              exact List.isPrefixOf_iff_prefix.mpr (List.prefix_append kinds rest)
      · have holds : s.Holds (fun _ : WireEnvelope V => True) := fun _ _ => trivial
        obtain ⟨kinds, sent, recorded, _⟩ := recordLoop_ok holds (fun _ _ => trivial) ran
        have empty : s.core.pendingInboxMessages = 0 := by
          rw [busy_iff] at busy
          exact not_not.mp busy
        refine ⟨kinds, recorded.logs, fun fuel => ?_⟩
        cases fuel with
        | zero => rfl
        | succ fuel => rw [pacedScript, if_pos (.inr empty)]

/-! ## The first step -/

def EventKind.isPolicy : EventKind V → Bool
  | .faultPolicy .. => true
  | _ => false

/-- The policy in force is written before anything else. -/
theorem syncPolicy_opens {nodeId : NodeId} {step : Nat}
    (fresh : s.injector.policyInitialized = false)
    (ran : syncPolicy nodeId step s = .ok () s') :
    ∃ policy, EventKind.isPolicy (V := V) policy = true ∧ Logs s [policy] s' ∧ s'.core = s.core ∧
      syncPolicy nodeId step s' = .ok () s' := by
  unfold syncPolicy at ran
  rw [get_bind, if_pos (by rw [fresh]; rfl), updateInjector_bind] at ran
  obtain ⟨_, m, recorded, ran⟩ := bind_ok.mp ran
  cases ran
  cases recordEvent_ok recorded
  refine ⟨_, rfl, ⟨rfl, rfl⟩, rfl, ?_⟩
  exact syncPolicy_synced ⟨rfl, rfl, rfl⟩

/-- A fresh loop writes nothing, or the fault policy first. -/
theorem recordLoop_opens [DecidableEq V] {inbound : Nat → List (WireEnvelope V)}
    {step count : Nat} (fresh : s.injector.policyInitialized = false)
    (ran : recordLoop host site inbound step count s = .ok () s') :
    ∃ kinds, Logs s kinds s' ∧ (∀ kind, kinds.head? = some kind → kind.isPolicy = true) ∧
      ∀ fuel, pacedScript host site fuel step s.core kinds = true := by
  cases count with
  | zero =>
      obtain ⟨kinds, logs, paced⟩ := recordLoop_paced ran
      cases ran
      have none : kinds = [] := List.length_eq_zero_iff.mp (by have := logs.seq; omega)
      subst none
      exact ⟨[], logs, (fun _ absent => by cases absent), paced⟩
  | succ count =>
      obtain ⟨_, m, here, later⟩ := bind_ok.mp ran
      obtain ⟨_, n, draining, firing⟩ := bind_ok.mp here
      obtain ⟨_, o, syncing, ingesting⟩ := bind_ok.mp draining
      obtain ⟨policy, isPolicy, opens, core, again⟩ := syncPolicy_opens fresh syncing
      -- The loop runs on in the same way when the policy has been written before.
      have rest : recordLoop host site inbound step (count + 1) o = .ok () s' :=
        bind_ok.mpr ⟨(), m, bind_ok.mpr ⟨(), n, bind_ok.mpr ⟨(), o, again, ingesting⟩, firing⟩, later⟩
      obtain ⟨kinds, logs, paced⟩ := recordLoop_paced rest
      refine ⟨policy :: kinds, opens.trans logs, ?_, fun fuel => ?_⟩
      · rintro kind ⟨⟩
        exact isPolicy
      · have skips : readArrivals s.core (policy :: kinds) = readArrivals s.core kinds := by
          cases policy <;> first | rfl | cases isPolicy
        have after := paced fuel
        rw [core] at after
        cases fuel with
        | zero => rfl
        | succ fuel =>
            rw [pacedScript] at after ⊢
            rwa [skips]

/-! ## Whole recordings -/

/-- What every recording of the program passes, whatever the fault configuration, the
number of steps and the network do. -/
def pacedTrace [DecidableEq V] (host : Host V) (program : Program) (cfg : Config) (fuel : Nat)
    (kinds : List (EventKind V)) : Bool :=
  match launch host program cfg with
  | .error _ => false
  | .ok launched =>
      match launched.site.serviceToActor.lookup launched.entryService with
      | none => false
      | some entryActor =>
          match bootAll host launched.site entryActor (List.range (bootstrapCount cfg))
              (.initial launched.actors) with
          | .error _ => false
          | .ok (boots, booted) =>
              let started := spawnList host cfg.nodeId program.services ++ boots
              let loop := kinds.drop started.length
              (loop.head?.map EventKind.isPolicy).getD true &&
                pacedScript host launched.site fuel 0 booted loop

theorem record_paced [DecidableEq V] {program : Program} {cfg : Config}
    {inbound : Nat → List (WireEnvelope V)} {st : MainState V}
    (ran : record host program cfg inbound = .ok () st) {trace : List (TraceEvent V)}
    (wrote : st.writer = some trace) (fuel : Nat) :
    pacedTrace host program cfg fuel (trace.map TraceEvent.kind) = true := by
  unfold record at ran
  split at ran
  · cases ran
  · rename_i launched launches
    have ready := launch_launched launches
    obtain ⟨_, m, starting, looping⟩ := bind_ok.mp ran
    obtain ⟨entryActor, boots, booted, entry, boot, rfl⟩ := startup_record_ok ready starting
    obtain ⟨kinds, logs, opens, paced⟩ := recordLoop_opens rfl looping
    have whole : trace.map TraceEvent.kind =
        (spawnList host cfg.nodeId program.services ++ boots) ++ kinds := by
      have written := wrote.symm.trans logs.writer
      have same : trace = stamp 0 (spawnList host cfg.nodeId program.services ++ boots) ++
          stamp (0 + (spawnList host cfg.nodeId program.services ++ boots).length) kinds :=
        Option.some.inj written
      rw [same, ← MainState.stamp_append, stamp_kind]
    have first : (kinds.head?.map EventKind.isPolicy).getD true = true := by
      cases head : kinds.head? with
      | none => rfl
      | some kind => exact opens kind head
    unfold pacedTrace
    rw [launches]
    dsimp only
    rw [entry]
    dsimp only
    have booting : bootAll host launched.site entryActor (List.range (bootstrapCount cfg))
        (.initial launched.actors) = .ok (boots, booted) := boot
    rw [booting, whole]
    dsimp only
    rw [List.drop_left, first, Bool.true_and]
    exact paced fuel

end Steps

end UcoStack.Runtime
