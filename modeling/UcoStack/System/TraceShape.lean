import UcoStack.Runtime.Identifiers
import UcoStack.Runtime.Trace
import UcoStack.Tool.Cluster
import UcoStack.Tool.LocalVerify

/-!
# The shape of a recorded trace

What the steps of a node leave in its trace, whatever the messages say: a delivery
is followed by its effects and a fired timer by its message, and all actors that are
named were spawned at the start.
-/

namespace UcoStack.System

open UcoStack.Runtime UcoStack.Tool

/-! ## Events next to each other -/

section Adjacency

variable {V : Type}

/-- The conditions on an event and the one before it. -/
structure Adjacent (past : List (EventKind V)) (kind : EventKind V) : Prop where
  effect : ∀ node receiver msgId, past.getLast? = some (.deliver node receiver msgId) →
    isEffectObserved kind = true
  timer : ∀ node sender timerId, past.getLast? = some (.timerFired node sender timerId) →
    emitter kind = some sender
  observed : ∀ node actor service msgType msgId declared observed,
    kind = .effectObserved node actor service msgType msgId declared observed →
      past.getLast? = some (.deliver node actor msgId) ∧
        declared.Nodup ∧ observed.Nodup ∧ observed ⊆ declared

/-- The events can be read on their own: the first answers no event before it and the
last awaits no event. -/
structure Tidy (kinds : List (EventKind V)) : Prop where
  adjacent : EveryPosition Adjacent kinds
  settled : Tool.Settled kinds

/-- After settled events the next one is in order when it would be at the start. -/
theorem Adjacent.after {left past : List (EventKind V)} {kind : EventKind V}
    (settled : Tool.Settled left) (adjacent : Adjacent past kind) : Adjacent (left ++ past) kind := by
  rcases List.eq_nil_or_concat past with rfl | ⟨before, last, rfl⟩
  · rw [List.append_nil]
    refine ⟨?_, ?_, ?_⟩
    · exact fun node receiver msgId ending => absurd ending (settled.2 node receiver msgId)
    · exact fun node sender timerId ending => absurd ending (settled.1 node sender timerId)
    · intro node actor service msgType msgId declared observed same
      obtain ⟨ending, _⟩ := adjacent.observed _ _ _ _ _ _ _ same
      cases ending
  · have ending : (left ++ before.concat last).getLast? = (before.concat last).getLast? := by
      simp [List.concat_eq_append, ← List.append_assoc]
    refine ⟨?_, ?_, ?_⟩
    · rw [ending]
      exact adjacent.effect
    · rw [ending]
      exact adjacent.timer
    · rw [ending]
      exact adjacent.observed

theorem Settled.append {left right : List (EventKind V)} (first : Tool.Settled left)
    (second : Tool.Settled right) : Tool.Settled (left ++ right) := by
  rcases List.eq_nil_or_concat right with rfl | ⟨before, last, rfl⟩
  · rwa [List.append_nil]
  · have ending : (left ++ before.concat last).getLast? = (before.concat last).getLast? := by
      simp [List.concat_eq_append, ← List.append_assoc]
    unfold Tool.Settled at second ⊢
    rwa [ending]

theorem Tidy.nil : Tidy ([] : List (EventKind V)) where
  adjacent := .nil
  settled := ⟨nofun, nofun⟩

theorem Tidy.append {left right : List (EventKind V)} (first : Tidy left) (second : Tidy right) :
    Tidy (left ++ right) where
  adjacent := EveryPosition.append.mpr ⟨first.adjacent,
    second.adjacent.mono fun _ _ _ _ adjacent => adjacent.after first.settled⟩
  settled := Settled.append first.settled second.settled

/-- An event that neither awaits nor answers another. -/
def Lone : EventKind V → Prop
  | .deliver .. | .timerFired .. | .effectObserved .. => False
  | _ => True

theorem Tidy.lone {kind : EventKind V} (lone : Lone kind) : Tidy [kind] where
  adjacent := by
    have start : EveryPosition Adjacent ([] ++ [kind]) := by
      refine EveryPosition.snoc.mpr ⟨.nil, nofun, nofun, ?_⟩
      rintro _ _ _ _ _ _ _ rfl
      exact lone.elim
    exact start
  settled := by
    constructor
    · rintro node sender timerId ⟨⟩
      exact lone
    · rintro node receiver msgId ⟨⟩
      exact lone

theorem Tidy.lones {kinds : List (EventKind V)} (lone : ∀ kind ∈ kinds, Lone kind) :
    Tidy kinds := by
  induction kinds with
  | nil => exact .nil
  | cons kind rest ih =>
      have first : Tidy [kind] := .lone (lone kind List.mem_cons_self)
      exact first.append (ih fun other member => lone other (List.mem_cons_of_mem kind member))

/-- Two events of which only the second looks back. -/
theorem Tidy.pair {first second : EventKind V} (start : Adjacent [] first)
    (next : Adjacent [first] second) (settled : Tool.Settled [second]) : Tidy [first, second] where
  adjacent := by
    have whole : EveryPosition Adjacent (([] ++ [first]) ++ [second]) :=
      EveryPosition.snoc.mpr ⟨EveryPosition.snoc.mpr ⟨.nil, start⟩, next⟩
    exact whole
  settled := settled

/-- A fired timer and the message it held. -/
theorem Tidy.fired {node : NodeId} {sender : ActorId} {timerId : Uuid} {event : EventKind V}
    (emits : emitter event = some sender) : Tidy [.timerFired node sender timerId, event] := by
  refine .pair ⟨nofun, nofun, nofun⟩ ⟨nofun, ?_, ?_⟩ ?_
  · rintro _ _ _ ⟨⟩
    exact emits
  · rintro _ _ _ _ _ _ _ rfl
    cases emits
  · constructor
    · rintro _ _ _ ⟨⟩
      cases emits
    · rintro _ _ _ ⟨⟩
      cases emits

/-- A delivery and the effects of its handler. -/
theorem Tidy.delivered {node : NodeId} {receiver : ActorId} {msgId : MsgId}
    {service msgType : String} {declared observed : List EffectKind} (distinct : declared.Nodup)
    (observedDistinct : observed.Nodup) (within : observed ⊆ declared) :
    Tidy [(.deliver node receiver msgId : EventKind V),
      .effectObserved node receiver service msgType msgId declared observed] := by
  refine .pair ⟨nofun, nofun, nofun⟩ ⟨fun _ _ _ _ => rfl, nofun, ?_⟩ ⟨nofun, nofun⟩
  rintro _ _ _ _ _ _ _ ⟨⟩
  exact ⟨rfl, distinct, observedDistinct, within⟩

end Adjacency

/-! ## Recorded effects -/

section Effects

theorem effectKind_injective : Function.Injective effectKind := by
  intro first second same
  cases first <;> cases second <;> first | rfl | cases same

theorem effectVec_nodup (effects : Finset Lang.HandlerEffect) : (effectVec effects).Nodup :=
  (Lang.HandlerEffect.all_nodup.filter _).map effectKind_injective

theorem effectVec_subset {fewer more : Finset Lang.HandlerEffect} (subset : fewer ⊆ more) :
    effectVec fewer ⊆ effectVec more := by
  refine List.map_subset _ fun effect member => ?_
  obtain ⟨inAll, has⟩ := List.mem_filter.mp member
  exact List.mem_filter.mpr ⟨inAll, decide_eq_true (subset (of_decide_eq_true has))⟩

end Effects

/-! ## The actors and the node an event names -/

section Names

variable {V : Type}

/-- The event is one of the node, spawns no actor and names only the given ones. -/
structure NamesOnly (nodeId : NodeId) (ids : List ActorId) (kind : EventKind V) : Prop where
  unspawned : spawnedActor kind = none
  actors : ∀ actor ∈ named kind, actor ∈ ids
  node : eventLocalNode kind = none ∨ eventLocalNode kind = some nodeId

/-- The events can be read on their own, and name only the node and the given actors. -/
structure Shaped (nodeId : NodeId) (ids : List ActorId) (kinds : List (EventKind V)) : Prop where
  tidy : Tidy kinds
  names : ∀ kind ∈ kinds, NamesOnly nodeId ids kind

variable {nodeId : NodeId} {ids : List ActorId}

theorem Shaped.nil : Shaped nodeId ids ([] : List (EventKind V)) :=
  ⟨.nil, fun _ member => absurd member List.not_mem_nil⟩

theorem Shaped.append {left right : List (EventKind V)} (first : Shaped nodeId ids left)
    (second : Shaped nodeId ids right) : Shaped nodeId ids (left ++ right) :=
  ⟨first.tidy.append second.tidy, fun kind member =>
    (List.mem_append.mp member).elim (first.names kind) (second.names kind)⟩

theorem Shaped.lone {kind : EventKind V} (lone : Lone kind) (names : NamesOnly nodeId ids kind) :
    Shaped nodeId ids [kind] :=
  ⟨.lone lone, fun other member => by rwa [List.mem_singleton.mp member]⟩

theorem Shaped.lones {kinds : List (EventKind V)}
    (each : ∀ kind ∈ kinds, Lone kind ∧ NamesOnly nodeId ids kind) : Shaped nodeId ids kinds :=
  ⟨.lones fun kind member => (each kind member).1, fun kind member => (each kind member).2⟩

/-- The senders of the pending timers are among the given actors. -/
def TimersNamed (ids : List ActorId) (core : Core V) : Prop :=
  ∀ timer ∈ core.pendingTimers, timer.fromActor ∈ ids

variable {host : Host V} {program : Program} {site : Site}

/-- The actors a node spawns, in trace order. -/
def spawnedIds (host : Host V) (program : Program) : List ActorId :=
  ("System" :: program.services).map (actorIdForService host)

theorem Core.Hosts.known {core : Core V} (hosts : core.Hosts host program) {id : ActorId}
    {actor : Actor V} (found : core.actors.lookup id = some actor) :
    id ∈ spawnedIds host program := by
  have hosted := hosts.hosted id actor found
  exact List.mem_map.mpr
    ⟨actor.service, List.mem_cons_of_mem "System" hosted.service_mem, hosted.service_id⟩

/-- The event of a dispatched message. -/
theorem routeOutgoing_shape {fromActor : ActorId} {target : Target} {payload : V}
    {cause : MsgId × V} {core : Core V} {dispatched : Dispatched V}
    (hosts : core.Hosts host program) (sender : fromActor ∈ spawnedIds host program)
    (routed : routeOutgoing site fromActor target payload cause core = .ok dispatched) :
    Lone dispatched.event ∧ emitter dispatched.event = some fromActor ∧
      NamesOnly site.nodeId (spawnedIds host program) dispatched.event := by
  rcases (routeOutgoing_ok site).mp routed with
    ⟨service, toActorId, toActor, rfl, mapped, found, rfl⟩ |
    ⟨node, service, toActorId, rfl, mapped, rfl⟩
  · refine ⟨trivial, rfl, rfl, ?_, .inl rfl⟩
    have receiver : toActorId ∈ spawnedIds host program := Core.Hosts.known hosts found
    exact List.forall_mem_cons.mpr ⟨sender, List.forall_mem_singleton.mpr receiver⟩
  · exact ⟨trivial, rfl, rfl, List.forall_mem_singleton.mpr sender, .inr rfl⟩

end Names

/-! ## The steps of a node -/

section Steps

variable {V : Type} {host : Host V} {site : Site} {Wire : WireEnvelope V → Prop}

/-- What a step keeps, and the events it leaves. -/
structure ShapedStep (host : Host V) (site : Site) (kinds : List (EventKind V))
    (final : Core V) : Prop where
  shaped : Shaped site.nodeId (spawnedIds host site.program) kinds
  timers : TimersNamed (spawnedIds host site.program) final

theorem sendAll_shape {step : Nat} {actorId : ActorId} {cause : MsgId × V}
    {outbox : List (Outgoing V)} {core final : Core V} {kinds : List (EventKind V)}
    (hosts : core.Hosts host site.program)
    (timers : TimersNamed (spawnedIds host site.program) core)
    (sender : actorId ∈ spawnedIds host site.program)
    (sending : sendAll site step actorId cause outbox core = .ok (kinds, final)) :
    ShapedStep host site kinds final := by
  induction outbox generalizing core kinds with
  | nil =>
      cases sending
      exact ⟨.nil, timers⟩
  | cons item rest ih =>
      rw [sendAll] at sending
      split at sending
      · have scheduled : TimersNamed (spawnedIds host site.program)
            (scheduleTimer site step actorId cause item core) := by
          intro timer pending
          rcases List.mem_append.mp pending with old | new
          · exact timers timer old
          · rw [List.mem_singleton.mp new]
            exact sender
        have kept : (scheduleTimer site step actorId cause item core).Hosts host site.program :=
          hosts.of_actors rfl
        exact ih kept scheduled sending
      · obtain ⟨dispatched, routed, sending⟩ := ExceptRun.bind_ok.mp sending
        obtain ⟨⟨later, last⟩, remaining, sending⟩ := ExceptRun.bind_ok.mp sending
        cases sending
        obtain ⟨lone, _, names⟩ := routeOutgoing_shape hosts sender routed
        have change := routeOutgoing_routed routed
        have kept : TimersNamed (spawnedIds host site.program) dispatched.core := by
          unfold TimersNamed
          rw [change.pendingTimers]
          exact timers
        have others := ih (routeOutgoing_hosts hosts routed) kept remaining
        exact ⟨(Shaped.lone lone names).append others.shaped, others.timers⟩

theorem handleDelivery_shape (accepted : Accepted host site.program) {step : Nat}
    {receiver : ActorId} {core : Core V} {handled : Handled V}
    (hosts : core.Hosts host site.program)
    (timers : TimersNamed (spawnedIds host site.program) core)
    (handles : handleDelivery host site step receiver core = .ok handled) :
    ShapedStep host site
      (.deliver site.nodeId receiver handled.msgId :: handled.events) handled.core := by
  obtain ⟨actor, payload, rest, incoming, current, executed, sent, found, inbox, decoded, again,
    ran, emitted, events⟩ := ((handleDelivery_ok host site).mp handles).some
  have known : receiver ∈ spawnedIds host site.program := Core.Hosts.known hosts found
  have same : actor.id = receiver := (hosts.hosted receiver actor found).id_eq
  have sender : actor.id ∈ spawnedIds host site.program := same ▸ known
  let message : MsgId × V := (handled.msgId, payload)
  let popped := core.pop receiver actor message rest
  have pops : CoreOp host site (fun _ => False) receiver core
      [.deliver site.nodeId receiver handled.msgId] popped :=
    .pop receiver actor message rest found inbox
  have writes : CoreOp host site (fun _ => False) receiver popped []
      (popped.setActor actor.id { current with state := executed.state }) :=
    .write actor.id current executed.state again (executeActions_keys ran)
  have middle := writes.hosts (pops.hosts hosts)
  have sending := sendAll_shape middle timers sender emitted
  have delivery : Shaped site.nodeId (spawnedIds host site.program)
      [(.deliver site.nodeId receiver handled.msgId : EventKind V),
        observedEvent site ⟨actor.id, actor.service, handled.msgId, payload⟩ incoming
          executed.effects] := by
    constructor
    · unfold observedEvent
      rw [same]
      exact .delivered (effectVec_nodup _) (effectVec_nodup _)
        (effectVec_subset (executeActions_observed accepted ran))
    · refine List.forall_mem_cons.mpr ⟨⟨rfl, List.forall_mem_singleton.mpr known, .inr rfl⟩, ?_⟩
      exact List.forall_mem_singleton.mpr ⟨rfl, List.forall_mem_singleton.mpr sender, .inr rfl⟩
  have logs : Shaped site.nodeId (spawnedIds host site.program) (executed.ctx.logs.map
      (logEvent (V := V) site ⟨actor.id, actor.service, handled.msgId, payload⟩)) := by
    refine .lones fun kind member => ?_
    obtain ⟨log, _, rfl⟩ := List.mem_map.mp member
    exact ⟨trivial, rfl, List.forall_mem_singleton.mpr sender, .inr rfl⟩
  rw [events]
  exact ⟨delivery.append (logs.append sending.shaped), sending.timers⟩

/-- The envelopes are for the node and its actors. -/
def ForActors (host : Host V) (program : Program) (nodeId : NodeId)
    (Wire : WireEnvelope V → Prop) : Prop :=
  ∀ env, Wire env → env.toActor ∈ spawnedIds host program ∧ env.toNode = nodeId

/-- The step lemma. -/
theorem NodeStep.shape (accepted : Accepted host site.program)
    (known : ForActors host site.program site.nodeId Wire) {core final : Core V}
    {kinds : List (EventKind V)} (hosts : core.Hosts host site.program)
    (timers : TimersNamed (spawnedIds host site.program) core)
    (step : NodeStep host site Wire core kinds final) :
    ShapedStep host site kinds final := by
  cases step with
  | deliver step receiver handled handles =>
      exact handleDelivery_shape accepted hosts timers handles
  | quiet step =>
      cases step with
      | fault event isFault =>
          refine ⟨.lone ?_ ?_, timers⟩
          · cases event <;> trivial
          · cases event <;>
              first
              | exact isFault.elim
              | exact ⟨rfl, nofun, .inr (congrArg some isFault)⟩
      | receive env arrived =>
          obtain ⟨receiver, here⟩ := known env arrived
          refine ⟨.lone trivial ⟨rfl, List.forall_mem_singleton.mpr receiver,
            .inr (congrArg some here)⟩, ?_⟩
          unfold Core.receive
          split
          · exact timers
          · exact timers
      | fire timer rest dispatched split routed =>
          have pending (other : PendingTimer V) (member : other ∈ timer :: rest) :
              other.fromActor ∈ spawnedIds host site.program :=
            timers other (split.symm.subset member)
          have sender := pending timer List.mem_cons_self
          have waiting : (core.setTimers rest).Hosts host site.program := hosts.of_actors rfl
          obtain ⟨_, emits, names⟩ := routeOutgoing_shape waiting sender routed
          have change := routeOutgoing_routed routed
          refine ⟨⟨.fired emits, ?_⟩, ?_⟩
          · exact List.forall_mem_cons.mpr
              ⟨⟨rfl, nofun, .inr rfl⟩, List.forall_mem_singleton.mpr names⟩
          · unfold TimersNamed
            rw [change.pendingTimers]
            exact fun other member => pending other (List.mem_cons_of_mem timer member)

/-- The run lemma. -/
theorem nodeRun_shape (accepted : Accepted host site.program)
    (known : ForActors host site.program site.nodeId Wire) {core final : Core V}
    {kinds : List (EventKind V)} (hosts : core.Hosts host site.program)
    (timers : TimersNamed (spawnedIds host site.program) core)
    (run : Run (NodeStep host site Wire) core kinds final) :
    Shaped site.nodeId (spawnedIds host site.program) kinds := by
  have keeps (past : List (EventKind V)) (middle : Core V) (labels : List (EventKind V))
      (next : Core V) (inv : (Shaped site.nodeId (spawnedIds host site.program) past ∧
        TimersNamed (spawnedIds host site.program) middle) ∧ middle.Hosts host site.program)
      (step : NodeStep host site Wire middle labels next) :
      (Shaped site.nodeId (spawnedIds host site.program) (past ++ labels) ∧
        TimersNamed (spawnedIds host site.program) next) ∧ next.Hosts host site.program := by
    obtain ⟨⟨shaped, named⟩, middleHosts⟩ := inv
    have after := NodeStep.shape accepted known middleHosts named step
    have ops : Run (CoreOp host site Wire (systemActorId host)) middle labels next :=
      step.ops accepted middleHosts
    exact ⟨⟨shaped.append after.shaped, after.timers⟩, CoreRun.hosts ops middleHosts⟩
  exact (Run.history keeps ⟨⟨.nil, timers⟩, hosts⟩ run).1.1

/-- The bootstrap messages come from the system actor. -/
theorem bootAll_shape {entryActor : ActorId} {indices : List Nat} {core final : Core V}
    {events : List (EventKind V)} (hosts : core.Hosts host site.program)
    (timers : TimersNamed (spawnedIds host site.program) core)
    (booted : bootAll host site entryActor indices core = .ok (events, final)) :
    ShapedStep host site events final := by
  induction indices generalizing core events with
  | nil =>
      cases booted
      exact ⟨.nil, timers⟩
  | cons index rest ih =>
      simp only [bootAll] at booted
      split at booted
      · cases booted
      · rename_i actor found
        obtain ⟨⟨others, last⟩, later, booted⟩ := ExceptRun.bind_ok.mp booted
        cases booted
        have allocated : (core.allocate site.nodeId).2.Hosts host site.program :=
          hosts.of_actors rfl
        let msgId := (core.allocate site.nodeId).1
        let payload := encodeMsg host (bootstrapMessage host site index msgId)
        have filled : (((core.allocate site.nodeId).2.enqueue entryActor actor msgId
            payload).produce msgId payload none none).Hosts host site.program :=
          (allocated.enqueue found msgId payload).of_actors rfl
        have remaining := ih filled timers later
        have entry : entryActor ∈ spawnedIds host site.program := Core.Hosts.known allocated found
        have system : systemActorId host ∈ spawnedIds host site.program :=
          List.mem_map_of_mem List.mem_cons_self
        have sent : Shaped site.nodeId (spawnedIds host site.program)
            [(.send (systemActorId host) entryActor msgId payload : EventKind V)] :=
          .lone trivial
            ⟨rfl, List.forall_mem_cons.mpr ⟨system, List.forall_mem_singleton.mpr entry⟩, .inl rfl⟩
        exact ⟨sent.append remaining.shaped, remaining.timers⟩

end Steps

/-! ## Recordings -/

section Recordings

variable {V : Type} {host : Host V} {program : Program} {cfg : Config}
  {inbound : Nat → List (WireEnvelope V)} {Wire : WireEnvelope V → Prop} {st : MainState V}

theorem spawnedIn_spawnList (host : Host V) (program : Program) (nodeId : NodeId) :
    spawnedIn (spawnList host nodeId program.services) = spawnedIds host program := by
  have each : (spawnedActor ∘ fun service =>
      (.spawn nodeId (actorIdForService host service) service : EventKind V)) =
        some ∘ actorIdForService host := rfl
  unfold spawnedIn spawnList spawnedIds
  rw [List.filterMap_cons, List.map_cons, List.filterMap_map, each, List.filterMap_eq_map]
  rfl

theorem forall_spawnList {Each : EventKind V → Prop}
    (each : ∀ node actor service, Each (.spawn node actor service)) (host : Host V)
    (nodeId : NodeId) (services : List String) :
    ∀ kind ∈ spawnList host nodeId services, Each kind := by
  intro kind member
  rcases List.mem_cons.mp member with rfl | spawned
  · exact each _ _ _
  · obtain ⟨service, _, rfl⟩ := List.mem_map.mp spawned
    exact each _ _ _

theorem Tidy.spawnList (host : Host V) (nodeId : NodeId) (services : List String) :
    Tidy (spawnList host nodeId services) :=
  .lones (forall_spawnList (fun _ _ _ => trivial) host nodeId services)

theorem named_spawnList (host : Host V) (nodeId : NodeId) (services : List String) :
    ∀ kind ∈ Runtime.spawnList host nodeId services, named kind = [] :=
  forall_spawnList (fun _ _ _ => rfl) host nodeId services

theorem Shaped.spawnedIn {ids : List ActorId} {kinds : List (EventKind V)}
    (shaped : Shaped nodeId ids kinds) : spawnedIn kinds = [] :=
  List.filterMap_eq_nil_iff.mpr fun kind member => (shaped.names kind member).unspawned

/-- A recorded trace starts with the spawned actors; the events after them fit
together and name only these. -/
theorem Recording.shaped (accepted : Accepted host program)
    (known : ForActors host program cfg.nodeId Wire)
    (recording : Recording host program cfg inbound Wire st) :
    ∃ rest, recording.events = spawnList host cfg.nodeId program.services ++ rest ∧
      Shaped cfg.nodeId (spawnedIds host program) rest := by
  have ready := launch_launched recording.launches
  have hosts := recording.hosts
  rw [← ready.program_eq] at accepted
  rw [← ready.program_eq, ← ready.nodeId_eq] at known
  have noTimers : TimersNamed (spawnedIds host recording.launched.site.program)
      (.initial recording.launched.actors) :=
    fun _ member => absurd member List.not_mem_nil
  have boots := bootAll_shape hosts noTimers recording.boot
  have booted : Run (CoreOp host recording.launched.site Wire recording.entryActor)
      (.initial recording.launched.actors) recording.boots recording.booted :=
    bootRun_ops (bootAll_run host recording.launched.site recording.boot)
  have steps := nodeRun_shape accepted known (CoreRun.hosts booted hosts) boots.timers
    recording.loop.run
  refine ⟨recording.boots ++ recording.kinds, ?_, ?_⟩
  · unfold Recording.events
    rw [List.append_assoc]
  · have shaped := boots.shaped.append steps
    rwa [ready.program_eq, ready.nodeId_eq] at shaped

end Recordings

end UcoStack.System
