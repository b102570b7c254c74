import UcoStack.Runtime.CoreOp

/-!
# Accepted programs do not go wrong

Every core a node can reach hosts its program: the actors are those of the
launch, each under its own identifier, running its service on a state map with
the declared variables.  With progress and preservation for handlers this gives
the safety of accepted programs: a delivery fails only when an increment
overflows, and what it queues can be dispatched at any later time.
-/

namespace UcoStack.Runtime

section Hosting

variable {V : Type} (host : Host V) (program : Program)

/-- What the actor stored under `id` looks like. -/
structure Actor.Hosted (id : ActorId) (actor : Actor V) : Prop where
  id_eq : actor.id = id
  service_mem : actor.service ∈ program.services
  service_id : actorIdForService host actor.service = id
  keys : ∃ declared, program.serviceInitialState.lookup actor.service = some declared ∧
    SameKeys actor.state declared

structure Core.Hosts (core : Core V) : Prop where
  present : ∀ service ∈ program.services,
    ∃ actor, core.actors.lookup (actorIdForService host service) = some actor
  hosted : ∀ id actor, core.actors.lookup id = some actor → actor.Hosted host program id

variable {host program}

/-- Replacing an actor by a hosted one keeps the core hosting its program. -/
theorem Core.Hosts.setActor {core : Core V} (hosts : core.Hosts host program) {id : ActorId}
    {actor : Actor V} (hosted : actor.Hosted host program id) :
    (core.setActor id actor).Hosts host program := by
  constructor
  · intro service member
    by_cases same : actorIdForService host service = id
    · rw [same]
      exact ⟨actor, AList.lookup_insert _⟩
    · obtain ⟨other, found⟩ := hosts.present service member
      exact ⟨other, (AList.lookup_insert_ne same).trans found⟩
  · intro other replaced found
    by_cases same : other = id
    · subst same
      cases (AList.lookup_insert _).symm.trans found
      exact hosted
    · exact hosts.hosted other replaced ((AList.lookup_insert_ne same).symm.trans found)

theorem Core.Hosts.enqueue {core : Core V} (hosts : core.Hosts host program) {id : ActorId}
    {actor : Actor V} (found : core.actors.lookup id = some actor) (msgId : MsgId) (payload : V) :
    (core.enqueue id actor msgId payload).Hosts host program := by
  have old := hosts.hosted id actor found
  exact hosts.setActor ⟨old.id_eq, old.service_mem, old.service_id, old.keys⟩

/-- Only the actors matter. -/
theorem Core.Hosts.of_actors {core other : Core V} (hosts : core.Hosts host program)
    (same : other.actors = core.actors) : other.Hosts host program := by
  constructor
  · rw [same]
    exact hosts.present
  · rw [same]
    exact hosts.hosted

theorem routeOutgoing_hosts {site : Site} {fromActor : ActorId} {target : Target} {payload : V}
    {cause : MsgId × V} {core : Core V} {dispatched : Dispatched V}
    (hosts : core.Hosts host program)
    (routed : routeOutgoing site fromActor target payload cause core = .ok dispatched) :
    dispatched.core.Hosts host program := by
  rcases (routeOutgoing_ok site).mp routed with
    ⟨service, toActorId, toActor, rfl, mapped, found, rfl⟩ |
    ⟨node, service, toActorId, rfl, mapped, rfl⟩
  · have allocated : (core.allocate site.nodeId).2.Hosts host program := hosts.of_actors rfl
    exact (allocated.enqueue found _ payload).of_actors rfl
  · exact hosts.of_actors rfl

theorem Core.Hosts.initial {system : ActorSystem V × ServiceActors}
    (built : Built host program program.services system) :
    (Core.initial system.1).Hosts host program := by
  constructor
  · intro service member
    exact Option.isSome_iff_exists.mp ((built.actor_iff _).mpr ⟨service, member, rfl⟩)
  · intro id actor found
    obtain ⟨member, named⟩ := built.actor_service id actor found
    exact ⟨built.actor_id id actor found, member, named, actor.state,
      built.actor_state id actor found, .refl _⟩

end Hosting

section Reachable

variable {V : Type} {host : Host V} {site : Site} {Wire : WireEnvelope V → Prop}
  {entryActor : ActorId}

/-- The step lemma: no operation removes an actor or changes what it runs. -/
theorem CoreOp.hosts {core final : Core V} {kinds : List (EventKind V)}
    (op : CoreOp host site Wire entryActor core kinds final)
    (hosts : core.Hosts host site.program) : final.Hosts host site.program := by
  cases op with
  | note event isNote => exact hosts
  | receive env arrived =>
      unfold Core.receive
      split
      · rename_i actor found
        exact hosts.enqueue found _ _
      · exact hosts
  | pop receiver actor message rest found inbox =>
      have old := hosts.hosted receiver actor found
      have replaced : (core.setActor receiver { actor with inbox := rest }).Hosts host
          site.program :=
        hosts.setActor ⟨old.id_eq, old.service_mem, old.service_id, old.keys⟩
      exact replaced.of_actors rfl
  | write id actor state found keys =>
      have old := hosts.hosted id actor found
      obtain ⟨declared, stored, same⟩ := old.keys
      exact hosts.setActor
        ⟨old.id_eq, old.service_mem, old.service_id, declared, stored, keys.trans same⟩
  | schedule step actorId cause out delivered answers => exact hosts.of_actors rfl
  | send fromActor target payload cause dispatched delivered answers routed =>
      exact routeOutgoing_hosts hosts routed
  | setTimers timers fewer => exact hosts.of_actors rfl
  | fire timer rest dispatched split routed =>
      have waiting : (core.setTimers rest).Hosts host site.program := hosts.of_actors rfl
      exact routeOutgoing_hosts waiting routed
  | bootstrap index actor msgId payload allocated allocates encoded found =>
      have same : allocated.actors = core.actors := by
        cases allocates
        rfl
      have kept : allocated.Hosts host site.program := hosts.of_actors same
      exact (kept.enqueue found msgId payload).of_actors rfl

/-- The run lemma. -/
theorem CoreRun.hosts {core final : Core V} {kinds : List (EventKind V)}
    (run : Run (CoreOp host site Wire entryActor) core kinds final)
    (hosts : core.Hosts host site.program) : final.Hosts host site.program :=
  run.invariant (fun _ _ _ inv op => op.hosts inv) hosts

theorem Core.Hosts.to_hosted {core : Core V} (hosts : core.Hosts host site.program) :
    core.Hosted site.program := fun id actor found =>
  ⟨(hosts.hosted id actor found).id_eq, (hosts.hosted id actor found).service_mem⟩

/-- A message for a declared service can be dispatched from any core that hosts
the program. -/
theorem routeOutgoing_succeeds {core : Core V} (hosts : core.Hosts host site.program)
    (mapped : ∀ service ∈ site.program.services,
      site.serviceToActor.lookup service = some (actorIdForService host service))
    {target : Target} (member : target.service ∈ site.program.services) (fromActor : ActorId)
    (payload : V) (cause : MsgId × V) :
    ∃ dispatched, routeOutgoing site fromActor target payload cause core = .ok dispatched := by
  cases target with
  | localService service =>
      obtain ⟨actor, found⟩ := hosts.present service member
      exact ⟨_, (routeOutgoing_ok site).mpr
        (.inl ⟨service, _, actor, rfl, mapped service member, found, rfl⟩)⟩
  | remoteService node service =>
      exact ⟨_, (routeOutgoing_ok site).mpr
        (.inr ⟨node, service, _, rfl, mapped service member, rfl⟩)⟩

end Reachable

/-! ## Safety -/

section Safety

variable {V : Type} {host : Host V} {program : Program}

/-- The outgoing message can be dispatched in every state that a node of the
program reaches, whatever happened since it was queued. -/
def Outgoing.Dispatches (host : Host V) (program : Program) (out : Outgoing V) : Prop :=
  ∀ (cfg : Config) (launched : Launch V), launch host program cfg = .ok launched →
    ∀ (Wire : WireEnvelope V → Prop) (entryActor : ActorId) (past : List (EventKind V))
      (st : MainState V),
      Run (CoreOp host launched.site Wire entryActor) (.initial launched.actors) past st.core →
      ∀ (mode : Mode) (fromActor : ActorId) (cause : MsgId × V), ∃ event after,
        dispatchOutgoing launched.site mode fromActor out.target out.payload cause st =
          .ok event after

theorem Outgoing.dispatches_of_service {out : Outgoing V}
    (member : out.target.service ∈ program.services) : out.Dispatches host program := by
  intro cfg launched launches Wire entryActor past st run mode fromActor cause
  have ready := launch_launched launches
  have hosts := CoreRun.hosts run (ready.program_eq ▸ Core.Hosts.initial ready.built)
  have mapped : ∀ service ∈ launched.site.program.services,
      launched.site.serviceToActor.lookup service = some (actorIdForService host service) := by
    rw [ready.program_eq]
    exact ready.built.mapped
  obtain ⟨dispatched, routed⟩ := routeOutgoing_succeeds hosts mapped
    (ready.program_eq.symm ▸ member) fromActor out.payload cause
  exact ⟨_, _, dispatchOutgoing_ok.mpr ⟨dispatched, routed, rfl, rfl⟩⟩

/-- The outcome of a handler that does not go wrong. -/
def Outcome.Safe (host : Host V) (program : Program) (service : String) (incomingMsgId : Uuid)
    (incoming : RuntimeMessage) (peers : PeerMap) (selfNode : NodeId)
    (state declared : StateMap) : Except ActionError (Executed V) → Prop
  | .ok executed => SameKeys executed.state declared ∧
      ∀ out ∈ executed.ctx.outbox, out.Dispatches host program
  | .error error => ∃ key plan, error = .stateOverflow service key ∧
      program.handlers.lookup (service, incoming.msgType) = some plan ∧
      IncOverflows host service incomingMsgId incoming peers plan.actions
        ⟨state, .new selfNode, ∅⟩

/-- Progress and preservation: on every reachable state map the handler of any
message runs, keeps the declared variables and queues only messages that can be
dispatched, or an increment it executes overflows. -/
theorem executeActions_safe {src : String} (loaded : loadProgram host src = .ok program)
    (peers : PeerMap) (selfNode : NodeId) {service : String} (member : service ∈ program.services)
    {state : StateMap} (reached : ReachableState host program peers selfNode service state)
    (incomingMsgId : Uuid) (incoming : RuntimeMessage) :
    ∃ declared, program.serviceInitialState.lookup service = some declared ∧
      Outcome.Safe host program service incomingMsgId incoming peers selfNode state declared
        (executeActions host service incomingMsgId incoming peers program state
          (.new selfNode)) := by
  have accepted := loadProgram_accepted loaded
  obtain ⟨declared, stored⟩ := accepted.state_of_service service member
  have keys := reached.keys stored
  refine ⟨declared, stored, ?_⟩
  cases ran : executeActions host service incomingMsgId incoming peers program state
      (.new selfNode) with
  | ok executed =>
      constructor
      · exact (executeActions_keys ran).trans keys
      · intro out queued
        exact Outgoing.dispatches_of_service (executeActions_targets accepted ran out queued)
  | error error =>
      unfold executeActions at ran
      split at ran
      · cases ran
      · rename_i plan found
        have checked := accepted.handler_checked service incoming.msgType plan found
        have valid := checked.actions_valid declared stored
        let start : Execution V := ⟨state, .new selfNode, ∅⟩
        have sameKeys : SameKeys start.state declared := keys
        have progress : (∃ after, executeAll host service incomingMsgId incoming peers
            plan.actions start = .ok after) ∨ ∃ key, executeAll host service incomingMsgId
              incoming peers plan.actions start = .error (.stateOverflow service key) ∧
            IncOverflows host service incomingMsgId incoming peers plan.actions start :=
          executeAll_progress valid sameKeys
        rcases progress with ⟨after, succeeds⟩ | ⟨key, failed, overflows⟩
        · rw [succeeds] at ran
          cases ran
        · rw [failed] at ran
          cases ran
          exact ⟨key, plan, rfl, found, overflows⟩

theorem executeActions_safe_sample :
    ∃ declared, sampleProgram.serviceInitialState.lookup "Gateway" = some declared ∧
      Outcome.Safe jsonHost sampleProgram "Gateway" 1 sampleStart ∅ 7 (AList.insert "n" 0 ∅)
        declared (executeActions jsonHost "Gateway" 1 sampleStart ∅ sampleProgram
          (AList.insert "n" 0 ∅) (.new 7)) :=
  executeActions_safe sampleProgram_loaded ∅ 7 (by decide) (.initial rfl) 1 sampleStart

end Safety

end UcoStack.Runtime
