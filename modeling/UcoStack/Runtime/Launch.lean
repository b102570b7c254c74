import UcoStack.Runtime.Accepted
import UcoStack.Runtime.Main

/-!
# Launching a node

The actor system that `build_actor_system` makes of a program, and the set-up of
`main`: one actor for each service, under the identifier derived from its name.
-/

namespace UcoStack.Runtime

/-- The actor system after some services were added. -/
structure Built {V : Type} (host : Host V) (program : Program) (services : List String)
    (system : ActorSystem V × ServiceActors) : Prop where
  mapped : ∀ service ∈ services,
    system.2.lookup service = some (actorIdForService host service)
  service_mem : ∀ service id, system.2.lookup service = some id → service ∈ services
  actor_iff : ∀ id, (system.1.lookup id).isSome ↔
    ∃ service ∈ services, actorIdForService host service = id
  actor_id : ∀ id actor, system.1.lookup id = some actor → actor.id = id
  actor_service : ∀ id actor, system.1.lookup id = some actor →
    actor.service ∈ services ∧ actorIdForService host actor.service = id
  actor_inbox : ∀ id actor, system.1.lookup id = some actor → actor.inbox = []
  actor_state : ∀ id actor, system.1.lookup id = some actor →
    program.serviceInitialState.lookup actor.service = some actor.state

namespace Built

variable {V : Type} {host : Host V} {program : Program} {services : List String}
  {system : ActorSystem V × ServiceActors}

theorem empty (host : Host V) (program : Program) : Built host program [] (∅, ∅) where
  mapped := fun _ member => absurd member List.not_mem_nil
  service_mem := fun _ _ found => by simp at found
  actor_iff := fun _ => by simp
  actor_id := fun _ _ found => by simp at found
  actor_service := fun _ _ found => by simp at found
  actor_inbox := fun _ _ found => by simp at found
  actor_state := fun _ _ found => by simp at found

/-- One more service: its actor may replace one with the same identifier. -/
theorem add (built : Built host program services system) {service : String} {state : StateMap}
    (stored : program.serviceInitialState.lookup service = some state) :
    Built host program (services ++ [service])
      (system.1.insert (actorIdForService host service)
        ⟨actorIdForService host service, service, state, []⟩,
        system.2.insert service (actorIdForService host service)) := by
  have lookup (id : ActorId) (actor : Actor V)
      (found : (system.1.insert (actorIdForService host service)
        ⟨actorIdForService host service, service, state, []⟩).lookup id = some actor) :
      (id = actorIdForService host service ∧
        actor = ⟨actorIdForService host service, service, state, []⟩) ∨
        system.1.lookup id = some actor := by
    by_cases same : id = actorIdForService host service
    · subst same
      rw [AList.lookup_insert] at found
      exact .inl ⟨rfl, (Option.some.inj found).symm⟩
    · rw [AList.lookup_insert_ne same] at found
      exact .inr found
  constructor
  · intro other member
    by_cases same : other = service
    · subst same
      exact AList.lookup_insert _
    · rw [AList.lookup_insert_ne same]
      rcases List.mem_append.mp member with old | new
      · exact built.mapped other old
      · exact absurd (List.mem_singleton.mp new) same
  · intro other id found
    by_cases same : other = service
    · exact same ▸ List.mem_append_right services List.mem_cons_self
    · rw [AList.lookup_insert_ne same] at found
      exact List.mem_append_left _ (built.service_mem other id found)
  · intro id
    by_cases same : id = actorIdForService host service
    · subst same
      simp
    · rw [AList.lookup_insert_ne same, built.actor_iff id]
      simp only [List.mem_append, List.mem_singleton]
      constructor
      · rintro ⟨other, member, rfl⟩
        exact ⟨other, .inl member, rfl⟩
      · rintro ⟨other, member | rfl, named⟩
        · exact ⟨other, member, named⟩
        · exact absurd named.symm same
  · intro id actor found
    rcases lookup id actor found with ⟨rfl, rfl⟩ | old
    · rfl
    · exact built.actor_id id actor old
  · intro id actor found
    rcases lookup id actor found with ⟨rfl, rfl⟩ | old
    · exact ⟨List.mem_append_right services List.mem_cons_self, rfl⟩
    · obtain ⟨member, named⟩ := built.actor_service id actor old
      exact ⟨List.mem_append_left _ member, named⟩
  · intro id actor found
    rcases lookup id actor found with ⟨rfl, rfl⟩ | old
    · rfl
    · exact built.actor_inbox id actor old
  · intro id actor found
    rcases lookup id actor found with ⟨rfl, rfl⟩ | old
    · exact stored
    · exact built.actor_state id actor old

end Built

section Building

variable {V : Type} {host : Host V} {program : Program}

theorem buildActorSystem_built {system : ActorSystem V × ServiceActors}
    (built : buildActorSystem host program = .ok system) :
    Built host program program.services system := by
  refine ExceptRun.foldlM_inv (Built host program) ?_ (.empty host program) built
  intro seen service before after inv added
  unfold addService at added
  dsimp only at added
  split at added
  · cases added
  · rename_i state stored
    cases added
    exact inv.add stored

theorem buildActorSystem_succeeds (accepted : Accepted host program) :
    ∃ system : ActorSystem V × ServiceActors, buildActorSystem host program = .ok system := by
  refine ExceptRun.foldlM_succeeds ?_ (∅, ∅)
  intro service member before
  obtain ⟨state, stored⟩ := accepted.state_of_service service member
  unfold addService
  rw [stored]
  exact ⟨_, rfl⟩

/-- The set-up of a node whose program was accepted. -/
structure Launched (host : Host V) (program : Program) (cfg : Config) (launched : Launch V) :
    Prop where
  program_eq : launched.site.program = program
  nodeId_eq : launched.site.nodeId = cfg.nodeId
  peers_eq : launched.site.peers = cfg.peers
  built : Built host program program.services (launched.actors, launched.site.serviceToActor)
  entry_mem : launched.entryService ∈ program.services

theorem launch_launched {cfg : Config} {launched : Launch V}
    (starts : launch host program cfg = .ok launched) :
    Launched host program cfg launched := by
  obtain ⟨system, building, starts⟩ := ExceptRun.bind_ok.mp starts
  obtain ⟨entryService, entry, starts⟩ := ExceptRun.bind_ok.mp starts
  have built := buildActorSystem_built building
  cases starts
  refine ⟨rfl, rfl, rfl, built, ?_⟩
  unfold chooseEntryService at entry
  split at entry
  · rename_i gateway
    cases entry
    obtain ⟨id, found⟩ := Option.isSome_iff_exists.mp gateway
    exact built.service_mem _ id found
  · split at entry
    · rename_i service first
      cases entry
      exact List.mem_of_head? first
    · cases entry

/-- The spawn events of a launched node, in the order of its services. -/
def spawnList (host : Host V) (nodeId : NodeId) (services : List String) : List (EventKind V) :=
  .spawn nodeId (systemActorId host) "System" ::
    services.map fun service => .spawn nodeId (actorIdForService host service) service

theorem spawnEvents_eq {cfg : Config} {launched : Launch V}
    (ready : Launched host program cfg launched) :
    spawnEvents host launched.site = .ok (spawnList host cfg.nodeId program.services) := by
  have each (service : String) (member : service ∈ program.services) :
      spawnEvent launched.site service =
        .ok (.spawn cfg.nodeId (actorIdForService host service) service : EventKind V) := by
    unfold spawnEvent
    rw [ready.built.mapped service member, ready.nodeId_eq]
  unfold spawnEvents
  rw [ready.program_eq, ExceptRun.mapM_of_forall each, ready.nodeId_eq]
  rfl

end Building

end UcoStack.Runtime
