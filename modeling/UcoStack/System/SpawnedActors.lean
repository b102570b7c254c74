import UcoStack.Runtime.Outcome
import UcoStack.Runtime.RecordDrains
import UcoStack.System.LocalAcceptance
import UcoStack.Tool.SpawnReports

/-!
# Spawned actors

A node spawns its actors at startup, the bootstrap actor under the name `System` and one
actor for each service.  The loader does not reserve that name: actors are distinct in
the traces of exactly those programs that have no service called `System`.
-/

namespace UcoStack.System

open UcoStack.Runtime UcoStack.Tool StateRun

/-! ## Nothing is spawned after startup -/

section Writing

variable {V : Type}

def spawnsNothing (kind : EventKind V) : Bool := (spawnedActor kind).isNone

/-- No actor was spawned in between. -/
def SameSpawned (s s' : MainState V) : Prop := spawnedIn s'.recorded = spawnedIn s.recorded

instance : IsPreorder (MainState V) SameSpawned where
  refl _ := rfl
  trans _ _ _ first second := second.trans first

theorem spawnsNothing_of_isExchange {kind : EventKind V} (exchange : kind.isExchange = true) :
    spawnsNothing kind = true := by
  cases kind with
  | spawn node actor service => cases exchange
  | _ => rfl

theorem sameSpawned_of_works {s s' : MainState V} (works : Works spawnsNothing s s') :
    SameSpawned s s' := by
  obtain ⟨-, kinds, wrote, all⟩ := works
  have nothing : spawnedIn kinds = [] :=
    List.filterMap_eq_nil_iff.mpr fun kind member => Option.isNone_iff_eq_none.mp (all kind member)
  unfold SameSpawned
  rw [wrote, spawnedIn_append, nothing, List.append_nil]

theorem recordEvent_sameSpawned {kind : EventKind V} (silent : spawnsNothing kind = true) :
    Moves SameSpawned (recordEvent kind) :=
  fun s => sameSpawned_of_works (recordEvent_works silent s)

theorem sameSpawned_ignoresInjector (nodeId : NodeId) :
    IgnoresInjector nodeId (SameSpawned (V := V)) where
  update := fun _ _ => rfl
  fault := fun _ _ => recordEvent_sameSpawned rfl
  policy := fun _ _ => recordEvent_sameSpawned rfl

theorem receiveEnvelope_sameSpawned (env : WireEnvelope V) :
    Moves SameSpawned (receiveEnvelope env) :=
  .bind (recordEvent_sameSpawned rfl) fun _ _ => rfl

variable [DecidableEq V] (host : Host V) (site : Site)

/-- The step lemma. -/
theorem recordStep_sameSpawned (step : Nat) (batch : List (WireEnvelope V)) :
    Moves SameSpawned (recordStep host site step batch) := by
  have drains : Moves SameSpawned (drainNetwork site.nodeId step batch) :=
    drainNetwork_moves (sameSpawned_ignoresInjector site.nodeId) receiveEnvelope_sameSpawned
      step batch
  have fires : Moves SameSpawned (fireDueTimers (V := V) site step) := fun s =>
    sameSpawned_of_works (fireDueTimers_works site (fun _ => spawnsNothing_of_isExchange)
      (fun _ _ _ => rfl) step s)
  refine .bind drains fun _ => .bind fires fun _ => .get_bind fun s => ?_
  cases chooseNextDeterministic (pendingDeliveries site.nodeId s.core) with
  | none => exact refl_of SameSpawned s
  | some chosen =>
      apply sameSpawned_of_works
      exact deliver_works host site (fun _ => spawnsNothing_of_isExchange) step chosen s

/-- The run lemma. -/
theorem recordLoop_sameSpawned (inbound : Nat → List (WireEnvelope V)) (step count : Nat) :
    Moves SameSpawned (recordLoop host site inbound step count) := by
  induction count generalizing step with
  | zero => exact .pure ()
  | succ count ih =>
      exact .bind (recordStep_sameSpawned host site step _) fun _ => ih (step + 1)

end Writing

/-! ## The actors spawned at startup -/

section Starting

variable {V : Type}

/-- Events that are written one after the other are written up to the first failure. -/
theorem recordAll_prefix (kinds : List (EventKind V)) {s : MainState V}
    (writes : s.writer.isSome = true) :
    ∃ written, written <+: kinds ∧
      (finalState (kinds.forM (recordIn .record) s)).recorded = s.recorded ++ written := by
  induction kinds generalizing s with
  | nil => exact ⟨[], List.nil_prefix, (List.append_nil _).symm⟩
  | cons kind rest ih =>
      have loop : (kind :: rest).forM (recordIn .record) s =
          (recordEvent kind >>= fun _ => rest.forM (recordIn .record)) s := rfl
      rw [loop, bind_apply]
      cases ran : recordEvent kind s with
      | error error m =>
          have same : m.recorded = s.recorded := by
            unfold recordEvent at ran
            split at ran
            · cases ran
              rfl
            · split at ran
              · cases ran
                rfl
              · cases ran
          exact ⟨[], List.nil_prefix, same.trans (List.append_nil _).symm⟩
      | ok _ m =>
          have wrote := recordEvent_ok ran
          subst wrote
          have open' : (s.logged [kind]).writer.isSome = true := by
            obtain ⟨trace, writer⟩ := Option.isSome_iff_exists.mp writes
            simp [MainState.logged, writer]
          obtain ⟨written, early, recorded⟩ := ih open'
          refine ⟨kind :: written, List.cons_prefix_cons.mpr ⟨rfl, early⟩, ?_⟩
          rw [recorded, recorded_logged writes, List.append_assoc]
          rfl

/-- What follows the spawned actors does not matter. -/
theorem spawned_bind {α β : Type} {x : MainM V α} {f : α → MainM V β}
    (rest : ∀ a, Moves SameSpawned (f a)) (s : MainState V) :
    SameSpawned (finalState (x s)) (finalState ((x >>= f) s)) := by
  rw [bind_apply]
  cases x s with
  | error error m => exact refl_of SameSpawned m
  | ok a m => exact rest a m

variable [DecidableEq V] {host : Host V} {program : Program} {cfg : Config}

/-- Startup writes the spawned actors first. -/
theorem startup_eq {launched : Launch V} (ready : Launched host program cfg launched) :
    startup host launched.site .record cfg launched.entryService =
      (spawnList host cfg.nodeId program.services).forM (recordIn .record) >>= fun _ =>
        enqueueBootstrap host launched.site .record cfg launched.entryService >>= fun _ =>
          pure () := by
  unfold startup
  rw [spawnEvents_eq ready]
  rfl

theorem startup_spawned {launched : Launch V} (ready : Launched host program cfg launched)
    (s : MainState V) :
    SameSpawned
      (finalState ((spawnList host cfg.nodeId program.services).forM (recordIn .record) s))
      (finalState (startup host launched.site .record cfg launched.entryService s)) := by
  have boots : Moves SameSpawned
      (enqueueBootstrap host launched.site .record cfg launched.entryService) := fun m =>
    sameSpawned_of_works (enqueueBootstrap_works host launched.site .record
      (fun _ => spawnsNothing_of_isExchange) cfg launched.entryService m)
  rw [startup_eq ready]
  exact spawned_bind (fun _ => .bind boots fun _ => .pure ()) s

/-- The spawned actors of a trace are those of the program, in its order. -/
theorem record_spawned (host : Host V) (program : Program) (cfg : Config)
    (inbound : Nat → List (WireEnvelope V)) :
    spawnedIn (finalState (record host program cfg inbound)).recorded <+:
      spawnedIds host program := by
  unfold record
  cases launches : launch host program cfg with
  | error error => exact List.nil_prefix
  | ok launched =>
      have starts := startup_spawned (launch_launched launches)
        (.initial .record cfg launched.actors [])
      have loops := spawned_bind
        (x := startup host launched.site .record cfg launched.entryService)
        (fun _ => recordLoop_sameSpawned host launched.site inbound 0 cfg.steps)
        (.initial .record cfg launched.actors [])
      have whole : spawnedIn (finalState (recordMain host launched cfg inbound
            (.initial .record cfg launched.actors []))).recorded =
          spawnedIn (finalState ((spawnList host cfg.nodeId program.services).forM
            (recordIn .record) (.initial .record cfg launched.actors []))).recorded :=
        trans_of SameSpawned starts loops
      have opened : (MainState.initial .record cfg launched.actors []).writer.isSome = true := rfl
      obtain ⟨written, early, recorded⟩ :=
        recordAll_prefix (spawnList host cfg.nodeId program.services) opened
      dsimp only
      rw [whole, recorded, ← spawnedIn_spawnList host program cfg.nodeId]
      exact early.filterMap spawnedActor

/-- A run that ended without error has spawned them all. -/
theorem record_spawned_all {inbound : Nat → List (WireEnvelope V)} {st : MainState V}
    (ran : record host program cfg inbound = .ok () st) :
    spawnedIn st.recorded = spawnedIds host program := by
  unfold record at ran
  cases launches : launch host program cfg with
  | error error =>
      rw [launches] at ran
      cases ran
  | ok launched =>
      rw [launches] at ran
      obtain ⟨_, booted, starting, looping⟩ := bind_ok.mp ran
      have loops := recordLoop_sameSpawned host launched.site inbound 0 cfg.steps booted
      have starts := startup_spawned (launch_launched launches)
        (.initial .record cfg launched.actors [])
      rw [looping] at loops
      rw [starting] at starts
      rw [startup_eq (launch_launched launches)] at starting
      obtain ⟨_, spawned, spawning, _⟩ := bind_ok.mp starting
      rw [spawning] at starts
      have logged := recordInAll_ok spawning
      have all : spawned.recorded = spawnList host cfg.nodeId program.services := by
        rw [logged]
        exact recorded_logged rfl _
      rw [← spawnedIn_spawnList host program cfg.nodeId, ← all]
      exact trans_of SameSpawned starts loops

end Starting

/-! ## Programs whose actors are distinct -/

section Programs

variable {V : Type} {tool : ToolHost V} {program : Program}

/-- The identifiers of the services and of the bootstrap actor are distinct. -/
structure ActorsApart (host : Host V) (program : Program) : Prop where
  services : (program.services.map (actorIdForService host)).Nodup
  bootstrap : systemActorId host ∉ program.services.map (actorIdForService host)

/-- Name-based identifiers tell the names of a program apart, its services and `System`. -/
def TellsApart (host : Host V) (program : Program) : Prop :=
  ∀ first ∈ "System" :: program.services, ∀ second ∈ "System" :: program.services,
    actorIdForService host first = actorIdForService host second → first = second

theorem spawnedIds_nodup_iff {host : Host V} :
    (spawnedIds host program).Nodup ↔ ActorsApart host program := by
  unfold spawnedIds
  rw [List.map_cons, List.nodup_cons]
  exact ⟨fun ⟨bootstrap, services⟩ => ⟨services, bootstrap⟩,
    fun apart => ⟨apart.bootstrap, apart.services⟩⟩

theorem actorsApart_iff {host : Host V} (accepted : Accepted host program)
    (tells : TellsApart host program) :
    ActorsApart host program ↔ "System" ∉ program.services := by
  constructor
  · intro apart member
    exact apart.bootstrap (List.mem_map_of_mem member)
  · intro free
    apply spawnedIds_nodup_iff.mp
    exact List.Nodup.map_on tells (List.nodup_cons.mpr ⟨free, accepted.services_nodup⟩)

/-- No actor is spawned twice, and nothing of the kind is reported. -/
structure SpawnsOnce (tool : ToolHost V) (trace : List (TraceEvent V)) : Prop where
  actors : (spawnedIn (kindsOf trace)).Nodup
  unreported : ∀ problem ∈ (verifyTrace tool trace).problems, reportsSpawn problem = false

theorem spawnsOnce_iff (tool : ToolHost V) (trace : List (TraceEvent V)) :
    SpawnsOnce tool trace ↔ (spawnedIn (kindsOf trace)).Nodup :=
  ⟨SpawnsOnce.actors, fun actors => ⟨actors, (verifyTrace_reportsSpawn tool trace).mpr actors⟩⟩

variable [DecidableEq V]

/-- The actors are distinct, and so they are in every trace that a run leaves. -/
structure KeepsActorsApart (tool : ToolHost V) (program : Program) : Prop where
  apart : ActorsApart tool.toHost program
  traces : ∀ cfg inbound trace,
    (finalState (record tool.toHost program cfg inbound)).writer = some trace →
      SpawnsOnce tool trace

omit [DecidableEq V] in
theorem recorded_of_writer {st : MainState V} {trace : List (TraceEvent V)}
    (writer : st.writer = some trace) : st.recorded = kindsOf trace := by
  unfold MainState.recorded
  rw [writer]
  rfl

/-- A loaded program keeps its actors apart exactly if no service is called `System`; the
trace of every run without error shows which. -/
theorem actors_apart_iff {src : String} (loaded : loadProgram tool.toHost src = .ok program)
    (tells : TellsApart tool.toHost program) :
    (KeepsActorsApart tool program ↔ "System" ∉ program.services) ∧
      ∀ cfg inbound st trace, record tool.toHost program cfg inbound = .ok () st →
        st.writer = some trace →
        ((spawnedIn (kindsOf trace)).Nodup ↔ "System" ∉ program.services) ∧
          ((∀ problem ∈ (verifyTrace tool trace).problems, reportsSpawn problem = false) ↔
            "System" ∉ program.services) := by
  have apart := actorsApart_iff (loadProgram_accepted loaded) tells
  refine ⟨⟨fun keeps => apart.mp keeps.apart, fun free => ⟨apart.mpr free, ?_⟩⟩, ?_⟩
  · intro cfg inbound trace writer
    have early := record_spawned tool.toHost program cfg inbound
    rw [recorded_of_writer writer] at early
    have distinct := spawnedIds_nodup_iff.mpr (apart.mpr free)
    exact (spawnsOnce_iff tool trace).mpr (distinct.sublist early.sublist)
  · intro cfg inbound st trace ran writer
    have all := record_spawned_all ran
    rw [recorded_of_writer writer] at all
    have actors : (spawnedIn (kindsOf trace)).Nodup ↔ "System" ∉ program.services := by
      rw [all, spawnedIds_nodup_iff, apart]
    exact ⟨actors, (verifyTrace_reportsSpawn tool trace).trans actors⟩

theorem actors_apart_sample : KeepsActorsApart jsonTool sampleProgram := by
  have tells : TellsApart jsonHost sampleProgram := sampleProgram_actors.injective
  obtain ⟨keeps, _⟩ := @actors_apart_iff _ jsonTool _ _ _ sampleProgram_loaded tells
  exact keeps.mpr sampleProgram_actors.noSystem

def systemSource : String := "service System\non start\neffects log\nlog \"up\"\n"

def systemProgram : Program :=
  { services := ["System"]
    serviceInitialState := AList.insert "System" ∅ ∅
    handlers :=
      AList.insert ("System", "start") { actions := [.log "up"], declaredEffects := [.log] } ∅ }

theorem systemProgram_loaded : loadProgram jsonHost systemSource = .ok systemProgram := by
  decide +kernel

/-- The first step of the program. -/
def systemRun : EStateM.Result (RunError JsonDoc) (MainState JsonDoc) Unit :=
  record jsonHost systemProgram (sampleConfig 1) fun _ => []

/-- The only service has the identifier of the bootstrap actor, and is spawned after it. -/
theorem system_service_collides :
    loadProgram jsonHost systemSource = .ok systemProgram ∧ TellsApart jsonHost systemProgram ∧
      systemActorId jsonHost ∈ systemProgram.services.map (actorIdForService jsonHost) ∧
      ∃ st trace, systemRun = .ok () st ∧ st.writer = some trace ∧
        (verifyTrace jsonTool trace).problems =
          [(Violation.spawnOnce 1 (systemActorId jsonHost) "System").message jsonTool] := by
  have tells : TellsApart jsonHost systemProgram := by
    unfold TellsApart
    decide +kernel
  have ended : succeeds systemRun = true := by decide +kernel
  have writes : (finalState systemRun).writer.isSome = true := by decide +kernel
  have reported : (verifyTrace jsonTool ((finalState systemRun).writer.getD [])).problems =
      [(Violation.spawnOnce 1 (systemActorId jsonHost) "System").message jsonTool] := by
    decide +kernel
  obtain ⟨trace, writer⟩ := Option.isSome_iff_exists.mp writes
  rw [writer] at reported
  exact ⟨systemProgram_loaded, tells, List.mem_cons_self, _, trace, ok_finalState ended, writer,
    reported⟩

end Programs

end UcoStack.System
