import UcoStack.System.Lineages
import UcoStack.System.Sent
import UcoStack.System.TraceShape
import UcoStack.Tool.LocalMeaning

/-!
# The local verifier accepts what nodes record

Every check of the local verifier follows from what is known of a reachable cluster:
the shape of the trace from the steps of the node, the inboxes from first in first out,
the drop evidence from the envelopes that arrived at most once, and the lineages from
the ancestry of messages across all nodes.
-/

namespace UcoStack.System

open UcoStack.Runtime UcoStack.Tool

/-! ## Headers -/

section Headers

variable {V : Type}

theorem stamp_seq {first index : Nat} {kinds : List (EventKind V)} {ev : TraceEvent V}
    (found : (stamp first kinds)[index]? = some ev) :
    ev.seq = first + index ∧ ev.seed = runSeed := by
  induction kinds generalizing first index with
  | nil => cases found
  | cons kind rest ih =>
      cases index with
      | zero =>
          cases found
          exact ⟨rfl, rfl⟩
      | succ index =>
          obtain ⟨seq, seed⟩ := @ih (first + 1) index found
          exact ⟨by omega, seed⟩

theorem stamp_length (first : Nat) (kinds : List (EventKind V)) :
    (stamp first kinds).length = kinds.length := by
  induction kinds generalizing first with
  | nil => rfl
  | cons kind rest ih => exact congrArg (· + 1) (ih (first + 1))

/-- The writer numbers the events and gives them one seed. -/
theorem stamp_headers {kinds : List (EventKind V)} (fits : kinds.length ≤ u64Max) :
    EveryPosition HeaderOk (stamp 0 kinds) := by
  have short : (stamp 0 kinds).length ≤ 2 ^ 64 := by
    have limit : u64Max = 2 ^ 64 - 1 := rfl
    rw [stamp_length]
    omega
  refine (headers_iff short).mpr ⟨fun index ev found => ?_, fun first inFirst second inSecond => ?_⟩
  · rw [(stamp_seq found).1, Nat.zero_add]
  · obtain ⟨index, found⟩ := List.mem_iff_getElem?.mp inFirst
    obtain ⟨other, found'⟩ := List.mem_iff_getElem?.mp inSecond
    rw [(stamp_seq found).2, (stamp_seq found').2]

end Headers

/-! ## Single checks -/

section Checks

variable {V : Type} {tool : ToolHost V} {past kinds : List (EventKind V)} {kind : EventKind V}

/-- The checks on a network message. -/
def Undropped (past : List (EventKind V)) (kind : EventKind V) : Prop :=
  ∀ node fromNode receiver msgId payload, kind = .netRecv node fromNode receiver msgId payload →
    (fromNode, receiver, msgId) ∉ droppedIn past

/-- The checks on a delivery. -/
def DeliversInOrder (tool : ToolHost V) (past : List (EventKind V)) (kind : EventKind V) : Prop :=
  ∀ node receiver msgId, kind = .deliver node receiver msgId →
    ∃ payload, (waiting (receiver, msgId) past).head? = some payload ∧
      ∃ parsed, readLineage tool payload = some parsed ∧
        parsed.InOrder msgId (lastLineage tool past)

theorem Adjacent.kindOk (adjacent : Adjacent past kind)
    (known : spawnedIn past ≠ [] → ∀ actor ∈ named kind, actor ∈ spawnedIn past)
    (fresh : ∀ actor, spawnedActor kind = some actor → actor ∉ spawnedIn past)
    (undropped : Undropped past kind) (delivers : DeliversInOrder tool past kind) :
    KindOk tool past kind := by
  refine ⟨adjacent.effect, adjacent.timer, known, ?_⟩
  cases kind with
  | spawn node actor service => exact fresh actor rfl
  | netRecv node fromNode receiver msgId payload => exact undropped _ _ _ _ _ rfl
  | deliver node receiver msgId => exact delivers _ _ _ rfl
  | effectObserved node actor service msgType msgId declared observed =>
      exact adjacent.observed _ _ _ _ _ _ _ rfl
  | _ => trivial

theorem droppedIn_subset (kinds : List (EventKind V)) : droppedIn kinds ⊆ takenKeys kinds := by
  intro key member
  obtain ⟨kind, inKinds, found⟩ := List.mem_filterMap.mp member
  refine List.mem_filterMap.mpr ⟨kind, inKinds, ?_⟩
  unfold droppedKey at found
  split at found
  · exact found
  · cases found

/-- A message that is used up once is not both dropped and received. -/
theorem undropped_of_nodup (once : (takenKeys kinds).Nodup) : EveryPosition Undropped kinds := by
  refine (EveryPosition.nodup_iff.mpr once).mono ?_
  rintro past _ later split fresh node fromNode receiver msgId payload rfl dropped
  exact fresh _ rfl (droppedIn_subset past dropped)

/-- Nothing is named before it is spawned: the actors are spawned first. -/
theorem known_of_spawned {spawns rest : List (EventKind V)} {nodeId : NodeId}
    {ids : List ActorId} (spawned : spawnedIn spawns = ids)
    (silent : ∀ kind ∈ spawns, named kind = []) (names : ∀ kind ∈ rest, NamesOnly nodeId ids kind) :
    EveryPosition (fun past kind => spawnedIn past ≠ [] →
      ∀ actor ∈ named kind, actor ∈ spawnedIn past) (spawns ++ rest) := by
  refine EveryPosition.append.mpr ⟨?_, ?_⟩
  · intro past kind later split _ actor isNamed
    rw [silent kind (split ▸ List.mem_append_right past List.mem_cons_self)] at isNamed
    exact absurd isNamed List.not_mem_nil
  · intro past kind later split _ actor isNamed
    have known := (names kind (split ▸ List.mem_append_right past List.mem_cons_self)).actors actor
      isNamed
    rw [spawnedIn_append, spawned]
    exact List.mem_append_left _ known

end Checks

/-! ## One recording -/

section Recordings

variable {V : Type} {host : Host V} {program : Program} {cfg : Config}
  {inbound : Nat → List (WireEnvelope V)} {Wire : WireEnvelope V → Prop} {st : MainState V}

theorem Recording.seq (recording : Recording host program cfg inbound Wire st) :
    st.seq = recording.events.length := by
  have logged := congrArg MainState.seq recording.loop.state
  have counted : st.seq = 0 +
      (spawnList host cfg.nodeId program.services ++ recording.boots).length +
        recording.kinds.length := logged
  rw [counted, Nat.zero_add, ← List.length_append]
  rfl

theorem takenKeys_spawnList (host : Host V) (nodeId : NodeId) (services : List String) :
    takenKeys (spawnList host nodeId services) = [] :=
  List.filterMap_eq_nil_iff.mpr (forall_spawnList (fun _ _ _ => rfl) host nodeId services)

theorem takenKeys_boots {site : Site} {entryActor : ActorId} {core final : Core V}
    {kinds : List (EventKind V)} (run : Run (BootStep host site entryActor) core kinds final) :
    takenKeys kinds = [] := by
  have keeps (past : List (EventKind V)) (middle : Core V) (labels : List (EventKind V))
      (next : Core V) (before : takenKeys past = [])
      (step : BootStep host site entryActor middle labels next) :
      takenKeys (past ++ labels) = [] := by
    rw [takenKeys_append, before, List.nil_append]
    cases step with
    | spawn actor service => rfl
    | bootstrap index actor msgId payload allocated allocates encoded found => rfl
  have start : takenKeys ([] : List (EventKind V)) = [] := rfl
  exact Run.history keeps start run

theorem Recording.takenKeys_startup (recording : Recording host program cfg inbound Wire st) :
    takenKeys (spawnList host cfg.nodeId program.services ++ recording.boots) = [] := by
  rw [takenKeys_append, takenKeys_spawnList, List.nil_append]
  exact takenKeys_boots (bootAll_run host recording.launched.site recording.boot)

/-- What was received or is still held had arrived. -/
theorem Recording.source (recording : Recording host program cfg inbound Wire st)
    {env : WireEnvelope V} (place : env ∈ st.injector.held ∨ env.recvEvent ∈ recording.events) :
    env ∈ arrivals cfg.nodeId inbound 0 cfg.steps := by
  have inLoop : env ∈ st.injector.held ∨ env.recvEvent ∈ recording.kinds := by
    refine place.imp_right fun member => (List.mem_append.mp member).resolve_left fun early => ?_
    have taken : env.key ∈
        takenKeys (spawnList host cfg.nodeId program.services ++ recording.boots) :=
      List.mem_filterMap.mpr ⟨env.recvEvent, early, rfl⟩
    rw [Recording.takenKeys_startup recording] at taken
    cases taken
  exact (recording.loop.source env inLoop).resolve_left List.not_mem_nil

/-- Everything received or dropped had arrived, and the rest is still held. -/
theorem Recording.taken (recording : Recording host program cfg inbound Wire st) (key : NetKey) :
    (envKeys (arrivals cfg.nodeId inbound 0 cfg.steps)).count key =
      (envKeys st.injector.held).count key + (takenKeys recording.events).count key := by
  have balance := recording.loop.balance key
  have before := Recording.takenKeys_startup recording
  have nothing : (envKeys (((MainState.initial .record cfg recording.launched.actors []).logged
      (spawnList host cfg.nodeId program.services ++ recording.boots)).setCore
        recording.booted).injector.held).count key = 0 := rfl
  unfold Recording.events
  rw [takenKeys_append, before, List.nil_append]
  omega

end Recordings

/-! ## The nodes of a cluster -/

section Nodes

variable {ι V : Type} {tool : ToolHost V} {program : Program} {cfgs : ι → Config}
  {c : Cluster ι V} {i : ι} {st : MainState V}

theorem sitesOf_known {host : Host V} {service : String} {id : ActorId}
    (mapped : (sitesOf host program cfgs i).serviceToActor.lookup service = some id) :
    id ∈ spawnedIds host program := by
  unfold sitesOf launchOf at mapped
  cases launches : launch host program (cfgs i) with
  | error error =>
      rw [launches] at mapped
      simp at mapped
  | ok launched =>
      rw [launches] at mapped
      have built := (launch_launched launches).built
      have member := built.service_mem service id mapped
      have same := (built.mapped service member).symm.trans mapped
      cases same
      exact List.mem_map_of_mem (List.mem_cons_of_mem "System" member)

theorem Cluster.Finished.core (finished : c.Finished cfgs i st) : c.core i = st.core := by
  obtain ⟨launched, running⟩ := finished
  unfold Cluster.core
  rw [running]
  rfl

/-- A finished node made a recording of what arrived. -/
theorem Reachable.recording [DecidableEq ι] [DecidableEq V] {host : Host V}
    (reached : Reachable host program cfgs c) (finished : c.Finished cfgs i st) :
    ∃ inbound, arrivals (cfgs i).nodeId inbound 0 (cfgs i).steps = c.arrived i ∧
      Nonempty (Recording host program (cfgs i) inbound (· ∈ c.arrived i) st) := by
  obtain ⟨launched, running⟩ := finished
  have ok := reached.process_ok i
  rw [running] at ok
  obtain ⟨launches, _, ran⟩ := ok
  obtain ⟨inbound, arrived, recorded⟩ := ran.record launches
  refine ⟨inbound, arrived, record_ok ?_ recorded⟩
  rw [← arrived]
  exact fun _ member => member

variable [Fintype ι]

/-- An envelope is for an actor of the common program. -/
theorem Orderly.actor_known {host : Host V} (orderly : Orderly host program cfgs c)
    {env : WireEnvelope V} (onNetwork : env ∈ c.sent) :
    env.toActor ∈ spawnedIds host program := by
  obtain ⟨j, made, produced, travels⟩ := orderly.backed env onNetwork
  cases (orderly.sound.grounded j).history made produced with
  | boot index msgId => cases travels
  | answer msgId payload cause target envelope known answers shapes =>
      obtain ⟨node, service, toActor, _, mapped, rfl⟩ := shapes env travels
      exact sitesOf_known mapped

/-- A delivered message was made by some node. -/
theorem Orderly.delivered_made {host : Host V} (orderly : Orderly host program cfgs c)
    {message : MsgId × V} (delivered : message ∈ (c.core i).delivered) :
    ∃ source, IsMade c.core source ∧ message = (source.2.msgId, source.2.payload) := by
  obtain ⟨j, made, produced, same, _⟩ := (orderly.sound.grounded i).delivered message delivered
  exact ⟨(j, made), produced, same⟩

/-- The lineages read before a delivery are those of messages. -/
theorem Orderly.readFrom (orderly : Orderly tool.toHost program cfgs c)
    {past later : List (EventKind V)} (remembers : Remembers tool (past ++ later) (c.core i)) :
    ReadFrom tool c.core (lastLineage tool past) := by
  intro key record found
  obtain ⟨message, delivered, entry⟩ := remembers.lastLineage found
  obtain ⟨source, made, rfl⟩ := orderly.delivered_made delivered
  obtain ⟨parsed, reads, same⟩ := Option.map_eq_some_iff.mp entry
  cases same
  exact ⟨source, parsed, made, readLineage_eq_some.mp reads, rfl, rfl⟩

theorem Orderly.deliversInOrder (orderly : Orderly tool.toHost program cfgs c)
    (lawful : tool.Lawful) {kinds : List (EventKind V)}
    (remembers : Remembers tool kinds (c.core i)) :
    EveryPosition (DeliversInOrder tool) kinds := by
  intro past kind later split node receiver msgId same
  obtain ⟨payload, waits, delivered⟩ :=
    remembers.payloads past kind later split node receiver msgId same
  obtain ⟨source, made, identified⟩ := orderly.delivered_made delivered
  cases identified
  rw [split] at remembers
  obtain ⟨parsed, reads, inOrder⟩ :=
    orderly.sound.inOrder orderly.distinct lawful made (orderly.readFrom remembers)
  exact ⟨source.2.payload, waits, parsed, readLineage_eq_some.mpr reads, inOrder⟩

/-- What is known of the trace of a finished node. -/
structure NodeTrace (tool : ToolHost V) (program : Program) (cfg : Config)
    (arrived : List (WireEnvelope V)) (st : MainState V) (kinds : List (EventKind V)) : Prop where
  writer : st.writer = some (stamp 0 kinds)
  fits : kinds.length ≤ u64Max
  spawned : ∃ rest, kinds = spawnList tool.toHost cfg.nodeId program.services ++ rest ∧
    Shaped cfg.nodeId (spawnedIds tool.toHost program) rest
  taken : ∀ key, (envKeys arrived).count key =
    (envKeys st.injector.held).count key + (takenKeys kinds).count key
  source : ∀ env, env ∈ st.injector.held ∨ env.recvEvent ∈ kinds → env ∈ arrived
  sends : kinds.filterMap sentMessage = (dispatched st.core).map envelopeItem
  remembers : Remembers tool kinds st.core

variable [DecidableEq ι] [DecidableEq V]

theorem Orderly.nodeTrace (orderly : Orderly tool.toHost program cfgs c)
    (accepted : Accepted tool.toHost program) (reached : Reachable tool.toHost program cfgs c)
    (finished : c.Finished cfgs i st) :
    ∃ kinds, NodeTrace tool program (cfgs i) (c.arrived i) st kinds := by
  obtain ⟨inbound, arrived, ⟨recording⟩⟩ := reached.recording finished
  have ready := launch_launched recording.launches
  have known : ForActors tool.toHost program (cfgs i).nodeId (· ∈ c.arrived i) :=
    fun env member => ⟨orderly.actor_known ((reached.arrived_once i).subset member),
      reached.arrived_addressed i env member⟩
  refine ⟨recording.events, recording.writer, ?_, Recording.shaped accepted known recording, ?_,
    ?_, coreRun_netSends rfl (recording.ops accepted),
    coreRun_remembers ready.built.actor_inbox rfl (recording.ops accepted)⟩
  · obtain ⟨launched, running⟩ := finished
    have seq := orderly.sending.seq i
    rw [running] at seq
    rw [← Recording.seq recording]
    exact seq
  · intro key
    have balance := Recording.taken recording key
    rwa [arrived] at balance
  · intro env place
    rw [← arrived]
    exact Recording.source recording place

omit [Fintype ι] [DecidableEq ι] [DecidableEq V] in
theorem NodeTrace.tidy {cfg : Config} {arrived : List (WireEnvelope V)}
    {kinds : List (EventKind V)} (trace : NodeTrace tool program cfg arrived st kinds) :
    Tidy kinds := by
  obtain ⟨rest, rfl, shaped⟩ := trace.spawned
  exact (Tidy.spawnList tool.toHost cfg.nodeId program.services).append shaped.tidy

omit [Fintype ι] [DecidableEq ι] [DecidableEq V] in
theorem NodeTrace.spawnedIn {cfg : Config} {arrived : List (WireEnvelope V)}
    {kinds : List (EventKind V)} (trace : NodeTrace tool program cfg arrived st kinds) :
    spawnedIn kinds = spawnedIds tool.toHost program := by
  obtain ⟨rest, rfl, shaped⟩ := trace.spawned
  rw [spawnedIn_append, shaped.spawnedIn, List.append_nil]
  exact spawnedIn_spawnList tool.toHost program cfg.nodeId

/-- A service that is not called `System`, and no two services with one actor id. -/
structure ActorsDistinct (host : Host V) (program : Program) : Prop where
  noSystem : "System" ∉ program.services
  injective : ∀ first ∈ "System" :: program.services, ∀ second ∈ "System" :: program.services,
    actorIdForService host first = actorIdForService host second → first = second

omit [DecidableEq V] in
theorem ActorsDistinct.nodup {host : Host V} (distinct : ActorsDistinct host program)
    (accepted : Accepted host program) : (spawnedIds host program).Nodup :=
  List.Nodup.map_on distinct.injective
    (List.nodup_cons.mpr ⟨distinct.noSystem, accepted.services_nodup⟩)

/-- The local verifier accepts the trace of every node whose run ended without error. -/
theorem recorded_traces_verify (lawful : tool.Lawful) {src : String}
    (loaded : loadProgram tool.toHost src = .ok program)
    (actors : ActorsDistinct tool.toHost program)
    (nodes : Function.Injective fun i => (cfgs i).nodeId)
    (reached : Reachable tool.toHost program cfgs c)
    (few : ∀ i, (c.core i).history.length < u64Max) (finished : c.Finished cfgs i st) :
    ∃ trace, st.writer = some trace ∧ (verifyTrace tool trace).problems = [] := by
  have accepted := loadProgram_accepted loaded
  have orderly := reached.orderly accepted nodes few
  obtain ⟨kinds, trace⟩ := orderly.nodeTrace accepted reached finished
  obtain ⟨rest, split, shaped⟩ := trace.spawned
  have remembers := trace.remembers
  rw [← finished.core] at remembers
  have delivers := orderly.deliversInOrder lawful remembers
  have once : (takenKeys kinds).Nodup := by
    refine List.nodup_iff_count_le_one.mpr fun key => ?_
    have arrived := List.nodup_iff_count_le_one.mp (orderly.arrivedKeys_nodup reached i) key
    have balance := trace.taken key
    omega
  have undropped := undropped_of_nodup once
  have fresh : EveryPosition (fun past kind => ∀ actor, spawnedActor kind = some actor →
      actor ∉ spawnedIn past) kinds := by
    apply EveryPosition.nodup_iff.mpr
    change (spawnedIn kinds).Nodup
    rw [trace.spawnedIn]
    exact actors.nodup accepted
  have known := known_of_spawned (spawnedIn_spawnList tool.toHost program (cfgs i).nodeId)
    (named_spawnList tool.toHost (cfgs i).nodeId program.services) shaped.names
  rw [← split] at known
  have inOrder : EveryPosition (KindOk tool) kinds := fun past kind later here =>
    (trace.tidy.adjacent past kind later here).kindOk (known past kind later here)
      (fresh past kind later here) (undropped past kind later here) (delivers past kind later here)
  refine ⟨stamp 0 kinds, trace.writer, (verifyTrace_positions tool (stamp 0 kinds)).mpr ?_⟩
  rw [kindsOf_stamp]
  exact ⟨stamp_headers trace.fits, inOrder, trace.tidy.settled⟩

end Nodes

/-! ## A sample cluster -/

section Samples

/-- The number of iterations of a process that goes on. -/
def Process.iterations {V : Type} : Process V → Option Nat
  | .running _ step _ => some step
  | _ => none

theorem Cluster.finished_of_iterations {ι V : Type} {cfgs : ι → Config} {c : Cluster ι V} {i : ι}
    (done : (c.process i).iterations = some (cfgs i).steps) :
    ∃ st, c.Finished cfgs i st := by
  cases here : c.process i with
  | running launched step st =>
      rw [here] at done
      cases done
      exact ⟨st, launched, here⟩
  | starting launched st =>
      rw [here] at done
      cases done
  | failed error st =>
      rw [here] at done
      cases done

theorem sampleProgram_actors : ActorsDistinct jsonHost sampleProgram :=
  ⟨by decide +kernel, by decide +kernel⟩

/-- Node 0 has finished; node 1, which sent it messages, has not. -/
theorem recorded_traces_verify_sample :
    ∃ st trace, (samplePair [0, 1, 0, 1, 0, 1, 0, 0]).Finished sampleNodes 0 st ∧
      st.writer = some trace ∧ (verifyTrace jsonTool trace).problems = [] := by
  have done : ((samplePair [0, 1, 0, 1, 0, 1, 0, 0]).process 0).iterations = some 4 := by
    decide +kernel
  have few : ∀ i, ((samplePair [0, 1, 0, 1, 0, 1, 0, 0]).core i).history.length < u64Max := by
    decide +kernel
  have ended : ∃ st, (samplePair [0, 1, 0, 1, 0, 1, 0, 0]).Finished sampleNodes 0 st :=
    Cluster.finished_of_iterations done
  obtain ⟨st, finished⟩ := ended
  obtain ⟨trace, writer, clean⟩ := recorded_traces_verify jsonTool_lawful sampleProgram_loaded
    sampleProgram_actors sampleNodes_distinct (samplePair_reachable _) few finished
  exact ⟨st, trace, finished, writer, clean⟩

end Samples

end UcoStack.System
