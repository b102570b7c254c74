import UcoStack.Runtime.Posts
import UcoStack.Runtime.Refusals
import UcoStack.System.Actors

/-!
# Contracts of services

The assertion rule of the actor model, read as a rule about programs.  A contract gives
every service an assertion on its state and every actor the letters it may be sent.  It
is checked handler by handler on the control semantics, and holds in every state of
every cluster that runs the program.  The failures of a node are those of its actors.
-/

namespace UcoStack.Runtime

/-- The service that gets the bootstrap messages. -/
def Program.entryService (program : Program) : String :=
  if "Gateway" ∈ program.services then "Gateway" else program.services.headD ""

theorem launch_entryService {V : Type} {host : Host V} {program : Program} {cfg : Config}
    {launched : Launch V} (launches : launch host program cfg = .ok launched) :
    launched.entryService = program.entryService := by
  have ready := launch_launched launches
  have known : (launched.site.serviceToActor.lookup "Gateway").isSome ↔
      "Gateway" ∈ program.services := by
    constructor
    · intro mapped
      obtain ⟨id, found⟩ := Option.isSome_iff_exists.mp mapped
      exact ready.built.service_mem _ id found
    · intro member
      rw [ready.built.mapped _ member]
      rfl
  obtain ⟨system, -, launches⟩ := ExceptRun.bind_ok.mp launches
  obtain ⟨entryService, entry, same⟩ := ExceptRun.bind_ok.mp launches
  cases same
  rw [chooseEntryService] at entry
  split at entry
  · rename_i gateway
    cases entry
    exact (if_pos (known.mp gateway)).symm
  · rename_i gateway
    split at entry
    · rename_i service first
      cases entry
      rw [Program.entryService, if_neg fun member => gateway (known.mpr member),
        List.headD_eq_head?_getD, first]
      rfl
    · cases entry

end UcoStack.Runtime

namespace UcoStack.System

open UcoStack.Runtime StateRun

/-! ## The actors at the start -/

section Start

variable {ι V : Type} {host : Host V} {program : Program} {cfgs : ι → Config}

/-- The actor of the node that gets the bootstrap messages. -/
def entryPlace (host : Host V) (program : Program) (nodeId : NodeId) : Place :=
  (nodeId, actorIdForService host program.entryService)

theorem Process.launch_mail (host : Host V) (program : Program) (cfg : Config) :
    (Process.launch host program cfg).mail host cfg ≤
      Multiset.replicate (bootstrapCount cfg)
        (entryPlace host program cfg.nodeId, startLetter cfg.nodeId) := by
  rw [Process.launch]
  cases launches : Runtime.launch host program cfg with
  | error error => exact Multiset.zero_le _
  | ok launched =>
      have entry := (launch_launched launches).entryActor_eq.2
      rw [launch_entryService launches] at entry
      change startMail cfg.nodeId launched.entryActor (bootstrapCount cfg) ≤ _
      rw [entry]
      exact le_rfl

theorem nodeAt_eq {nodeId : NodeId} {i : ι} (found : nodeAt cfgs nodeId = some i) :
    (cfgs i).nodeId = nodeId := by
  rw [nodeAt] at found
  split at found
  · rename_i known
    cases found
    exact known.choose_spec
  · cases found

variable [Fintype ι]

/-- An actor at the start has the declared state of its service. -/
theorem clusterStart_state {place : Place} {service : String} {state : StateMap}
    (found : (clusterStart cfgs host program).state place = some (service, state)) :
    ∃ i, (cfgs i).nodeId = place.1 ∧ service ∈ program.services ∧
      actorIdForService host service = place.2 ∧
      program.serviceInitialState.lookup service = some state := by
  obtain ⟨i, known, launched⟩ := Option.bind_eq_some_iff.mp found
  rw [startState_core] at launched
  obtain ⟨actor, stored, same⟩ := Option.map_eq_some_iff.mp launched
  cases same
  cases launches : launch host program (cfgs i) with
  | error error =>
      rw [launchOf, launches] at stored
      cases stored
  | ok launch =>
      rw [launchOf, launches] at stored
      have built := (launch_launched launches).built
      have served := built.actor_service place.2 actor stored
      exact ⟨i, nodeAt_eq known, served.1, served.2, built.actor_state place.2 actor stored⟩

theorem clusterStart_mail {sent : Mail} (member : sent ∈ (clusterStart cfgs host program).mail) :
    ∃ i, sent = (entryPlace host program (cfgs i).nodeId, startLetter (cfgs i).nodeId) := by
  obtain ⟨i, -, inside⟩ := Multiset.mem_sum.mp member
  have boots := Multiset.mem_of_le (Process.launch_mail host program (cfgs i)) inside
  exact ⟨i, Multiset.eq_of_mem_replicate boots⟩

end Start

/-! ## Contracts -/

/-- Assertions on the states of services and on the letters for actors. -/
structure Contract where
  good : NodeId → String → StateMap → Prop
  fit : Place → Letter → Prop

/-- A letter that can be read and that the contract allows. -/
def Contract.Fits (contract : Contract) (place : Place) (letter : Option Letter) : Prop :=
  ∃ read, letter = some read ∧ contract.fit place read

section Contracts

variable {ι V : Type}

/-- What has to be checked of a program, one handler at a time. -/
structure Contract.Kept (contract : Contract) (host : Host V) (program : Program)
    (cfgs : ι → Config) : Prop where
  declared : ∀ i service state, program.serviceInitialState.lookup service = some state →
    contract.good (cfgs i).nodeId service state
  start : ∀ i, contract.fit (entryPlace host program (cfgs i).nodeId)
    ⟨"start", some (cfgs i).nodeId⟩
  handled : ∀ i, ∀ service ∈ program.services, ∀ state letter control,
    contract.good (cfgs i).nodeId service state →
    contract.fit ((cfgs i).nodeId, actorIdForService host service) letter →
    controlActions host (cfgs i).nodeId (cfgs i).peers program service letter state =
      some control →
    contract.good (cfgs i).nodeId service control.state ∧
      ∀ post ∈ control.posts, contract.fit (address host (cfgs i).nodeId post.target) post.letter

/-- An actor of the cluster whose state the contract allows. -/
def Contract.Good (contract : Contract) (host : Host V) (program : Program) (cfgs : ι → Config)
    (place : Place) (actor : Option (String × StateMap)) : Prop :=
  ∀ service state, actor = some (service, state) →
    ∃ i, (cfgs i).nodeId = place.1 ∧ service ∈ program.services ∧
      actorIdForService host service = place.2 ∧ contract.good place.1 service state

variable {contract : Contract} {host : Host V} {program : Program} {cfgs : ι → Config}

/-- The contract is an assertion of the actors. -/
theorem Contract.Kept.keeps (kept : contract.Kept host program cfgs)
    (distinct : Function.Injective fun i => (cfgs i).nodeId) :
    ActorModel.Keeps (contract.Good host program cfgs) contract.Fits
      (clusterModel cfgs host program) := by
  intro place actor letter good fits
  obtain ⟨read, rfl, fit⟩ := fits
  cases actor with
  | none => exact ⟨good, fun _ member => absurd member List.not_mem_nil⟩
  | some actor =>
      obtain ⟨service, state⟩ := actor
      obtain ⟨node, receiver⟩ := place
      obtain ⟨i, rfl, member, rfl, allowed⟩ := good service state rfl
      have peers := peersAt_nodeId distinct i
      simp only [clusterModel, serviceModel, peers]
      cases controls : controlActions host (cfgs i).nodeId (cfgs i).peers program service read
          state with
      | none => exact ⟨good, fun _ member => absurd member List.not_mem_nil⟩
      | some control =>
          obtain ⟨after, posts⟩ := kept.handled i service member state read control allowed fit
            controls
          constructor
          · intro other stored same
            cases same
            exact ⟨i, rfl, member, rfl, after⟩
          · intro sent posted
            obtain ⟨post, inside, rfl⟩ := List.mem_map.mp posted
            exact ⟨post.letter, rfl, posts post inside⟩

variable [Fintype ι]

theorem Contract.Kept.satisfied (kept : contract.Kept host program cfgs) :
    (clusterStart cfgs host program).Satisfies (contract.Good host program cfgs)
      contract.Fits where
  state place service state found := by
    obtain ⟨i, node, member, named, declared⟩ := clusterStart_state found
    refine ⟨i, node, member, named, ?_⟩
    rw [← node]
    exact kept.declared i service state declared
  mail sent member := by
    obtain ⟨i, rfl⟩ := clusterStart_mail member
    exact ⟨_, rfl, kept.start i⟩

variable [DecidableEq ι] [DecidableEq V] {c : Cluster ι V}

/-- A cluster whose states and letters are all as the contract says. -/
structure Contract.Holds (contract : Contract) (host : Host V) (cfgs : ι → Config)
    (c : Cluster ι V) : Prop where
  states : ∀ i id actor, (c.core i).actors.lookup id = some actor →
    contract.good (cfgs i).nodeId actor.service actor.state
  waiting : ∀ i, ∀ sent ∈ (c.process i).mail host (cfgs i), contract.Fits sent.1 sent.2
  flying : ∀ env ∈ c.flying, contract.Fits (env.mail host).1 (env.mail host).2
  handled : ∀ i, ∀ letter ∈ (c.core i).letters host,
    ∃ id, contract.Fits ((cfgs i).nodeId, id) letter

omit [DecidableEq ι] in
theorem Contract.Kept.holds (kept : contract.Kept host program cfgs)
    (distinct : Function.Injective fun i => (cfgs i).nodeId) {delivered : List Mail}
    {a : ClusterActors} (acts : c.Acts host program cfgs delivered a) :
    contract.Holds host cfgs c := by
  obtain ⟨satisfied, fit⟩ := ActorModel.run_satisfies (kept.keeps distinct) kept.satisfied acts.run
  refine ⟨?_, ?_, ?_, ?_⟩
  · intro i id actor found
    have here : a.state ((cfgs i).nodeId, id) = some (actor.service, actor.state) := by
      rw [acts.actors i id, Core.profile, found]
      rfl
    obtain ⟨_, -, -, -, good⟩ := satisfied.state _ _ _ here
    exact good
  · intro i sent member
    apply satisfied.mail sent
    apply Multiset.mem_of_le ((Multiset.le_add_right _ _).trans acts.mail)
    exact Multiset.mem_sum.mpr ⟨i, Finset.mem_univ i, member⟩
  · intro env member
    apply satisfied.mail (env.mail host)
    apply Multiset.mem_of_le ((Multiset.le_add_left _ _).trans acts.mail)
    exact Multiset.mem_map_of_mem _ member
  · intro i letter member
    rw [← acts.letters i, lettersOf] at member
    obtain ⟨sent, inside, rfl⟩ := List.mem_map.mp member
    obtain ⟨sent_mem, node⟩ := List.mem_filter.mp inside
    obtain ⟨⟨nodeId, id⟩, letter⟩ := sent
    cases of_decide_eq_true node
    exact ⟨id, fit _ sent_mem⟩

/-- A contract that every handler keeps holds in every state of every cluster. -/
theorem contract_sound (lawful : host.Lawful) {src : String}
    (loaded : loadProgram host src = .ok program)
    (distinct : Function.Injective fun i => (cfgs i).nodeId)
    (kept : contract.Kept host program cfgs) (reached : Reachable host program cfgs c) :
    contract.Holds host cfgs c := by
  obtain ⟨delivered, a, acts⟩ := reached.acts lawful (loadProgram_accepted loaded) distinct
  exact kept.holds distinct acts

end Contracts

section Sample

/-- The counter of the sample program never falls below zero, and only the messages of
its text are ever sent. -/
def sampleContract : Contract where
  good _ _ state := ∃ n, state.lookup "n" = some n ∧ 0 ≤ n
  fit _ letter := letter.msgType ∈ ["start", "ping", "tick"]

theorem sampleContract_kept : sampleContract.Kept jsonHost sampleProgram sampleNodes where
  declared i service state declared := by
    cases List.mem_singleton.mp (AList.mem_lookup_iff.mp declared)
    exact ⟨0, rfl, Int.le_refl 0⟩
  start i := List.mem_cons_self
  handled i service member state letter control good fit ran := by
    obtain ⟨msgType, sender⟩ := letter
    obtain ⟨n, found, positive⟩ := good
    rw [controlActions] at ran
    split at ran
    · cases ran
      exact ⟨⟨n, found, positive⟩, fun _ posted => absurd posted List.not_mem_nil⟩
    · rename_i plan handler
      have posts := @controlAll_posts _ jsonHost (sampleNodes i).nodeId (sampleNodes i).peers
        sender plan.actions ⟨state, []⟩ control ran
      rcases List.mem_cons.mp (AList.mem_lookup_iff.mp handler) with same | rest
      · cases same
        cases ran
        exact ⟨⟨n, found, positive⟩, fun _ posted => absurd posted List.not_mem_nil⟩
      · cases List.mem_singleton.mp rest
        constructor
        · rw [controlAll, List.foldlM_cons] at ran
          obtain ⟨middle, counted, ran⟩ := Option.bind_eq_some_iff.mp ran
          cases ran
          obtain ⟨current, same, added⟩ := Option.bind_eq_some_iff.mp counted
          obtain ⟨value, sum, rfl⟩ := Option.map_eq_some_iff.mp added
          cases found.symm.trans same
          rw [checkedAdd] at sum
          split at sum
          · cases sum
            exact ⟨n + 1, AList.lookup_insert _, by omega⟩
          · cases sum
        · intro post posted
          rcases posts posted with old | ⟨message, named, letter⟩
          · exact absurd old List.not_mem_nil
          · have types : message ∈ [("Gateway", "ping"), ("Gateway", "tick")].map Prod.snd :=
              List.mem_map.mpr ⟨_, named, rfl⟩
            change post.letter.msgType ∈ _
            rw [letter]
            exact List.mem_cons_of_mem "start" types

theorem contract_sound_sample :
    sampleContract.Holds jsonHost sampleNodes (samplePair [0, 1, 0, 1, 0]) :=
  contract_sound jsonHost_lawful sampleProgram_loaded sampleNodes_distinct sampleContract_kept
    (samplePair_reachable [0, 1, 0, 1, 0])

end Sample

/-! ## Why a node stops -/

section Stops

variable {ι V : Type} [DecidableEq V] {host : Host V} {program : Program} {cfgs : ι → Config}
  {c : Cluster ι V}

theorem RanTo.timersKnown {cfg : Config} {launched : Launch V} {arrived : List (WireEnvelope V)}
    {step : Nat} {st : MainState V} (accepted : Accepted host program)
    (launches : launch host program cfg = .ok launched)
    (ran : RanTo host cfg launched arrived step st) :
    st.core.TimersKnown launched.site.program := by
  obtain ⟨inbound, -, recorded⟩ := ran.record launches
  obtain ⟨recording⟩ := record_ok (fun _ _ => trivial) recorded
  obtain rfl : recording.launched = launched :=
    Except.ok.inj (recording.launches.symm.trans launches)
  exact CoreRun.timersKnown (recording.ops accepted) fun _ member =>
    absurd member List.not_mem_nil

variable [Fintype ι]

/-- The actors can come to a point where the service fails on a letter that waits for it. -/
def Overflows (host : Host V) (program : Program) (cfgs : ι → Config) (i : ι)
    (service : String) : Prop :=
  ∃ delivered a state letter,
    Run (clusterModel cfgs host program).Step (clusterStart cfgs host program) delivered a ∧
    a.state ((cfgs i).nodeId, actorIdForService host service) = some (service, state) ∧
    (((cfgs i).nodeId, actorIdForService host service), some letter) ∈ a.mail ∧
    controlActions host (cfgs i).nodeId (cfgs i).peers program service letter state = none

/-- The error that ended the process. -/
def Process.stopError : Process V → Option (RunError V)
  | .starting _ _ => none
  | .running _ _ _ => none
  | .failed error _ => some error

omit [DecidableEq V] in
theorem Process.stopError_eq {process : Process V} {error : RunError V}
    (stopped : process.stopError = some error) : ∃ st, process = .failed error st := by
  cases process with
  | starting launched st => cases stopped
  | running launched step st => cases stopped
  | failed other st =>
      cases stopped
      exact ⟨st, rfl⟩

/-- If the process has stopped, it did so with an error of the kind. -/
def Process.StopsOnly (kind : RunError V → Prop) (process : Process V) : Prop :=
  ∀ error, process.stopError = some error → kind error

/-- What can stop node `i`. -/
def StopReason (host : Host V) (program : Program) (cfgs : ι → Config) (i : ι)
    (error : RunError V) : Prop :=
  (error = .noServices ∧ program.services = []) ∨ RecordError error ∨
    ∃ service key, error = .action service (.stateOverflow service key) ∧
      Overflows host program cfgs i service

/-- The contract that says nothing: every letter can be read. -/
def Contract.trivial : Contract := ⟨fun _ _ _ => True, fun _ _ => True⟩

omit [DecidableEq V] [Fintype ι] in
theorem Contract.trivial_kept : Contract.trivial.Kept host program cfgs where
  declared _ _ _ _ := True.intro
  start _ := True.intro
  handled _ _ _ _ _ _ _ _ _ := ⟨True.intro, fun _ _ => True.intro⟩

variable [DecidableEq ι]

/-- A step fails on a letter that its actors could be given. -/
theorem Reachable.step_fails (lawful : host.Lawful) (accepted : Accepted host program)
    (distinct : Function.Injective fun i => (cfgs i).nodeId)
    (reached : Reachable host program cfgs c) {i : ι} {launched : Launch V} {position : Nat}
    {st st' : MainState V} (running : c.process i = .running launched position st)
    {batch : List (WireEnvelope V)} (addressed : ∀ env ∈ batch, env.toNode = (cfgs i).nodeId)
    (once : (c.arrived i ++ batch).Subperm c.sent) {error : RunError V}
    (failed : recordStep host launched.site position batch st = .error error st') :
    StopReason host program cfgs i error := by
  obtain ⟨delivered, a, acts⟩ := reached.acts lawful accepted distinct
  have ok := reached.process_ok i
  have settled := reached.settled i
  rw [running] at ok settled
  obtain ⟨launches, -, past⟩ := ok
  obtain ⟨hosts, holds⟩ := past.ready accepted launches
  have ready := launch_launched launches
  have own : st.Holds fun env => env.toNode = launched.site.nodeId := by
    intro env held
    rw [ready.nodeId_eq]
    exact reached.arrived_addressed i env (holds env held)
  have maps : launched.site.Maps host := by
    rw [Site.Maps, ready.program_eq]
    exact ready.built.mapped
  have known := past.timersKnown accepted launches
  rw [← ready.program_eq] at accepted
  rcases recordStep_failure lawful accepted maps ready.named hosts known settled own failed with
    record | ⟨receiver, service, state, letter, stored, waiting, refuses⟩
  · exact .inr (.inl record)
  have all : ownEnvelopes launched.site.nodeId batch = batch := by
    rw [ready.nodeId_eq]
    exact List.filter_eq_self.mpr fun env member => decide_eq_true (addressed env member)
  rw [all, ready.nodeId_eq] at waiting
  rw [ready.nodeId_eq, ready.peers_eq, ready.program_eq] at refuses
  have mail : st.inHand host (cfgs i).nodeId + wireMail host batch ≤ a.mail := by
    have inside := Cluster.batch_le_flying
      (reached.arrived_after distinct (c.process i) addressed once)
    have flies : wireMail host batch ≤ c.flying.map (WireEnvelope.mail host) :=
      Multiset.map_le_map inside
    have here : (c.process i).mail host (cfgs i) ≤ ∑ j, (c.process j).mail host (cfgs j) :=
      Finset.single_le_sum (fun _ _ => Multiset.zero_le _) (Finset.mem_univ i)
    rw [running] at here
    exact (add_le_add here flies).trans acts.mail
  have inMail := Multiset.mem_of_le mail waiting
  have kept : Contract.trivial.Kept host program cfgs := Contract.trivial_kept
  obtain ⟨satisfied, -⟩ := ActorModel.run_satisfies (kept.keeps distinct) kept.satisfied acts.run
  obtain ⟨read, rfl, -⟩ := satisfied.mail _ inMail
  have core : c.core i = st.core := by
    rw [Cluster.core, running]
    rfl
  have here : a.state ((cfgs i).nodeId, receiver) = some (service, state) := by
    rw [acts.actors i receiver, core]
    exact stored
  obtain ⟨_, -, -, named, -⟩ := satisfied.state _ _ _ here
  cases named
  cases refuses with
  | overflow _ key refused =>
      exact .inr (.inr ⟨service, key, rfl, delivered, a, state, read, acts.run, here, inMail,
        refused⟩)

/-- The run lemma: a node that stopped did so for one of the reasons. -/
theorem Reachable.stopReason (lawful : host.Lawful) (accepted : Accepted host program)
    (distinct : Function.Injective fun i => (cfgs i).nodeId)
    (reached : Reachable host program cfgs c) {i : ι} {error : RunError V} {st : MainState V}
    (stopped : c.process i = .failed error st) : StopReason host program cfgs i error := by
  induction reached generalizing error st with
  | initial =>
      change Process.launch host program (cfgs i) = _ at stopped
      rw [Process.launch] at stopped
      cases launches : launch host program (cfgs i) with
      | ok launched =>
          rw [launches] at stopped
          cases stopped
      | error refusal =>
          rw [launches] at stopped
          cases stopped
          exact .inl (launch_error accepted launches)
  | @step c c' reached next ih =>
      cases next with
      | start j launched before starting =>
          by_cases same : i = j
          · subst same
            rw [Cluster.advance_process_self] at stopped
            have ok := reached.process_ok i
            rw [starting] at ok
            obtain ⟨launches, -, rfl⟩ := ok
            have ready := launch_launched launches
            cases ran : startup host launched.site .record (cfgs i) launched.entryService
                (.initial .record (cfgs i) launched.actors []) with
            | ok _ after =>
                rw [ran] at stopped
                cases stopped
            | error refusal after =>
                rw [ran] at stopped
                cases stopped
                exact .inr (.inl (startup_error ready (.initial ready.built) ran))
          · rw [Cluster.advance_process_of_ne _ same] at stopped
            exact ih stopped
      | iterate j launched position before running unfinished batch addressed once =>
          by_cases same : i = j
          · subst same
            rw [Cluster.advance_process_self] at stopped
            cases ran : recordStep host launched.site position batch before with
            | ok _ after =>
                rw [ran] at stopped
                cases stopped
            | error refusal after =>
                rw [ran] at stopped
                cases stopped
                exact reached.step_fails lawful accepted distinct running addressed once ran
          · rw [Cluster.advance_process_of_ne _ same] at stopped
            exact ih stopped

/-- A node stops only because its program is empty, or in its trace or fault injector, or
because an increment overflows in a state and on a letter that its actors can come to. -/
theorem node_stop_reason (lawful : host.Lawful) {src : String}
    (loaded : loadProgram host src = .ok program)
    (distinct : Function.Injective fun i => (cfgs i).nodeId)
    (reached : Reachable host program cfgs c) {i : ι} {error : RunError V}
    (stopped : (c.process i).stopError = some error) : StopReason host program cfgs i error := by
  obtain ⟨st, failed⟩ := Process.stopError_eq stopped
  exact reached.stopReason lawful (loadProgram_accepted loaded) distinct failed

/-- A counter that cannot be increased. -/
def fullSource : String :=
  "service Gateway\nstate n = 9223372036854775807\non start\neffects state_write\ninc n\n"

def fullProgram : Program :=
  { services := ["Gateway"]
    serviceInitialState := AList.insert "Gateway" (AList.insert "n" 9223372036854775807 ∅) ∅
    handlers :=
      AList.insert ("Gateway", "start")
        { actions := [.incState "n" 1], declaredEffects := [.stateWrite] } ∅ }

theorem node_stop_reason_full : StopReason jsonHost fullProgram sampleNodes 0
    (.action "Gateway" (.stateOverflow "Gateway" "n")) :=
  have loaded : loadProgram jsonHost fullSource = .ok fullProgram := by decide +kernel
  have stopped : ((Cluster.turns jsonHost fullProgram sampleNodes [0, 0]).process 0).stopError =
      some (.action "Gateway" (.stateOverflow "Gateway" "n")) := by decide +kernel
  node_stop_reason jsonHost_lawful loaded sampleNodes_distinct (reachable_turns [0, 0]) stopped

end Stops

end UcoStack.System
