import Mathlib.Logic.Relation
import UcoStack.System.Cluster

/-!
# Cores that exchange messages

The abstract view of a cluster: one core for each node, one elementary operation
at a time, and a network that may hand over any envelope of a produced message
that is addressed to the node, as often as it likes.  Every cluster, also one with
failed nodes, is simulated by this system; what holds of all its states holds of
the cores of a cluster.
-/

namespace UcoStack.System

open UcoStack.Runtime StateRun

section Exchange

variable {ι V : Type}

/-- The envelope belongs to a produced message and is addressed to the node. -/
def Flying (cores : ι → Core V) (nodeId : NodeId) (env : WireEnvelope V) : Prop :=
  env.toNode = nodeId ∧ ∃ j, ∃ made ∈ (cores j).history, made.envelope = some env

/-- Nothing that was produced is forgotten. -/
def Grows (cores cores' : ι → Core V) : Prop := ∀ j, (cores j).history ⊆ (cores' j).history

theorem Flying.mono {cores cores' : ι → Core V} (grows : Grows cores cores') {nodeId : NodeId}
    {env : WireEnvelope V} (flying : Flying cores nodeId env) : Flying cores' nodeId env := by
  obtain ⟨addressed, j, made, produced, envelope⟩ := flying
  exact ⟨addressed, j, made, grows j produced, envelope⟩

variable [DecidableEq ι]

inductive ExchangeOp (host : Host V) (sites : ι → Site) (entries : ι → ActorId) :
    (ι → Core V) → (ι → Core V) → Prop where
  | act {cores : ι → Core V} (i : ι) {kinds : List (EventKind V)} {next : Core V}
      (op : CoreOp host (sites i) (Flying cores (sites i).nodeId) (entries i) (cores i) kinds next) :
      ExchangeOp host sites entries cores (Function.update cores i next)

variable {host : Host V} {sites : ι → Site} {entries : ι → ActorId} {Wire : WireEnvelope V → Prop}

theorem grows_update {cores : ι → Core V} {i : ι} {next : Core V}
    (longer : (cores i).history ⊆ next.history) : Grows cores (Function.update cores i next) := by
  intro j
  by_cases same : j = i
  · subst same
    rw [Function.update_self]
    exact longer
  · rw [Function.update_of_ne same]
    exact List.Subset.refl _

/-- A run of one node on envelopes that fly at its start. -/
theorem exchange_of_run {i : ι} {core final : Core V} {kinds : List (EventKind V)}
    (run : Run (CoreOp host (sites i) Wire (entries i)) core kinds final) {cores : ι → Core V}
    (here : cores i = core) (flying : ∀ env, Wire env → Flying cores (sites i).nodeId env) :
    Relation.ReflTransGen (ExchangeOp host sites entries) cores
      (Function.update cores i final) := by
  induction run generalizing cores with
  | refl core =>
      subst here
      rw [Function.update_eq_self]
  | @head core middle final first rest op run ih =>
      subst here
      have acts : ExchangeOp host sites entries cores (Function.update cores i middle) :=
        .act i (op.mono flying)
      have later := ih (Function.update_self i middle cores) fun env arrived =>
        (flying env arrived).mono (grows_update op.history_subset)
      rw [Function.update_idem] at later
      exact .head acts later

/-- The invariant rule: it is enough to look at one operation. -/
theorem exchange_invariant {Inv : (ι → Core V) → Prop} {cores cores' : ι → Core V}
    (run : Relation.ReflTransGen (ExchangeOp host sites entries) cores cores')
    (keeps : ∀ cores i kinds next, Inv cores →
      CoreOp host (sites i) (Flying cores (sites i).nodeId) (entries i) (cores i) kinds next →
        Inv (Function.update cores i next))
    (start : Inv cores) : Inv cores' := by
  induction run with
  | refl => exact start
  | tail _ step ih =>
      cases step with
      | act i op => exact keeps _ i _ _ ih op

end Exchange

/-! ## The simulation -/

section Simulation

variable {ι V : Type} [DecidableEq ι] [DecidableEq V] {host : Host V} {program : Program}
  {cfgs : ι → Config} {c c' : Cluster ι V}

/-- What `launch` gives; without an entry service nothing is ever run. -/
def launchOf (host : Host V) (program : Program) (cfg : Config) : Launch V :=
  match launch host program cfg with
  | .ok launched => launched
  | .error _ => ⟨⟨program, ∅, cfg.nodeId, cfg.peers⟩, "", ∅⟩

omit [DecidableEq V] in
theorem launchOf_eq {cfg : Config} {launched : Launch V}
    (launches : launch host program cfg = .ok launched) :
    launchOf host program cfg = launched := by
  unfold launchOf
  rw [launches]

def sitesOf (host : Host V) (program : Program) (cfgs : ι → Config) (i : ι) : Site :=
  (launchOf host program (cfgs i)).site

def entriesOf (host : Host V) (program : Program) (cfgs : ι → Config) (i : ι) : ActorId :=
  (launchOf host program (cfgs i)).entryActor

omit [DecidableEq ι] [DecidableEq V] in
theorem sitesOf_eq (host : Host V) (program : Program) (cfgs : ι → Config) (i : ι) :
    (sitesOf host program cfgs i).program = program ∧
      (sitesOf host program cfgs i).nodeId = (cfgs i).nodeId := by
  unfold sitesOf launchOf
  cases launches : launch host program (cfgs i) with
  | ok launched =>
      have ready := launch_launched launches
      exact ⟨ready.program_eq, ready.nodeId_eq⟩
  | error error => exact ⟨rfl, rfl⟩

/-- The cores before startup. -/
def startCores (host : Host V) (program : Program) (cfgs : ι → Config) (i : ι) : Core V :=
  .initial (launchOf host program (cfgs i)).actors

/-- A process between two iterations has a core of its program, and holds back only
envelopes that have arrived. -/
theorem RanTo.ready {cfg : Config} {launched : Launch V} {arrived : List (WireEnvelope V)}
    {step : Nat} {st : MainState V} (accepted : Accepted host program)
    (launches : launch host program cfg = .ok launched)
    (ran : RanTo host cfg launched arrived step st) :
    st.core.Hosts host launched.site.program ∧ st.Holds (· ∈ arrived) := by
  obtain ⟨inbound, rfl, recorded⟩ := ran.record launches
  obtain ⟨recording⟩ := record_ok (fun _ member => member) recorded
  obtain rfl : recording.launched = launched :=
    Except.ok.inj (recording.launches.symm.trans launches)
  constructor
  · exact CoreRun.hosts (recording.ops accepted) recording.hosts
  · refine recording.loop.holds ?_ fun _ member => member
    exact fun _ member => absurd member List.not_mem_nil

omit [DecidableEq V] in
theorem startState_core (host : Host V) (program : Program) (cfg : Config) :
    (Process.launch host program cfg).core = .initial (launchOf host program cfg).actors := by
  unfold Process.launch launchOf
  cases launch host program cfg with
  | ok launched => rfl
  | error error => rfl

/-- Every envelope on the network belongs to a produced message. -/
def Cluster.Backed (c : Cluster ι V) : Prop :=
  ∀ env ∈ c.sent, ∃ j, ∃ made ∈ (c.core j).history, made.envelope = some env

omit [DecidableEq ι] [DecidableEq V] in
theorem Cluster.Backed.flying (backed : c.Backed) {nodeId : NodeId} {env : WireEnvelope V}
    (sent : env ∈ c.sent) (addressed : env.toNode = nodeId) : Flying c.core nodeId env :=
  ⟨addressed, backed env sent⟩

/-- A step of a cluster advances the state of one process. -/
theorem Reachable.advances (accepted : Accepted host program)
    (reached : Reachable host program cfgs c) (backed : c.Backed)
    (step : ClusterStep host cfgs c c') :
    ∃ i next batch, c' = c.advance i next batch ∧
      Advances host (sitesOf host program cfgs i) (Flying c.core (cfgs i).nodeId)
        (entriesOf host program cfgs i) (c.process i).state next.state := by
  cases step with
  | start i launched st starting =>
      refine ⟨i, _, [], rfl, ?_⟩
      have ok := reached.process_ok i
      rw [starting] at ok ⊢
      have same := launchOf_eq ok.1
      unfold sitesOf entriesOf
      rw [same, Process.state_after]
      exact startup_advances launched (cfgs i) st
  | iterate i launched position st running unfinished batch addressed once =>
      refine ⟨i, _, batch, rfl, ?_⟩
      have ok := reached.process_ok i
      rw [running] at ok ⊢
      obtain ⟨launches, _, past⟩ := ok
      obtain ⟨hosts, holds⟩ := past.ready accepted launches
      have ready := launch_launched launches
      unfold sitesOf entriesOf
      rw [launchOf_eq launches, Process.state_after]
      refine recordStep_advances ?_ hosts ?_ ?_
      · rw [ready.program_eq]
        exact accepted
      · intro env held
        have arrived := holds env held
        exact backed.flying ((reached.arrived_once i).subset arrived)
          (reached.arrived_addressed i env arrived)
      · intro env own
        have member := (List.mem_filter.mp own).1
        exact backed.flying (once.subset (List.mem_append_right _ member)) (addressed env member)

omit [DecidableEq V] in
theorem Cluster.advance_core (c : Cluster ι V) (i : ι) (next : Process V)
    (batch : List (WireEnvelope V)) :
    (c.advance i next batch).core = Function.update c.core i next.core := by
  funext j
  unfold Cluster.core
  by_cases same : j = i
  · subst same
    rw [advance_process_self, Function.update_self]
  · rw [advance_process_of_ne c same, Function.update_of_ne same]

/-- The cores of a cluster are reached by exchanging messages. -/
structure Simulated (host : Host V) (program : Program) (cfgs : ι → Config) (c : Cluster ι V) :
    Prop where
  cores : Relation.ReflTransGen
    (ExchangeOp host (sitesOf host program cfgs) (entriesOf host program cfgs))
    (startCores host program cfgs) c.core
  backed : c.Backed

theorem Reachable.simulated (accepted : Accepted host program)
    (reached : Reachable host program cfgs c) : Simulated host program cfgs c := by
  induction reached with
  | initial =>
      constructor
      · have same : (Cluster.initial host program cfgs).core = startCores host program cfgs :=
          funext fun i => startState_core host program (cfgs i)
        rw [same]
      · exact fun _ member => absurd member List.not_mem_nil
  | @step c c' reached next ih =>
      obtain ⟨i, after, batch, rfl, advances⟩ := reached.advances accepted ih.backed next
      obtain ⟨kinds, run⟩ := advances.run
      obtain ⟨made, sent, history, outgoing, only⟩ := advances.sends
      have grows : Grows c.core (Function.update c.core i after.core) := by
        apply grows_update
        change (c.process i).state.core.history ⊆ after.state.core.history
        rw [history]
        exact List.subset_append_left _ _
      constructor
      · rw [Cluster.advance_core]
        refine ih.cores.trans (exchange_of_run run rfl fun env flying => ?_)
        rwa [(sitesOf_eq host program cfgs i).2]
      · intro env member
        rw [Cluster.advance_core]
        rcases List.mem_append.mp member with old | new
        · obtain ⟨j, message, produced, envelope⟩ := ih.backed env old
          exact ⟨j, message, grows j produced, envelope⟩
        · rw [outgoing, List.drop_left] at new
          obtain ⟨message, produced, envelope⟩ := List.mem_filterMap.mp (only.subset new)
          refine ⟨i, message, ?_, envelope⟩
          rw [Function.update_self]
          change message ∈ after.state.core.history
          rw [history]
          exact List.mem_append_right _ produced

end Simulation

end UcoStack.System
