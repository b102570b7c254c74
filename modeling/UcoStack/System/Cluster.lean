import Mathlib.Data.List.Perm.Subperm
import UcoStack.Runtime.Outcome
import UcoStack.Runtime.Trace

/-!
# A cluster of recording nodes

Nodes that run the same program and a network between them.  One step lets one
node start up or take one iteration of its loop.  An iteration takes everything
it reads from the network before it sends anything, so interleaving whole
iterations loses no behaviour.  The network keeps every envelope that was handed
to it and lets each arrive at most once, at the node it is addressed to, in any
order and after any time.
-/

namespace UcoStack.System

open UcoStack.Runtime StateRun

/-! ## Processes -/

section Processes

variable {V : Type}

/-- A node after its launch, between two iterations of its loop, or stopped by an
error. -/
inductive Process (V : Type) where
  | starting (launched : Launch V) (st : MainState V)
  | running (launched : Launch V) (step : Nat) (st : MainState V)
  | failed (error : RunError V) (st : MainState V)

namespace Process

def state : Process V → MainState V
  | .starting _ st => st
  | .running _ _ st => st
  | .failed _ st => st

def core (process : Process V) : Core V := process.state.core

/-- The process that continues at `step` unless the computation failed. -/
def after (launched : Launch V) (step : Nat) :
    EStateM.Result (RunError V) (MainState V) Unit → Process V
  | .ok _ st => .running launched step st
  | .error error st => .failed error st

@[simp] theorem state_after (launched : Launch V) (step : Nat)
    (r : EStateM.Result (RunError V) (MainState V) Unit) :
    (after launched step r).state = finalState r := by
  cases r with
  | ok a st => rfl
  | error error st => rfl

def launch (host : Host V) (program : Program) (cfg : Config) : Process V :=
  match Runtime.launch host program cfg with
  | .ok launched => .starting launched (.initial .record cfg launched.actors [])
  | .error error => .failed error (.initial .record cfg ∅ [])

end Process

end Processes

/-! ## Clusters -/

structure Cluster (ι V : Type) where
  process : ι → Process V
  /-- The envelopes handed to the network so far. -/
  sent : List (WireEnvelope V)
  /-- The envelopes that have arrived at each node. -/
  arrived : ι → List (WireEnvelope V)

section Clusters

variable {ι V : Type}

def Cluster.initial (host : Host V) (program : Program) (cfgs : ι → Config) : Cluster ι V :=
  { process := fun i => .launch host program (cfgs i)
    sent := []
    arrived := fun _ => [] }

def Cluster.core (c : Cluster ι V) (i : ι) : Core V := (c.process i).core

variable [DecidableEq ι]

/-- Node `i` took `batch` from the network and became `next`; what it sent in
between is on the network now. -/
def Cluster.advance (c : Cluster ι V) (i : ι) (next : Process V)
    (batch : List (WireEnvelope V)) : Cluster ι V :=
  { process := Function.update c.process i next
    sent := c.sent ++ next.state.sent.drop (c.process i).state.sent.length
    arrived := Function.update c.arrived i (c.arrived i ++ batch) }

@[simp] theorem Cluster.advance_process_self (c : Cluster ι V) (i : ι) (next : Process V)
    (batch : List (WireEnvelope V)) : (c.advance i next batch).process i = next := by
  simp [advance]

@[simp] theorem Cluster.advance_arrived_self (c : Cluster ι V) (i : ι) (next : Process V)
    (batch : List (WireEnvelope V)) :
    (c.advance i next batch).arrived i = c.arrived i ++ batch := by
  simp [advance]

theorem Cluster.advance_process_of_ne (c : Cluster ι V) {i j : ι} (other : j ≠ i)
    (next : Process V) (batch : List (WireEnvelope V)) :
    (c.advance i next batch).process j = c.process j := by
  simp [advance, other]

theorem Cluster.advance_arrived_of_ne (c : Cluster ι V) {i j : ι} (other : j ≠ i)
    (next : Process V) (batch : List (WireEnvelope V)) :
    (c.advance i next batch).arrived j = c.arrived j := by
  simp [advance, other]

variable [DecidableEq V] (host : Host V) (program : Program) (cfgs : ι → Config)

inductive ClusterStep : Cluster ι V → Cluster ι V → Prop where
  | start {c : Cluster ι V} (i : ι) (launched : Launch V) (st : MainState V)
      (starting : c.process i = .starting launched st) :
      ClusterStep c (c.advance i (.after launched 0
        (startup host launched.site .record (cfgs i) launched.entryService st)) [])
  | iterate {c : Cluster ι V} (i : ι) (launched : Launch V) (step : Nat) (st : MainState V)
      (running : c.process i = .running launched step st) (unfinished : step < (cfgs i).steps)
      (batch : List (WireEnvelope V)) (addressed : ∀ env ∈ batch, env.toNode = (cfgs i).nodeId)
      (once : (c.arrived i ++ batch).Subperm c.sent) :
      ClusterStep c (c.advance i (.after launched (step + 1)
        (recordStep host launched.site step batch st)) batch)

/-- The states a closed cluster can get into. -/
inductive Reachable : Cluster ι V → Prop where
  | initial : Reachable (.initial host program cfgs)
  | step {c c' : Cluster ι V} (reached : Reachable c)
      (next : ClusterStep host cfgs c c') : Reachable c'

/-- The run of node `i` ended without error in `st`. -/
def Cluster.Finished (c : Cluster ι V) (i : ι) (st : MainState V) : Prop :=
  ∃ launched, c.process i = .running launched (cfgs i).steps st

end Clusters

/-! ## Processes are runs in record mode -/

section Runs

variable {V : Type} [DecidableEq V] {host : Host V}

theorem recordLoop_congr {site : Site} {inbound other : Nat → List (WireEnvelope V)}
    {step count : Nat} (same : ∀ index, step ≤ index → index < step + count →
      inbound index = other index) :
    recordLoop host site inbound step count = recordLoop host site other step count := by
  induction count generalizing step with
  | zero => rfl
  | succ count ih =>
      have later := @ih (step + 1) fun index above below => same index (by omega) (by omega)
      rw [recordLoop, recordLoop, same step (Nat.le_refl _) (by omega), later]

/-- A loop may be cut before its last iteration. -/
theorem recordLoop_snoc (site : Site) (inbound : Nat → List (WireEnvelope V))
    (step count : Nat) :
    recordLoop host site inbound step (count + 1) =
      (recordLoop host site inbound step count >>= fun _ =>
        recordStep host site (step + count) (inbound (step + count))) := by
  induction count generalizing step with
  | zero =>
      funext s
      rw [recordLoop, recordLoop, bind_apply]
      change _ = recordStep host site step (inbound step) s
      cases ran : recordStep host site step (inbound step) s with
      | ok a m => rfl
      | error error m => rfl
  | succ count ih =>
      have position : step + 1 + count = step + (count + 1) := by omega
      rw [recordLoop, ih (step + 1), recordLoop, position]
      funext s
      rw [bind_apply, bind_apply, bind_apply]
      cases recordStep host site step (inbound step) s with
      | ok a m => rfl
      | error error m => rfl

omit [DecidableEq V] in
theorem arrivals_snoc (nodeId : NodeId) (inbound : Nat → List (WireEnvelope V)) (count : Nat) :
    arrivals nodeId inbound 0 (count + 1) =
      arrivals nodeId inbound 0 count ++ ownEnvelopes nodeId (inbound count) := by
  unfold arrivals
  rw [List.range'_concat, List.flatMap_append]
  simp

omit [DecidableEq V] in
theorem arrivals_congr {nodeId : NodeId} {inbound other : Nat → List (WireEnvelope V)}
    {count : Nat} (same : ∀ index < count, inbound index = other index) :
    arrivals nodeId inbound 0 count = arrivals nodeId other 0 count := by
  unfold arrivals
  refine List.flatMap_congr fun index member => ?_
  rw [same index (by simpa using member)]

/-- The first `step` iterations of a run in record mode, on what has arrived. -/
def RanTo (host : Host V) (cfg : Config) (launched : Launch V)
    (arrived : List (WireEnvelope V)) (step : Nat) (st : MainState V) : Prop :=
  ∃ inbound, arrivals cfg.nodeId inbound 0 step = arrived ∧
    (startup host launched.site .record cfg launched.entryService >>= fun _ =>
      recordLoop host launched.site inbound 0 step)
      (.initial .record cfg launched.actors []) = .ok () st

theorem RanTo.start {cfg : Config} {launched : Launch V} {st : MainState V}
    (ran : startup host launched.site .record cfg launched.entryService
      (.initial .record cfg launched.actors []) = .ok () st) :
    RanTo host cfg launched [] 0 st :=
  ⟨fun _ => [], rfl, bind_ok.mpr ⟨(), st, ran, rfl⟩⟩

theorem RanTo.step {cfg : Config} {launched : Launch V} {arrived batch : List (WireEnvelope V)}
    {step : Nat} {st st' : MainState V} (before : RanTo host cfg launched arrived step st)
    (addressed : ∀ env ∈ batch, env.toNode = cfg.nodeId)
    (ran : recordStep host launched.site step batch st = .ok () st') :
    RanTo host cfg launched (arrived ++ batch) (step + 1) st' := by
  obtain ⟨inbound, rfl, past⟩ := before
  obtain ⟨_, m, starting, looping⟩ := bind_ok.mp past
  let next : Nat → List (WireEnvelope V) := fun index =>
    if index = step then batch else inbound index
  have early (index : Nat) (below : index < step) : inbound index = next index :=
    (if_neg (Nat.ne_of_lt below)).symm
  have last : next step = batch := if_pos rfl
  refine ⟨next, ?_, bind_ok.mpr ⟨(), m, starting, ?_⟩⟩
  · have own : ownEnvelopes cfg.nodeId batch = batch :=
      List.filter_eq_self.mpr fun env member => decide_eq_true (addressed env member)
    rw [arrivals_snoc, ← arrivals_congr early, last, own]
  · rw [recordLoop_snoc, Nat.zero_add, last,
      ← recordLoop_congr fun index _ below => early index (by omega)]
    exact bind_ok.mpr ⟨(), st, looping, ran⟩

/-- A node is at `step` of its loop when a recording of that many steps ends there. -/
theorem RanTo.record {program : Program} {cfg : Config} {launched : Launch V}
    {arrived : List (WireEnvelope V)} {step : Nat} {st : MainState V}
    (launches : launch host program cfg = .ok launched)
    (ran : RanTo host cfg launched arrived step st) :
    ∃ inbound, arrivals cfg.nodeId inbound 0 step = arrived ∧
      record host program { cfg with steps := step } inbound = .ok () st := by
  obtain ⟨inbound, arrivals, ran⟩ := ran
  have same : launch host program { cfg with steps := step } = .ok launched := launches
  refine ⟨inbound, arrivals, ?_⟩
  unfold Runtime.record
  rw [same]
  exact ran

/-- What is known of a process at every time. -/
def Process.Ok (host : Host V) (program : Program) (cfg : Config)
    (arrived : List (WireEnvelope V)) : Process V → Prop
  | .starting launched st => Runtime.launch host program cfg = .ok launched ∧ arrived = [] ∧
      st = .initial .record cfg launched.actors []
  | .running launched step st => Runtime.launch host program cfg = .ok launched ∧
      step ≤ cfg.steps ∧ RanTo host cfg launched arrived step st
  | .failed _ _ => True

theorem Process.launch_ok (host : Host V) (program : Program) (cfg : Config) :
    (Process.launch host program cfg).Ok host program cfg [] := by
  unfold Process.launch
  cases launches : Runtime.launch host program cfg with
  | ok launched => exact ⟨launches, rfl, rfl⟩
  | error error => trivial

end Runs

/-! ## Invariants of the network -/

section Network

variable {ι V : Type} [DecidableEq ι] [DecidableEq V] {host : Host V} {program : Program}
  {cfgs : ι → Config} {c c' : Cluster ι V}

/-- A step moves one node, which takes a batch from the network. -/
theorem ClusterStep.moves (program : Program) (step : ClusterStep host cfgs c c') :
    ∃ i next batch, c' = c.advance i next batch ∧
      (∀ env ∈ batch, env.toNode = (cfgs i).nodeId) ∧
      ((c.arrived i).Subperm c.sent → (c.arrived i ++ batch).Subperm c.sent) ∧
      ((c.process i).Ok host program (cfgs i) (c.arrived i) →
        next.Ok host program (cfgs i) (c.arrived i ++ batch)) := by
  cases step with
  | start i launched st starting =>
      refine ⟨i, _, [], rfl, fun _ member => absurd member List.not_mem_nil, ?_, ?_⟩
      · rw [List.append_nil]
        exact id
      · intro ok
        rw [starting] at ok
        obtain ⟨launches, nothing, rfl⟩ := ok
        rw [nothing, List.append_nil]
        cases ran : startup host launched.site .record (cfgs i) launched.entryService
            (.initial .record (cfgs i) launched.actors []) with
        | ok _ st => exact ⟨launches, Nat.zero_le _, .start ran⟩
        | error error st => trivial
  | iterate i launched position st running unfinished batch addressed once =>
      refine ⟨i, _, batch, rfl, addressed, fun _ => once, ?_⟩
      intro ok
      rw [running] at ok
      obtain ⟨launches, _, past⟩ := ok
      cases ran : recordStep host launched.site position batch st with
      | ok _ st' => exact ⟨launches, unfinished, past.step addressed ran⟩
      | error error st' => trivial

theorem Reachable.process_ok (reached : Reachable host program cfgs c) (i : ι) :
    (c.process i).Ok host program (cfgs i) (c.arrived i) := by
  induction reached with
  | initial => exact Process.launch_ok host program (cfgs i)
  | step reached next ih =>
      obtain ⟨j, after, batch, rfl, _, _, kept⟩ := next.moves program
      by_cases same : i = j
      · subst same
        rw [Cluster.advance_process_self, Cluster.advance_arrived_self]
        exact kept ih
      · rw [Cluster.advance_process_of_ne _ same, Cluster.advance_arrived_of_ne _ same]
        exact ih

theorem Reachable.arrived_addressed (reached : Reachable host program cfgs c) (i : ι) :
    ∀ env ∈ c.arrived i, env.toNode = (cfgs i).nodeId := by
  induction reached with
  | initial => exact fun _ member => absurd member List.not_mem_nil
  | step reached next ih =>
      obtain ⟨j, after, batch, rfl, addressed, _, _⟩ := next.moves program
      by_cases same : i = j
      · subst same
        rw [Cluster.advance_arrived_self]
        exact fun env member => (List.mem_append.mp member).elim (ih env) (addressed env)
      · rw [Cluster.advance_arrived_of_ne _ same]
        exact ih

/-- No envelope arrives twice. -/
theorem Reachable.arrived_once (reached : Reachable host program cfgs c) (i : ι) :
    (c.arrived i).Subperm c.sent := by
  induction reached with
  | initial => exact List.nil_subperm
  | step reached next ih =>
      obtain ⟨j, after, batch, rfl, _, once, _⟩ := next.moves program
      have longer : ∀ {envs : List (WireEnvelope V)} {c : Cluster ι V}, envs.Subperm c.sent →
          envs.Subperm (c.advance j after batch).sent := fun inside =>
        inside.trans (List.sublist_append_left _ _).subperm
      by_cases same : i = j
      · subst same
        rw [Cluster.advance_arrived_self]
        exact longer (once ih)
      · rw [Cluster.advance_arrived_of_ne _ same]
        exact longer ih

end Network

/-! ## A schedule that can be run -/

section Eager

variable {ι V : Type} [DecidableEq ι] [DecidableEq V] (host : Host V) (program : Program)
  (cfgs : ι → Config)

/-- The envelopes for node `i` that have not arrived. -/
def Cluster.outstanding (c : Cluster ι V) (i : ι) : List (WireEnvelope V) :=
  (ownEnvelopes (cfgs i).nodeId c.sent).diff (c.arrived i)

/-- Node `i` takes its next step, in which everything outstanding arrives. -/
def Cluster.turn (c : Cluster ι V) (i : ι) : Cluster ι V :=
  match c.process i with
  | .starting launched st =>
      c.advance i (.after launched 0
        (startup host launched.site .record (cfgs i) launched.entryService st)) []
  | .running launched step st =>
      if step < (cfgs i).steps then
        c.advance i (.after launched (step + 1)
          (recordStep host launched.site step (c.outstanding cfgs i) st)) (c.outstanding cfgs i)
      else c
  | .failed _ _ => c

def Cluster.turns (order : List ι) : Cluster ι V :=
  order.foldl (Cluster.turn host cfgs) (.initial host program cfgs)

variable {host program cfgs} {c : Cluster ι V}

theorem Reachable.outstanding_once (reached : Reachable host program cfgs c) (i : ι) :
    (c.arrived i ++ c.outstanding cfgs i).Subperm c.sent := by
  have own : ownEnvelopes (cfgs i).nodeId (c.arrived i) = c.arrived i :=
    List.filter_eq_self.mpr fun env member =>
      decide_eq_true (reached.arrived_addressed i env member)
  have inside : (c.arrived i).Subperm (ownEnvelopes (cfgs i).nodeId c.sent) := by
    rw [← own]
    exact (reached.arrived_once i).filter _
  have whole := List.subperm_append_diff_self_of_count_le (List.subperm_ext_iff.mp inside)
  exact whole.subperm.trans List.filter_sublist.subperm

theorem Reachable.turn (reached : Reachable host program cfgs c) (i : ι) :
    Reachable host program cfgs (c.turn host cfgs i) := by
  unfold Cluster.turn
  cases now : c.process i with
  | starting launched st => exact reached.step (.start i launched st now)
  | running launched step st =>
      by_cases unfinished : step < (cfgs i).steps
      · simp only [if_pos unfinished]
        refine reached.step (.iterate i launched step st now unfinished _ ?_
          (reached.outstanding_once i))
        intro env member
        exact of_decide_eq_true (List.mem_filter.mp (List.diff_subset _ _ member)).2
      · simp only [if_neg unfinished]
        exact reached
  | failed error st => exact reached

theorem reachable_turns (order : List ι) :
    Reachable host program cfgs (.turns host program cfgs order) := by
  have all : ∀ c : Cluster ι V, Reachable host program cfgs c →
      Reachable host program cfgs (order.foldl (Cluster.turn host cfgs) c) := by
    induction order with
    | nil => exact fun c reached => reached
    | cons i rest ih => exact fun c reached => ih _ (reached.turn i)
  exact all _ .initial

end Eager

/-- Two nodes that know each other. -/
def sampleNodes (i : Fin 2) : Config :=
  { nodeId := if i = 0 then 7 else 9
    peers := if i = 0 then AList.insert 9 "b" ∅ else AList.insert 7 "a" ∅
    bootstrapHello := false
    bootstrapBurst := 1
    steps := 4
    fault := .default }

theorem sampleNodes_distinct : Function.Injective fun i => (sampleNodes i).nodeId := by
  decide

def samplePair (order : List (Fin 2)) : Cluster (Fin 2) JsonDoc :=
  .turns jsonHost sampleProgram sampleNodes order

theorem samplePair_reachable (order : List (Fin 2)) :
    Reachable jsonHost sampleProgram sampleNodes (samplePair order) :=
  reachable_turns order

end UcoStack.System
