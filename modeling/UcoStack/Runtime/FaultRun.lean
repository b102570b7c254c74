import UcoStack.Runtime.Injector
import UcoStack.Runtime.Recording

/-!
# The fault injector over a whole run

Every envelope for the node is numbered in the order of arrival.  Its number, the
step and the configuration decide whether it is dropped, and the configuration
decides where in the queue it waits and from which step on it may leave.
-/

namespace UcoStack.Runtime

open StateRun Chunks

/-! ## Arrivals -/

/-- An envelope for the node, the step in which it arrived and its number among all
arrivals, from one on. -/
structure Arrival (V : Type) where
  index : Nat
  step : Nat
  env : WireEnvelope V
  deriving DecidableEq

namespace Arrival

variable {V : Type} (cfg : FaultConfig) (arrival : Arrival V)

def Dropped : Prop :=
  ∃ dropEvery, (cfg.policyForStep arrival.step).dropEvery = some dropEvery ∧
    dropEvery ∣ arrival.index

instance : DecidablePred (Dropped (V := V) cfg) := fun arrival =>
  match h : (cfg.policyForStep arrival.step).dropEvery with
  | none => .isFalse (by rintro ⟨dropEvery, same, _⟩; rw [h] at same; cases same)
  | some dropEvery =>
      decidable_of_iff (dropEvery ∣ arrival.index) (by simp [Dropped, h])

def releaseStep : Nat := saturatingAdd arrival.step (cfg.policyForStep arrival.step).delaySteps

def staged : StagedInbound V := ⟨arrival.env, arrival.releaseStep cfg⟩

end Arrival

section Numbering

variable {V : Type}

def number (step first : Nat) : List (WireEnvelope V) → List (Arrival V)
  | [] => []
  | env :: rest => ⟨first, step, env⟩ :: number step (first + 1) rest

theorem number_env (step first : Nat) (envs : List (WireEnvelope V)) :
    (number step first envs).map Arrival.env = envs := by
  induction envs generalizing first with
  | nil => rfl
  | cons env rest ih => rw [number, List.map_cons, ih]

theorem number_index (step first : Nat) (envs : List (WireEnvelope V)) :
    (number step first envs).map Arrival.index = List.range' first envs.length := by
  induction envs generalizing first with
  | nil => rfl
  | cons env rest ih => rw [number, List.map_cons, ih, List.length_cons, List.range'_succ]

theorem step_of_mem_number {step first : Nat} {envs : List (WireEnvelope V)} {arrival : Arrival V}
    (member : arrival ∈ number step first envs) : arrival.step = step := by
  induction envs generalizing first with
  | nil => exact absurd member List.not_mem_nil
  | cons env rest ih =>
      rcases List.mem_cons.mp member with rfl | later
      · rfl
      · exact ih later

end Numbering

section Losses

variable {V : Type} (cfg : FaultConfig)

def droppedOf (arrived : List (Arrival V)) : List (Arrival V) :=
  arrived.filter fun arrival => arrival.Dropped cfg

def survivorsOf (arrived : List (Arrival V)) : List (Arrival V) :=
  arrived.filter fun arrival => ¬arrival.Dropped cfg

variable {cfg} {arrival : Arrival V} (rest : List (Arrival V))

theorem droppedOf_cons_of_dropped (dropped : arrival.Dropped cfg) :
    droppedOf cfg (arrival :: rest) = arrival :: droppedOf cfg rest :=
  List.filter_cons_of_pos (by simpa using dropped)

theorem droppedOf_cons_of_survives (survives : ¬arrival.Dropped cfg) :
    droppedOf cfg (arrival :: rest) = droppedOf cfg rest :=
  List.filter_cons_of_neg (by simpa using survives)

theorem survivorsOf_cons_of_dropped (dropped : arrival.Dropped cfg) :
    survivorsOf cfg (arrival :: rest) = survivorsOf cfg rest :=
  List.filter_cons_of_neg (by simpa using dropped)

theorem survivorsOf_cons_of_survives (survives : ¬arrival.Dropped cfg) :
    survivorsOf cfg (arrival :: rest) = arrival :: survivorsOf cfg rest :=
  List.filter_cons_of_pos (by simpa using survives)

end Losses

/-! ## One drain -/

section Drains

variable {V : Type} {cfg : FaultConfig} {nodeId : NodeId} {step count : Nat}
  {base : List (StagedInbound V)} {survivors : List (Arrival V)} {s s' : MainState V}

/-- In the middle of a drain `survivors` were staged behind `base`, after `count`
arrivals of the run. -/
structure Staging (cfg : FaultConfig) (step : Nat) (base : List (StagedInbound V)) (count : Nat)
    (survivors : List (Arrival V)) (injector : FaultInjector V) : Prop where
  synced : injector.Synced cfg step
  seen : injector.seenInbound = count
  buffers : ∃ buffer out,
    Chunked (max (cfg.policyForStep step).reorderWindow 1) survivors buffer out ∧
      injector.reorderBuf = buffer.map (Arrival.staged cfg) ∧
      injector.pending = base ++ out.map (Arrival.staged cfg)

theorem Staging.fits {injector : FaultInjector V}
    (staging : Staging cfg step base count survivors injector) :
    injector.reorderBuf.length < max injector.activePolicy.reorderWindow 1 := by
  obtain ⟨buffer, out, chunked, same, _⟩ := staging.buffers
  rw [same, List.length_map, staging.synced.active]
  exact chunked.small

theorem Staging.counted_drops {injector : FaultInjector V} (env : WireEnvelope V)
    (staging : Staging cfg step base count survivors injector) :
    injector.counted.drops = true ↔ Arrival.Dropped cfg ⟨count + 1, step, env⟩ := by
  have active : injector.counted.activePolicy = cfg.policyForStep step := staging.synced.active
  unfold FaultInjector.drops Arrival.Dropped
  rw [active]
  cases (cfg.policyForStep step).dropEvery with
  | none => simp
  | some dropEvery =>
      have same : injector.counted.seenInbound = count + 1 := congrArg (· + 1) staging.seen
      simp only [same, Bool.and_eq_true, decide_eq_true_eq, Option.some.injEq]
      constructor
      · rintro ⟨_, divides⟩
        exact ⟨dropEvery, rfl, Nat.dvd_of_mod_eq_zero divides⟩
      · rintro ⟨_, rfl, divides⟩
        exact ⟨Nat.pos_of_dvd_of_pos divides (Nat.succ_pos count), Nat.mod_eq_zero_of_dvd divides⟩

/-- A survivor enters the buffer. -/
theorem Staging.push {injector : FaultInjector V} (env : WireEnvelope V)
    (staging : Staging cfg step base count survivors injector) :
    Staging cfg step base (count + 1) (survivors ++ [⟨count + 1, step, env⟩])
      (injector.counted.push (injector.entry step env)) := by
  obtain ⟨buffer, out, chunked, inBuffer, inQueue⟩ := staging.buffers
  have entry : injector.entry step env =
      Arrival.staged cfg ⟨count + 1, step, env⟩ := by
    unfold FaultInjector.entry
    rw [staging.synced.active]
    rfl
  have synced := staging.synced
  have window : injector.counted.activePolicy = cfg.policyForStep step := synced.active
  have length : injector.counted.reorderBuf.length = buffer.length := by
    change injector.reorderBuf.length = _
    rw [inBuffer, List.length_map]
  let arrival : Arrival V := ⟨count + 1, step, env⟩
  have filled : injector.counted.reorderBuf ++ [injector.entry step env] =
      (buffer ++ [arrival]).map (Arrival.staged cfg) := by
    change injector.reorderBuf ++ _ = _
    rw [inBuffer, entry, List.map_append]
    rfl
  have small := chunked.small
  unfold FaultInjector.push
  rw [length, window]
  dsimp only
  rw [filled]
  split
  · rename_i waits
    refine ⟨⟨synced.cfg_eq, synced.initialized, rfl⟩, congrArg (· + 1) staging.seen, ?_⟩
    exact ⟨_, out, chunked.wait arrival (by omega), rfl, inQueue⟩
  · rename_i leaves
    refine ⟨⟨synced.cfg_eq, synced.initialized, rfl⟩, congrArg (· + 1) staging.seen, ?_⟩
    refine ⟨[], _, chunked.leave arrival (by omega), rfl, ?_⟩
    change injector.pending ++ ((buffer ++ [arrival]).map (Arrival.staged cfg)).reverse = _
    rw [inQueue, ← List.map_reverse, List.append_assoc, ← List.map_append]

theorem Staging.skip {injector : FaultInjector V}
    (staging : Staging cfg step base count survivors injector) :
    Staging cfg step base (count + 1) survivors injector.counted where
  synced := ⟨staging.synced.cfg_eq, staging.synced.initialized, staging.synced.active⟩
  seen := congrArg (· + 1) staging.seen
  buffers := staging.buffers

theorem ingestAll_wrote {batch : List (WireEnvelope V)}
    (staging : Staging cfg step base count survivors s.injector)
    (ran : (batch.forM fun env =>
      if env.toNode ≠ nodeId then pure () else ingest nodeId step env) s = .ok () s') :
    ∃ kinds injector,
      Wrote nodeId s kinds
        ((droppedOf cfg (number step (count + 1) (ownEnvelopes nodeId batch))).map Arrival.env)
        s' injector ∧
      Staging cfg step base (count + (ownEnvelopes nodeId batch).length)
        (survivors ++ survivorsOf cfg (number step (count + 1) (ownEnvelopes nodeId batch)))
        injector := by
  induction batch generalizing s count survivors with
  | nil =>
      cases ran
      refine ⟨[], s'.injector, .silent nodeId s' s'.injector, ?_⟩
      simpa [ownEnvelopes, number, survivorsOf] using staging
  | cons env rest ih =>
      obtain ⟨_, m, here, later⟩ := bind_ok.mp ran
      dsimp only at here
      split at here
      · rename_i foreign
        cases here
        have skipped : ownEnvelopes nodeId (env :: rest) = ownEnvelopes nodeId rest :=
          List.filter_cons_of_neg (by simpa using foreign)
        rw [skipped]
        exact ih staging later
      · rename_i own
        have taken : ownEnvelopes nodeId (env :: rest) = env :: ownEnvelopes nodeId rest :=
          List.filter_cons_of_pos (by simpa using own)
        have total : count + (env :: ownEnvelopes nodeId rest).length =
            count + 1 + (ownEnvelopes nodeId rest).length := by
          rw [List.length_cons]
          omega
        obtain ⟨first, wrote⟩ := ingest_wrote staging.synced staging.fits here
        rw [taken, number, total]
        by_cases dropped : Arrival.Dropped cfg ⟨count + 1, step, env⟩
        · have drops := (staging.counted_drops env).mpr dropped
          rw [if_pos drops, if_pos drops] at wrote
          have after : Staging cfg step base (count + 1) survivors m.injector := by
            rw [wrote.injector_eq]
            exact staging.skip
          obtain ⟨kinds, injector, others, final⟩ := ih after later
          rw [droppedOf_cons_of_dropped _ dropped, survivorsOf_cons_of_dropped _ dropped]
          exact ⟨_, injector, wrote.trans others, final⟩
        · have survives := mt (staging.counted_drops env).mp dropped
          rw [if_neg survives, if_neg survives] at wrote
          have after : Staging cfg step base (count + 1) (survivors ++ [⟨count + 1, step, env⟩])
              m.injector := by
            rw [wrote.injector_eq]
            exact staging.push env
          obtain ⟨kinds, injector, others, final⟩ := ih after later
          rw [droppedOf_cons_of_survives _ dropped, survivorsOf_cons_of_survives _ dropped]
          rw [List.append_assoc, List.singleton_append] at final
          exact ⟨_, injector, wrote.trans others, final⟩

theorem ingestAll_fails {batch : List (WireEnvelope V)} {error : RunError V}
    (staging : Staging cfg step base count survivors s.injector)
    (ran : (batch.forM fun env =>
      if env.toNode ≠ nodeId then pure () else ingest nodeId step env) s = .error error s') :
    RecordError error := by
  induction batch generalizing s count survivors with
  | nil => cases ran
  | cons env rest ih =>
      rcases bind_error.mp ran with early | ⟨_, m, here, late⟩
      · dsimp only at early
        split at early
        · cases early
        · exact ingest_fails staging.synced staging.fits early
      · dsimp only at here
        split at here
        · cases here
          exact ih staging late
        · obtain ⟨kinds, wrote⟩ := ingest_wrote staging.synced staging.fits here
          have same := wrote.injector_eq
          split at same
          · exact ih (same ▸ staging.skip) late
          · exact ih (same ▸ staging.push env) late

/-- Between two drains nothing is in the buffer. -/
structure Settled (cfg : FaultConfig) (count : Nat) (queue : List (StagedInbound V))
    (injector : FaultInjector V) : Prop where
  cfg_eq : injector.cfg = cfg
  seen : injector.seenInbound = count
  reorderBuf : injector.reorderBuf = []
  pending : injector.pending = queue

theorem Settled.new (cfg : FaultConfig) : Settled cfg 0 ([] : List (StagedInbound V)) (.new cfg) :=
  ⟨rfl, rfl, rfl, rfl⟩

/-- The first synchronization of a drain. -/
theorem Settled.staging {queue : List (StagedInbound V)} {kinds : List (EventKind V)}
    (settled : Settled cfg count queue s.injector)
    (wrote : Wrote nodeId s kinds [] s' (s.injector.synced step)) :
    Staging cfg step queue count [] s'.injector := by
  rw [wrote.injector_eq]
  refine ⟨⟨settled.cfg_eq, rfl, ?_⟩, settled.seen, [], [], .nil (by omega), ?_, ?_⟩
  · change s.injector.cfg.policyForStep step = _
    rw [settled.cfg_eq]
  · exact settled.reorderBuf
  · exact settled.pending.trans (List.append_nil queue).symm

/-- A drain in which `arrived` were ingested and `released` handed on. -/
structure DrainExact (cfg : FaultConfig) (nodeId : NodeId) (arrived : List (Arrival V))
    (s : MainState V) (faults : List (EventKind V)) (released : List (WireEnvelope V))
    (s' : MainState V) : Prop where
  state : s' = ((s.logged (faults ++ released.map WireEnvelope.recvEvent)).setCore
    (s.core.receiveAll released)).setInjector s'.injector
  isFault : ∀ kind ∈ faults, kind.IsFault nodeId
  drops : faults.filter EventKind.isDrop =
    (droppedOf cfg arrived).map fun arrival => faultEvent nodeId arrival.env .drop

/-- The queue once the arrivals of a step have been appended to it. -/
def enqueued (cfg : FaultConfig) (step : Nat) (queue : List (StagedInbound V))
    (arrived : List (Arrival V)) : List (StagedInbound V) :=
  queue ++ (reverseChunks (cfg.policyForStep step).reorderWindow (survivorsOf cfg arrived)).map
    (Arrival.staged cfg)

theorem drainNetwork_exact {batch : List (WireEnvelope V)} {queue : List (StagedInbound V)}
    (settled : Settled cfg count queue s.injector)
    (ran : drainNetwork nodeId step batch s = .ok () s') :
    let arrived := number step (count + 1) (ownEnvelopes nodeId batch)
    let isDue := fun staged : StagedInbound V => decide (staged.releaseStep ≤ step)
    ∃ faults, DrainExact cfg nodeId arrived s faults
        (((enqueued cfg step queue arrived).takeWhile isDue).map StagedInbound.env) s' ∧
      Settled cfg (count + arrived.length) ((enqueued cfg step queue arrived).dropWhile isDue)
        s'.injector := by
  intro arrived isDue
  have length : arrived.length = (ownEnvelopes nodeId batch).length := by
    rw [← number_env step (count + 1) (ownEnvelopes nodeId batch), List.length_map]
  obtain ⟨_, m, syncs, ran⟩ := bind_ok.mp ran
  obtain ⟨_, n, ingests, ran⟩ := bind_ok.mp ran
  obtain ⟨_, p, flushes, ran⟩ := bind_ok.mp ran
  obtain ⟨released, q, releases, ran⟩ := bind_ok.mp ran
  obtain ⟨synced, syncing⟩ := syncPolicy_wrote settled.reorderBuf syncs
  obtain ⟨ingested, injector, ingesting, staging⟩ :=
    ingestAll_wrote (settled.staging syncing) ingests
  rw [← ingesting.injector_eq] at staging
  unfold flushRemainder at flushes
  rw [get_bind] at flushes
  obtain ⟨flushed, flushing⟩ := flushRemainderWithWindow_wrote staging.fits flushes
  have total := (syncing.trans ingesting).trans flushing
  rw [List.nil_append, List.append_nil] at total
  obtain ⟨buffer, out, chunked, inBuffer, inQueue⟩ := staging.buffers
  have pending : p.injector.pending = enqueued cfg step queue arrived := by
    rw [flushing.injector_eq]
    change n.injector.pending ++ n.injector.reorderBuf.reverse = _
    rw [inQueue, inBuffer, ← List.map_reverse, List.append_assoc, ← List.map_append,
      chunked.finish, reverseChunks_max_one]
    rfl
  cases releases
  have final := receiveAll_ok ran
  refine ⟨synced ++ ingested ++ flushed, ⟨?_, total.faults, ?_⟩, ?_⟩
  · rw [final, total.state, ← pending]
    simp [MainState.logged_logged, isDue, total.state]
  · rw [total.drops, List.map_map]
    rfl
  · have injector_eq : s'.injector =
        { p.injector with pending := p.injector.pending.dropWhile isDue } := by
      rw [final]
      rfl
    rw [injector_eq, pending, length, flushing.injector_eq]
    exact ⟨staging.synced.cfg_eq, staging.seen, rfl, rfl⟩

/-- A drain always comes to an end: it fails only when a counter overflows or there is
no trace to write to. -/
theorem drainNetwork_fails {batch : List (WireEnvelope V)} {queue : List (StagedInbound V)}
    {error : RunError V} (settled : Settled cfg count queue s.injector)
    (ran : drainNetwork nodeId step batch s = .error error s') : RecordError error := by
  rcases bind_error.mp ran with early | ⟨_, m, syncs, ran⟩
  · exact syncPolicy_fails step s error s' early
  obtain ⟨_, syncing⟩ := syncPolicy_wrote settled.reorderBuf syncs
  have start := settled.staging syncing
  rcases bind_error.mp ran with early | ⟨_, n, ingests, ran⟩
  · exact ingestAll_fails start early
  rcases bind_error.mp ran with early | ⟨_, p, flushes, ran⟩
  · exact flushRemainderWithWindow_fails _ n error s' early
  rcases bind_error.mp ran with early | ⟨released, q, releases, ran⟩
  · cases early
  · have body (env : WireEnvelope V) : Fails RecordError (receiveEnvelope env) :=
      .bind (recordEvent_fails _) fun _ _ _ _ ran => by cases ran
    exact Fails.forM body q error s' ran

end Drains

/-! ## Samples -/

/-- A node without actors that is about to drain for the first time. -/
def sampleDrain (cfg : FaultConfig) : MainState Nat :=
  { core :=
      { actors := ∅
        msgCounter := 1
        timerCounter := 1
        pendingTimers := []
        history := []
        delivered := []
        timersCreated := 0 }
    seq := 0
    writer := some []
    replay := ⟨[], none⟩
    injector := .new cfg
    sent := [] }

/-- Three envelopes for node 7 in each of the first steps. -/
def sampleArrivals (step : Nat) : List (WireEnvelope Nat) :=
  if step < 3 then [⟨9, 7, 5, 1, step⟩, ⟨9, 7, 5, 2, step⟩, ⟨9, 7, 5, 3, step⟩] else []

/-- Every second envelope is lost, after the first step the others are delayed and
reversed in pairs. -/
def sampleFaults : FaultConfig := ⟨some 2, 0, 1, [⟨1, none, ⟨some 4, 1, 2⟩⟩]⟩

/-- A delay of five steps that ends with the first one. -/
def sampleBlocking : FaultConfig := ⟨none, 0, 1, [⟨0, some 0, ⟨none, 5, 1⟩⟩]⟩

/-! ## Runs -/

section Runs

variable {V : Type} (cfg : FaultConfig) (nodeId : NodeId) (inbound : Nat → List (WireEnvelope V))

/-- The drains of a run at consecutive steps; whatever happens between two of them
leaves the injector alone. -/
structure DrainRun (steps : Nat) (before after : Nat → MainState V) : Prop where
  fresh : (before 0).injector = .new cfg
  drains : ∀ step < steps,
    drainNetwork nodeId step (inbound step) (before step) = .ok () (after step)
  kept : ∀ step, step + 1 < steps → (before (step + 1)).injector = (after step).injector

def arrivedAt (step : Nat) : List (Arrival V) :=
  number step ((arrivals nodeId inbound 0 step).length + 1) (ownEnvelopes nodeId (inbound step))

/-- What is appended to the queue in a step: the survivors, reversed in chunks of the
active window. -/
def queuedAt (step : Nat) : List (Arrival V) :=
  reverseChunks (cfg.policyForStep step).reorderWindow
    (survivorsOf cfg (arrivedAt nodeId inbound step))

/-- What waits in the queue before a step. -/
def waitingBefore : Nat → List (Arrival V) :=
  DelayQueue.waiting (Arrival.releaseStep cfg) (queuedAt cfg nodeId inbound)

def releasedAt : Nat → List (Arrival V) :=
  DelayQueue.released (Arrival.releaseStep cfg) (queuedAt cfg nodeId inbound)

variable {cfg nodeId inbound}

theorem arrivals_length_succ (step : Nat) :
    (arrivals nodeId inbound 0 (step + 1)).length =
      (arrivals nodeId inbound 0 step).length + (arrivedAt nodeId inbound step).length := by
  have length : (arrivedAt nodeId inbound step).length =
      (ownEnvelopes nodeId (inbound step)).length := by
    unfold arrivedAt
    rw [← List.length_map (f := Arrival.env), number_env]
  rw [length]
  unfold arrivals
  rw [List.range'_concat, List.flatMap_append, List.length_append]
  simp

/-- All arrivals of a run are numbered from one on, so no two are the same. -/
theorem arrived_index (steps : Nat) :
    (DelayQueue.queued (arrivedAt nodeId inbound) steps).map Arrival.index =
      List.range' 1 (arrivals nodeId inbound 0 steps).length := by
  induction steps with
  | zero => rfl
  | succ step ih =>
      have here : (arrivedAt nodeId inbound step).map Arrival.index =
          List.range' (1 + 1 * (arrivals nodeId inbound 0 step).length)
            (arrivedAt nodeId inbound step).length := by
        have numbers := number_index step ((arrivals nodeId inbound 0 step).length + 1)
          (ownEnvelopes nodeId (inbound step))
        have length := congrArg List.length numbers
        rw [List.length_map, List.length_range'] at length
        rw [Nat.one_mul, Nat.add_comm]
        unfold arrivedAt
        rw [length]
        exact numbers
      rw [DelayQueue.queued_succ, List.map_append, ih, here, arrivals_length_succ,
        List.range'_append]

/-- Every arrival is dropped or queued. -/
theorem dropped_append_queued (cfg : FaultConfig) (steps : Nat) :
    (DelayQueue.queued (fun step => droppedOf cfg (arrivedAt nodeId inbound step)) steps ++
      DelayQueue.queued (queuedAt cfg nodeId inbound) steps).Perm
        (DelayQueue.queued (arrivedAt nodeId inbound) steps) := by
  have each (step : Nat) : (droppedOf cfg (arrivedAt nodeId inbound step) ++
      queuedAt cfg nodeId inbound step).Perm (arrivedAt nodeId inbound step) := by
    have split := List.filter_append_perm (fun arrival => decide (Arrival.Dropped cfg arrival))
      (arrivedAt nodeId inbound step)
    have negated : survivorsOf cfg (arrivedAt nodeId inbound step) =
        (arrivedAt nodeId inbound step).filter fun arrival => !decide (arrival.Dropped cfg) :=
      List.filter_congr fun arrival _ => decide_not
    rw [← negated] at split
    exact ((reverseChunks_perm _ _).append_left _).trans split
  induction steps with
  | zero => exact .refl _
  | succ step ih =>
      rw [DelayQueue.queued_succ, DelayQueue.queued_succ, DelayQueue.queued_succ]
      refine List.Perm.trans ?_ (ih.append (each step))
      rw [List.append_assoc, List.append_assoc]
      apply List.Perm.append_left _
      rw [← List.append_assoc, ← List.append_assoc]
      exact List.perm_append_comm.append_right _

theorem enqueued_waiting (cfg : FaultConfig) (nodeId : NodeId)
    (inbound : Nat → List (WireEnvelope V)) (step : Nat) :
    enqueued cfg step ((waitingBefore cfg nodeId inbound step).map (Arrival.staged cfg))
        (arrivedAt nodeId inbound step) =
      (waitingBefore cfg nodeId inbound step ++ queuedAt cfg nodeId inbound step).map
        (Arrival.staged cfg) := by
  rw [List.map_append]
  rfl

/-- A drain releases what is due and keeps the rest waiting. -/
theorem drainNetwork_waiting {step : Nat} {s s' : MainState V}
    (settled : Settled cfg (arrivals nodeId inbound 0 step).length
      ((waitingBefore cfg nodeId inbound step).map (Arrival.staged cfg)) s.injector)
    (ran : drainNetwork nodeId step (inbound step) s = .ok () s') :
    (∃ faults, DrainExact cfg nodeId (arrivedAt nodeId inbound step) s faults
      ((releasedAt cfg nodeId inbound step).map Arrival.env) s') ∧
      Settled cfg (arrivals nodeId inbound 0 (step + 1)).length
        ((waitingBefore cfg nodeId inbound (step + 1)).map (Arrival.staged cfg)) s'.injector := by
  obtain ⟨faults, exact, later⟩ := drainNetwork_exact settled ran
  have queue := enqueued_waiting cfg nodeId inbound step
  unfold arrivedAt at queue
  rw [queue, List.takeWhile_map, List.map_map] at exact
  rw [queue, List.dropWhile_map] at later
  rw [arrivals_length_succ]
  exact ⟨⟨faults, exact⟩, later⟩

variable {steps : Nat} {before after : Nat → MainState V}

/-- Before each drain the queue of the injector holds what is waiting. -/
theorem DrainRun.settled (run : DrainRun cfg nodeId inbound steps before after) {step : Nat}
    (reached : step < steps) :
    Settled cfg (arrivals nodeId inbound 0 step).length
      ((waitingBefore cfg nodeId inbound step).map (Arrival.staged cfg)) (before step).injector := by
  induction step with
  | zero =>
      rw [run.fresh]
      exact .new cfg
  | succ step ih =>
      have earlier := ih (by omega)
      rw [run.kept step reached]
      exact (drainNetwork_waiting earlier (run.drains step (by omega))).2

/-- What the injector has done by the end of the drain of a step that takes `s` to `s'`. -/
structure FaultExact (cfg : FaultConfig) (nodeId : NodeId) (inbound : Nat → List (WireEnvelope V))
    (step : Nat) (s s' : MainState V) : Prop where
  /-- One drop fault for each dropped arrival, and the releases in order. -/
  drain : ∃ faults, DrainExact cfg nodeId (arrivedAt nodeId inbound step) s faults
    ((releasedAt cfg nodeId inbound step).map Arrival.env) s'
  reorderBuf : s'.injector.reorderBuf = []
  /-- The queue after the survivors were appended in reversed chunks is what leaves now
  and what stays. -/
  pending : s.injector.pending ++ (queuedAt cfg nodeId inbound step).map (Arrival.staged cfg) =
    (releasedAt cfg nodeId inbound step).map (Arrival.staged cfg) ++ s'.injector.pending
  waiting : s'.injector.pending =
    (waitingBefore cfg nodeId inbound (step + 1)).map (Arrival.staged cfg)
  /-- Releases happen in the order of the queue. -/
  order : DelayQueue.queued (releasedAt cfg nodeId inbound) (step + 1) ++
      waitingBefore cfg nodeId inbound (step + 1) =
    DelayQueue.queued (queuedAt cfg nodeId inbound) (step + 1)
  /-- Every arrival has been dropped or released, or waits. -/
  partition : (DelayQueue.queued (fun step => droppedOf cfg (arrivedAt nodeId inbound step))
      (step + 1) ++ (DelayQueue.queued (releasedAt cfg nodeId inbound) (step + 1) ++
        waitingBefore cfg nodeId inbound (step + 1))).Perm
    (DelayQueue.queued (arrivedAt nodeId inbound) (step + 1))
  /-- The arrivals are told apart by their numbers. -/
  numbered : (DelayQueue.queued (arrivedAt nodeId inbound) (step + 1)).map Arrival.index =
    List.range' 1 (arrivals nodeId inbound 0 (step + 1)).length

/-- The states of a node that does nothing but drain. -/
def drainStates (nodeId : NodeId) (inbound : Nat → List (WireEnvelope V)) (start : MainState V) :
    Nat → MainState V
  | 0 => start
  | step + 1 =>
      finalState (drainNetwork nodeId step (inbound step) (drainStates nodeId inbound start step))

theorem drainStates_run {start : MainState V} (fresh : start.injector = .new cfg)
    (ok : ∀ step < steps, succeeds (drainNetwork nodeId step (inbound step)
      (drainStates nodeId inbound start step)) = true) :
    DrainRun cfg nodeId inbound steps (drainStates nodeId inbound start)
      fun step => drainStates nodeId inbound start (step + 1) where
  fresh := fresh
  drains := fun step reached => ok_finalState (ok step reached)
  kept := fun _ _ => rfl

/-- The exact behaviour of the fault injector over a whole run. -/
theorem drainRun_exact (run : DrainRun cfg nodeId inbound steps before after) (step : Nat)
    (reached : step < steps) : FaultExact cfg nodeId inbound step (before step) (after step) := by
  have settled := run.settled reached
  obtain ⟨drain, later⟩ := drainNetwork_waiting settled (run.drains step reached)
  have order : DelayQueue.queued (releasedAt cfg nodeId inbound) (step + 1) ++
      waitingBefore cfg nodeId inbound (step + 1) =
        DelayQueue.queued (queuedAt cfg nodeId inbound) (step + 1) :=
    DelayQueue.released_append_waiting _ _ (step + 1)
  refine
    { drain := drain
      reorderBuf := later.reorderBuf
      pending := ?_
      waiting := later.pending
      order := order
      partition := ?_
      numbered := arrived_index (step + 1) }
  · rw [settled.pending, later.pending, ← List.map_append, ← List.map_append]
    exact congrArg (List.map (Arrival.staged cfg)) List.takeWhile_append_dropWhile.symm
  · rw [order]
    exact dropped_append_queued cfg (step + 1)

theorem sampleFaults_run : DrainRun sampleFaults 7 sampleArrivals 3
    (drainStates 7 sampleArrivals (sampleDrain sampleFaults))
    fun step => drainStates 7 sampleArrivals (sampleDrain sampleFaults) (step + 1) :=
  drainStates_run rfl (by decide +kernel)

theorem drainRun_exact_sample :
    FaultExact sampleFaults 7 sampleArrivals 2 (drainStates 7 sampleArrivals (sampleDrain sampleFaults) 2)
      (drainStates 7 sampleArrivals (sampleDrain sampleFaults) 3) :=
  drainRun_exact sampleFaults_run 2 (by decide)

/-! ## Delays -/

theorem mem_queuedAt {step : Nat} {arrival : Arrival V} :
    arrival ∈ queuedAt cfg nodeId inbound step ↔
      arrival ∈ survivorsOf cfg (arrivedAt nodeId inbound step) :=
  (reverseChunks_perm _ _).mem_iff

theorem step_of_mem_queuedAt {step : Nat} {arrival : Arrival V}
    (member : arrival ∈ queuedAt cfg nodeId inbound step) : arrival.step = step :=
  step_of_mem_number (List.mem_of_mem_filter (mem_queuedAt.mp member))

theorem queued_nodup (cfg : FaultConfig) (nodeId : NodeId)
    (inbound : Nat → List (WireEnvelope V)) (steps : Nat) :
    (DelayQueue.queued (queuedAt cfg nodeId inbound) steps).Nodup := by
  have numbers : ((DelayQueue.queued (arrivedAt nodeId inbound) steps).map Arrival.index).Nodup := by
    rw [arrived_index]
    exact List.nodup_range'
  have whole := ((dropped_append_queued cfg steps).nodup_iff).mpr (.of_map _ numbers)
  exact (List.nodup_append.mp whole).2.1

/-- When the release step of an arrival does not exceed the last step of a run, it leaves
in the drain of that step exactly if no survivor of an earlier step is due later. -/
theorem mem_releasedAt_iff {step delayed : Nat} {arrival : Arrival V}
    (survives : arrival ∈ survivorsOf cfg (arrivedAt nodeId inbound step))
    (due : delayed = step + (cfg.policyForStep step).delaySteps) (small : delayed < u64Max) :
    arrival ∈ releasedAt cfg nodeId inbound delayed ↔
      ∀ earlier < step, survivorsOf cfg (arrivedAt nodeId inbound earlier) ≠ [] →
        earlier + (cfg.policyForStep earlier).delaySteps ≤ delayed := by
  have queued := mem_queuedAt.mpr survives
  have same := step_of_mem_queuedAt queued
  have dueStep : arrival.releaseStep cfg = delayed := by
    unfold Arrival.releaseStep
    rw [same, due, saturatingAdd_of_le (by omega)]
  obtain ⟨front, back, split⟩ := List.append_of_mem queued
  have nodup := queued_nodup cfg nodeId inbound (step + 1)
  rw [DelayQueue.queued_succ, split, ← List.append_assoc] at nodup
  have fresh : arrival ∉ DelayQueue.queued (queuedAt cfg nodeId inbound) step ++ front :=
    fun member => (List.nodup_append.mp nodup).2.2 arrival member arrival List.mem_cons_self rfl
  have leaves := DelayQueue.mem_released_due (Arrival.releaseStep cfg)
    (queuedAt cfg nodeId inbound) split (by omega) fresh
  rw [dueStep] at leaves
  refine leaves.trans ⟨?_, ?_⟩
  · intro onTime earlier before occurs
    obtain ⟨other, member⟩ := List.exists_mem_of_ne_nil _ occurs
    have entered := mem_queuedAt.mpr member
    have bound := onTime other (List.mem_append_left _
      ((DelayQueue.mem_queued _).mpr ⟨earlier, before, entered⟩))
    unfold Arrival.releaseStep saturatingAdd at bound
    rw [step_of_mem_queuedAt entered] at bound
    omega
  · intro onTime other member
    rcases List.mem_append.mp member with old | ahead
    · obtain ⟨earlier, before, entered⟩ := (DelayQueue.mem_queued _).mp old
      have bound := onTime earlier before (List.ne_nil_of_mem (mem_queuedAt.mp entered))
      unfold Arrival.releaseStep
      rw [step_of_mem_queuedAt entered]
      exact Nat.le_trans (Nat.min_le_left _ _) bound
    · have entered : other ∈ queuedAt cfg nodeId inbound step := by
        rw [split]
        exact List.mem_append_left _ ahead
      unfold Arrival.releaseStep at dueStep ⊢
      rw [step_of_mem_queuedAt entered, ← same, dueStep]

/-- When a delay is exact: the envelope is received in the drain of its release step if
and only if no envelope of an earlier step is to be released later. -/
theorem delay_exact_iff (run : DrainRun cfg nodeId inbound steps before after)
    (bounded : steps ≤ u64Max) {step delayed : Nat} {arrival : Arrival V}
    (survives : arrival ∈ survivorsOf cfg (arrivedAt nodeId inbound step))
    (due : delayed = step + (cfg.policyForStep step).delaySteps) (reached : delayed < steps) :
    (∃ faults, DrainExact cfg nodeId (arrivedAt nodeId inbound delayed) (before delayed) faults
      ((releasedAt cfg nodeId inbound delayed).map Arrival.env) (after delayed)) ∧
      (arrival ∈ releasedAt cfg nodeId inbound delayed ↔
        ∀ earlier < step, survivorsOf cfg (arrivedAt nodeId inbound earlier) ≠ [] →
          earlier + (cfg.policyForStep earlier).delaySteps ≤ delayed) :=
  ⟨(drainNetwork_waiting (run.settled reached) (run.drains delayed reached)).1,
    mem_releasedAt_iff survives due (Nat.lt_of_lt_of_le reached bounded)⟩

theorem delay_exact_iff_sample :
    (∃ faults, DrainExact sampleFaults 7 (arrivedAt 7 sampleArrivals 2)
      (drainStates 7 sampleArrivals (sampleDrain sampleFaults) 2) faults
      ((releasedAt sampleFaults 7 sampleArrivals 2).map Arrival.env)
      (drainStates 7 sampleArrivals (sampleDrain sampleFaults) 3)) ∧
      (⟨5, 1, ⟨9, 7, 5, 2, 1⟩⟩ ∈ releasedAt sampleFaults 7 sampleArrivals 2 ↔
        ∀ earlier < 1, survivorsOf sampleFaults (arrivedAt 7 sampleArrivals earlier) ≠ [] →
          earlier + (sampleFaults.policyForStep earlier).delaySteps ≤ 2) :=
  delay_exact_iff sampleFaults_run (by decide) (by decide +kernel) rfl (by decide)

/-- The events that were written between two states. -/
def writtenBetween (s s' : MainState V) : List (EventKind V) :=
  ((s'.writer.getD []).drop (s.writer.getD []).length).map TraceEvent.kind

/-- Envelopes that arrive without delay are held back by the ones of the step before. -/
theorem delay_blocked :
    sampleBlocking.sortAndValidatePhases = .ok sampleBlocking ∧
      ∃ before after, DrainRun sampleBlocking 7 sampleArrivals 2 before after ∧
        (sampleBlocking.policyForStep 1).delaySteps = 0 ∧
        (survivorsOf sampleBlocking (arrivedAt 7 sampleArrivals 1)).map Arrival.env =
          sampleArrivals 1 ∧
        ∀ env ∈ sampleArrivals 1, env.recvEvent ∉ writtenBetween (before 1) (after 1) := by
  have run : DrainRun sampleBlocking 7 sampleArrivals 2
      (drainStates 7 sampleArrivals (sampleDrain sampleBlocking))
      (fun step => drainStates 7 sampleArrivals (sampleDrain sampleBlocking) (step + 1)) :=
    drainStates_run rfl (by decide +kernel)
  exact ⟨by decide +kernel, _, _, run, by decide, by decide +kernel, by decide +kernel⟩

end Runs

end UcoStack.Runtime
