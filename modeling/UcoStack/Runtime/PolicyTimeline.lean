import Mathlib.Data.List.Chain
import UcoStack.Library.Monitor
import UcoStack.Runtime.RecordDrains
import UcoStack.Runtime.Trace

/-!
# The fault policies of a recorded run

A recorded step first brings the fault injector to the policy of the step and
records the policy if it is a new one.  All evidence that follows, in this step
and in the later ones, belongs to the last policy recorded.
-/

namespace UcoStack.Runtime

open StateRun

/-! ## Policies and evidence in the trace -/

section Evidence

variable {V : Type}

/-- The step and the policy of a `FaultPolicy` event. -/
def EventKind.policyChange : EventKind V → Option (Nat × FaultPolicy)
  | .faultPolicy _ step dropEvery delaySteps reorderWindow =>
      some (step, ⟨dropEvery, delaySteps, reorderWindow⟩)
  | _ => none

def EventKind.faultAction : EventKind V → Option FaultAction
  | .faultInjected _ _ _ _ action => some action
  | _ => none

/-- The fault is one that the policy calls for. -/
def FaultAction.Agrees (policy : FaultPolicy) : FaultAction → Prop
  | .drop => ∃ dropEvery, policy.dropEvery = some dropEvery
  | .delay steps => steps = policy.delaySteps ∧ 0 < steps
  | .reorder window => window = policy.reorderWindow ∧ 1 < window

/-- No change of the policy, and no fault that it does not call for. -/
structure EventKind.Conforms (policy : FaultPolicy) (kind : EventKind V) : Prop where
  unchanged : kind.policyChange = none
  agrees : ∀ action, kind.faultAction = some action → action.Agrees policy

theorem EventKind.conforms_of_isWork {policy : FaultPolicy} {kind : EventKind V}
    (work : kind.isWork = true) : kind.Conforms policy := by
  cases kind with
  | faultInjected => cases work
  | faultPolicy => cases work
  | _ => exact ⟨rfl, fun _ fault => by cases fault⟩

theorem faultEvent_conforms {policy : FaultPolicy} {nodeId : NodeId} {env : WireEnvelope V}
    {action : FaultAction} (agrees : action.Agrees policy) :
    (faultEvent nodeId env action).Conforms policy := by
  refine ⟨rfl, fun other fault => ?_⟩
  cases fault
  exact agrees

theorem recvEvent_conforms {policy : FaultPolicy} (env : WireEnvelope V) :
    env.recvEvent.Conforms policy :=
  ⟨rfl, fun _ fault => by cases fault⟩

end Evidence

/-! ## The evidence of a drain -/

section Drains

variable {V : Type} {cfg : FaultConfig} {nodeId : NodeId} {step : Nat}

/-- An injector that uses the policy of the step goes on using it, and all events
written conform to it. -/
def Conforming (cfg : FaultConfig) (step : Nat) (s s' : MainState V) : Prop :=
  s.injector.Synced cfg step → s'.injector.Synced cfg step ∧
    ∃ kinds, s'.recorded = s.recorded ++ kinds ∧
      ∀ kind ∈ kinds, kind.Conforms (cfg.policyForStep step)

instance : IsPreorder (MainState V) (Conforming cfg step) where
  refl s synced := ⟨synced, [], (List.append_nil _).symm, fun _ member => by cases member⟩
  trans := by
    intro s m s' left right synced
    obtain ⟨middle, first, wrote, all⟩ := left synced
    obtain ⟨final, second, wroteNext, allNext⟩ := right middle
    refine ⟨final, first ++ second, ?_, ?_⟩
    · rw [wroteNext, wrote, List.append_assoc]
    · exact fun kind member => (List.mem_append.mp member).elim (all kind) (allNext kind)

theorem Works.conforming {s s' : MainState V} (works : Works EventKind.isWork s s') :
    Conforming cfg step s s' := by
  intro synced
  obtain ⟨spares, kinds, wrote, work⟩ := works
  have kept : s'.injector.Synced cfg step := by
    rw [show s'.injector = s.injector from spares]
    exact synced
  exact ⟨kept, kinds, wrote, fun kind member => EventKind.conforms_of_isWork (work kind member)⟩

theorem recordEvent_conforming {kind : EventKind V}
    (conforms : kind.Conforms (cfg.policyForStep step)) :
    Moves (Conforming cfg step) (recordEvent kind) := by
  intro s synced
  unfold recordEvent
  split
  · exact refl_of (Conforming cfg step) s synced
  · split
    · exact ⟨synced, [], (List.append_nil _).symm, fun _ member => by cases member⟩
    · rename_i writes
      have writes : s.writer.isSome = true := by simpa [Option.isSome_iff_ne_none] using writes
      refine ⟨synced, [kind], recorded_logged writes [kind], fun other member => ?_⟩
      rw [List.mem_singleton.mp member]
      exact conforms

/-- A change of the injector that does not touch its policy. -/
theorem updateInjector_conforming (change : FaultInjector V → FaultInjector V)
    (sameCfg : ∀ injector, (change injector).cfg = injector.cfg)
    (sameFlag : ∀ injector, (change injector).policyInitialized = injector.policyInitialized)
    (samePolicy : ∀ injector, (change injector).activePolicy = injector.activePolicy) :
    Moves (Conforming cfg step) (updateInjector change) := by
  intro s synced
  refine ⟨⟨?_, ?_, ?_⟩, [], (List.append_nil _).symm, fun _ member => by cases member⟩
  · exact (sameCfg s.injector).trans synced.cfg_eq
  · exact (sameFlag s.injector).trans synced.initialized
  · exact (samePolicy s.injector).trans synced.active

theorem appendPending_conforming (chunk : List (StagedInbound V)) :
    Moves (Conforming cfg step) (appendPending chunk) :=
  updateInjector_conforming _ (fun _ => rfl) (fun _ => rfl) fun _ => rfl

theorem flushChunk_conforming {window : Nat}
    (active : window = (cfg.policyForStep step).reorderWindow) (wide : 1 < window) : Moves (Conforming (V := V) cfg step) (flushChunk nodeId window) := by
  refine .get_bind fun s => ?_
  split
  · exact refl_of _ s
  · dsimp only
    refine Moves.bind ?_ (fun _ => ?_) s
    · exact updateInjector_conforming _ (fun _ => rfl) (fun _ => rfl) fun _ => rfl
    · split
      · refine .bind (.forM fun staged => recordEvent_conforming ?_) fun _ =>
          appendPending_conforming _
        exact faultEvent_conforms ⟨active, wide⟩
      · exact appendPending_conforming _

theorem flushRemainderWithWindow_conforming {window : Nat}
    (active : window = (cfg.policyForStep step).reorderWindow) :
    Moves (Conforming (V := V) cfg step) (flushRemainderWithWindow nodeId window) := by
  refine .get_bind fun s => ?_
  split
  · exact refl_of _ s
  · rename_i wide
    split
    · exact refl_of _ s
    · exact flushChunk_conforming active (Nat.lt_of_not_le wide) s

theorem flushRemainder_conforming :
    Moves (Conforming (V := V) cfg step) (flushRemainder nodeId) := by
  refine .get_bind fun s synced => ?_
  rw [synced.active]
  exact flushRemainderWithWindow_conforming rfl s synced

theorem flushWhileFull_conforming {window : Nat}
    (active : window = (cfg.policyForStep step).reorderWindow) (wide : 1 < window) (fuel : Nat) :
    Moves (Conforming (V := V) cfg step) (flushWhileFull nodeId window fuel) := by
  induction fuel with
  | zero => exact .throw _
  | succ fuel ih =>
      refine .get_bind fun s => ?_
      split
      · exact Moves.bind (flushChunk_conforming active wide) (fun _ => ih) s
      · exact refl_of _ s

theorem stage_conforming (env : WireEnvelope V) :
    Moves (Conforming cfg step) (stage nodeId step env) := by
  refine .get_bind fun s synced => ?_
  dsimp only
  rw [synced.active]
  have buffered : Moves (Conforming cfg step)
      (if (cfg.policyForStep step).reorderWindow ≤ 1 then
        appendPending [⟨env, saturatingAdd step (cfg.policyForStep step).delaySteps⟩]
      else do
        updateInjector fun injector => { injector with
          reorderBuf := injector.reorderBuf ++
            [⟨env, saturatingAdd step (cfg.policyForStep step).delaySteps⟩] }
        flushWhileFull nodeId (cfg.policyForStep step).reorderWindow
          (s.injector.reorderBuf.length + 2)) := by
    split
    · exact appendPending_conforming _
    · rename_i wide
      exact .bind (updateInjector_conforming _ (fun _ => rfl) (fun _ => rfl) fun _ => rfl)
        fun _ => flushWhileFull_conforming rfl (Nat.lt_of_not_le wide) _
  split
  · rename_i delays
    have agrees : (FaultAction.delay (cfg.policyForStep step).delaySteps).Agrees
        (cfg.policyForStep step) := ⟨rfl, delays⟩
    exact Moves.bind (recordEvent_conforming (faultEvent_conforms agrees))
      (fun _ => buffered) s synced
  · exact buffered s synced

theorem countInbound_conforming : Moves (Conforming (V := V) cfg step) countInbound := by
  refine .get_bind fun s => ?_
  split
  · exact refl_of _ s
  · have counts := @updateInjector_conforming V cfg step
      (fun injector : FaultInjector V =>
        { injector with seenInbound := injector.seenInbound + 1 })
      (fun _ => rfl) (fun _ => rfl) fun _ => rfl
    exact counts s

/-- An envelope can only be dropped under a policy that drops. -/
theorem drops_agrees {injector : FaultInjector V} (synced : injector.Synced cfg step)
    (drops : injector.drops = true) : FaultAction.drop.Agrees (cfg.policyForStep step) := by
  unfold FaultInjector.drops at drops
  rw [synced.active] at drops
  cases every : (cfg.policyForStep step).dropEvery with
  | none =>
      rw [every] at drops
      cases drops
  | some dropEvery => exact ⟨dropEvery, every⟩

theorem ingest_conforming (env : WireEnvelope V) :
    Moves (Conforming cfg step) (ingest nodeId step env) := by
  intro s synced
  unfold ingest
  rw [bind_of_ok (syncPolicy_synced synced)]
  refine Moves.bind countInbound_conforming (fun _ => .get_bind fun m counted => ?_) s synced
  split
  · rename_i drops
    exact recordEvent_conforming (faultEvent_conforms (drops_agrees counted drops)) m counted
  · exact stage_conforming env m counted

theorem receiveEnvelope_conforming (env : WireEnvelope V) :
    Moves (Conforming cfg step) (receiveEnvelope env) :=
  .bind (recordEvent_conforming (recvEvent_conforms env)) fun _ s =>
    (updateCore_works (P := EventKind.isWork) _ s).conforming

theorem releaseDue_conforming : Moves (Conforming (V := V) cfg step) (releaseDue step) := by
  refine .get_bind fun s => ?_
  refine Moves.bind ?_ (fun _ => .pure _) s
  exact updateInjector_conforming _ (fun _ => rfl) (fun _ => rfl) fun _ => rfl

end Drains

/-! ## The policy of a step -/

namespace FaultConfig

/-- The step begins with another policy than the one before it. -/
def changesAt (cfg : FaultConfig) : Nat → Bool
  | 0 => true
  | step + 1 => cfg.policyForStep (step + 1) ≠ cfg.policyForStep step

/-- The changes of the policy in the first steps of a run. -/
def policyChanges (cfg : FaultConfig) (steps : Nat) : List (Nat × FaultPolicy) :=
  ((List.range steps).filter cfg.changesAt).map fun step => (step, cfg.policyForStep step)

theorem policyChanges_succ (cfg : FaultConfig) (step : Nat) :
    cfg.policyChanges (step + 1) = cfg.policyChanges step ++
      if cfg.changesAt step then [(step, cfg.policyForStep step)] else [] := by
  unfold policyChanges
  rw [List.range_succ, List.filter_append, List.map_append]
  cases changes : cfg.changesAt step with
  | true => simp [changes]
  | false => simp [changes]

theorem mem_policyChanges {cfg : FaultConfig} {steps step : Nat} {policy : FaultPolicy} :
    (step, policy) ∈ cfg.policyChanges steps ↔
      step < steps ∧ cfg.changesAt step = true ∧ policy = cfg.policyForStep step := by
  simp only [policyChanges, List.mem_map, List.mem_filter, List.mem_range, Prod.mk.injEq]
  constructor
  · rintro ⟨_, ⟨below, changes⟩, rfl, rfl⟩
    exact ⟨below, changes, rfl⟩
  · rintro ⟨below, changes, rfl⟩
    exact ⟨step, ⟨below, changes⟩, rfl, rfl⟩

theorem policyChanges_ordered (cfg : FaultConfig) (steps : Nat) :
    (cfg.policyChanges steps).Pairwise fun earlier later => earlier.1 < later.1 := by
  unfold policyChanges
  rw [List.pairwise_map]
  exact List.pairwise_lt_range.filter _

/-- The last change before the end of a step set the policy of the step. -/
theorem policyChanges_getLast? (cfg : FaultConfig) (step : Nat) :
    ∃ changed ≤ step, (cfg.policyChanges (step + 1)).getLast? =
      some (changed, cfg.policyForStep step) := by
  induction step with
  | zero => exact ⟨0, le_refl 0, rfl⟩
  | succ step ih =>
      rw [policyChanges_succ]
      cases changes : cfg.changesAt (step + 1) with
      | true => exact ⟨step + 1, le_refl _, by rw [if_pos rfl, List.getLast?_concat]⟩
      | false =>
          have same : cfg.policyForStep (step + 1) = cfg.policyForStep step := by
            simpa [changesAt] using changes
          obtain ⟨changed, before, last⟩ := ih
          refine ⟨changed, Nat.le_succ_of_le before, ?_⟩
          rw [if_neg Bool.false_ne_true, List.append_nil, same]
          exact last

/-- A longer run changes its policy further, and later. -/
theorem policyChanges_append (cfg : FaultConfig) {step steps : Nat} (le : step ≤ steps) :
    ∃ more, cfg.policyChanges steps = cfg.policyChanges step ++ more ∧
      ∀ change ∈ more, step ≤ change.1 := by
  induction steps, le using Nat.le_induction with
  | base => exact ⟨[], (List.append_nil _).symm, fun _ member => by cases member⟩
  | succ last le ih =>
      obtain ⟨more, split, late⟩ := ih
      rw [policyChanges_succ, split, List.append_assoc]
      refine ⟨_, rfl, fun change member => ?_⟩
      rcases List.mem_append.mp member with earlier | here
      · exact late change earlier
      · split at here
        · rw [List.mem_singleton.mp here]
          exact le
        · cases here

/-- No change repeats the policy before it. -/
theorem policyChanges_isChain (cfg : FaultConfig) (steps : Nat) :
    (cfg.policyChanges steps).IsChain fun earlier later => earlier.2 ≠ later.2 := by
  induction steps with
  | zero => exact .nil
  | succ step ih =>
      rw [policyChanges_succ]
      cases changes : cfg.changesAt step with
      | false => rwa [if_neg Bool.false_ne_true, List.append_nil]
      | true =>
          rw [if_pos rfl, List.isChain_append]
          refine ⟨ih, .singleton _, fun earlier last later first => ?_⟩
          cases first
          cases step with
          | zero => cases last
          | succ step =>
              obtain ⟨changed, -, final⟩ := cfg.policyChanges_getLast? step
              rw [final] at last
              cases last
              have differ : cfg.policyForStep (step + 1) ≠ cfg.policyForStep step := by
                simpa [changesAt] using changes
              exact differ.symm

end FaultConfig

section Synchronizing

variable {V : Type} {cfg : FaultConfig} {nodeId : NodeId} {step : Nat} {s : MainState V}

/-- The `FaultPolicy` event of a step. -/
def policyEventAt (cfg : FaultConfig) (nodeId : NodeId) (step : Nat) : EventKind V :=
  .faultPolicy nodeId step (cfg.policyForStep step).dropEvery (cfg.policyForStep step).delaySteps
    (cfg.policyForStep step).reorderWindow

/-- What a step writes before anything else. -/
def opening (cfg : FaultConfig) (nodeId : NodeId) (step : Nat) : List (EventKind V) :=
  if cfg.changesAt step then [policyEventAt cfg nodeId step] else []

/-- The injector of a run that is about to begin the step. -/
structure AwaitsStep (cfg : FaultConfig) (step : Nat) (injector : FaultInjector V) : Prop where
  settled : ∃ count queue, Settled cfg count queue injector
  first : step = 0 → injector.policyInitialized = false
  later : ∀ before, step = before + 1 → injector.Synced cfg before

theorem AwaitsStep.new (cfg : FaultConfig) : AwaitsStep (V := V) cfg 0 (.new cfg) where
  settled := ⟨0, [], .new cfg⟩
  first _ := rfl
  later _ same := by cases same

theorem recordPolicyEvent_opens (nodeId : NodeId) (step : Nat) (writing : MainState V) :
    (∃ error s', recordPolicyEvent nodeId step writing = .error error s' ∧
      s'.recorded = writing.recorded) ∨
    ∃ s', recordPolicyEvent nodeId step writing = .ok () s' ∧ s'.injector = writing.injector ∧
      s'.recorded = writing.recorded ++ [writing.injector.policyEvent nodeId step] := by
  unfold recordPolicyEvent
  rw [get_bind]
  unfold recordEvent
  split
  · exact .inl ⟨_, _, rfl, rfl⟩
  · split
    · exact .inl ⟨_, _, rfl, rfl⟩
    · rename_i writes
      have writes : writing.writer.isSome = true := by
        simpa [Option.isSome_iff_ne_none] using writes
      exact .inr ⟨_, rfl, rfl, recorded_logged writes _⟩

/-- A step either fails to record its policy, or begins with its opening. -/
theorem syncPolicy_opens_step (nodeId : NodeId) (awaits : AwaitsStep cfg step s.injector) :
    (∃ error s', syncPolicy nodeId step s = .error error s' ∧ s'.recorded = s.recorded) ∨
    ∃ m, syncPolicy nodeId step s = .ok () m ∧ m.injector.Synced cfg step ∧
      m.recorded = s.recorded ++ opening cfg nodeId step := by
  obtain ⟨count, queue, settled⟩ := awaits.settled
  unfold syncPolicy
  rw [get_bind]
  cases step with
  | zero =>
      rw [awaits.first rfl, Bool.not_false, if_pos rfl, updateInjector_bind]
      rcases recordPolicyEvent_opens nodeId 0 (s.setInjector
          { s.injector with activePolicy := s.injector.cfg.policyForStep 0 }) with
        ⟨error, s', fails, same⟩ | ⟨m, writes, kept, wrote⟩
      · exact .inl ⟨error, s', by rw [bind_apply, fails], same⟩
      · refine .inr ⟨_, by rw [bind_of_ok writes]; rfl, ⟨?_, rfl, ?_⟩, ?_⟩
        · change m.injector.cfg = cfg
          rw [kept]
          exact settled.cfg_eq
        · change m.injector.activePolicy = _
          rw [kept, ← settled.cfg_eq]
          rfl
        · have recorded : m.recorded = s.recorded ++
              [policyEventAt s.injector.cfg nodeId 0] := wrote
          rw [settled.cfg_eq] at recorded
          exact recorded
  | succ before =>
      have synced := awaits.later before rfl
      rw [synced.initialized, Bool.not_true, if_neg Bool.false_ne_true]
      rw [settled.cfg_eq, synced.active]
      by_cases same : cfg.policyForStep (before + 1) = cfg.policyForStep before
      · have opens : opening (V := V) cfg nodeId (before + 1) = [] := by
          simp [opening, FaultConfig.changesAt, same]
        rw [if_pos same, opens, List.append_nil]
        exact .inr ⟨s, rfl, ⟨synced.cfg_eq, synced.initialized, by rw [same, synced.active]⟩, rfl⟩
      · have opens : opening (V := V) cfg nodeId (before + 1) =
            [policyEventAt cfg nodeId (before + 1)] := by
          simp [opening, FaultConfig.changesAt, same]
        have flushes : flushRemainderWithWindow nodeId (cfg.policyForStep before).reorderWindow s =
            .ok () s := by
          unfold flushRemainderWithWindow
          rw [get_bind, settled.reorderBuf]
          split
          · rfl
          · rfl
        rw [if_neg same, opens, bind_of_ok flushes, updateInjector_bind]
        rcases recordPolicyEvent_opens nodeId (before + 1) (s.setInjector
            { s.injector with activePolicy := cfg.policyForStep (before + 1) }) with
          ⟨error, s', fails, unchanged⟩ | ⟨m, writes, kept, wrote⟩
        · exact .inl ⟨error, s', fails, unchanged⟩
        · refine .inr ⟨m, writes, ?_, wrote⟩
          rw [kept]
          exact ⟨settled.cfg_eq, synced.initialized, rfl⟩

end Synchronizing

/-! ## One step -/

/-- The fault is called for by the last policy recorded before it. -/
def FaultFits {V : Type} (past : List (EventKind V)) (kind : EventKind V) : Prop :=
  ∀ action, kind.faultAction = some action → ∃ change,
    (past.filterMap EventKind.policyChange).getLast? = some change ∧ action.Agrees change.2

/-- The trace of a run after `steps` steps: the changes of the policy are those of the
configuration, and every fault fits. -/
structure PolicyLog {V : Type} (cfg : FaultConfig) (steps : Nat) (kinds : List (EventKind V)) :
    Prop where
  policies : kinds.filterMap EventKind.policyChange = cfg.policyChanges steps
  faults : EveryPosition FaultFits kinds

section Steps

variable {V : Type} {cfg : FaultConfig} {nodeId : NodeId} {step : Nat}

theorem policyChange_of_conforms {policy : FaultPolicy} {kinds : List (EventKind V)}
    (conforms : ∀ kind ∈ kinds, kind.Conforms policy) :
    kinds.filterMap EventKind.policyChange = [] :=
  List.filterMap_eq_nil_iff.mpr fun kind member => (conforms kind member).unchanged

theorem opening_policyChange (cfg : FaultConfig) (nodeId : NodeId) (step : Nat) :
    (opening (V := V) cfg nodeId step).filterMap EventKind.policyChange =
      if cfg.changesAt step then [(step, cfg.policyForStep step)] else [] := by
  unfold opening
  split
  · rfl
  · rfl

theorem PolicyLog.opened {kinds : List (EventKind V)} (log : PolicyLog cfg step kinds)
    (nodeId : NodeId) : PolicyLog cfg (step + 1) (kinds ++ opening cfg nodeId step) where
  policies := by
    rw [List.filterMap_append, log.policies, opening_policyChange, FaultConfig.policyChanges_succ]
  faults := by
    refine log.faults.append_of_forall fun kind member past action fault => ?_
    unfold opening at member
    split at member
    · rw [List.mem_singleton.mp member] at fault
      cases fault
    · cases member

/-- Events that conform to the policy of the last step may follow. -/
theorem PolicyLog.conforming {kinds rest : List (EventKind V)}
    (log : PolicyLog cfg (step + 1) kinds)
    (conforms : ∀ kind ∈ rest, kind.Conforms (cfg.policyForStep step)) :
    PolicyLog cfg (step + 1) (kinds ++ rest) where
  policies := by
    rw [List.filterMap_append, log.policies, policyChange_of_conforms conforms, List.append_nil]
  faults := by
    refine EveryPosition.append.mpr ⟨log.faults, ?_⟩
    intro past kind later split action fault
    have before : ∀ other ∈ past, other.Conforms (cfg.policyForStep step) := fun other member =>
      conforms other (split ▸ List.mem_append_left _ member)
    have here : kind.Conforms (cfg.policyForStep step) :=
      conforms kind (split ▸ List.mem_append_right _ List.mem_cons_self)
    obtain ⟨changed, _, last⟩ := cfg.policyChanges_getLast? step
    refine ⟨(changed, cfg.policyForStep step), ?_, here.agrees action fault⟩
    rw [List.filterMap_append, log.policies, policyChange_of_conforms before, List.append_nil]
    exact last

variable (host : Host V) [DecidableEq V] (site : Site) (batch : List (WireEnvelope V))

/-- A drain without the synchronization at its beginning. -/
def drainAfterSync (nodeId : NodeId) (step : Nat) (batch : List (WireEnvelope V)) :
    MainM V Unit := do
  batch.forM fun env => if env.toNode ≠ nodeId then pure () else ingest nodeId step env
  flushRemainder nodeId
  let released ← releaseDue step
  released.forM receiveEnvelope

omit [DecidableEq V] in
theorem drainNetwork_eq (nodeId : NodeId) (step : Nat) :
    drainNetwork nodeId step batch =
      syncPolicy nodeId step >>= fun _ => drainAfterSync nodeId step batch :=
  rfl

omit [DecidableEq V] in
theorem drainAfterSync_conforming (nodeId : NodeId) (step : Nat) :
    Moves (Conforming cfg step) (drainAfterSync nodeId step batch) := by
  have ingests (env : WireEnvelope V) : Moves (Conforming cfg step)
      (if env.toNode ≠ nodeId then pure () else ingest nodeId step env) := by
    split
    · exact .pure ()
    · exact ingest_conforming env
  exact .bind (.forM ingests) fun _ => .bind flushRemainder_conforming fun _ =>
    .bind releaseDue_conforming fun released => .forM receiveEnvelope_conforming

/-- Everything after the synchronization of a step conforms to its policy. -/
theorem recordStep_conforming {step : Nat} {s m : MainState V}
    (syncs : syncPolicy site.nodeId step s = .ok () m) :
    Conforming cfg step m (finalState (recordStep host site step batch s)) := by
  have drains : drainNetwork site.nodeId step batch s =
      drainAfterSync site.nodeId step batch m := by
    rw [drainNetwork_eq, bind_of_ok syncs]
  have drained : Conforming cfg step m (finalState (drainAfterSync site.nodeId step batch m)) :=
    drainAfterSync_conforming batch site.nodeId step m
  unfold recordStep
  rw [← drains] at drained
  rw [bind_apply]
  cases ran : drainNetwork site.nodeId step batch s with
  | error error s' =>
      rw [ran] at drained
      exact drained
  | ok _ n =>
      rw [ran] at drained
      apply trans_of _ drained
      have fires : Moves (Conforming cfg step) (fireDueTimers (V := V) site step) :=
        fun s => (fireDueTimers_works site (fun _ => EventKind.isWork_of_isExchange)
          (fun _ _ _ => rfl) step s).conforming
      refine Moves.bind fires (fun _ => .get_bind fun fired => ?_) n
      cases chooseNextDeterministic (pendingDeliveries site.nodeId fired.core) with
      | none => exact refl_of _ fired
      | some chosen =>
          have works := deliver_works host site (fun _ => EventKind.isWork_of_isExchange) step
            chosen fired
          exact works.conforming

/-- However a step ends, it has written nothing, or its opening and then only events
that conform to its policy. -/
theorem recordStep_writes {s : MainState V} (awaits : AwaitsStep cfg step s.injector) :
    (∃ error s', recordStep host site step batch s = .error error s' ∧
      s'.recorded = s.recorded) ∨
    ∃ rest, (finalState (recordStep host site step batch s)).recorded =
        s.recorded ++ opening cfg site.nodeId step ++ rest ∧
      (∀ kind ∈ rest, kind.Conforms (cfg.policyForStep step)) ∧
      (finalState (recordStep host site step batch s)).injector.Synced cfg step := by
  rcases syncPolicy_opens_step site.nodeId awaits with
    ⟨error, s', fails, same⟩ | ⟨m, syncs, synced, wrote⟩
  · left
    refine ⟨error, s', ?_, same⟩
    unfold recordStep
    rw [bind_apply, drainNetwork_eq, bind_apply, fails]
  · right
    have conforming : Conforming cfg step m (finalState (recordStep host site step batch s)) :=
      recordStep_conforming host site batch syncs
    obtain ⟨final, rest, writes, conforms⟩ := conforming synced
    exact ⟨rest, by rw [writes, wrote], conforms, final⟩

variable {host site batch} in
theorem recordStep_awaits {s s' : MainState V} (awaits : AwaitsStep cfg step s.injector)
    (ran : recordStep host site step batch s = .ok () s') :
    AwaitsStep cfg (step + 1) s'.injector := by
  obtain ⟨m, drains, kept⟩ := recordStep_drains ran
  obtain ⟨count, queue, settled⟩ := awaits.settled
  obtain ⟨faults, -, next⟩ := drainNetwork_exact settled drains
  refine ⟨⟨_, _, kept ▸ next⟩, fun same => (by cases same), fun before same => ?_⟩
  cases same
  rcases recordStep_writes host site batch awaits with
    ⟨error, other, fails, -⟩ | ⟨rest, -, -, synced⟩
  · rw [ran] at fails
    cases fails
  · rw [ran] at synced
    exact synced

/-- The step lemma. -/
theorem recordStep_policyLog {s : MainState V} (awaits : AwaitsStep cfg step s.injector)
    (log : PolicyLog cfg step s.recorded) :
    ∃ reached later, step ≤ reached ∧
      (finalState (recordStep host site step batch s)).recorded = s.recorded ++ later ∧
      PolicyLog cfg reached (s.recorded ++ later) ∧
      (succeeds (recordStep host site step batch s) = true → reached = step + 1) := by
  rcases recordStep_writes host site batch awaits with
    ⟨error, s', fails, same⟩ | ⟨rest, wrote, conforms, -⟩
  · refine ⟨step, [], le_refl _, ?_, by rwa [List.append_nil], ?_⟩
    · rw [fails, List.append_nil]
      exact same
    · rw [fails]
      exact fun ok => by cases ok
  · refine ⟨step + 1, opening cfg site.nodeId step ++ rest, Nat.le_succ _, ?_, ?_, fun _ => rfl⟩
    · rw [wrote, List.append_assoc]
    · rw [← List.append_assoc]
      exact (log.opened site.nodeId).conforming conforms

/-- The run lemma. -/
theorem recordLoop_policyLog (inbound : Nat → List (WireEnvelope V)) (count : Nat)
    {s : MainState V} (awaits : AwaitsStep cfg step s.injector)
    (log : PolicyLog cfg step s.recorded) :
    ∃ reached later, step ≤ reached ∧
      (finalState (recordLoop host site inbound step count s)).recorded = s.recorded ++ later ∧
      PolicyLog cfg reached (s.recorded ++ later) ∧
      (succeeds (recordLoop host site inbound step count s) = true → reached = step + count ∧
        AwaitsStep cfg reached (finalState (recordLoop host site inbound step count s)).injector) := by
  induction count generalizing step s with
  | zero =>
      refine ⟨step, [], le_refl _, (List.append_nil _).symm, by rwa [List.append_nil], fun _ => ?_⟩
      exact ⟨rfl, awaits⟩
  | succ count ih =>
      obtain ⟨reached, later, after, wrote, logged, done⟩ :=
        recordStep_policyLog host site (inbound step) awaits log
      unfold recordLoop
      cases ran : recordStep host site step (inbound step) s with
      | error error s' =>
          rw [ran] at wrote
          rw [bind_apply, ran]
          exact ⟨reached, later, after, wrote, logged, fun ok => by cases ok⟩
      | ok _ m =>
          rw [ran] at wrote done
          have wrote : m.recorded = s.recorded ++ later := wrote
          cases done rfl
          rw [bind_of_ok ran]
          obtain ⟨final, others, beyond, writes, log, ends⟩ :=
            ih (recordStep_awaits awaits ran) (by rw [wrote]; exact logged)
          rw [wrote, List.append_assoc] at writes log
          refine ⟨final, later ++ others, Nat.le_of_succ_le beyond, writes, log, fun ok => ?_⟩
          obtain ⟨same, waits⟩ := ends ok
          exact ⟨by omega, waits⟩

end Steps

/-! ## Whole runs -/

section Runs

variable {V : Type} [DecidableEq V] {host : Host V} {program : Program} {cfg : Config}
  {inbound : Nat → List (WireEnvelope V)} {step steps : Nat}

/-- The run of a node that is given fewer steps. -/
def recordFirst (host : Host V) (program : Program) (cfg : Config)
    (inbound : Nat → List (WireEnvelope V)) (steps : Nat) :
    EStateM.Result (RunError V) (MainState V) Unit :=
  record host program { cfg with steps := steps } inbound

/-- A run is its startup and then the loop, however many steps it has. -/
theorem recordFirst_eq {launched : Launch V} (launches : launch host program cfg = .ok launched)
    (inbound : Nat → List (WireEnvelope V)) (steps : Nat) :
    recordFirst host program cfg inbound steps =
      (startup host launched.site .record cfg launched.entryService >>= fun _ =>
        recordLoop host launched.site inbound 0 steps)
          (.initial .record cfg launched.actors []) := by
  have same : launch host program { cfg with steps := steps } = .ok launched := launches
  unfold recordFirst record
  rw [same]
  rfl

theorem recordLoop_of_ok {site : Site} {count : Nat} {s m : MainState V}
    (ran : recordStep host site step (inbound step) s = .ok () m) :
    recordLoop host site inbound step (count + 1) s =
      recordLoop host site inbound (step + 1) count m := by
  rw [recordLoop, bind_of_ok ran]

theorem recordLoop_of_error {site : Site} {count : Nat} {s m : MainState V} {error : RunError V}
    (ran : recordStep host site step (inbound step) s = .error error m) :
    recordLoop host site inbound step (count + 1) s = .error error m := by
  rw [recordLoop, bind_apply, ran]

theorem recordLoop_add {site : Site} {first count : Nat} {s m : MainState V}
    (ran : recordLoop host site inbound step first s = .ok () m) :
    recordLoop host site inbound step (first + count) s =
      recordLoop host site inbound (step + first) count m := by
  induction first generalizing step s with
  | zero =>
      cases ran
      rw [Nat.zero_add, Nat.add_zero]
  | succ first ih =>
      obtain ⟨_, next, here, later⟩ := bind_ok.mp ran
      have rest := ih later
      rw [Nat.add_right_comm] at rest
      rw [Nat.succ_add, recordLoop_of_ok here, rest, ← Nat.add_assoc]

/-- A run whose startup succeeded is a run of the loop. -/
theorem recordFirst_loops (host : Host V) (program : Program) (cfg : Config)
    (inbound : Nat → List (WireEnvelope V)) :
    (∃ error st, (∀ steps, recordFirst host program cfg inbound steps = .error error st) ∧
      PolicyLog cfg.fault 0 st.recorded) ∨
    ∃ site booted, (∀ steps, recordFirst host program cfg inbound steps =
        recordLoop host site inbound 0 steps booted) ∧
      AwaitsStep cfg.fault 0 booted.injector ∧ PolicyLog cfg.fault 0 booted.recorded := by
  have empty : PolicyLog cfg.fault 0 ([] : List (EventKind V)) := ⟨rfl, .nil⟩
  cases launches : launch host program cfg with
  | error error =>
      refine .inl ⟨error, .initial .record cfg ∅ [], fun steps => ?_, empty⟩
      have same : launch host program { cfg with steps := steps } = .error error := launches
      unfold recordFirst record
      rw [same]
      rfl
  | ok launched =>
      have works := startup_works host (launch_launched launches) launched.entryService
        (.initial .record cfg launched.actors [])
      have begins := recordFirst_eq launches inbound
      obtain ⟨spares, kinds, wrote, handling⟩ := works
      have conforms : ∀ kind ∈ kinds, kind.Conforms (cfg.fault.policyForStep 0) :=
        fun kind member =>
          EventKind.conforms_of_isWork (EventKind.isWork_of_isHandling (handling kind member))
      have log : PolicyLog cfg.fault 0 kinds := by
        refine ⟨policyChange_of_conforms conforms, EveryPosition.nil.append_of_forall ?_⟩
        intro kind member past action fault
        have handles := handling kind member
        cases kind with
        | faultInjected => cases handles
        | _ => cases fault
      have wrote : (finalState (startup host launched.site .record cfg launched.entryService
          (.initial .record cfg launched.actors []))).recorded = kinds := wrote
      cases boots : startup host launched.site .record cfg launched.entryService
          (.initial .record cfg launched.actors []) with
      | error error st =>
          rw [boots] at wrote
          refine .inl ⟨error, st, fun steps => by rw [begins, bind_apply, boots], ?_⟩
          rw [show st.recorded = kinds from wrote]
          exact log
      | ok _ booted =>
          rw [boots] at wrote spares
          refine .inr ⟨launched.site, booted, fun steps => by rw [begins, bind_of_ok boots], ?_, ?_⟩
          · rw [show booted.injector = .new cfg.fault from spares]
            exact .new cfg.fault
          · rw [show booted.recorded = kinds from wrote]
            exact log

/-- A run that ended without error has changed its policy as configured, and awaits the
next step. -/
theorem recordFirst_policyLog (host : Host V) (program : Program) (cfg : Config)
    (inbound : Nat → List (WireEnvelope V)) (steps : Nat) :
    ∃ reached, PolicyLog cfg.fault reached
        (finalState (recordFirst host program cfg inbound steps)).recorded ∧
      (succeeds (recordFirst host program cfg inbound steps) = true → reached = steps) := by
  rcases recordFirst_loops host program cfg inbound with
    ⟨error, st, fails, log⟩ | ⟨site, booted, loops, awaits, log⟩
  · rw [fails]
    exact ⟨0, log, fun ok => by cases ok⟩
  · rw [loops]
    obtain ⟨reached, later, -, wrote, logged, done⟩ :=
      recordLoop_policyLog host site inbound steps awaits log
    rw [wrote]
    exact ⟨reached, logged, fun ok => by rw [(done ok).1, Nat.zero_add]⟩

/-- A run goes on from the end of a shorter one. -/
theorem recordFirst_continues {before : MainState V}
    (started : recordFirst host program cfg inbound step = .ok () before) :
    ∃ site, AwaitsStep cfg.fault step before.injector ∧
      PolicyLog cfg.fault step before.recorded ∧
      ∀ count, recordFirst host program cfg inbound (step + count) =
        recordLoop host site inbound step count before := by
  rcases recordFirst_loops host program cfg inbound with
    ⟨error, st, fails, -⟩ | ⟨site, booted, loops, awaits, log⟩
  · rw [fails] at started
    cases started
  · rw [loops] at started
    obtain ⟨reached, later, -, wrote, logged, done⟩ :=
      recordLoop_policyLog host site inbound step awaits log
    rw [started] at wrote done
    obtain ⟨same, waits⟩ := done rfl
    rw [Nat.zero_add] at same
    subst same
    refine ⟨site, waits, ?_, fun count => ?_⟩
    · rw [show before.recorded = booted.recorded ++ later from wrote]
      exact logged
    · rw [loops, recordLoop_add started, Nat.zero_add]

/-- Faults, and messages received from the network. -/
def EventKind.isInbound : EventKind V → Bool
  | .netRecv .. | .faultInjected .. => true
  | _ => false

omit [DecidableEq V] in
theorem opening_isInbound {nodeId : NodeId} {kind : EventKind V}
    (member : kind ∈ opening cfg.fault nodeId step) : kind.isInbound = false := by
  unfold opening at member
  split at member
  · rw [List.mem_singleton.mp member]
    rfl
  · cases member

/-- A step that wrote something or succeeded wrote its opening first, and later steps
change the policy only later. -/
theorem recordFirst_executes {before : MainState V}
    (started : recordFirst host program cfg inbound step = .ok () before)
    (executed : succeeds (recordFirst host program cfg inbound (step + 1)) = true ∨
      (finalState (recordFirst host program cfg inbound (step + 1))).recorded ≠ before.recorded)
    (count : Nat) :
    ∃ nodeId rest later, PolicyLog cfg.fault step before.recorded ∧
      (∀ kind ∈ rest, kind.Conforms (cfg.fault.policyForStep step)) ∧
      (finalState (recordFirst host program cfg inbound (step + 1))).recorded =
        before.recorded ++ opening cfg.fault nodeId step ++ rest ∧
      (finalState (recordFirst host program cfg inbound (step + 1 + count))).recorded =
        before.recorded ++ opening cfg.fault nodeId step ++ rest ++ later ∧
      ∀ change ∈ later.filterMap EventKind.policyChange, step + 1 ≤ change.1 := by
  obtain ⟨site, awaits, log, continues⟩ := recordFirst_continues started
  have one := continues 1
  have all := continues (count + 1)
  rw [show step + (count + 1) = step + 1 + count by omega] at all
  rw [one] at executed
  rw [one, all]
  rcases recordStep_writes host site (inbound step) awaits with
    ⟨error, s', fails, same⟩ | ⟨rest, wrote, conforms, -⟩
  · rw [recordLoop_of_error fails] at executed
    exact (executed.elim (fun ok => by cases ok) fun differ => absurd same differ)
  · have logged : PolicyLog cfg.fault (step + 1)
        (before.recorded ++ opening cfg.fault site.nodeId step ++ rest) :=
      (log.opened site.nodeId).conforming conforms
    cases ran : recordStep host site step (inbound step) before with
    | error error s' =>
        rw [ran] at wrote
        rw [recordLoop_of_error ran, recordLoop_of_error ran]
        refine ⟨site.nodeId, rest, [], log, conforms, wrote, ?_, fun _ member => by cases member⟩
        rw [List.append_nil]
        exact wrote
    | ok _ m =>
        rw [ran] at wrote
        rw [recordLoop_of_ok ran, recordLoop_of_ok ran]
        have wrote : m.recorded = before.recorded ++ opening cfg.fault site.nodeId step ++ rest :=
          wrote
        obtain ⟨reached, later, beyond, writes, further, -⟩ :=
          recordLoop_policyLog host site inbound count
            (recordStep_awaits awaits ran) (by rw [wrote]; exact logged)
        rw [wrote] at writes further
        refine ⟨site.nodeId, rest, later, log, conforms, wrote, writes, ?_⟩
        obtain ⟨more, split, late⟩ := cfg.fault.policyChanges_append beyond
        have policies := further.policies
        rw [List.filterMap_append, logged.policies, split] at policies
        rw [List.append_cancel_left policies]
        exact late

/-- The trace of a run, however it ended, shows the fault policy of every step: the last
change up to a step set its policy, before any fault or arrival of the step; every change
differs from the one before; and every fault is called for by the last change. -/
theorem record_policyTimeline (host : Host V) (program : Program) (cfg : Config)
    (inbound : Nat → List (WireEnvelope V)) :
    let events := (finalState (record host program cfg inbound)).recorded
    ((events.filterMap EventKind.policyChange).IsChain fun earlier later =>
      earlier.2 ≠ later.2) ∧
    EveryPosition FaultFits events ∧
    ∀ step before, step < cfg.steps →
      recordFirst host program cfg inbound step = .ok () before →
      let during := (finalState (recordFirst host program cfg inbound (step + 1))).recorded
      (succeeds (recordFirst host program cfg inbound (step + 1)) = true ∨
        during ≠ before.recorded) →
      ∃ front change back, events = front ++ change :: back ∧
        (∃ changed ≤ step,
          change.policyChange = some (changed, cfg.fault.policyForStep step)) ∧
        (∀ kind ∈ back, ∀ next, kind.policyChange = some next → step < next.1) ∧
        during <+: events ∧
        ∀ (index : Nat) (kind : EventKind V), before.recorded.length ≤ index →
          index < during.length → events[index]? = some kind → kind.isInbound = true →
          front.length < index := by
  intro events
  obtain ⟨reached, log, -⟩ := recordFirst_policyLog host program cfg inbound cfg.steps
  have whole : (finalState (recordFirst host program cfg inbound cfg.steps)).recorded = events := rfl
  rw [whole] at log
  refine ⟨?_, log.faults, ?_⟩
  · rw [log.policies]
    exact cfg.fault.policyChanges_isChain reached
  intro step before below started during executed
  obtain ⟨nodeId, rest, later, logBefore, conforms, wrote, all, late⟩ :=
    recordFirst_executes started executed (cfg.steps - (step + 1))
  rw [Nat.add_sub_cancel' below, whole] at all
  have opened := logBefore.opened nodeId
  obtain ⟨changed, early, last⟩ := cfg.fault.policyChanges_getLast? step
  rw [← opened.policies] at last
  obtain ⟨front, change, back, split, here, unmarked⟩ := exists_last_mark last
  refine ⟨front, change, back ++ (rest ++ later), ?_, ⟨changed, early, here⟩, ?_, ?_, ?_⟩
  · rw [all, split]
    simp only [List.append_assoc, List.cons_append]
  · intro kind member next changes
    rcases List.mem_append.mp member with inside | member
    · rw [unmarked kind inside] at changes
      cases changes
    · rcases List.mem_append.mp member with inside | after
      · rw [(conforms kind inside).unchanged] at changes
        cases changes
      · exact late next (List.mem_filterMap.mpr ⟨kind, after, changes⟩)
  · exact ⟨later, by rw [all, show during = _ from wrote]⟩
  · intro index kind begins _ found arrives
    have length : (before.recorded ++ opening cfg.fault nodeId step).length =
        front.length + (1 + back.length) := by
      rw [split, List.length_append, List.length_cons, Nat.add_comm back.length]
    by_contra early
    have inside : index < (before.recorded ++ opening cfg.fault nodeId step).length := by omega
    rw [all, List.append_assoc, List.getElem?_append_left inside,
      List.getElem?_append_right begins] at found
    rw [opening_isInbound (List.mem_of_getElem? found)] at arrives
    cases arrives

/-- The sample program with a delay that ends after the first step. -/
def timelineConfig : Config :=
  { sampleConfig 2 with fault := ⟨none, 1, 1, [⟨1, none, .default⟩]⟩ }

theorem record_policyTimeline_sample :
    timelineConfig.fault.sortAndValidatePhases = .ok timelineConfig.fault ∧
    ∃ front change back,
      (finalState (record jsonHost sampleProgram timelineConfig sampleInbound)).recorded =
        front ++ change :: back ∧
      (∃ changed ≤ 1, change.policyChange = some (changed, .default)) ∧
      ∀ kind ∈ back, ∀ next, kind.policyChange = some next → 1 < next.1 := by
  have starts : succeeds (recordFirst jsonHost sampleProgram timelineConfig sampleInbound 1) =
      true := by
    decide +kernel
  have ends : succeeds (recordFirst jsonHost sampleProgram timelineConfig sampleInbound 2) =
      true := by
    decide +kernel
  obtain ⟨-, -, steps⟩ :=
    record_policyTimeline jsonHost sampleProgram timelineConfig sampleInbound
  obtain ⟨front, change, back, split, here, later, -⟩ :=
    steps 1 _ (by decide) (ok_finalState starts) (.inl ends)
  exact ⟨by decide +kernel, front, change, back, split, here, later⟩

end Runs

end UcoStack.Runtime
