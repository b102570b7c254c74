import UcoStack.Library.Chunks
import UcoStack.Library.DelayQueue
import UcoStack.Runtime.Inbound

/-!
# What the fault injector does with each envelope

The exact effect of a drain on the buffers of the injector: which envelopes are
dropped, the order in which the others are queued and how many leave the queue.
-/

namespace UcoStack.Runtime

open StateRun Chunks

/-! ## The events of the injector -/

section Events

variable {V : Type}

def EventKind.isDrop : EventKind V → Bool
  | .faultInjected _ _ _ _ .drop => true
  | _ => false

/-- From `s` to `s'` the injector became `injector` and `kinds` were written: faults,
and among them one drop for each envelope of `dropped`. -/
structure Wrote (nodeId : NodeId) (s : MainState V) (kinds : List (EventKind V))
    (dropped : List (WireEnvelope V)) (s' : MainState V) (injector : FaultInjector V) : Prop where
  state : s' = (s.logged kinds).setInjector injector
  faults : ∀ kind ∈ kinds, kind.IsFault nodeId
  drops : kinds.filter EventKind.isDrop = dropped.map fun env => faultEvent nodeId env .drop

namespace Wrote

variable {nodeId : NodeId} {s m s' : MainState V} {kinds kinds' : List (EventKind V)}
  {dropped dropped' : List (WireEnvelope V)} {injector injector' : FaultInjector V}

theorem silent (nodeId : NodeId) (s : MainState V) (injector : FaultInjector V) :
    Wrote nodeId s [] [] (s.setInjector injector) injector where
  state := by rw [MainState.logged_nil]
  faults := fun _ member => absurd member List.not_mem_nil
  drops := rfl

theorem injector_eq (wrote : Wrote nodeId s kinds dropped s' injector) : s'.injector = injector := by
  rw [wrote.state]
  rfl

theorem trans (first : Wrote nodeId s kinds dropped m injector)
    (second : Wrote nodeId m kinds' dropped' s' injector') :
    Wrote nodeId s (kinds ++ kinds') (dropped ++ dropped') s' injector' where
  state := by
    rw [second.state, first.state]
    simp [MainState.logged_logged]
  faults := fun kind member =>
    (List.mem_append.mp member).elim (first.faults kind) (second.faults kind)
  drops := by rw [List.filter_append, List.map_append, first.drops, second.drops]

/-- Faults that are no drops. -/
theorem logged (faults : ∀ kind ∈ kinds, kind.IsFault nodeId ∧ kind.isDrop = false) :
    Wrote nodeId s kinds [] (s.logged kinds) s.injector where
  state := rfl
  faults := fun kind member => (faults kind member).1
  drops := List.filter_eq_nil_iff.mpr fun kind member => by
    rw [(faults kind member).2]
    exact Bool.false_ne_true

theorem drop (nodeId : NodeId) (s : MainState V) (env : WireEnvelope V) :
    Wrote nodeId s [faultEvent nodeId env .drop] [env] (s.logged [faultEvent nodeId env .drop])
      s.injector where
  state := rfl
  faults := fun kind member => by
    rw [List.mem_singleton.mp member]
    rfl
  drops := rfl

end Wrote

end Events

/-! ## The buffers -/

section Buffers

variable {V : Type} {nodeId : NodeId} {step window : Nat} {s s' : MainState V}

/-- The whole buffer leaves as one reversed chunk. -/
def FaultInjector.flushed (injector : FaultInjector V) : FaultInjector V :=
  { injector with
    reorderBuf := []
    pending := injector.pending ++ injector.reorderBuf.reverse }

theorem flushed_of_empty {injector : FaultInjector V} (empty : injector.reorderBuf = []) :
    injector.flushed = injector := by
  obtain ⟨cfg, seen, policy, initialized, buffer, pending⟩ := injector
  cases empty
  unfold FaultInjector.flushed
  rw [List.reverse_nil, List.append_nil]

theorem recordPolicyEvent_wrote (ran : recordPolicyEvent nodeId step s = .ok () s') :
    ∃ kinds, Wrote nodeId s kinds [] s' s.injector := by
  cases recordEvent_ok ran
  refine ⟨_, .logged ?_⟩
  intro kind member
  rw [List.mem_singleton.mp member]
  exact ⟨rfl, rfl⟩

/-- A chunk that is not cut short by the window. -/
theorem flushChunk_wrote (fits : s.injector.reorderBuf.length ≤ window)
    (ran : flushChunk nodeId window s = .ok () s') :
    ∃ kinds, Wrote nodeId s kinds [] s' s.injector.flushed := by
  unfold flushChunk at ran
  rw [get_bind] at ran
  split at ran
  · rename_i empty
    cases ran
    rw [flushed_of_empty (List.isEmpty_iff.mp empty)]
    exact ⟨[], .silent nodeId s s.injector⟩
  · dsimp only at ran
    rw [updateInjector_bind, Nat.min_eq_right fits, List.take_length, List.drop_length] at ran
    split at ran
    · obtain ⟨_, m, recorded, ran⟩ := bind_ok.mp ran
      cases ran
      cases recordEvents_ok recorded
      refine ⟨_, (Wrote.silent nodeId s _).trans ((Wrote.logged ?_).trans
        (.silent nodeId _ s.injector.flushed))⟩
      intro kind member
      obtain ⟨staged, _, rfl⟩ := List.mem_map.mp member
      exact ⟨rfl, rfl⟩
    · rename_i single
      cases ran
      have same : s.injector.reorderBuf.reverse = s.injector.reorderBuf := by
        cases buffer : s.injector.reorderBuf with
        | nil => rfl
        | cons staged rest =>
            cases rest with
            | nil => rfl
            | cons other rest =>
                rw [buffer] at single
                simp at single
      refine ⟨[], ?_⟩
      unfold FaultInjector.flushed
      rw [same]
      exact .silent nodeId s _

theorem flushRemainderWithWindow_wrote (fits : s.injector.reorderBuf.length < max window 1)
    (ran : flushRemainderWithWindow nodeId window s = .ok () s') :
    ∃ kinds, Wrote nodeId s kinds [] s' s.injector.flushed := by
  unfold flushRemainderWithWindow at ran
  rw [get_bind] at ran
  split at ran
  · rename_i narrow
    cases ran
    have empty : s.injector.reorderBuf = [] := List.eq_nil_of_length_eq_zero (by omega)
    rw [flushed_of_empty empty]
    exact ⟨[], .silent nodeId s s.injector⟩
  · split at ran
    · rename_i empty
      cases ran
      rw [flushed_of_empty (List.isEmpty_iff.mp empty)]
      exact ⟨[], .silent nodeId s s.injector⟩
    · exact flushChunk_wrote (by omega) ran

/-- A buffer that has reached the window is flushed, then the loop is over. -/
theorem flushWhileFull_wrote {fuel : Nat} (wide : 1 < window)
    (fits : s.injector.reorderBuf.length ≤ window)
    (ran : flushWhileFull nodeId window fuel s = .ok () s') :
    ∃ kinds, Wrote nodeId s kinds [] s'
      (if s.injector.reorderBuf.length < window then s.injector else s.injector.flushed) := by
  cases fuel with
  | zero => cases ran
  | succ fuel =>
      unfold flushWhileFull at ran
      rw [get_bind] at ran
      split at ran
      · rename_i full
        obtain ⟨_, m, flushes, ran⟩ := bind_ok.mp ran
        obtain ⟨kinds, wrote⟩ := flushChunk_wrote fits flushes
        have empty : m.injector.reorderBuf = [] := by
          rw [wrote.injector_eq]
          rfl
        rw [if_neg (Nat.not_lt.mpr full)]
        cases fuel with
        | zero => cases ran
        | succ fuel =>
            unfold flushWhileFull at ran
            rw [get_bind, empty, List.length_nil, if_neg (by omega)] at ran
            cases ran
            exact ⟨kinds, wrote⟩
      · rename_i short
        cases ran
        rw [if_pos (Nat.lt_of_not_le short)]
        exact ⟨[], .silent nodeId s s.injector⟩

end Buffers

/-! ## Policies -/

section Policies

variable {V : Type} {nodeId : NodeId} {step : Nat} {s s' : MainState V}

/-- The injector uses the policy of the step. -/
structure FaultInjector.Synced (cfg : FaultConfig) (step : Nat) (injector : FaultInjector V) :
    Prop where
  cfg_eq : injector.cfg = cfg
  initialized : injector.policyInitialized = true
  active : injector.activePolicy = cfg.policyForStep step

def FaultInjector.synced (injector : FaultInjector V) (step : Nat) : FaultInjector V :=
  { injector with
    activePolicy := injector.cfg.policyForStep step
    policyInitialized := true }

theorem synced_self {cfg : FaultConfig} {injector : FaultInjector V}
    (synced : injector.Synced cfg step) : injector.synced step = injector := by
  have active := synced.active
  rw [← synced.cfg_eq] at active
  unfold FaultInjector.synced
  rw [← active, ← synced.initialized]

/-- The second synchronization of a step does nothing. -/
theorem syncPolicy_synced {cfg : FaultConfig} (synced : s.injector.Synced cfg step) :
    syncPolicy nodeId step s = .ok () s := by
  unfold syncPolicy
  rw [get_bind, if_neg (by rw [synced.initialized]; exact Bool.false_ne_true)]
  rw [if_pos (by rw [synced.cfg_eq, synced.active])]
  rfl

/-- Between two drains the buffer is empty, so nothing is flushed. -/
theorem syncPolicy_wrote (empty : s.injector.reorderBuf = [])
    (ran : syncPolicy nodeId step s = .ok () s') :
    ∃ kinds, Wrote nodeId s kinds [] s' (s.injector.synced step) := by
  unfold syncPolicy at ran
  rw [get_bind] at ran
  split at ran
  · rw [updateInjector_bind] at ran
    obtain ⟨_, m, recorded, ran⟩ := bind_ok.mp ran
    cases ran
    obtain ⟨kinds, wrote⟩ := recordPolicyEvent_wrote recorded
    have last : Wrote nodeId m [] [] (m.setInjector { m.injector with policyInitialized := true })
        (s.injector.synced step) := by
      rw [wrote.injector_eq]
      exact .silent nodeId m (s.injector.synced step)
    exact ⟨_, ((Wrote.silent nodeId s _).trans wrote).trans last⟩
  · rename_i initialized
    have initialized : s.injector.policyInitialized = true := by simpa using initialized
    dsimp only at ran
    split at ran
    · rename_i same
      cases ran
      rw [synced_self ⟨rfl, initialized, same.symm⟩]
      exact ⟨[], .silent nodeId s s.injector⟩
    · obtain ⟨_, m, flushes, ran⟩ := bind_ok.mp ran
      obtain ⟨first, wrote⟩ := flushRemainderWithWindow_wrote
        (by rw [empty, List.length_nil]; omega) flushes
      rw [flushed_of_empty empty] at wrote
      rw [updateInjector_bind, wrote.injector_eq] at ran
      obtain ⟨second, recorded⟩ := recordPolicyEvent_wrote ran
      have same : s.injector.synced step =
          { s.injector with activePolicy := s.injector.cfg.policyForStep step } := by
        unfold FaultInjector.synced
        rw [← initialized]
      rw [same]
      exact ⟨_, (wrote.trans (.silent nodeId m _)).trans recorded⟩

end Policies

/-! ## One envelope -/

section Envelopes

variable {V : Type} {nodeId : NodeId} {step : Nat} {s s' : MainState V} {env : WireEnvelope V}

/-- An entry is put into the buffer, which leaves when it reaches the window. -/
def FaultInjector.push (injector : FaultInjector V) (staged : StagedInbound V) :
    FaultInjector V :=
  let filled := { injector with reorderBuf := injector.reorderBuf ++ [staged] }
  if injector.reorderBuf.length + 1 < injector.activePolicy.reorderWindow then filled
  else filled.flushed

def FaultInjector.counted (injector : FaultInjector V) : FaultInjector V :=
  { injector with seenInbound := injector.seenInbound + 1 }

def FaultInjector.entry (injector : FaultInjector V) (step : Nat) (env : WireEnvelope V) :
    StagedInbound V :=
  ⟨env, saturatingAdd step injector.activePolicy.delaySteps⟩

theorem countInbound_eq (ran : countInbound s = .ok () s') :
    s' = s.setInjector s.injector.counted := by
  unfold countInbound at ran
  rw [get_bind] at ran
  split at ran
  · cases ran
  · cases ran
    rfl

theorem stage_wrote
    (fits : s.injector.reorderBuf.length < max s.injector.activePolicy.reorderWindow 1)
    (ran : stage nodeId step env s = .ok () s') :
    ∃ kinds, Wrote nodeId s kinds [] s' (s.injector.push (s.injector.entry step env)) := by
  unfold stage at ran
  rw [get_bind] at ran
  dsimp only at ran
  have recorded : ∃ kinds m, Wrote nodeId s kinds [] m s.injector ∧
      (if s.injector.activePolicy.reorderWindow ≤ 1 then
        appendPending [s.injector.entry step env]
      else do
        updateInjector fun injector =>
          { injector with reorderBuf := injector.reorderBuf ++ [s.injector.entry step env] }
        flushWhileFull nodeId s.injector.activePolicy.reorderWindow
          (s.injector.reorderBuf.length + 2)) m = .ok () s' := by
    split at ran
    · obtain ⟨_, m, written, ran⟩ := bind_ok.mp ran
      cases recordEvent_ok written
      refine ⟨_, _, .logged ?_, ran⟩
      intro kind member
      rw [List.mem_singleton.mp member]
      exact ⟨rfl, rfl⟩
    · exact ⟨[], s, .silent nodeId s s.injector, ran⟩
  obtain ⟨kinds, m, wrote, ran⟩ := recorded
  have pushed : s.injector.push (s.injector.entry step env) =
      if s.injector.reorderBuf.length + 1 < s.injector.activePolicy.reorderWindow then
        { s.injector with reorderBuf := s.injector.reorderBuf ++ [s.injector.entry step env] }
      else FaultInjector.flushed { s.injector with
        reorderBuf := s.injector.reorderBuf ++ [s.injector.entry step env] } := rfl
  split at ran
  · rename_i narrow
    cases ran
    have empty : s.injector.reorderBuf = [] := List.eq_nil_of_length_eq_zero (by omega)
    have same : FaultInjector.flushed { s.injector with
          reorderBuf := s.injector.reorderBuf ++ [s.injector.entry step env] } =
        { s.injector with pending := s.injector.pending ++ [s.injector.entry step env] } := by
      unfold FaultInjector.flushed
      rw [empty]
      exact congrArg (fun buffer => { s.injector with
        reorderBuf := buffer
        pending := s.injector.pending ++ [s.injector.entry step env] }) empty.symm
    have last : Wrote nodeId m [] [] (m.setInjector { m.injector with
          pending := m.injector.pending ++ [s.injector.entry step env] })
        (s.injector.push (s.injector.entry step env)) := by
      rw [wrote.injector_eq, pushed, if_neg (by omega), same]
      exact .silent nodeId m _
    exact ⟨_, wrote.trans last⟩
  · rename_i wide
    rw [updateInjector_bind, wrote.injector_eq] at ran
    obtain ⟨others, flushes⟩ := flushWhileFull_wrote (by omega) (by
      simp only [MainState.setInjector_injector, List.length_append, List.length_singleton]
      omega) ran
    rw [pushed]
    simp only [MainState.setInjector_injector, List.length_append, List.length_singleton]
      at flushes
    exact ⟨_, wrote.trans ((Wrote.silent nodeId m _).trans flushes)⟩

theorem ingest_wrote {cfg : FaultConfig} (synced : s.injector.Synced cfg step)
    (fits : s.injector.reorderBuf.length < max s.injector.activePolicy.reorderWindow 1)
    (ran : ingest nodeId step env s = .ok () s') :
    ∃ kinds, Wrote nodeId s kinds (if s.injector.counted.drops then [env] else []) s'
      (if s.injector.counted.drops then s.injector.counted
        else s.injector.counted.push (s.injector.entry step env)) := by
  unfold ingest at ran
  rw [bind_of_ok (syncPolicy_synced synced)] at ran
  obtain ⟨_, m, counts, ran⟩ := bind_ok.mp ran
  cases countInbound_eq counts
  have counted := Wrote.silent nodeId s s.injector.counted
  rw [get_bind] at ran
  split at ran
  · rename_i drops
    have drops : s.injector.counted.drops = true := drops
    cases recordEvent_ok ran
    rw [if_pos drops, if_pos drops]
    exact ⟨_, counted.trans (.drop nodeId _ env)⟩
  · rename_i survives
    have survives : ¬s.injector.counted.drops = true := survives
    rw [if_neg survives, if_neg survives]
    obtain ⟨kinds, wrote⟩ := stage_wrote (s := s.setInjector s.injector.counted) fits ran
    exact ⟨_, counted.trans wrote⟩

end Envelopes

/-! ## Failures -/

section Failures

variable {V : Type} {nodeId : NodeId} {step : Nat} {s s' : MainState V}

/-- The failures of recording: an overflow of a counter, or no trace to write to. -/
def RecordError (error : RunError V) : Prop := error = .counterOverflow ∨ error = .noTraceWriter

theorem recordEvent_fails (kind : EventKind V) : Fails RecordError (recordEvent kind) := by
  intro s error s' ran
  unfold recordEvent at ran
  split at ran
  · cases ran
    exact .inl rfl
  · split at ran
    · cases ran
      exact .inr rfl
    · cases ran

theorem updateInjector_fails (change : FaultInjector V → FaultInjector V) :
    Fails RecordError (updateInjector change) :=
  fun _ _ _ ran => by cases ran

theorem flushChunk_fails (window : Nat) :
    Fails (RecordError (V := V)) (flushChunk nodeId window) := by
  refine .get_bind fun s => ?_
  split
  · exact .pure ()
  · refine .bind (updateInjector_fails _) fun _ => ?_
    split
    · exact .bind (.forM fun staged => recordEvent_fails _) fun _ => updateInjector_fails _
    · exact updateInjector_fails _

theorem flushRemainderWithWindow_fails (window : Nat) :
    Fails (RecordError (V := V)) (flushRemainderWithWindow nodeId window) := by
  refine .get_bind fun s => ?_
  split
  · exact .pure ()
  · split
    · exact .pure ()
    · exact flushChunk_fails window

theorem syncPolicy_fails (step : Nat) : Fails (RecordError (V := V)) (syncPolicy nodeId step) := by
  have policyEvent : Fails (RecordError (V := V)) (recordPolicyEvent nodeId step) :=
    .get_bind fun s => recordEvent_fails _
  refine .get_bind fun s => ?_
  split
  · exact .bind (updateInjector_fails _) fun _ =>
      .bind policyEvent fun _ => updateInjector_fails _
  · dsimp only
    split
    · exact .pure ()
    · exact .bind (flushRemainderWithWindow_fails _) fun _ =>
        .bind (updateInjector_fails _) fun _ => policyEvent

theorem countInbound_fails : Fails (RecordError (V := V)) countInbound := by
  refine .get_bind fun s => ?_
  split
  · intro s error s' ran
    cases ran
    exact .inl rfl
  · exact updateInjector_fails _

/-- Two rounds are enough: the first one empties the buffer. -/
theorem flushWhileFull_fails {window fuel : Nat} {error : RunError V} (wide : 1 < window)
    (fits : s.injector.reorderBuf.length ≤ window)
    (ran : flushWhileFull nodeId window (fuel + 2) s = .error error s') : RecordError error := by
  unfold flushWhileFull at ran
  rw [get_bind] at ran
  split at ran
  · rcases bind_error.mp ran with early | ⟨_, m, flushes, late⟩
    · exact flushChunk_fails window s error s' early
    · obtain ⟨kinds, wrote⟩ := flushChunk_wrote fits flushes
      have empty : m.injector.reorderBuf = [] := by
        rw [wrote.injector_eq]
        rfl
      unfold flushWhileFull at late
      rw [get_bind, empty, List.length_nil, if_neg (by omega)] at late
      cases late
  · cases ran

theorem stage_fails {env : WireEnvelope V} {error : RunError V}
    (fits : s.injector.reorderBuf.length < max s.injector.activePolicy.reorderWindow 1)
    (ran : stage nodeId step env s = .error error s') : RecordError error := by
  unfold stage at ran
  rw [get_bind] at ran
  dsimp only at ran
  have staged (m : MainState V) (same : m.injector = s.injector)
      (rest : (if s.injector.activePolicy.reorderWindow ≤ 1 then
          appendPending [s.injector.entry step env]
        else do
          updateInjector fun injector =>
            { injector with reorderBuf := injector.reorderBuf ++ [s.injector.entry step env] }
          flushWhileFull nodeId s.injector.activePolicy.reorderWindow
            (s.injector.reorderBuf.length + 2)) m = .error error s') : RecordError error := by
    split at rest
    · cases rest
    · rw [updateInjector_bind, same] at rest
      refine flushWhileFull_fails (by omega) ?_ rest
      simp only [MainState.setInjector_injector, List.length_append, List.length_singleton]
      omega
  split at ran
  · rcases bind_error.mp ran with early | ⟨_, m, written, late⟩
    · exact recordEvent_fails _ s error s' early
    · cases recordEvent_ok written
      have spared : (s.logged [faultEvent nodeId env
          (.delay s.injector.activePolicy.delaySteps)]).injector = s.injector := rfl
      exact staged _ spared late
  · exact staged s rfl ran

theorem ingest_fails {cfg : FaultConfig} {env : WireEnvelope V} {error : RunError V}
    (synced : s.injector.Synced cfg step)
    (fits : s.injector.reorderBuf.length < max s.injector.activePolicy.reorderWindow 1)
    (ran : ingest nodeId step env s = .error error s') : RecordError error := by
  unfold ingest at ran
  rw [bind_of_ok (syncPolicy_synced synced)] at ran
  rcases bind_error.mp ran with early | ⟨_, m, counts, late⟩
  · exact countInbound_fails s error s' early
  · cases countInbound_eq counts
    rw [get_bind] at late
    split at late
    · exact recordEvent_fails _ _ error s' late
    · exact stage_fails (s := s.setInjector s.injector.counted) fits late

end Failures

end UcoStack.Runtime
