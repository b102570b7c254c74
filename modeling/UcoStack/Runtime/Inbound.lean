import UcoStack.Runtime.Network

/-!
# What a drain of the network does

Specifications of the fault injector.  `Injected` accounts for every envelope an
operation takes in or gives out, `Drained` for a whole drain: each envelope is
still held, has been received, or has left a drop fault.
-/

namespace UcoStack.Runtime

open StateRun

section Accounting

variable {V : Type}

/-- The envelopes an injector holds back. -/
def FaultInjector.held (injector : FaultInjector V) : List (WireEnvelope V) :=
  (injector.reorderBuf ++ injector.pending).map StagedInbound.env

/-- The key of a network message in local traces. -/
abbrev NetKey := NodeId × ActorId × MsgId

def WireEnvelope.key (env : WireEnvelope V) : NetKey := (env.fromNode, env.toActor, env.msgId)

/-- The events the fault injector writes. -/
def EventKind.IsFault (nodeId : NodeId) : EventKind V → Prop
  | .faultInjected node _ _ _ _ => node = nodeId
  | .faultPolicy node _ _ _ _ => node = nodeId
  | _ => False

/-- The network message an event uses up: one received, or one dropped. -/
def EventKind.takenKey : EventKind V → Option NetKey
  | .netRecv _ fromNode receiver msgId _ => some (fromNode, receiver, msgId)
  | .faultInjected _ fromNode receiver msgId .drop => some (fromNode, receiver, msgId)
  | _ => none

def takenKeys (kinds : List (EventKind V)) : List NetKey := kinds.filterMap EventKind.takenKey

def envKeys (envs : List (WireEnvelope V)) : List NetKey := envs.map WireEnvelope.key

@[simp] theorem takenKeys_append (left right : List (EventKind V)) :
    takenKeys (left ++ right) = takenKeys left ++ takenKeys right :=
  List.filterMap_append

@[simp] theorem envKeys_append (left right : List (WireEnvelope V)) :
    envKeys (left ++ right) = envKeys left ++ envKeys right :=
  List.map_append

theorem takenKeys_recvEvents (envs : List (WireEnvelope V)) :
    takenKeys (envs.map WireEnvelope.recvEvent) = envKeys envs := by
  induction envs with
  | nil => rfl
  | cons env rest ih =>
      simp only [takenKeys, envKeys, List.map_cons, WireEnvelope.recvEvent] at ih ⊢
      rw [List.filterMap_cons, ih]
      rfl

end Accounting

section Updates

variable {V α : Type}

theorem updateInjector_bind (change : FaultInjector V → FaultInjector V)
    (rest : Unit → MainM V α) (s : MainState V) :
    (updateInjector change >>= rest) s = rest () (s.setInjector (change s.injector)) :=
  rfl

theorem updateCore_bind (change : Core V → Core V) (rest : Unit → MainM V α)
    (s : MainState V) :
    (updateCore change >>= rest) s = rest () (s.setCore (change s.core)) :=
  rfl

end Updates

/-! ## Recording -/

section Recording

variable {V : Type}

theorem recordEvent_ok {kind : EventKind V} {s s' : MainState V}
    (ran : recordEvent kind s = .ok () s') : s' = s.logged [kind] := by
  unfold recordEvent at ran
  split at ran
  · cases ran
  · split at ran
    · cases ran
    · cases ran
      rfl

theorem recordEvents_ok {α : Type} {xs : List α} {event : α → EventKind V} {s s' : MainState V}
    (ran : (xs.forM fun x => recordEvent (event x)) s = .ok () s') :
    s' = s.logged (xs.map event) := by
  induction xs generalizing s with
  | nil =>
      cases ran
      simp
  | cons x rest ih =>
      obtain ⟨_, m, here, later⟩ := bind_ok.mp ran
      rw [ih later, recordEvent_ok here, MainState.logged_logged]
      rfl

end Recording

/-! ## The fault injector -/

/-- From `s` to `s'` the injector took in `entering`, gave out `leaving` and wrote
`kinds`, all faults; the key balance says that nothing else was lost or made. -/
structure Injected {V : Type} (nodeId : NodeId) (s : MainState V)
    (entering : List (WireEnvelope V)) (kinds : List (EventKind V)) (s' : MainState V)
    (leaving : List (WireEnvelope V)) : Prop where
  state : s' = (s.logged kinds).setInjector s'.injector
  faults : ∀ kind ∈ kinds, kind.IsFault nodeId
  balance : ∀ key, (envKeys s.injector.held).count key + (envKeys entering).count key =
    (envKeys s'.injector.held).count key + (envKeys leaving).count key +
      (takenKeys kinds).count key
  source : ∀ env, env ∈ s'.injector.held ∨ env ∈ leaving →
    env ∈ s.injector.held ∨ env ∈ entering

namespace Injected

variable {V : Type} {nodeId : NodeId} {s m s' : MainState V}
  {entering entering' leaving leaving' : List (WireEnvelope V)} {kinds kinds' : List (EventKind V)}

theorem refl (nodeId : NodeId) (s : MainState V) : Injected nodeId s [] [] s [] where
  state := by simp
  faults := fun _ member => absurd member List.not_mem_nil
  balance := fun _ => rfl
  source := fun _ => id

theorem trans (left : Injected nodeId s entering kinds m leaving)
    (right : Injected nodeId m entering' kinds' s' leaving') :
    Injected nodeId s (entering ++ entering') (kinds ++ kinds') s' (leaving ++ leaving') where
  state := by
    rw [right.state, left.state]
    simp [MainState.logged_logged]
  faults := fun kind member =>
    (List.mem_append.mp member).elim (left.faults kind) (right.faults kind)
  balance := fun key => by
    have first := left.balance key
    have second := right.balance key
    simp only [envKeys_append, takenKeys_append, List.count_append]
    omega
  source := fun env place => by
    have middle : env ∈ m.injector.held ∨ env ∈ leaving →
        env ∈ s.injector.held ∨ env ∈ entering ++ entering' := fun found =>
      (left.source env found).imp_right (List.mem_append_left entering')
    rcases place with held | out
    · rcases right.source env (.inl held) with old | new
      · exact middle (.inl old)
      · exact .inr (List.mem_append_right entering new)
    · rcases List.mem_append.mp out with old | new
      · exact middle (.inr old)
      · rcases right.source env (.inr new) with held | fresh
        · exact middle (.inl held)
        · exact .inr (List.mem_append_right entering fresh)

/-- Only the injector changes, and its envelopes are the same up to their order. -/
theorem ofHeld {injector : FaultInjector V} (held : injector.held.Perm s.injector.held) :
    Injected nodeId s [] [] (s.setInjector injector) [] where
  state := by simp
  faults := fun _ member => absurd member List.not_mem_nil
  balance := fun key => by
    simp [envKeys, (held.map WireEnvelope.key).count_eq key, takenKeys]
  source := fun env place => place.imp_left held.mem_iff.mp

/-- An envelope that entered is held from now on. -/
theorem ofEntering {injector : FaultInjector V} {env : WireEnvelope V}
    (held : injector.held.Perm (env :: s.injector.held)) :
    Injected nodeId s [env] [] (s.setInjector injector) [] where
  state := by simp
  faults := fun _ member => absurd member List.not_mem_nil
  balance := fun key => by
    have same := (held.map WireEnvelope.key).count_eq key
    rw [List.map_cons, List.count_cons] at same
    simp only [envKeys, takenKeys, List.map_cons, List.map_nil, List.filterMap_nil,
      List.count_nil, List.count_cons, MainState.setInjector_injector] at same ⊢
    omega
  source := fun other place => by
    rcases place with found | found
    · rcases List.mem_cons.mp (held.mem_iff.mp found) with rfl | old
      · exact .inr List.mem_cons_self
      · exact .inl old
    · exact absurd found List.not_mem_nil

/-- A dropped envelope is gone, and its key is in the fault. -/
theorem ofDrop (nodeId : NodeId) (s : MainState V) (env : WireEnvelope V) :
    Injected nodeId s [env] [faultEvent nodeId env .drop]
      (s.logged [faultEvent nodeId env .drop]) [] where
  state := rfl
  faults := fun kind member => by
    cases List.mem_singleton.mp member
    rfl
  balance := fun key => by
    simp [envKeys, takenKeys, faultEvent, EventKind.takenKey, WireEnvelope.key,
      MainState.logged]
  source := fun other place => place.imp_right fun found => absurd found List.not_mem_nil

/-- Faults other than drops are recorded without touching the envelopes. -/
theorem ofFaults (faults : ∀ kind ∈ kinds, kind.IsFault nodeId ∧ kind.takenKey = none) :
    Injected nodeId s [] kinds (s.logged kinds) [] where
  state := rfl
  faults := fun kind member => (faults kind member).1
  balance := fun key => by
    have none : takenKeys kinds = [] :=
      List.filterMap_eq_nil_iff.mpr fun kind member => (faults kind member).2
    simp [none, MainState.logged]
  source := fun _ => id

end Injected

section Specifications

variable {V : Type} {nodeId : NodeId} {step : Nat} {s s' : MainState V}

theorem recordPolicyEvent_ok (ran : recordPolicyEvent nodeId step s = .ok () s') :
    ∃ kinds, Injected nodeId s [] kinds s' [] := by
  have written := recordEvent_ok ran
  subst written
  refine ⟨_, Injected.ofFaults ?_⟩
  intro kind member
  cases List.mem_singleton.mp member
  exact ⟨rfl, rfl⟩

theorem flushed_held (injector : FaultInjector V) (take : Nat) {chunk : List (StagedInbound V)}
    (same : chunk.Perm (injector.reorderBuf.take take)) :
    List.Perm
      (FaultInjector.held
        { injector with
          reorderBuf := injector.reorderBuf.drop take
          pending := injector.pending ++ chunk }) injector.held := by
  have moved : (injector.pending ++ chunk).Perm
      (injector.reorderBuf.take take ++ injector.pending) :=
    (same.append_left _).trans List.perm_append_comm
  have buffer : (injector.reorderBuf.drop take ++ injector.reorderBuf.take take).Perm
      injector.reorderBuf := by
    have swapped : List.Perm (injector.reorderBuf.drop take ++ injector.reorderBuf.take take)
        (injector.reorderBuf.take take ++ injector.reorderBuf.drop take) :=
      List.perm_append_comm
    rwa [List.take_append_drop] at swapped
  apply List.Perm.map
  refine (moved.append_left _).trans ?_
  rw [← List.append_assoc]
  exact buffer.append_right _

theorem flushChunk_ok {window : Nat} (ran : flushChunk nodeId window s = .ok () s') :
    ∃ kinds, Injected nodeId s [] kinds s' [] := by
  unfold flushChunk at ran
  rw [get_bind] at ran
  split at ran
  · cases ran
    exact ⟨[], .refl nodeId s⟩
  · dsimp only at ran
    rw [updateInjector_bind] at ran
    split at ran
    · obtain ⟨_, m, recorded, ran⟩ := bind_ok.mp ran
      cases ran
      cases recordEvents_ok recorded
      refine ⟨_, (Injected.ofFaults ?_).trans
        (Injected.ofHeld (flushed_held s.injector _ (List.reverse_perm _)))⟩
      intro kind member
      obtain ⟨staged, _, same⟩ := List.mem_map.mp member
      cases same
      exact ⟨rfl, rfl⟩
    · cases ran
      exact ⟨[], Injected.ofHeld (flushed_held s.injector _ (List.Perm.refl _))⟩

theorem flushRemainderWithWindow_ok {window : Nat}
    (ran : flushRemainderWithWindow nodeId window s = .ok () s') :
    ∃ kinds, Injected nodeId s [] kinds s' [] := by
  unfold flushRemainderWithWindow at ran
  rw [get_bind] at ran
  split at ran
  · cases ran
    exact ⟨[], .refl nodeId s⟩
  · split at ran
    · cases ran
      exact ⟨[], .refl nodeId s⟩
    · exact flushChunk_ok ran

theorem flushRemainder_ok (ran : flushRemainder nodeId s = .ok () s') :
    ∃ kinds, Injected nodeId s [] kinds s' [] := by
  unfold flushRemainder at ran
  rw [get_bind] at ran
  exact flushRemainderWithWindow_ok ran

theorem syncPolicy_ok (ran : syncPolicy nodeId step s = .ok () s') :
    ∃ kinds, Injected nodeId s [] kinds s' [] := by
  unfold syncPolicy at ran
  rw [get_bind] at ran
  split at ran
  · rw [updateInjector_bind] at ran
    obtain ⟨_, m, recorded, ran⟩ := bind_ok.mp ran
    cases ran
    obtain ⟨kinds, injected⟩ := recordPolicyEvent_ok recorded
    have before : Injected nodeId s [] [] (s.setInjector { s.injector with
        activePolicy := s.injector.cfg.policyForStep step }) [] := .ofHeld (.refl _)
    exact ⟨_, (before.trans injected).trans (.ofHeld (.refl _))⟩
  · dsimp only at ran
    split at ran
    · cases ran
      exact ⟨[], .refl nodeId s⟩
    · obtain ⟨_, m, flushed, ran⟩ := bind_ok.mp ran
      rw [updateInjector_bind] at ran
      obtain ⟨first, injected⟩ := flushRemainderWithWindow_ok flushed
      obtain ⟨second, recorded⟩ := recordPolicyEvent_ok ran
      have between : Injected nodeId m [] [] (m.setInjector { m.injector with
          activePolicy := s.injector.cfg.policyForStep step }) [] := .ofHeld (.refl _)
      exact ⟨_, (injected.trans between).trans recorded⟩

theorem countInbound_ok (ran : countInbound s = .ok () s') :
    Injected nodeId s [] [] s' [] := by
  unfold countInbound at ran
  rw [get_bind] at ran
  split at ran
  · cases ran
  · cases ran
    exact .ofHeld (.refl _)

theorem flushWhileFull_ok {window fuel : Nat}
    (ran : flushWhileFull nodeId window fuel s = .ok () s') :
    ∃ kinds, Injected nodeId s [] kinds s' [] := by
  induction fuel generalizing s with
  | zero => cases ran
  | succ fuel ih =>
      unfold flushWhileFull at ran
      rw [get_bind] at ran
      split at ran
      · obtain ⟨_, m, flushed, ran⟩ := bind_ok.mp ran
        obtain ⟨first, injected⟩ := flushChunk_ok flushed
        obtain ⟨second, others⟩ := ih ran
        exact ⟨_, injected.trans others⟩
      · cases ran
        exact ⟨[], .refl nodeId _⟩

/-- A drained envelope is staged in the buffer or in the queue. -/
theorem stage_ok {env : WireEnvelope V} (ran : stage nodeId step env s = .ok () s') :
    ∃ kinds, Injected nodeId s [env] kinds s' [] := by
  unfold stage at ran
  rw [get_bind] at ran
  dsimp only at ran
  have recorded : ∃ kinds m, Injected nodeId s [] kinds m [] ∧ m.injector = s.injector ∧
      (if s.injector.activePolicy.reorderWindow ≤ 1 then
        appendPending [⟨env, saturatingAdd step s.injector.activePolicy.delaySteps⟩]
      else do
        updateInjector fun injector =>
          { injector with
            reorderBuf := injector.reorderBuf ++
              [⟨env, saturatingAdd step s.injector.activePolicy.delaySteps⟩] }
        flushWhileFull nodeId s.injector.activePolicy.reorderWindow
          (s.injector.reorderBuf.length + 2)) m = .ok () s' := by
    split at ran
    · obtain ⟨_, m, written, ran⟩ := bind_ok.mp ran
      cases recordEvent_ok written
      refine ⟨_, _, Injected.ofFaults ?_, rfl, ran⟩
      intro kind member
      cases List.mem_singleton.mp member
      exact ⟨rfl, rfl⟩
    · exact ⟨[], s, .refl nodeId s, rfl, ran⟩
  obtain ⟨kinds, m, before, same, ran⟩ := recorded
  split at ran
  · cases ran
    refine ⟨_, before.trans (Injected.ofEntering ?_)⟩
    simp only [FaultInjector.held]
    rw [← List.append_assoc]
    exact (List.perm_append_singleton _ _).map StagedInbound.env
  · rw [updateInjector_bind] at ran
    obtain ⟨others, flushed⟩ := flushWhileFull_ok ran
    have staged : Injected nodeId m [env] [] (m.setInjector { m.injector with
        reorderBuf := m.injector.reorderBuf ++
          [⟨env, saturatingAdd step s.injector.activePolicy.delaySteps⟩] }) [] := by
      refine .ofEntering ?_
      simp only [FaultInjector.held, List.append_assoc, List.singleton_append]
      exact List.perm_middle.map StagedInbound.env
    exact ⟨_, (before.trans staged).trans flushed⟩

theorem ingest_ok {env : WireEnvelope V} (ran : ingest nodeId step env s = .ok () s') :
    ∃ kinds, Injected nodeId s [env] kinds s' [] := by
  unfold ingest at ran
  obtain ⟨_, m, synced, ran⟩ := bind_ok.mp ran
  obtain ⟨_, n, counted, ran⟩ := bind_ok.mp ran
  obtain ⟨kinds, first⟩ := syncPolicy_ok synced
  have before := first.trans (countInbound_ok counted)
  rw [get_bind] at ran
  split at ran
  · cases recordEvent_ok ran
    exact ⟨_, before.trans (Injected.ofDrop nodeId n env)⟩
  · obtain ⟨others, staged⟩ := stage_ok ran
    exact ⟨_, before.trans staged⟩

/-- The releases of one step leave the queue in order. -/
theorem releaseDue_ok {released : List (WireEnvelope V)}
    (ran : releaseDue step s = .ok released s') : Injected nodeId s [] [] s' released := by
  cases ran
  let isDue (staged : StagedInbound V) : Bool := staged.releaseStep ≤ step
  let due := s.injector.pending.takeWhile isDue
  let later := s.injector.pending.dropWhile isDue
  have split : due ++ later = s.injector.pending := List.takeWhile_append_dropWhile
  have swapped : (due ++ later).Perm (later ++ due) := List.perm_append_comm
  rw [split] at swapped
  have whole : s.injector.held.Perm
      (FaultInjector.held { s.injector with pending := later } ++ due.map StagedInbound.env) := by
    simp only [FaultInjector.held, ← List.map_append]
    apply List.Perm.map
    rw [List.append_assoc]
    exact swapped.append_left _
  refine ⟨by simp, fun _ member => absurd member List.not_mem_nil, ?_, ?_⟩
  · intro key
    have same := (whole.map WireEnvelope.key).count_eq key
    rw [List.map_append, List.count_append] at same
    simpa [envKeys, takenKeys] using same
  · intro env place
    exact .inl (whole.mem_iff.mpr (List.mem_append.mpr place))

theorem ingestAll_ok {batch : List (WireEnvelope V)}
    (ran : (batch.forM fun env =>
      if env.toNode ≠ nodeId then pure () else ingest nodeId step env) s = .ok () s') :
    ∃ kinds, Injected nodeId s (batch.filter fun env => env.toNode = nodeId) kinds s' [] := by
  induction batch generalizing s with
  | nil =>
      cases ran
      exact ⟨[], .refl nodeId _⟩
  | cons env rest ih =>
      obtain ⟨_, m, here, later⟩ := bind_ok.mp ran
      obtain ⟨others, injected⟩ := ih later
      dsimp only at here
      split at here
      · rename_i foreign
        cases here
        refine ⟨others, ?_⟩
        rw [List.filter_cons_of_neg (by simpa using foreign)]
        exact injected
      · rename_i own
        obtain ⟨kinds, first⟩ := ingest_ok here
        refine ⟨kinds ++ others, ?_⟩
        rw [List.filter_cons_of_pos (by simpa using own)]
        exact first.trans injected

end Specifications

/-! ## A whole drain -/

def Core.receiveAll {V : Type} (core : Core V) (envs : List (WireEnvelope V)) : Core V :=
  envs.foldl (fun core env => core.receive env.toActor env.msgId env.payload) core

/-- The part of a batch addressed to the node. -/
def ownEnvelopes {V : Type} (nodeId : NodeId) (batch : List (WireEnvelope V)) :
    List (WireEnvelope V) :=
  batch.filter fun env => env.toNode = nodeId

/-- A successful drain: first `faults` are written, then the envelopes `received`
are handed to their actors. -/
structure Drained {V : Type} (nodeId : NodeId) (s : MainState V) (batch : List (WireEnvelope V))
    (faults : List (EventKind V)) (received : List (WireEnvelope V)) (s' : MainState V) :
    Prop where
  state : s' = ((s.logged (faults ++ received.map WireEnvelope.recvEvent)).setCore
    (s.core.receiveAll received)).setInjector s'.injector
  isFault : ∀ kind ∈ faults, kind.IsFault nodeId
  balance : ∀ key, (envKeys s.injector.held).count key +
      (envKeys (ownEnvelopes nodeId batch)).count key =
    (envKeys s'.injector.held).count key +
      (takenKeys (faults ++ received.map WireEnvelope.recvEvent)).count key
  source : ∀ env, env ∈ s'.injector.held ∨ env ∈ received →
    env ∈ s.injector.held ∨ env ∈ ownEnvelopes nodeId batch

theorem receiveAll_ok {V : Type} {envs : List (WireEnvelope V)} {s s' : MainState V}
    (ran : envs.forM receiveEnvelope s = .ok () s') :
    s' = (s.logged (envs.map WireEnvelope.recvEvent)).setCore (s.core.receiveAll envs) := by
  induction envs generalizing s with
  | nil =>
      cases ran
      simp [Core.receiveAll]
  | cons env rest ih =>
      obtain ⟨_, m, here, later⟩ := bind_ok.mp ran
      obtain ⟨_, n, recorded, here⟩ := bind_ok.mp here
      cases here
      cases recordEvent_ok recorded
      rw [ih later]
      simp [MainState.logged_logged, Core.receiveAll]

theorem drainNetwork_ok {V : Type} {nodeId : NodeId} {step : Nat}
    {batch : List (WireEnvelope V)} {s s' : MainState V}
    (ran : drainNetwork nodeId step batch s = .ok () s') :
    ∃ faults received, Drained nodeId s batch faults received s' := by
  obtain ⟨_, synced, first, ran⟩ := bind_ok.mp ran
  obtain ⟨_, ingested, second, ran⟩ := bind_ok.mp ran
  obtain ⟨_, flushed, third, ran⟩ := bind_ok.mp ran
  obtain ⟨received, due, fourth, ran⟩ := bind_ok.mp ran
  obtain ⟨_, syncing⟩ := syncPolicy_ok first
  obtain ⟨_, ingesting⟩ := ingestAll_ok second
  obtain ⟨_, flushing⟩ := flushRemainder_ok third
  have total := ((syncing.trans ingesting).trans flushing).trans (releaseDue_ok fourth)
  have final := receiveAll_ok ran
  simp only [List.append_nil, List.nil_append] at total
  refine ⟨_, received, ?_, total.faults, ?_, ?_⟩
  · rw [final, total.state]
    simp [MainState.logged_logged]
  · intro key
    have account := total.balance key
    rw [takenKeys_append, takenKeys_recvEvents, List.count_append, final]
    simp only [MainState.setCore_injector, MainState.logged_injector]
    unfold ownEnvelopes
    omega
  · intro env place
    rw [final] at place
    exact total.source env place

end UcoStack.Runtime
