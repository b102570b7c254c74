import UcoStack.Runtime.CoreOp

/-!
# A whole recording

The life of a node in record mode, from the launch to the end of the loop, as
one run of the node.  `Recording` holds what is known of a run that ended without
error: the startup events, the events of the loop, and the final core.
-/

namespace UcoStack.Runtime

open StateRun

/-! ## Startup in either mode -/

section Starting

variable {V : Type} {host : Host V} {site : Site} {mode : Mode}

theorem bootstrapAll_ok {entryActor : ActorId} {indices : List Nat}
    {emitted out : List (EventKind V)} {s s' : MainState V}
    (ran : indices.foldlM (bootstrapOne host site mode entryActor) emitted s = .ok out s') :
    ∃ kinds core, bootAll host site entryActor indices s.core = .ok (kinds, core) ∧
      s' = (s.emitted mode kinds).setCore core ∧ out = emitted ++ kinds := by
  induction indices generalizing emitted s with
  | nil =>
      cases ran
      exact ⟨[], _, rfl, by simp, by simp⟩
  | cons index rest ih =>
      rw [List.foldlM_cons] at ran
      obtain ⟨middle, m, here, later⟩ := bind_ok.mp ran
      obtain ⟨kinds, core, others, rfl, rfl⟩ := ih later
      unfold bootstrapOne at here
      rw [get_bind] at here
      dsimp only at here
      cases found : (s.core.allocate site.nodeId).2.actors.lookup entryActor with
      | none =>
          rw [found] at here
          cases here
      | some actor =>
          rw [found] at here
          dsimp only at here
          rw [updateCore_bind] at here
          obtain ⟨_, n, written, here⟩ := bind_ok.mp here
          cases here
          cases recordIn_ok written
          let msgId := (s.core.allocate site.nodeId).1
          refine ⟨[.send (systemActorId host) entryActor msgId
            (encodeMsg host (bootstrapMessage host site index msgId))] ++ kinds, core, ?_, ?_, ?_⟩
          · simp only [bootAll, found]
            rw [emitted_core, MainState.setCore_core] at others
            rw [others]
            rfl
          · rw [emitted_emitted, setCore_emitted, MainState.setCore_setCore]
          · exact List.append_assoc _ _ _

theorem enqueueBootstrap_ok {cfg : Config} {entryService : String} {out : List (EventKind V)}
    {s s' : MainState V}
    (ran : enqueueBootstrap host site mode cfg entryService s = .ok out s') :
    ∃ entryActor core, site.serviceToActor.lookup entryService = some entryActor ∧
      bootAll host site entryActor (List.range (bootstrapCount cfg)) s.core = .ok (out, core) ∧
      s' = (s.emitted mode out).setCore core := by
  unfold enqueueBootstrap at ran
  cases mapped : site.serviceToActor.lookup entryService with
  | none =>
      rw [mapped] at ran
      cases ran
  | some entryActor =>
      rw [mapped] at ran
      obtain ⟨kinds, core, booted, state, same⟩ := bootstrapAll_ok ran
      rw [List.nil_append] at same
      subst same
      exact ⟨entryActor, core, rfl, booted, state⟩

theorem recordInAll_ok {kinds : List (EventKind V)} {s s' : MainState V}
    (ran : kinds.forM (recordIn mode) s = .ok () s') : s' = s.emitted mode kinds := by
  induction kinds generalizing s with
  | nil =>
      cases ran
      simp
  | cons kind rest ih =>
      obtain ⟨_, m, here, later⟩ := bind_ok.mp ran
      rw [ih later, recordIn_ok here, emitted_emitted]
      rfl

end Starting

/-! ## The loop -/

section Looping

variable {V : Type} {host : Host V} {site : Site} {Wire : WireEnvelope V → Prop}

/-- The envelopes for this node that arrive in `count` steps from `step` on. -/
def arrivals (nodeId : NodeId) (inbound : Nat → List (WireEnvelope V)) (step count : Nat) :
    List (WireEnvelope V) :=
  (List.range' step count).flatMap fun index => ownEnvelopes nodeId (inbound index)

theorem arrivals_succ (nodeId : NodeId) (inbound : Nat → List (WireEnvelope V))
    (step count : Nat) :
    arrivals nodeId inbound step (count + 1) =
      ownEnvelopes nodeId (inbound step) ++ arrivals nodeId inbound (step + 1) count := by
  simp [arrivals, List.range'_succ]

variable (host site Wire) in
/-- The recorded steps one by one: quiet steps, then at most one delivery. -/
inductive Rounds : Nat → Core V → List (EventKind V) → Core V → Prop where
  | done (core : Core V) : Rounds 0 core [] core
  | idle {count : Nat} {core next final : Core V} {kinds rest : List (EventKind V)}
      (quiet : Run (QuietStep site Wire) core kinds next) (later : Rounds count next rest final) :
      Rounds (count + 1) core (kinds ++ rest) final
  | busy {count : Nat} {core next final : Core V} {kinds rest : List (EventKind V)}
      (quiet : Run (QuietStep site Wire) core kinds next) (step : Nat) (receiver : ActorId)
      (handled : Handled V)
      (handles : handleDelivery host site step receiver next = .ok handled)
      (later : Rounds count handled.core rest final) :
      Rounds (count + 1) core
        (kinds ++ (.deliver site.nodeId receiver handled.msgId :: handled.events) ++ rest) final

/-- The run lemma of the loop: every step is a run of the node. -/
theorem recordLoop_ok [DecidableEq V] {inbound : Nat → List (WireEnvelope V)} {step count : Nat}
    {s s' : MainState V} (holds : s.Holds Wire)
    (admitted : ∀ env ∈ arrivals site.nodeId inbound step count, Wire env)
    (ran : recordLoop host site inbound step count s = .ok () s') :
    ∃ kinds sent, Recorded (NodeStep host site Wire) s (arrivals site.nodeId inbound step count)
        kinds sent s' ∧ Rounds host site Wire count s.core kinds s'.core := by
  induction count generalizing step s with
  | zero =>
      cases ran
      exact ⟨[], [], .refl _ _, .done _⟩
  | succ count ih =>
      rw [arrivals_succ] at admitted ⊢
      obtain ⟨_, m, here, later⟩ := bind_ok.mp ran
      have now : ∀ env ∈ ownEnvelopes site.nodeId (inbound step), Wire env :=
        fun env member => admitted env (List.mem_append_left _ member)
      obtain ⟨quiet, sent, n, quieted, outcome⟩ := recordStep_ok holds now here
      have quietStep (core : Core V) (kinds : List (EventKind V)) (final : Core V)
          (step : QuietStep site Wire core kinds final) : NodeStep host site Wire core kinds final :=
        .quiet step
      have quietRun := quieted.mono quietStep
      have others : ∀ env ∈ arrivals site.nodeId inbound (step + 1) count, Wire env :=
        fun env member => admitted env (List.mem_append_right _ member)
      rcases outcome with rfl | ⟨receiver, handled, sent', handles, reached, delivered⟩
      · obtain ⟨kinds, sent', loop, rounds⟩ := ih (quieted.holds holds now) others later
        exact ⟨_, _, quietRun.trans loop, .idle quieted.run rounds⟩
      · have whole := quietRun.trans delivered
        rw [List.append_nil] at whole
        obtain ⟨kinds, sent'', loop, rounds⟩ := ih (whole.holds holds now) others later
        rw [reached] at rounds
        exact ⟨_, _, whole.trans loop, .busy quieted.run step receiver handled handles rounds⟩

end Looping

/-! ## The whole run -/

/-- A run in record mode that ended without error in `st`. -/
structure Recording {V : Type} (host : Host V) (program : Program) (cfg : Config)
    (inbound : Nat → List (WireEnvelope V)) (Wire : WireEnvelope V → Prop) (st : MainState V) where
  launched : Launch V
  entryActor : ActorId
  boots : List (EventKind V)
  booted : Core V
  kinds : List (EventKind V)
  sent : List (WireEnvelope V)
  launches : launch host program cfg = .ok launched
  entry : launched.site.serviceToActor.lookup launched.entryService = some entryActor
  boot : bootAll host launched.site entryActor (List.range (bootstrapCount cfg))
    (.initial launched.actors) = .ok (boots, booted)
  loop : Recorded (NodeStep host launched.site Wire)
    (((MainState.initial .record cfg launched.actors []).logged
      (spawnList host cfg.nodeId program.services ++ boots)).setCore booted)
    (arrivals cfg.nodeId inbound 0 cfg.steps) kinds sent st
  rounds : Rounds host launched.site Wire cfg.steps booted kinds st.core

section Record

variable {V : Type} [DecidableEq V] {host : Host V} {program : Program} {cfg : Config}
  {inbound : Nat → List (WireEnvelope V)} {Wire : WireEnvelope V → Prop} {st : MainState V}

theorem startup_record_ok {launched : Launch V} (ready : Launched host program cfg launched)
    {s s' : MainState V}
    (ran : startup host launched.site .record cfg launched.entryService s = .ok () s') :
    ∃ entryActor boots booted,
      launched.site.serviceToActor.lookup launched.entryService = some entryActor ∧
      bootAll host launched.site entryActor (List.range (bootstrapCount cfg)) s.core =
        .ok (boots, booted) ∧
      s' = (s.logged (spawnList host cfg.nodeId program.services ++ boots)).setCore booted := by
  unfold startup at ran
  rw [spawnEvents_eq ready] at ran
  obtain ⟨spawned, m, same, ran⟩ := bind_ok.mp ran
  cases same
  obtain ⟨_, n, written, ran⟩ := bind_ok.mp ran
  obtain ⟨boots, o, bootstrap, ran⟩ := bind_ok.mp ran
  cases ran
  cases recordInAll_ok written
  obtain ⟨entryActor, booted, entry, boot, rfl⟩ := enqueueBootstrap_ok bootstrap
  exact ⟨entryActor, boots, booted, entry, boot, by
    simp [MainState.emitted, MainState.logged_logged]⟩

theorem record_ok (admitted : ∀ env ∈ arrivals cfg.nodeId inbound 0 cfg.steps, Wire env)
    (ran : record host program cfg inbound = .ok () st) :
    Nonempty (Recording host program cfg inbound Wire st) := by
  unfold record at ran
  split at ran
  · cases ran
  · rename_i launched launches
    have ready := launch_launched launches
    obtain ⟨_, m, starting, looping⟩ := bind_ok.mp ran
    obtain ⟨entryActor, boots, booted, entry, boot, rfl⟩ := startup_record_ok ready starting
    rw [← ready.nodeId_eq] at admitted
    have nothingHeld : (((MainState.initial .record cfg launched.actors []).logged
        (spawnList host cfg.nodeId program.services ++ boots)).setCore booted).Holds Wire :=
      fun env member => absurd member List.not_mem_nil
    obtain ⟨kinds, sent, loop, rounds⟩ := recordLoop_ok nothingHeld admitted looping
    rw [ready.nodeId_eq] at loop
    exact ⟨⟨launched, entryActor, boots, booted, kinds, sent, launches, entry, boot, loop, rounds⟩⟩

end Record

end UcoStack.Runtime
