import UcoStack.Runtime.Identifiers
import UcoStack.Runtime.Recording
import UcoStack.Runtime.Safety

/-!
# Every outcome of a recorded step

A node that fails half-way through a step has already changed its core and may
have handed messages to the network.  Whatever the outcome, the core changed by
elementary operations only, and what was sent are envelopes of new messages.
-/

namespace UcoStack.Runtime

open StateRun

section Relations

variable {V : Type}

/-- Neither the core nor the network was touched. -/
structure Rests (s s' : MainState V) : Prop where
  core : s'.core = s.core
  sent : s'.sent = s.sent
  seq : s.seq ≤ u64Max → s'.seq ≤ u64Max

instance : IsPreorder (MainState V) Rests where
  refl _ := ⟨rfl, rfl, id⟩
  trans _ _ _ first second :=
    ⟨second.core.trans first.core, second.sent.trans first.sent, fun bound =>
      second.seq (first.seq bound)⟩

/-- Only envelopes of the messages produced in between were handed to the network. -/
def Sends (s s' : MainState V) : Prop :=
  ∃ made sent, s'.core.history = s.core.history ++ made ∧ s'.sent = s.sent ++ sent ∧
    sent.Sublist (made.filterMap Produced.envelope)

theorem Sends.trans {s m s' : MainState V} (first : Sends s m) (second : Sends m s') :
    Sends s s' := by
  obtain ⟨made, sent, history, outgoing, sublist⟩ := first
  obtain ⟨made', sent', history', outgoing', sublist'⟩ := second
  refine ⟨made ++ made', sent ++ sent', ?_, ?_, ?_⟩
  · rw [history', history, List.append_assoc]
  · rw [outgoing', outgoing, List.append_assoc]
  · rw [List.filterMap_append]
    exact sublist.append sublist'

/-- Messages may be produced without being sent. -/
theorem Sends.ofHistory {s s' : MainState V} {made : List (Produced V)}
    (history : s'.core.history = s.core.history ++ made) (sent : s'.sent = s.sent) :
    Sends s s' :=
  ⟨made, [], history, by rw [sent, List.append_nil], List.nil_sublist _⟩

variable (host : Host V) (site : Site) (Wire : WireEnvelope V → Prop) (entryActor : ActorId)

structure Advances (s s' : MainState V) : Prop where
  run : ∃ kinds, Run (CoreOp host site Wire entryActor) s.core kinds s'.core
  sends : Sends s s'
  seq : s.seq ≤ u64Max → s'.seq ≤ u64Max

variable {host site Wire entryActor}

theorem Rests.advances {s s' : MainState V} (rests : Rests s s') :
    Advances host site Wire entryActor s s' where
  run := ⟨[], by rw [rests.core]; exact .refl s.core⟩
  sends := .ofHistory (by rw [rests.core, List.append_nil]) rests.sent
  seq := rests.seq

instance : IsPreorder (MainState V) (Advances host site Wire entryActor) where
  refl s := (refl_of Rests s).advances
  trans s m s' first second := by
    obtain ⟨kinds, before⟩ := first.run
    obtain ⟨kinds', after⟩ := second.run
    exact ⟨⟨kinds ++ kinds', before.trans after⟩, first.sends.trans second.sends, fun bound =>
      second.seq (first.seq bound)⟩

/-- An operation that sends nothing. -/
theorem Advances.ofOp {s s' : MainState V} {kinds : List (EventKind V)}
    (op : CoreOp host site Wire entryActor s.core kinds s'.core) (sent : s'.sent = s.sent)
    (seq : s'.seq = s.seq) : Advances host site Wire entryActor s s' where
  run := ⟨kinds, .single op⟩
  sends := by
    rcases op.history_cases with ⟨same, _⟩ | ⟨payload, cause, envelope, longer, _⟩
    · have nothing : s'.core.history = s.core.history ++ [] := by rw [same, List.append_nil]
      exact .ofHistory nothing sent
    · exact .ofHistory longer sent
  seq := fun bound => seq ▸ bound

end Relations

/-! ## Draining the network -/

section Draining

variable {V : Type} {nodeId : NodeId} {R : MainState V → MainState V → Prop}

/-- The relation holds across the changes of the fault injector and across its events. -/
structure IgnoresInjector (nodeId : NodeId) (R : MainState V → MainState V → Prop) : Prop where
  update : ∀ change, Moves R (updateInjector change)
  fault : ∀ env action, Moves R (recordEvent (faultEvent nodeId env action))
  policy : ∀ (injector : FaultInjector V) (step : Nat),
    Moves R (recordEvent (injector.policyEvent nodeId step))

variable (ignores : IgnoresInjector nodeId R)

include ignores

theorem recordPolicyEvent_moves (step : Nat) : Moves R (recordPolicyEvent nodeId step) :=
  .get_bind fun s => ignores.policy s.injector step s

theorem appendPending_moves (chunk : List (StagedInbound V)) : Moves R (appendPending chunk) :=
  ignores.update _

variable [IsPreorder (MainState V) R]

theorem flushChunk_moves (window : Nat) : Moves R (flushChunk nodeId window) := by
  refine .get_bind fun s => ?_
  split
  · exact refl_of R s
  · refine Moves.bind (ignores.update _) (fun _ => ?_) s
    split
    · exact .bind (.forM fun staged => ignores.fault _ _) fun _ => appendPending_moves ignores _
    · exact appendPending_moves ignores _

theorem flushRemainderWithWindow_moves (window : Nat) :
    Moves R (flushRemainderWithWindow nodeId window) := by
  refine .get_bind fun s => ?_
  split
  · exact refl_of R s
  · split
    · exact refl_of R s
    · exact flushChunk_moves ignores window s

theorem flushRemainder_moves : Moves R (flushRemainder nodeId) :=
  .get_bind fun s => flushRemainderWithWindow_moves ignores _ s

theorem syncPolicy_moves (step : Nat) : Moves R (syncPolicy nodeId step) := by
  refine .get_bind fun s => ?_
  split
  · exact Moves.bind (ignores.update _) (fun _ =>
      .bind (recordPolicyEvent_moves ignores step) fun _ => ignores.update _) s
  · dsimp only
    split
    · exact refl_of R s
    · exact Moves.bind (flushRemainderWithWindow_moves ignores _) (fun _ =>
        .bind (ignores.update _) fun _ => recordPolicyEvent_moves ignores step) s

theorem countInbound_moves : Moves R countInbound := by
  refine .get_bind fun s => ?_
  split
  · exact refl_of R s
  · exact ignores.update _ s

theorem flushWhileFull_moves (window fuel : Nat) :
    Moves R (flushWhileFull nodeId window fuel) := by
  induction fuel with
  | zero => exact .throw _
  | succ fuel ih =>
      refine .get_bind fun s => ?_
      split
      · exact Moves.bind (flushChunk_moves ignores window) (fun _ => ih) s
      · exact refl_of R s

theorem stage_moves (step : Nat) (env : WireEnvelope V) : Moves R (stage nodeId step env) := by
  refine .get_bind fun s => ?_
  have buffered : Moves R
      (if s.injector.activePolicy.reorderWindow ≤ 1 then
        appendPending [⟨env, saturatingAdd step s.injector.activePolicy.delaySteps⟩]
      else do
        updateInjector fun injector =>
          { injector with
            reorderBuf := injector.reorderBuf ++
              [⟨env, saturatingAdd step s.injector.activePolicy.delaySteps⟩] }
        flushWhileFull nodeId s.injector.activePolicy.reorderWindow
          (s.injector.reorderBuf.length + 2)) := by
    split
    · exact appendPending_moves ignores _
    · exact .bind (ignores.update _) fun _ => flushWhileFull_moves ignores _ _
  dsimp only
  split
  · exact Moves.bind (ignores.fault _ _) (fun _ => buffered) s
  · exact buffered s

theorem ingest_moves (step : Nat) (env : WireEnvelope V) :
    Moves R (ingest nodeId step env) := by
  refine .bind (syncPolicy_moves ignores step) fun _ => .bind (countInbound_moves ignores) fun _ =>
    .get_bind fun s => ?_
  split
  · exact ignores.fault env .drop s
  · exact stage_moves ignores step env s

theorem ingestAll_moves (step : Nat) (batch : List (WireEnvelope V)) :
    Moves R (batch.forM fun env =>
      if env.toNode ≠ nodeId then pure () else ingest nodeId step env) := by
  refine .forM fun env => ?_
  split
  · exact .pure ()
  · exact ingest_moves ignores step env

theorem releaseDue_moves (step : Nat) : Moves R (releaseDue step) :=
  .get_bind fun s => Moves.bind (ignores.update _) (fun _ => .pure _) s

/-- What is kept across the injector and across every arrival is kept by a drain. -/
theorem drainNetwork_moves (receives : ∀ env, Moves R (receiveEnvelope env)) (step : Nat)
    (batch : List (WireEnvelope V)) : Moves R (drainNetwork nodeId step batch) :=
  .bind (syncPolicy_moves ignores step) fun _ => .bind (ingestAll_moves ignores step batch)
    fun _ => .bind (flushRemainder_moves ignores) fun _ => .bind (releaseDue_moves ignores step)
      fun _ => .forM receives

end Draining

section Resting

variable {V : Type}

theorem recordEvent_rests (kind : EventKind V) : Moves Rests (recordEvent kind) := by
  intro s
  unfold recordEvent
  split
  · exact refl_of Rests s
  · rename_i below
    have room : s.seq ≤ u64Max → s.seq + 1 ≤ u64Max := by omega
    split
    · exact ⟨rfl, rfl, room⟩
    · exact ⟨rfl, rfl, room⟩

theorem rests_ignoresInjector (nodeId : NodeId) : IgnoresInjector nodeId (Rests (V := V)) where
  update := fun _ _ => ⟨rfl, rfl, id⟩
  fault := fun _ _ => recordEvent_rests _
  policy := fun _ _ => recordEvent_rests _

end Resting

/-! ## The parts of a step -/

section Parts

variable {V : Type} {host : Host V} {site : Site} {Wire : WireEnvelope V → Prop}
  {entryActor : ActorId}

theorem receiveAll_advances {envs : List (WireEnvelope V)} (arrived : ∀ env ∈ envs, Wire env)
    (s : MainState V) :
    Advances host site Wire entryActor s (finalState (envs.forM receiveEnvelope s)) := by
  induction envs generalizing s with
  | nil => exact refl_of _ s
  | cons env rest ih =>
      have here : Advances host site Wire entryActor s (finalState (receiveEnvelope env s)) := by
        refine moves_bind (recordEvent_rests _ s).advances fun _ m _ => ?_
        exact .ofOp (.receive env (arrived env List.mem_cons_self)) rfl rfl
      exact moves_bind here fun _ m _ =>
        ih (fun other member => arrived other (List.mem_cons_of_mem env member)) m

theorem drainNetwork_advances {step : Nat} {batch : List (WireEnvelope V)} {s : MainState V}
    (holds : s.Holds Wire) (admitted : ∀ env ∈ ownEnvelopes site.nodeId batch, Wire env) :
    Advances host site Wire entryActor s
      (finalState (drainNetwork site.nodeId step batch s)) := by
  have rests := rests_ignoresInjector (V := V) site.nodeId
  refine moves_bind (syncPolicy_moves rests step s).advances fun _ synced first => ?_
  refine moves_bind (ingestAll_moves rests step batch synced).advances fun _ ingested second => ?_
  refine moves_bind (flushRemainder_moves rests ingested).advances fun _ flushed third => ?_
  refine moves_bind (releaseDue_moves rests step flushed).advances fun released due fourth => ?_
  obtain ⟨_, syncing⟩ := syncPolicy_ok first
  obtain ⟨_, ingesting⟩ := ingestAll_ok second
  obtain ⟨_, flushing⟩ := flushRemainder_ok third
  have whole := ((syncing.trans ingesting).trans flushing).trans (releaseDue_ok fourth)
  refine receiveAll_advances (fun env member => ?_) due
  rcases whole.source env (.inr (by simpa using member)) with held | arrived
  · exact holds env held
  · exact admitted env (by simpa [ownEnvelopes] using arrived)

/-- Firing one timer changes nothing, or dispatches its message. -/
theorem fireTimer_outcome (site : Site) (timer : PendingTimer V) (s : MainState V) :
    Rests s (finalState (fireTimer site timer s)) ∨
      ∃ dispatched, routeOutgoing site timer.fromActor timer.target timer.payload timer.cause
          s.core = .ok dispatched ∧
        Rests ((s.setCore dispatched.core).addSent (dispatched.sends site .record))
          (finalState (fireTimer site timer s)) := by
  have recorded := recordEvent_rests (timer.firedEvent site) s
  unfold fireTimer
  rw [bind_apply]
  cases fired : recordEvent (timer.firedEvent site) s with
  | error error m =>
      rw [fired] at recorded
      exact .inl recorded
  | ok _ m =>
      rw [fired] at recorded
      cases recordEvent_ok fired
      dsimp only
      rw [bind_apply, dispatchOutgoing_eq]
      cases routed : routeOutgoing site timer.fromActor timer.target timer.payload timer.cause
          (s.logged [timer.firedEvent site]).core with
      | error error => exact .inl recorded
      | ok dispatched =>
          refine .inr ⟨dispatched, routed, ?_⟩
          have last := recordEvent_rests dispatched.event
            (((s.logged [timer.firedEvent site]).setCore dispatched.core).addSent
              (dispatched.sends site .record))
          exact ⟨last.core, last.sent, fun bound => last.seq (recorded.seq bound)⟩

theorem Dispatched.sends_sublist (site : Site) (mode : Mode) (dispatched : Dispatched V) :
    (dispatched.sends site mode).Sublist dispatched.envelope.toList := by
  unfold Dispatched.sends
  split
  · rename_i env found
    rw [found]
    split
    · exact List.Sublist.refl _
    · exact List.nil_sublist _
  · exact List.nil_sublist _

/-- A dispatched message is new, and at most its own envelope is sent. -/
theorem routeOutgoing_sends {fromActor : ActorId} {target : Target} {payload : V}
    {cause : MsgId × V} {s : MainState V} {dispatched : Dispatched V} (mode : Mode)
    (routed : routeOutgoing site fromActor target payload cause s.core = .ok dispatched) :
    Sends s ((s.setCore dispatched.core).addSent (dispatched.sends site mode)) := by
  refine ⟨_, _, (routeOutgoing_routed routed).history, rfl, ?_⟩
  have only := dispatched.sends_sublist site mode
  cases has : dispatched.envelope with
  | none => rwa [has] at only
  | some env => rwa [has] at only

/-- `core` is the core of `s` while the timers `due` are still pending. -/
structure Awaits (due : List (PendingTimer V)) (core : Core V) (s : MainState V) : Prop where
  same : core.setTimers s.core.pendingTimers = s.core
  pending : core.pendingTimers.Perm (due ++ s.core.pendingTimers)

/-- The timers the loop does not reach are forgotten. -/
theorem Awaits.forget {due : List (PendingTimer V)} {core : Core V} {s : MainState V}
    (awaits : Awaits due core s) : Run (CoreOp host site Wire entryActor) core [] s.core := by
  have fewer : s.core.pendingTimers.Subperm core.pendingTimers :=
    (List.sublist_append_right due _).subperm.trans awaits.pending.symm.subperm
  have stop : CoreOp host site Wire entryActor core [] (core.setTimers s.core.pendingTimers) :=
    .setTimers _ fewer
  rw [awaits.same] at stop
  exact .single stop

theorem fireTimer_awaits {timer : PendingTimer V} {rest : List (PendingTimer V)} {core : Core V}
    {s : MainState V} (awaits : Awaits (timer :: rest) core s) :
    ∃ kinds next, Run (CoreOp host site Wire entryActor) core kinds next ∧
      Awaits rest next (finalState (fireTimer site timer s)) := by
  let waiting := rest ++ s.core.pendingTimers
  rcases fireTimer_outcome site timer s with rests | ⟨dispatched, routed, rests⟩
  · have fewer : waiting.Subperm core.pendingTimers :=
      (List.sublist_cons_self timer waiting).subperm.trans awaits.pending.symm.subperm
    refine ⟨_, _, .single (.setTimers waiting fewer), ?_, ?_⟩
    · rw [rests.core]
      exact awaits.same
    · rw [rests.core]
      exact .refl _
  · obtain ⟨routedRest, kept⟩ := routeOutgoing_setTimers site waiting routed
    have sameRest : core.setTimers waiting = s.core.setTimers waiting := by
      rw [← awaits.same]
      rfl
    rw [← sameRest] at routedRest
    refine ⟨_, _, .single (.fire timer waiting
      { dispatched with core := dispatched.core.setTimers waiting } awaits.pending routedRest),
      ?_, ?_⟩
    · rw [rests.core]
      rfl
    · rw [rests.core]
      change waiting.Perm (rest ++ dispatched.core.pendingTimers)
      rw [kept]

theorem fireTimer_sends (site : Site) (timer : PendingTimer V) (s : MainState V) :
    Sends s (finalState (fireTimer site timer s)) ∧
      (s.seq ≤ u64Max → (finalState (fireTimer site timer s)).seq ≤ u64Max) := by
  rcases fireTimer_outcome site timer s with rests | ⟨dispatched, routed, rests⟩
  · exact ⟨.ofHistory (by rw [rests.core, List.append_nil]) rests.sent, rests.seq⟩
  · obtain ⟨made, sent, history, outgoing, sublist⟩ :=
      routeOutgoing_sends .record routed
    exact ⟨⟨made, sent, by rw [rests.core]; exact history, by rw [rests.sent]; exact outgoing,
      sublist⟩, rests.seq⟩

theorem fireAll_advances {due : List (PendingTimer V)} {s : MainState V} {core : Core V}
    (awaits : Awaits due core s) :
    (∃ kinds, Run (CoreOp host site Wire entryActor) core kinds
        (finalState (due.forM (fireTimer site) s)).core) ∧
      Sends s (finalState (due.forM (fireTimer site) s)) ∧
      (s.seq ≤ u64Max → (finalState (due.forM (fireTimer site) s)).seq ≤ u64Max) := by
  induction due generalizing s core with
  | nil => exact ⟨⟨[], awaits.forget⟩, .ofHistory (List.append_nil _).symm rfl, id⟩
  | cons timer rest ih =>
      obtain ⟨kinds, next, run, awaitsNext⟩ := fireTimer_awaits awaits
      obtain ⟨sends, seq⟩ := fireTimer_sends site timer s
      have loop : (timer :: rest).forM (fireTimer site) s =
          (fireTimer site timer >>= fun _ => rest.forM (fireTimer site)) s := rfl
      rw [loop, bind_apply]
      cases fired : fireTimer site timer s with
      | error error m =>
          rw [fired] at awaitsNext sends seq
          exact ⟨⟨_, run.trans awaitsNext.forget⟩, sends, seq⟩
      | ok _ m =>
          rw [fired] at awaitsNext sends seq
          obtain ⟨⟨kinds', others⟩, sends', seq'⟩ := ih awaitsNext
          exact ⟨⟨_, run.trans others⟩, sends.trans sends', fun bound => seq' (seq bound)⟩

theorem fireDueTimers_advances (step : Nat) :
    Moves (Advances host site Wire entryActor) (fireDueTimers site step) := by
  refine .get_bind fun s => ?_
  let rest := s.core.pendingTimers.filter fun timer => !timerDue step timer
  let start := s.setCore (s.core.setTimers rest)
  have awaits : Awaits (dueTimers step s.core.pendingTimers) s.core start :=
    ⟨rfl, dueTimers_perm step s.core.pendingTimers⟩
  obtain ⟨run, sends, seq⟩ := @fireAll_advances _ host site Wire entryActor _ _ _ awaits
  exact ⟨run, sends, seq⟩

/-- One outgoing message that answers a delivered one. -/
theorem sendOutgoing_advances {step : Nat} {actorId : ActorId} {cause : MsgId × V}
    {out : Outgoing V} {s : MainState V} (expected : List (EventKind V))
    (delivered : cause ∈ s.core.delivered)
    (answers : Answers host site cause out.target out.payload) :
    Advances host site Wire entryActor s
      (finalState (sendOutgoing site .record step actorId cause expected out s)) := by
  unfold sendOutgoing
  split
  · exact .ofOp (.schedule step actorId cause out delivered answers) rfl rfl
  · rw [bind_apply, dispatchOutgoing_eq]
    cases routed : routeOutgoing site actorId out.target out.payload cause s.core with
    | error error => exact refl_of _ s
    | ok dispatched =>
        let sent := (s.setCore dispatched.core).addSent (dispatched.sends site .record)
        have sends : Advances host site Wire entryActor s sent := by
          refine ⟨⟨[dispatched.event], .single ?_⟩, routeOutgoing_sends .record routed, id⟩
          exact .send actorId out.target out.payload cause dispatched delivered answers routed
        have emits : Moves Rests (emit .record expected dispatched.event) :=
          .bind (recordEvent_rests _) fun _ => .pure _
        exact trans_of _ sends (emits sent).advances

theorem sendOutgoing_delivered {step : Nat} {actorId : ActorId} {cause : MsgId × V}
    {out : Outgoing V} {s s' : MainState V} {expected expected' : List (EventKind V)}
    (ran : sendOutgoing site .record step actorId cause expected out s = .ok expected' s') :
    s'.core.delivered = s.core.delivered := by
  unfold sendOutgoing at ran
  split at ran
  · cases ran
    rfl
  · obtain ⟨event, m, dispatching, emitting⟩ := bind_ok.mp ran
    obtain ⟨dispatched, routed, rfl, rfl⟩ := dispatchOutgoing_ok.mp dispatching
    obtain ⟨rfl, _⟩ := emit_ok emitting
    exact routeOutgoing_delivered routed

theorem sendOutbox_advances {step : Nat} {actorId : ActorId} {cause : MsgId × V}
    {outbox : List (Outgoing V)} {s : MainState V} (expected : List (EventKind V))
    (delivered : cause ∈ s.core.delivered)
    (answers : ∀ out ∈ outbox, Answers host site cause out.target out.payload) :
    Advances host site Wire entryActor s
      (finalState (outbox.foldlM (sendOutgoing site .record step actorId cause) expected s)) := by
  induction outbox generalizing expected s with
  | nil => exact refl_of _ s
  | cons out rest ih =>
      rw [List.foldlM_cons]
      have here := answers out List.mem_cons_self
      refine moves_bind (sendOutgoing_advances expected delivered here) fun expected' m ran => ?_
      rw [← sendOutgoing_delivered ran] at delivered
      exact ih expected' delivered fun other member => answers other (List.mem_cons_of_mem out member)

theorem emitExecuted_advances {step : Nat} {popped : Popped V} {incoming : RuntimeMessage}
    {executed : Executed V} {s : MainState V}
    (delivered : (popped.msgId, popped.payload) ∈ s.core.delivered)
    (answers : ∀ out ∈ executed.ctx.outbox,
      Answers host site (popped.msgId, popped.payload) out.target out.payload) :
    Advances host site Wire entryActor s
      (finalState (emitExecuted site .record step popped incoming executed s)) := by
  have emits (expected : List (EventKind V)) (event : EventKind V) :
      Moves Rests (emit .record expected event) :=
    .bind (recordEvent_rests _) fun _ => .pure _
  refine moves_bind (emits _ _ s).advances fun expected m observing => ?_
  have logs : Moves Rests (executed.ctx.logs.foldlM
      (fun expected log => emit .record expected (logEvent site popped log)) expected) :=
    .foldlM (fun expected log => emits expected _) expected
  refine moves_bind (logs m).advances fun expected' n logging => ?_
  have core : n.core = s.core := by
    obtain ⟨rfl, _⟩ := emit_ok observing
    obtain ⟨rfl, _⟩ := emitAll_ok logging
    rfl
  exact sendOutbox_advances expected' (core.symm ▸ delivered) answers

/-- The part of a delivery after the message was taken. -/
theorem runHandler_advances (accepted : Accepted host site.program) {step : Nat}
    {popped : Popped V} {incoming : RuntimeMessage} {s : MainState V}
    (declared : popped.service ∈ site.program.services)
    (decoded : decodeMsg host popped.payload = some incoming)
    (delivered : (popped.msgId, popped.payload) ∈ s.core.delivered) :
    Advances host site Wire entryActor s (finalState ((runHandler host site popped incoming >>=
      emitExecuted site .record step popped incoming) s)) := by
  rw [bind_apply]
  cases handling : runHandler host site popped incoming s with
  | error error m =>
      have same : m = s := by
        unfold runHandler at handling
        rw [get_bind] at handling
        cases found : s.core.actors.lookup popped.actorId with
        | none =>
            rw [found] at handling
            cases handling
            rfl
        | some actor =>
            rw [found] at handling
            dsimp only at handling
            cases execution : executeActions host popped.service popped.msgId incoming site.peers
                site.program actor.state (.new site.nodeId) with
            | error error =>
                rw [execution] at handling
                cases handling
                rfl
            | ok result =>
                rw [execution] at handling
                cases handling
      rw [same]
      exact refl_of _ s
  | ok executed m =>
      obtain ⟨actor, found, execution, rfl⟩ := runHandler_ok handling
      have writes : Advances host site Wire entryActor s
          (s.setCore (s.core.setActor popped.actorId { actor with state := executed.state })) :=
        .ofOp (.write popped.actorId actor executed.state found (executeActions_keys execution))
          rfl rfl
      let message : MsgId × V := (popped.msgId, popped.payload)
      have answers : ∀ out ∈ executed.ctx.outbox,
          Answers host site message out.target out.payload :=
        executeActions_answers accepted declared decoded execution
      exact trans_of _ writes (emitExecuted_advances delivered answers)

theorem processMessage_advances (accepted : Accepted host site.program) {step : Nat}
    {chosen : PendingDelivery} {s : MainState V} (hosts : s.core.Hosts host site.program) :
    Advances host site Wire entryActor s
      (finalState (processMessage host site .record step chosen s)) := by
  unfold processMessage
  rw [bind_apply]
  cases popping : popInbox chosen.receiver s with
  | error error m =>
      have same : m = s := by
        unfold popInbox at popping
        rw [get_bind] at popping
        cases found : s.core.actors.lookup chosen.receiver with
        | none =>
            rw [found] at popping
            cases popping
            rfl
        | some actor =>
            rw [found] at popping
            dsimp only at popping
            cases inbox : actor.inbox with
            | nil =>
                rw [inbox] at popping
                cases popping
                rfl
            | cons message rest =>
                rw [inbox] at popping
                cases popping
      rw [same]
      exact refl_of _ s
  | ok popped m =>
      obtain ⟨actor, rest, found, inbox, same, rfl⟩ := popInbox_ok popping
      let message : MsgId × V := (popped.msgId, popped.payload)
      have pops : Advances host site Wire entryActor s
          (s.setCore (s.core.pop chosen.receiver actor message rest)) :=
        .ofOp (.pop chosen.receiver actor message rest found inbox) rfl rfl
      have declared : popped.service ∈ site.program.services := by
        rw [same]
        exact (hosts.hosted chosen.receiver actor found).service_mem
      have delivered : message ∈ (s.core.pop chosen.receiver actor message rest).delivered :=
        List.mem_append_right s.core.delivered List.mem_cons_self
      apply trans_of _ pops
      dsimp only
      rw [if_neg (fun both => nomatch both.1)]
      cases decoded : decodeMsg host popped.payload with
      | none => exact refl_of _ _
      | some incoming => exact runHandler_advances accepted declared decoded delivered

theorem deliver_advances [DecidableEq V] (accepted : Accepted host site.program) {step : Nat}
    {chosen : PendingDelivery} {s : MainState V} (hosts : s.core.Hosts host site.program) :
    Advances host site Wire entryActor s
      (finalState (deliver host site .record step chosen s)) := by
  refine moves_bind (recordEvent_rests _ s).advances fun _ m recorded => ?_
  have core : m.core = s.core := by
    rw [recordEvent_ok recorded]
    rfl
  refine moves_bind (processMessage_advances accepted (core.symm ▸ hosts)) fun _ n _ => ?_
  exact refl_of _ n

theorem Advances.hosts {s s' : MainState V} (advances : Advances host site Wire entryActor s s')
    (hosts : s.core.Hosts host site.program) : s'.core.Hosts host site.program := by
  obtain ⟨kinds, run⟩ := advances.run
  exact CoreRun.hosts run hosts

/-- However a recorded step ends, it is a run of elementary operations. -/
theorem recordStep_advances [DecidableEq V] (accepted : Accepted host site.program) {step : Nat}
    {batch : List (WireEnvelope V)} {s : MainState V} (hosts : s.core.Hosts host site.program)
    (holds : s.Holds Wire) (admitted : ∀ env ∈ ownEnvelopes site.nodeId batch, Wire env) :
    Advances host site Wire entryActor s (finalState (recordStep host site step batch s)) := by
  have drains : Advances host site Wire entryActor s
      (finalState (drainNetwork site.nodeId step batch s)) := drainNetwork_advances holds admitted
  refine moves_bind drains fun _ m drained => ?_
  have fires : Advances host site Wire entryActor m (finalState (fireDueTimers site step m)) :=
    fireDueTimers_advances step m
  refine moves_bind fires fun _ n fired => ?_
  rw [drained] at drains
  rw [fired] at fires
  rw [get_bind]
  cases chooseNextDeterministic (pendingDeliveries site.nodeId n.core) with
  | none => exact refl_of _ n
  | some chosen => exact deliver_advances accepted (fires.hosts (drains.hosts hosts))

/-! ## Startup -/

theorem bootstrapOne_advances (emitted : List (EventKind V)) (index : Nat) :
    Moves (Advances host site Wire entryActor)
      (bootstrapOne host site .record entryActor emitted index) := by
  refine .get_bind fun s => ?_
  dsimp only
  cases found : (s.core.allocate site.nodeId).2.actors.lookup entryActor with
  | none => exact refl_of _ s
  | some actor =>
      dsimp only
      rw [updateCore_bind]
      let msgId := (s.core.allocate site.nodeId).1
      let payload := encodeMsg host (bootstrapMessage host site index msgId)
      let booted := s.setCore (((s.core.allocate site.nodeId).2.enqueue entryActor actor msgId
        payload).produce msgId payload none none)
      have boots : Advances host site Wire entryActor s booted :=
        .ofOp (.bootstrap index actor msgId payload _ rfl rfl found) rfl rfl
      have records : Moves Rests (recordIn .record
          (.send (systemActorId host) entryActor msgId payload) >>= fun _ =>
            pure (emitted ++ [.send (systemActorId host) entryActor msgId payload]) :
            MainM V (List (EventKind V))) :=
        .bind (recordEvent_rests _) fun _ => .pure _
      exact trans_of _ boots (records booted).advances

end Parts

section Launching

variable {V : Type} {host : Host V} {Wire : WireEnvelope V → Prop}

/-- The actor that receives the bootstrap messages. -/
def Launch.entryActor (launched : Launch V) : ActorId :=
  (launched.site.serviceToActor.lookup launched.entryService).getD 0

theorem startup_advances [DecidableEq V] (launched : Launch V) (cfg : Config) :
    Moves (Advances host launched.site Wire launched.entryActor)
      (startup host launched.site .record cfg launched.entryService) := by
  intro s
  have spawning : Moves Rests (ofExcept (spawnEvents host launched.site)) := by
    intro s
    unfold ofExcept
    cases spawnEvents host launched.site with
    | error error => exact refl_of _ s
    | ok spawned => exact refl_of _ s
  have recording (spawned : List (EventKind V)) : Moves Rests (spawned.forM (recordIn .record)) :=
    .forM fun kind => recordEvent_rests kind
  refine moves_bind (spawning s).advances fun spawned m _ => ?_
  refine moves_bind (recording spawned m).advances fun _ n _ => ?_
  refine moves_bind (?_ : Advances host launched.site Wire launched.entryActor n _) fun boots o _ =>
    refl_of _ o
  unfold enqueueBootstrap
  cases mapped : launched.site.serviceToActor.lookup launched.entryService with
  | none => exact refl_of _ n
  | some entryActor =>
      have entry : launched.entryActor = entryActor := by
        unfold Launch.entryActor
        rw [mapped]
        rfl
      rw [entry]
      exact Moves.foldlM bootstrapOne_advances [] n

end Launching

end UcoStack.Runtime
