import UcoStack.Runtime.Node

/-!
# Record mode runs the node

Every part of a recorded step that succeeds is a run of the node whose labels are
the events written.  `Recorded` carries along the envelopes taken from the network
and those handed to it.
-/

namespace UcoStack.Runtime

open StateRun

/-! ## Network sends -/

section Wire

variable {V : Type}

/-- A network message as its sender's trace shows it. -/
abbrev WireKey (V : Type) := NodeId × NodeId × MsgId × V

def WireEnvelope.wire (env : WireEnvelope V) : WireKey V :=
  (env.fromNode, env.toNode, env.msgId, env.payload)

def EventKind.wire : EventKind V → Option (WireKey V)
  | .netSend node toNode _ msgId payload => some (node, toNode, msgId, payload)
  | _ => none

def netSends (kinds : List (EventKind V)) : List (WireKey V) := kinds.filterMap EventKind.wire

@[simp] theorem netSends_append (left right : List (EventKind V)) :
    netSends (left ++ right) = netSends left ++ netSends right :=
  List.filterMap_append

/-- The envelopes handed to the network when a message is dispatched. -/
def Dispatched.sends (site : Site) (mode : Mode) (dispatched : Dispatched V) :
    List (WireEnvelope V) :=
  match mode, dispatched.envelope with
  | .record, some env => if (site.peers.lookup env.toNode).isSome then [env] else []
  | _, _ => []

theorem routeOutgoing_envelope {site : Site} {fromActor : ActorId} {target : Target} {payload : V}
    {cause : MsgId × V} {core : Core V} {dispatched : Dispatched V}
    (routed : routeOutgoing site fromActor target payload cause core = .ok dispatched) :
    dispatched.envelope.map WireEnvelope.wire = dispatched.event.wire := by
  rcases (routeOutgoing_ok site).mp routed with ⟨_, _, _, _, _, _, rfl⟩ | ⟨_, _, _, _, _, rfl⟩
  · rfl
  · rfl

theorem routeOutgoing_takenKey {site : Site} {fromActor : ActorId} {target : Target} {payload : V}
    {cause : MsgId × V} {core : Core V} {dispatched : Dispatched V}
    (routed : routeOutgoing site fromActor target payload cause core = .ok dispatched) :
    dispatched.event.takenKey = none := by
  rcases (routeOutgoing_ok site).mp routed with ⟨_, _, _, _, _, _, rfl⟩ | ⟨_, _, _, _, _, rfl⟩
  · rfl
  · rfl

theorem sends_sublist (site : Site) (mode : Mode) {dispatched : Dispatched V}
    (envelope : dispatched.envelope.map WireEnvelope.wire = dispatched.event.wire) :
    ((dispatched.sends site mode).map WireEnvelope.wire).Sublist (netSends [dispatched.event]) := by
  have all : netSends [dispatched.event] = dispatched.event.wire.toList := by
    cases wire : dispatched.event.wire <;> simp [netSends, wire]
  rw [all, ← envelope]
  unfold Dispatched.sends
  split
  · rename_i env found
    rw [found]
    split
    · exact List.Sublist.refl _
    · exact List.nil_sublist _
  · exact List.nil_sublist _

theorem dispatchOutgoing_eq (site : Site) (mode : Mode) (fromActor : ActorId) (target : Target)
    (payload : V) (cause : MsgId × V) (s : MainState V) :
    dispatchOutgoing site mode fromActor target payload cause s =
      match routeOutgoing site fromActor target payload cause s.core with
      | .error error => .error error s
      | .ok dispatched =>
          .ok dispatched.event
            ((s.setCore dispatched.core).addSent (dispatched.sends site mode)) := by
  unfold dispatchOutgoing
  rw [get_bind]
  cases routeOutgoing site fromActor target payload cause s.core with
  | error error => rfl
  | ok dispatched =>
      obtain ⟨event, envelope, core⟩ := dispatched
      cases mode with
      | replay =>
          simp only [Dispatched.sends, MainState.addSent_nil]
          cases envelope <;> rfl
      | record =>
          cases envelope with
          | none =>
              simp only [Dispatched.sends, MainState.addSent_nil]
              rfl
          | some env =>
              simp only [bind_apply, ofExcept, updateCore, Dispatched.sends]
              split
              · rfl
              · rw [MainState.addSent_nil]
                rfl

theorem dispatchOutgoing_ok {site : Site} {mode : Mode} {fromActor : ActorId} {target : Target}
    {payload : V} {cause : MsgId × V} {s s' : MainState V} {event : EventKind V} :
    dispatchOutgoing site mode fromActor target payload cause s = .ok event s' ↔
      ∃ dispatched, routeOutgoing site fromActor target payload cause s.core = .ok dispatched ∧
        event = dispatched.event ∧
        s' = (s.setCore dispatched.core).addSent (dispatched.sends site mode) := by
  rw [dispatchOutgoing_eq]
  cases routeOutgoing site fromActor target payload cause s.core with
  | error error => simp
  | ok dispatched => simp [eq_comm]

end Wire

/-! ## Emitting in either mode -/

section Emitting

variable {V : Type} {site : Site} {mode : Mode}

/-- The state after `mode` emitted events: written, or left to the comparison. -/
def MainState.emitted (mode : Mode) (st : MainState V) (kinds : List (EventKind V)) :
    MainState V :=
  match mode with
  | .record => st.logged kinds
  | .replay => st

/-- The expected events after `mode` emitted `kinds`. -/
def expectedAfter (mode : Mode) (expected kinds : List (EventKind V)) : List (EventKind V) :=
  match mode with
  | .record => expected
  | .replay => expected ++ kinds

theorem recordIn_ok {kind : EventKind V} {s s' : MainState V}
    (ran : recordIn mode kind s = .ok () s') : s' = s.emitted mode [kind] := by
  cases mode with
  | record => exact recordEvent_ok ran
  | replay =>
      cases ran
      rfl

theorem emit_ok {expected out : List (EventKind V)} {event : EventKind V} {s s' : MainState V}
    (ran : emit mode expected event s = .ok out s') :
    s' = s.emitted mode [event] ∧ out = expectedAfter mode expected [event] := by
  cases mode with
  | record =>
      obtain ⟨_, m, written, ran⟩ := bind_ok.mp ran
      cases ran
      exact ⟨recordEvent_ok written, rfl⟩
  | replay =>
      cases ran
      exact ⟨rfl, rfl⟩

theorem emitted_emitted (st : MainState V) (first second : List (EventKind V)) :
    (st.emitted mode first).emitted mode second = st.emitted mode (first ++ second) := by
  cases mode with
  | record => exact st.logged_logged first second
  | replay => rfl

theorem expectedAfter_append (expected first second : List (EventKind V)) :
    expectedAfter mode (expectedAfter mode expected first) second =
      expectedAfter mode expected (first ++ second) := by
  cases mode with
  | record => rfl
  | replay => exact List.append_assoc expected first second

@[simp] theorem emitted_nil (st : MainState V) : st.emitted mode [] = st := by
  cases mode with
  | record => exact st.logged_nil
  | replay => rfl

@[simp] theorem expectedAfter_nil (expected : List (EventKind V)) :
    expectedAfter mode expected [] = expected := by
  cases mode with
  | record => rfl
  | replay => exact List.append_nil expected

@[simp] theorem emitted_core (st : MainState V) (kinds : List (EventKind V)) :
    (st.emitted mode kinds).core = st.core := by
  cases mode <;> rfl

theorem setCore_emitted (st : MainState V) (core : Core V) (kinds : List (EventKind V)) :
    (st.setCore core).emitted mode kinds = (st.emitted mode kinds).setCore core := by
  cases mode <;> rfl

theorem addSent_emitted (st : MainState V) (envs : List (WireEnvelope V))
    (kinds : List (EventKind V)) :
    (st.addSent envs).emitted mode kinds = (st.emitted mode kinds).addSent envs := by
  cases mode <;> rfl

theorem emitAll_ok {α : Type} {event : α → EventKind V} {xs : List α}
    {expected out : List (EventKind V)} {s s' : MainState V}
    (ran : xs.foldlM (fun expected x => emit mode expected (event x)) expected s = .ok out s') :
    s' = s.emitted mode (xs.map event) ∧ out = expectedAfter mode expected (xs.map event) := by
  induction xs generalizing expected s with
  | nil =>
      cases ran
      simp
  | cons x rest ih =>
      rw [List.foldlM_cons] at ran
      obtain ⟨middle, m, here, later⟩ := bind_ok.mp ran
      obtain ⟨rfl, rfl⟩ := emit_ok here
      obtain ⟨rfl, rfl⟩ := ih later
      rw [emitted_emitted, expectedAfter_append]
      exact ⟨rfl, rfl⟩

/-- The outbox loop emits what `sendAll` computes. -/
theorem sendOutgoing_ok {step : Nat} {actorId : ActorId} {cause : MsgId × V}
    {outbox : List (Outgoing V)} {expected out : List (EventKind V)} {s s' : MainState V}
    (ran : outbox.foldlM (sendOutgoing site mode step actorId cause) expected s = .ok out s') :
    ∃ kinds core sent, sendAll site step actorId cause outbox s.core = .ok (kinds, core) ∧
      s' = ((s.emitted mode kinds).setCore core).addSent sent ∧
      out = expectedAfter mode expected kinds ∧
      (sent.map WireEnvelope.wire).Sublist (netSends kinds) := by
  induction outbox generalizing expected s with
  | nil =>
      cases ran
      exact ⟨[], _, [], rfl, by simp, by simp, List.Sublist.refl _⟩
  | cons item rest ih =>
      rw [List.foldlM_cons] at ran
      obtain ⟨middle, m, here, later⟩ := bind_ok.mp ran
      obtain ⟨kinds, core, sent, others, state, expecting, wires⟩ := ih later
      unfold sendOutgoing at here
      split at here
      · rename_i delayed
        cases here
        refine ⟨kinds, core, sent, ?_, ?_, expecting, wires⟩
        · rw [sendAll, if_pos delayed]
          exact others
        · rw [state, setCore_emitted]
          rfl
      · rename_i immediate
        obtain ⟨event, n, dispatching, emitting⟩ := bind_ok.mp here
        obtain ⟨dispatched, routed, rfl, rfl⟩ := dispatchOutgoing_ok.mp dispatching
        obtain ⟨rfl, rfl⟩ := emit_ok emitting
        rw [emitted_core, MainState.addSent_core, MainState.setCore_core] at others
        refine ⟨dispatched.event :: kinds, core, dispatched.sends site mode ++ sent, ?_, ?_, ?_, ?_⟩
        · rw [sendAll, if_neg immediate, routed]
          change (sendAll site step actorId cause rest dispatched.core >>= _) = _
          rw [others]
          rfl
        · rw [state, emitted_emitted, addSent_emitted, setCore_emitted]
          simp
        · rw [expecting, expectedAfter_append]
          rfl
        · have first := sends_sublist site mode (routeOutgoing_envelope routed)
          rw [List.map_append, show dispatched.event :: kinds = [dispatched.event] ++ kinds from rfl,
            netSends_append]
          exact first.append wires

end Emitting

/-! ## Processing a message in either mode -/

section Processing

variable {V : Type} {host : Host V} {site : Site} {mode : Mode} {step : Nat}

theorem popInbox_ok {receiver : ActorId} {popped : Popped V} {s s' : MainState V}
    (ran : popInbox receiver s = .ok popped s') :
    ∃ actor rest, s.core.actors.lookup receiver = some actor ∧
      actor.inbox = (popped.msgId, popped.payload) :: rest ∧
      popped = ⟨actor.id, actor.service, popped.msgId, popped.payload⟩ ∧
      s' = s.setCore (s.core.pop receiver actor (popped.msgId, popped.payload) rest) := by
  unfold popInbox at ran
  rw [get_bind] at ran
  cases found : s.core.actors.lookup receiver with
  | none =>
      rw [found] at ran
      cases ran
  | some actor =>
      rw [found] at ran
      dsimp only at ran
      cases inbox : actor.inbox with
      | nil =>
          rw [inbox] at ran
          cases ran
      | cons message rest =>
          rw [inbox] at ran
          cases ran
          exact ⟨actor, rest, rfl, inbox, rfl, rfl⟩

theorem runHandler_ok {popped : Popped V} {incoming : RuntimeMessage} {executed : Executed V}
    {s s' : MainState V} (ran : runHandler host site popped incoming s = .ok executed s') :
    ∃ actor, s.core.actors.lookup popped.actorId = some actor ∧
      executeActions host popped.service popped.msgId incoming site.peers site.program
        actor.state (.new site.nodeId) = .ok executed ∧
      s' = s.setCore (s.core.setActor popped.actorId { actor with state := executed.state }) := by
  unfold runHandler at ran
  rw [get_bind] at ran
  cases found : s.core.actors.lookup popped.actorId with
  | none =>
      rw [found] at ran
      cases ran
  | some actor =>
      rw [found] at ran
      dsimp only at ran
      cases execution : executeActions host popped.service popped.msgId incoming site.peers
          site.program actor.state (.new site.nodeId) with
      | error error =>
          rw [execution] at ran
          cases ran
      | ok result =>
          rw [execution] at ran
          cases ran
          exact ⟨actor, rfl, execution, rfl⟩

theorem emitExecuted_ok {popped : Popped V} {incoming : RuntimeMessage} {executed : Executed V}
    {out : List (EventKind V)} {s s' : MainState V}
    (ran : emitExecuted site mode step popped incoming executed s = .ok out s') :
    ∃ kinds core sent,
      sendAll site step popped.actorId (popped.msgId, popped.payload) executed.ctx.outbox s.core =
        .ok (kinds, core) ∧
      s' = ((s.emitted mode (observedEvent site popped incoming executed.effects ::
        (executed.ctx.logs.map (logEvent site popped) ++ kinds))).setCore core).addSent sent ∧
      out = expectedAfter mode [] (observedEvent site popped incoming executed.effects ::
        (executed.ctx.logs.map (logEvent site popped) ++ kinds)) ∧
      (sent.map WireEnvelope.wire).Sublist (netSends kinds) := by
  obtain ⟨first, m, observing, ran⟩ := bind_ok.mp ran
  obtain ⟨second, n, logging, ran⟩ := bind_ok.mp ran
  obtain ⟨rfl, rfl⟩ := emit_ok observing
  obtain ⟨rfl, rfl⟩ := emitAll_ok logging
  obtain ⟨kinds, core, sent, sending, rfl, rfl, wires⟩ := sendOutgoing_ok ran
  simp only [emitted_core, emitted_emitted, expectedAfter_append, List.cons_append]
    at sending ⊢
  exact ⟨kinds, core, sent, sending, rfl, rfl, wires⟩

/-- Only the messages sent on are network sends. -/
theorem netSends_handled (popped : Popped V) (incoming : RuntimeMessage) (executed : Executed V)
    (kinds : List (EventKind V)) :
    netSends (observedEvent site popped incoming executed.effects ::
      (executed.ctx.logs.map (logEvent site popped) ++ kinds)) = netSends kinds := by
  have logs : netSends (executed.ctx.logs.map (logEvent (V := V) site popped)) = [] := by
    unfold netSends
    rw [List.filterMap_eq_nil_iff]
    intro kind member
    obtain ⟨log, _, rfl⟩ := List.mem_map.mp member
    rfl
  have skip : netSends (observedEvent site popped incoming executed.effects ::
      (executed.ctx.logs.map (logEvent site popped) ++ kinds)) =
      netSends (executed.ctx.logs.map (logEvent site popped) ++ kinds) := rfl
  rw [skip, netSends_append, logs, List.nil_append]

/-- Processing a message is the delivery step of the node. -/
theorem processMessage_ok {chosen : PendingDelivery} {out : List (EventKind V)}
    {s s' : MainState V} (ran : processMessage host site mode step chosen s = .ok out s') :
    ∃ handled sent, handleDelivery host site step chosen.receiver s.core = .ok handled ∧
      (mode = .replay → handled.msgId = chosen.msgId) ∧
      s' = ((s.emitted mode handled.events).setCore handled.core).addSent sent ∧
      out = expectedAfter mode [] handled.events ∧
      (sent.map WireEnvelope.wire).Sublist (netSends handled.events) := by
  obtain ⟨popped, m, popping, ran⟩ := bind_ok.mp ran
  obtain ⟨actor, rest, found, inbox, same, rfl⟩ := popInbox_ok popping
  split at ran
  · cases ran
  · rename_i agrees
    cases decoded : decodeMsg host popped.payload with
    | none =>
        rw [decoded] at ran
        cases ran
    | some incoming =>
        rw [decoded] at ran
        obtain ⟨executed, n, handling, ran⟩ := bind_ok.mp ran
        obtain ⟨current, again, execution, rfl⟩ := runHandler_ok handling
        obtain ⟨kinds, core, sent, sending, rfl, rfl, wires⟩ := emitExecuted_ok ran
        obtain ⟨actorId, service, msgId, payload⟩ := popped
        cases same
        refine ⟨⟨msgId, _, core⟩, sent, (handleDelivery_ok host site).mpr ⟨⟨actor, payload, rest,
          incoming, current, executed, kinds, found, inbox, decoded, again, execution, sending,
          rfl⟩⟩, ?_, ?_, rfl, ?_⟩
        · intro replaying
          by_contra differs
          exact agrees ⟨replaying, differs⟩
        · simp [setCore_emitted]
        · rw [netSends_handled]
          exact wires

theorem sendAll_takenKey {actorId : ActorId} {cause : MsgId × V} {outbox : List (Outgoing V)}
    {core final : Core V} {kinds : List (EventKind V)}
    (sending : sendAll site step actorId cause outbox core = .ok (kinds, final)) :
    ∀ kind ∈ kinds, kind.takenKey = none := by
  induction outbox generalizing core kinds with
  | nil =>
      cases sending
      exact fun _ member => absurd member List.not_mem_nil
  | cons item rest ih =>
      rw [sendAll] at sending
      split at sending
      · exact ih sending
      · obtain ⟨dispatched, routed, sending⟩ := ExceptRun.bind_ok.mp sending
        obtain ⟨⟨others, last⟩, later, sending⟩ := ExceptRun.bind_ok.mp sending
        cases sending
        intro kind member
        rcases List.mem_cons.mp member with rfl | found
        · exact routeOutgoing_takenKey routed
        · exact ih later kind found

theorem handled_takenKey {receiver : ActorId} {core : Core V} {handled : Handled V}
    (handles : handleDelivery host site step receiver core = .ok handled) :
    ∀ kind ∈ handled.events, kind.takenKey = none := by
  obtain ⟨delivery⟩ := (handleDelivery_ok host site).mp handles
  intro kind member
  rw [delivery.events] at member
  rcases List.mem_cons.mp member with rfl | later
  · rfl
  · rcases List.mem_append.mp later with log | sent
    · obtain ⟨_, _, rfl⟩ := List.mem_map.mp log
      rfl
    · exact sendAll_takenKey delivery.emitted kind sent

end Processing

/-! ## Recorded runs -/

/-- From `s` to `s'` the node took steps that left `kinds` in the trace, took
`arrived` from the network and handed `sent` to it.  Each arrived envelope is
still held or has been used up, and each sent one has its `NetSend`. -/
structure Recorded {V : Type} (Step : Core V → List (EventKind V) → Core V → Prop)
    (s : MainState V) (arrived : List (WireEnvelope V)) (kinds : List (EventKind V))
    (sent : List (WireEnvelope V)) (s' : MainState V) : Prop where
  state : s' = (((s.logged kinds).setCore s'.core).addSent sent).setInjector s'.injector
  run : Run Step s.core kinds s'.core
  wires : (sent.map WireEnvelope.wire).Sublist (netSends kinds)
  balance : ∀ key, (envKeys s.injector.held).count key + (envKeys arrived).count key =
    (envKeys s'.injector.held).count key + (takenKeys kinds).count key
  source : ∀ env, env ∈ s'.injector.held ∨ env.recvEvent ∈ kinds →
    env ∈ s.injector.held ∨ env ∈ arrived

namespace Recorded

variable {V : Type} {Step : Core V → List (EventKind V) → Core V → Prop} {s m s' : MainState V}
  {arrived arrived' sent sent' : List (WireEnvelope V)} {first second : List (EventKind V)}

theorem refl (Step : Core V → List (EventKind V) → Core V → Prop) (s : MainState V) :
    Recorded Step s [] [] [] s where
  state := by simp
  run := .refl s.core
  wires := List.Sublist.refl _
  balance := fun _ => rfl
  source := fun _ place => .inl (place.resolve_right List.not_mem_nil)

theorem trans (left : Recorded Step s arrived first sent m)
    (right : Recorded Step m arrived' second sent' s') :
    Recorded Step s (arrived ++ arrived') (first ++ second) (sent ++ sent') s' where
  state := by
    have last := right.state
    rw [left.state] at last
    simpa [MainState.logged_logged] using last
  run := left.run.trans right.run
  wires := by
    rw [List.map_append, netSends_append]
    exact left.wires.append right.wires
  balance := fun key => by
    have before := left.balance key
    have after := right.balance key
    simp only [envKeys_append, takenKeys_append, List.count_append]
    omega
  source := fun env place => by
    have middle : env ∈ m.injector.held ∨ env.recvEvent ∈ first →
        env ∈ s.injector.held ∨ env ∈ arrived ++ arrived' := fun found =>
      (left.source env found).imp_right (List.mem_append_left arrived')
    have late : env ∈ s'.injector.held ∨ env.recvEvent ∈ second →
        env ∈ s.injector.held ∨ env ∈ arrived ++ arrived' := fun found =>
      (right.source env found).elim (fun held => middle (.inl held))
        fun new => .inr (List.mem_append_right arrived new)
    rcases place with held | found
    · exact late (.inl held)
    · rcases List.mem_append.mp found with old | new
      · exact middle (.inr old)
      · exact late (.inr new)

theorem mono {Other : Core V → List (EventKind V) → Core V → Prop}
    (weaker : ∀ core kinds final, Step core kinds final → Other core kinds final)
    (recorded : Recorded Step s arrived first sent s') :
    Recorded Other s arrived first sent s' :=
  { recorded with run := recorded.run.mono weaker }

/-- Steps that leave the injector alone. -/
theorem ofCore (state : s' = ((s.logged first).setCore s'.core).addSent sent)
    (run : Run Step s.core first s'.core)
    (wires : (sent.map WireEnvelope.wire).Sublist (netSends first))
    (taken : ∀ kind ∈ first, kind.takenKey = none) : Recorded Step s [] first sent s' where
  state := by
    have kept : s'.injector = s.injector := by rw [state]; rfl
    rw [kept]
    exact state
  run := run
  wires := wires
  balance := fun key => by
    have kept : s'.injector = s.injector := by rw [state]; rfl
    rw [kept, show takenKeys first = [] from List.filterMap_eq_nil_iff.mpr taken]
    rfl
  source := fun env place => by
    have kept : s'.injector = s.injector := by rw [state]; rfl
    rcases place with held | found
    · exact .inl (kept ▸ held)
    · cases taken _ found

end Recorded

section Recording

variable {V : Type} {host : Host V} {site : Site} {Wire : WireEnvelope V → Prop} {step : Nat}
  {s s' : MainState V}

theorem fireTimer_ok {timer : PendingTimer V} (ran : fireTimer site timer s = .ok () s') :
    ∃ dispatched, routeOutgoing site timer.fromActor timer.target timer.payload timer.cause
        s.core = .ok dispatched ∧
      s' = ((s.logged [timer.firedEvent site, dispatched.event]).setCore
        dispatched.core).addSent (dispatched.sends site .record) := by
  obtain ⟨_, m, fired, ran⟩ := bind_ok.mp ran
  obtain ⟨event, n, dispatching, ran⟩ := bind_ok.mp ran
  cases recordEvent_ok fired
  obtain ⟨dispatched, routed, rfl, rfl⟩ := dispatchOutgoing_ok.mp dispatching
  cases recordEvent_ok ran
  exact ⟨dispatched, routed, by simp [MainState.logged_logged]⟩

/-- The due timers that have not fired yet count as pending at the core of the
run, although the loop keeps them in a variable of its own. -/
theorem fireAll_ok {due : List (PendingTimer V)} (ran : due.forM (fireTimer site) s = .ok () s')
    (core : Core V) (same : core.setTimers s.core.pendingTimers = s.core)
    (pending : core.pendingTimers.Perm (due ++ s.core.pendingTimers))
    (idle : due = [] → core = s.core) :
    ∃ kinds sent, s' = ((s.logged kinds).setCore s'.core).addSent sent ∧
      Run (QuietStep site Wire) core kinds s'.core ∧
      (sent.map WireEnvelope.wire).Sublist (netSends kinds) ∧
      ∀ kind ∈ kinds, kind.takenKey = none := by
  induction due generalizing s core with
  | nil =>
      cases ran
      refine ⟨[], [], by simp, ?_, List.Sublist.refl _, fun _ member =>
        absurd member List.not_mem_nil⟩
      rw [idle rfl]
      exact .refl _
  | cons timer rest ih =>
      obtain ⟨_, m, here, later⟩ := bind_ok.mp ran
      obtain ⟨dispatched, routed, state⟩ := fireTimer_ok here
      let waiting := rest ++ s.core.pendingTimers
      obtain ⟨routedRest, kept⟩ := routeOutgoing_setTimers site waiting routed
      have sameRest : core.setTimers waiting = s.core.setTimers waiting := by
        rw [← same]
        rfl
      have fired : QuietStep site Wire core [timer.firedEvent site, dispatched.event]
          (dispatched.core.setTimers waiting) := by
        refine QuietStep.fire timer waiting
          { dispatched with core := dispatched.core.setTimers waiting } pending ?_
        rw [sameRest]
        exact routedRest
      have coreOfM : m.core = dispatched.core := by
        rw [state]
        rfl
      obtain ⟨kinds, sent, final, run, wires, taken⟩ := ih later (dispatched.core.setTimers waiting)
        (by rw [coreOfM]; rfl) (by rw [coreOfM, kept]; exact .refl _) (by
          rintro rfl
          rw [coreOfM]
          change dispatched.core.setTimers s.core.pendingTimers = dispatched.core
          rw [← kept]
          rfl)
      refine ⟨[timer.firedEvent site, dispatched.event] ++ kinds,
        dispatched.sends site .record ++ sent, ?_, .head fired run, ?_, ?_⟩
      · rw [state] at final
        simpa [MainState.logged_logged] using final
      · have firstWires := sends_sublist site .record (routeOutgoing_envelope routed)
        have skip : netSends [timer.firedEvent site, dispatched.event] =
            netSends [dispatched.event] := rfl
        rw [List.map_append, netSends_append, skip]
        exact firstWires.append wires
      · intro kind member
        rcases List.mem_append.mp member with here | later
        · rcases List.mem_pair.mp here with rfl | rfl
          · rfl
          · exact routeOutgoing_takenKey routed
        · exact taken kind later

theorem dueTimers_perm (step : Nat) (timers : List (PendingTimer V)) :
    timers.Perm (dueTimers step timers ++ timers.filter fun timer => !timerDue step timer) := by
  have sorted := List.perm_insertionSort (fun left right : PendingTimer V =>
    left.timerId ≤ right.timerId) (timers.filter (timerDue step))
  have split := List.filter_append_perm (timerDue step) timers
  exact split.symm.trans (sorted.symm.append_right _)

theorem notDue_of_idle (step : Nat) (core : Core V)
    (idle : dueTimers step core.pendingTimers = []) :
    core = core.setTimers (core.pendingTimers.filter fun timer => !timerDue step timer) := by
  have noneDue : core.pendingTimers.filter (timerDue step) = [] := by
    have sorted := List.perm_insertionSort (fun left right : PendingTimer V =>
      left.timerId ≤ right.timerId) (core.pendingTimers.filter (timerDue step))
    unfold dueTimers at idle
    rw [idle] at sorted
    exact sorted.nil_eq.symm
  have all : core.pendingTimers.filter (fun timer => !timerDue step timer) =
      core.pendingTimers := by
    rw [List.filter_eq_self]
    intro timer member
    have no := List.filter_eq_nil_iff.mp noneDue timer member
    simpa using no
  rw [all]
  rfl

theorem fireDueTimers_ok (Wire : WireEnvelope V → Prop)
    (ran : fireDueTimers site step s = .ok () s') :
    ∃ kinds sent, Recorded (QuietStep site Wire) s [] kinds sent s' := by
  unfold fireDueTimers at ran
  rw [get_bind, updateCore_bind] at ran
  obtain ⟨kinds, sent, state, run, wires, taken⟩ := fireAll_ok ran s.core rfl
    (dueTimers_perm step s.core.pendingTimers) (notDue_of_idle step s.core)
  exact ⟨kinds, sent, Recorded.ofCore (by simpa using state) run wires taken⟩

/-! ## A recorded step -/

theorem chooseNextDeterministic_mem {pending : List PendingDelivery} {chosen : PendingDelivery}
    (choice : chooseNextDeterministic pending = some chosen) : chosen ∈ pending := by
  have sorted := List.mem_of_head? choice
  exact (List.perm_insertionSort deliveryKeyLe pending).mem_iff.mp sorted

/-- A candidate is the first message of an inbox of this node. -/
theorem mem_pendingDeliveries {core : Core V} {nodeId : NodeId} {chosen : PendingDelivery}
    (member : chosen ∈ pendingDeliveries nodeId core) :
    chosen.node = nodeId ∧ ∃ actor payload rest,
      core.actors.lookup chosen.receiver = some actor ∧
        actor.inbox = (chosen.msgId, payload) :: rest := by
  obtain ⟨entry, stored, head⟩ := List.mem_filterMap.mp member
  obtain ⟨message, first, rfl⟩ := Option.map_eq_some_iff.mp head
  obtain ⟨rest, inbox⟩ := List.head?_eq_some_iff.mp first
  exact ⟨rfl, entry.2, message.2, rest, AList.mem_lookup_iff.mpr stored, inbox⟩

/-- The event of the choice names the message that the delivery takes. -/
theorem chosen_event {core : Core V} {chosen : PendingDelivery} {handled : Handled V}
    (choice : chosen ∈ pendingDeliveries site.nodeId core)
    (handles : handleDelivery host site step chosen.receiver core = .ok handled) :
    (chosen.event : EventKind V) = .deliver site.nodeId chosen.receiver handled.msgId := by
  obtain ⟨delivery⟩ := (handleDelivery_ok host site).mp handles
  obtain ⟨here, actor, payload, rest, found, inbox⟩ := mem_pendingDeliveries choice
  have popped : chosen.msgId = handled.msgId := by
    have same := delivery.inbox
    rw [show delivery.actor = actor from Option.some.inj (delivery.found.symm.trans found),
      inbox] at same
    exact (Prod.mk.inj (List.cons.inj same).1).1
  unfold PendingDelivery.event
  rw [here, popped]

theorem deliver_record_ok (Wire : WireEnvelope V → Prop) {chosen : PendingDelivery} [DecidableEq V]
    (choice : chosen ∈ pendingDeliveries site.nodeId s.core)
    (ran : deliver host site .record step chosen s = .ok () s') :
    ∃ handled sent, handleDelivery host site step chosen.receiver s.core = .ok handled ∧
      s'.core = handled.core ∧ Recorded (NodeStep host site Wire) s []
        (.deliver site.nodeId chosen.receiver handled.msgId :: handled.events) sent s' := by
  obtain ⟨_, m, delivering, ran⟩ := bind_ok.mp ran
  cases recordEvent_ok delivering
  obtain ⟨out, n, processing, ran⟩ := bind_ok.mp ran
  cases ran
  obtain ⟨handled, sent, handles, _, rfl, _, wires⟩ := processMessage_ok processing
  rw [MainState.logged_core] at handles
  have event := chosen_event choice handles
  refine ⟨handled, sent, handles, rfl, Recorded.ofCore ?_ ?_ wires ?_⟩
  · simp [MainState.emitted, MainState.logged_logged, event]
  · exact Run.single (.deliver step chosen.receiver handled handles)
  · intro kind member
    rcases List.mem_cons.mp member with rfl | later
    · rfl
    · exact handled_takenKey handles kind later

theorem faults_run {faults : List (EventKind V)} (core : Core V)
    (isFault : ∀ kind ∈ faults, kind.IsFault site.nodeId) :
    Run (QuietStep site Wire) core faults core := by
  induction faults with
  | nil => exact .refl core
  | cons kind rest ih =>
      have here : QuietStep site Wire core [kind] core :=
        .fault kind (isFault kind List.mem_cons_self)
      exact .head here (ih fun other member => isFault other (List.mem_cons_of_mem kind member))

theorem receiveAll_run {envs : List (WireEnvelope V)} (core : Core V)
    (arrived : ∀ env ∈ envs, Wire env) :
    Run (QuietStep site Wire) core (envs.map WireEnvelope.recvEvent) (core.receiveAll envs) := by
  induction envs generalizing core with
  | nil => exact .refl core
  | cons env rest ih =>
      have here : QuietStep site Wire core [env.recvEvent]
          (core.receive env.toActor env.msgId env.payload) :=
        .receive env (arrived env List.mem_cons_self)
      exact .head here (ih _ fun other member => arrived other (List.mem_cons_of_mem env member))

theorem recvEvent_injective {left right : WireEnvelope V}
    (same : left.recvEvent = right.recvEvent) : left = right := by
  obtain ⟨_, _, _, _, _⟩ := left
  obtain ⟨_, _, _, _, _⟩ := right
  cases same
  rfl

/-- The injector holds only envelopes that `Wire` admits. -/
def MainState.Holds (Wire : WireEnvelope V → Prop) (st : MainState V) : Prop :=
  ∀ env ∈ st.injector.held, Wire env

theorem Drained.recorded {batch received : List (WireEnvelope V)} {faults : List (EventKind V)}
    (drained : Drained site.nodeId s batch faults received s') (holds : s.Holds Wire)
    (admitted : ∀ env ∈ ownEnvelopes site.nodeId batch, Wire env) :
    Recorded (QuietStep site Wire) s (ownEnvelopes site.nodeId batch)
      (faults ++ received.map WireEnvelope.recvEvent) [] s' where
  state := by
    have core : s'.core = s.core.receiveAll received := by
      rw [drained.state]
      rfl
    rw [core, MainState.addSent_nil]
    exact drained.state
  run := by
    have core : s'.core = s.core.receiveAll received := by
      rw [drained.state]
      rfl
    rw [core]
    refine (faults_run s.core drained.isFault).trans (receiveAll_run s.core ?_)
    intro env member
    exact (drained.source env (.inr member)).elim (holds env) (admitted env)
  wires := List.nil_sublist _
  balance := drained.balance
  source := fun env place => by
    refine drained.source env (place.imp_right fun found => ?_)
    rcases List.mem_append.mp found with fault | received
    · exact (drained.isFault _ fault).elim
    · obtain ⟨other, member, same⟩ := List.mem_map.mp received
      exact recvEvent_injective same ▸ member

theorem Recorded.holds {Step : Core V → List (EventKind V) → Core V → Prop}
    {arrived sent : List (WireEnvelope V)} {kinds : List (EventKind V)}
    (recorded : Recorded Step s arrived kinds sent s') (holds : s.Holds Wire)
    (admitted : ∀ env ∈ arrived, Wire env) : s'.Holds Wire :=
  fun env member => (recorded.source env (.inl member)).elim (holds env) (admitted env)

/-- A recorded step: quiet steps, then one delivery unless the node is idle. -/
theorem recordStep_ok [DecidableEq V] {batch : List (WireEnvelope V)}
    (holds : s.Holds Wire) (admitted : ∀ env ∈ ownEnvelopes site.nodeId batch, Wire env)
    (ran : recordStep host site step batch s = .ok () s') :
    ∃ quiet sent m, Recorded (QuietStep site Wire) s (ownEnvelopes site.nodeId batch) quiet sent m ∧
      (m = s' ∨ ∃ receiver handled sent',
        handleDelivery host site step receiver m.core = .ok handled ∧
          s'.core = handled.core ∧ Recorded (NodeStep host site Wire) m []
            (.deliver site.nodeId receiver handled.msgId :: handled.events) sent' s') := by
  obtain ⟨_, m, draining, ran⟩ := bind_ok.mp ran
  obtain ⟨_, n, firing, ran⟩ := bind_ok.mp ran
  obtain ⟨faults, received, drained⟩ := drainNetwork_ok draining
  obtain ⟨fired, sent, firings⟩ := fireDueTimers_ok Wire firing
  have quiet := (drained.recorded holds admitted).trans firings
  rw [List.append_nil] at quiet
  refine ⟨_, _, n, quiet, ?_⟩
  rw [get_bind] at ran
  cases choice : chooseNextDeterministic (pendingDeliveries site.nodeId n.core) with
  | none =>
      rw [choice] at ran
      cases ran
      exact .inl rfl
  | some chosen =>
      rw [choice] at ran
      obtain ⟨handled, sent', handles, reached, recorded⟩ :=
        deliver_record_ok Wire (chooseNextDeterministic_mem choice) ran
      exact .inr ⟨chosen.receiver, handled, sent', handles, reached, recorded⟩

end Recording

end UcoStack.Runtime
