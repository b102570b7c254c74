import Mathlib.Logic.Function.Basic
import UcoStack.Runtime.Trace

/-!
# The states of a recorded run

A handler reads and writes the state map of its own service, and which of its writes
are made depends on the type of the message and on the state map alone.  So a service
is an automaton over message types.  The trace names the type of every message that
was handled, and therefore tells the final state of every actor.
-/

namespace UcoStack.Runtime

open UcoStack.Lang

/-! ## The automaton of a service -/

/-- What an action does to the state map; `none` where the interpreter fails. -/
def stateAction : ActionDecl → StateMap → Option StateMap
  | .setState key value, state => (state.lookup key).map fun _ => state.insert key value
  | .incState key amount, state =>
      (state.lookup key).bind fun current =>
        (checkedAdd current amount).map fun value => state.insert key value
  | .ifStateEq key value thenAction, state =>
      (state.lookup key).bind fun current =>
        if current = value then stateAction thenAction state else some state
  | .log _, state => some state
  | .timerLocal _ _ _ _, state => some state
  | .timerRemote _ _ _ _ _, state => some state
  | .sendLocal _ _ _, state => some state
  | .sendRemote _ _ _ _, state => some state

def stateAll (actions : List ActionDecl) (state : StateMap) : Option StateMap :=
  actions.foldlM (fun state action => stateAction action state) state

/-- The state map of a service after it handled a message of the type. -/
def nextState (program : Program) (service : String) (state : StateMap) (msgType : String) :
    Option StateMap :=
  match program.handlers.lookup (service, msgType) with
  | none => some state
  | some plan => stateAll plan.actions state

section Automaton

variable {V : Type} {host : Host V} {service : String} {incomingMsgId : Uuid}
  {incoming : RuntimeMessage} {peers : PeerMap}

theorem executeAction_state (action : ActionDecl) (exec : Execution V) :
    (executeAction host service incomingMsgId incoming peers action exec).toOption.map
        Execution.state =
      stateAction action exec.state := by
  induction action generalizing exec with
  | setState key value =>
      simp only [executeAction, stateAction, observe]
      cases exec.state.lookup key with
      | none => rfl
      | some current => rfl
  | incState key amount =>
      simp only [executeAction, stateAction, observe]
      cases exec.state.lookup key with
      | none => rfl
      | some current =>
          simp only [Option.bind_some]
          cases checkedAdd current amount with
          | none => rfl
          | some value => rfl
  | ifStateEq key value thenAction ih =>
      simp only [executeAction, stateAction, observe]
      cases exec.state.lookup key with
      | none => rfl
      | some current =>
          simp only [Option.bind_some]
          split
          · exact ih _
          · rfl
  | log template => rfl
  | timerLocal steps targetService message template => rfl
  | timerRemote steps target targetService message template => rfl
  | sendLocal targetService message template => rfl
  | sendRemote target targetService message template => rfl

theorem executeAll_state {actions : List ActionDecl} {exec exec' : Execution V}
    (ran : executeAll host service incomingMsgId incoming peers actions exec = .ok exec') :
    stateAll actions exec.state = some exec'.state := by
  induction actions generalizing exec with
  | nil =>
      cases ran
      rfl
  | cons action rest ih =>
      have step := @executeAction_state _ host service incomingMsgId incoming peers action exec
      rw [executeAll] at ran
      split at ran
      · cases ran
      · rename_i middle here
        rw [here] at step
        rw [stateAll, List.foldlM_cons, ← step]
        exact ih ran

/-- The handler moves the automaton of its service. -/
theorem executeActions_state {program : Program} {state : StateMap} {ctx : ActorContext V}
    {executed : Executed V}
    (ran : executeActions host service incomingMsgId incoming peers program state ctx =
      .ok executed) :
    nextState program service state incoming.msgType = some executed.state := by
  unfold executeActions at ran
  unfold nextState
  cases handler : program.handlers.lookup (service, incoming.msgType) with
  | none =>
      rw [handler] at ran
      cases ran
      rfl
  | some plan =>
      rw [handler] at ran
      dsimp only at ran ⊢
      split at ran
      · cases ran
      · rename_i exec finished
        cases ran
        exact executeAll_state finished

end Automaton

/-! ## Profiles -/

section Profiles

variable {V : Type}

/-- What an actor runs and its state map, without its inbox. -/
def Core.profile (core : Core V) (id : ActorId) : Option (String × StateMap) :=
  (core.actors.lookup id).map fun actor => (actor.service, actor.state)

theorem Core.profile_of_actors {core other : Core V} (same : other.actors = core.actors) :
    other.profile = core.profile := by
  unfold Core.profile
  rw [same]

theorem Core.profile_setActor (core : Core V) (id : ActorId) (actor : Actor V) :
    (core.setActor id actor).profile =
      Function.update core.profile id (some (actor.service, actor.state)) := by
  funext other
  unfold Core.profile Core.setActor
  by_cases same : other = id
  · subst same
    rw [AList.lookup_insert, Function.update_self]
    rfl
  · rw [AList.lookup_insert_ne same, Function.update_of_ne same]

/-- A change of the inbox only. -/
theorem Core.profile_inbox {core : Core V} {id : ActorId} {actor : Actor V}
    (found : core.actors.lookup id = some actor) (inbox : List (MsgId × V)) :
    (core.setActor id { actor with inbox := inbox }).profile = core.profile := by
  rw [Core.profile_setActor]
  apply Function.update_eq_self_iff.mpr
  unfold Core.profile
  rw [found]
  rfl

theorem Core.profile_receive (core : Core V) (id : ActorId) (msgId : MsgId) (payload : V) :
    (core.receive id msgId payload).profile = core.profile := by
  unfold Core.receive
  split
  · rename_i actor found
    exact Core.profile_inbox found _
  · rfl

theorem routeOutgoing_profile {site : Site} {fromActor : ActorId} {target : Target} {payload : V}
    {cause : MsgId × V} {core : Core V} {dispatched : Dispatched V}
    (routed : routeOutgoing site fromActor target payload cause core = .ok dispatched) :
    dispatched.core.profile = core.profile := by
  rcases (routeOutgoing_ok site).mp routed with
    ⟨service, toActorId, toActor, rfl, mapped, found, rfl⟩ | ⟨_, _, _, _, _, rfl⟩
  · have kept : (core.allocate site.nodeId).2.actors.lookup toActorId = some toActor := found
    exact Core.profile_inbox kept _
  · rfl

theorem sendAll_profile {site : Site} {step : Nat} {actorId : ActorId} {cause : MsgId × V}
    {outbox : List (Outgoing V)} {core final : Core V} {kinds : List (EventKind V)}
    (sending : sendAll site step actorId cause outbox core = .ok (kinds, final)) :
    final.profile = core.profile := by
  induction outbox generalizing core kinds with
  | nil =>
      cases sending
      rfl
  | cons out rest ih =>
      rw [sendAll] at sending
      split at sending
      · have kept := ih sending
        exact kept
      · obtain ⟨dispatched, routed, sending⟩ := ExceptRun.bind_ok.mp sending
        obtain ⟨⟨later, last⟩, remaining, sending⟩ := ExceptRun.bind_ok.mp sending
        cases sending
        rw [ih remaining, routeOutgoing_profile routed]

theorem QuietStep.profile {site : Site} {Wire : WireEnvelope V → Prop} {core final : Core V}
    {kinds : List (EventKind V)} (step : QuietStep site Wire core kinds final) :
    final.profile = core.profile := by
  cases step with
  | fault event isFault => rfl
  | receive env arrived => exact Core.profile_receive core _ _ _
  | fire timer rest dispatched split routed =>
      have kept := routeOutgoing_profile routed
      exact kept

theorem BootStep.profile {host : Host V} {site : Site} {entryActor : ActorId} {core final : Core V}
    {kinds : List (EventKind V)} (step : BootStep host site entryActor core kinds final) :
    final.profile = core.profile := by
  cases step with
  | spawn actor service => rfl
  | bootstrap index actor msgId payload allocated allocates encoded found =>
      have same : allocated.profile = core.profile := by
        cases allocates
        rfl
      rw [← same]
      exact Core.profile_inbox found _

/-- A delivery moves the automaton of the receiver, and of no other actor. -/
theorem Delivery.profile {host : Host V} {site : Site} {step : Nat} {receiver : ActorId}
    {core : Core V} {handled : Handled V}
    (delivery : Delivery host site step receiver core handled)
    (own : delivery.actor.id = receiver) :
    ∃ state, nextState site.program delivery.actor.service delivery.actor.state
        delivery.incoming.msgType = some state ∧
      handled.core.profile =
        Function.update core.profile receiver (some (delivery.actor.service, state)) := by
  obtain ⟨actor, payload, rest, incoming, current, executed, sent, found, inbox, decoded, again,
    ran, emitted, events⟩ := delivery
  dsimp only at own ⊢
  subst own
  have popped : current = { actor with inbox := rest } := by
    have stored : (core.pop actor.id actor (handled.msgId, payload) rest).actors.lookup actor.id =
        some { actor with inbox := rest } := AList.lookup_insert _
    rw [stored] at again
    exact (Option.some.inj again).symm
  subst popped
  refine ⟨executed.state, executeActions_state ran, ?_⟩
  have middle : (core.pop actor.id actor (handled.msgId, payload) rest).profile = core.profile :=
    (Core.profile_of_actors rfl).trans (Core.profile_inbox found rest)
  rw [sendAll_profile emitted, Core.profile_setActor, middle]

end Profiles

/-! ## Reading the states off a trace -/

section Reading

variable {V : Type}

/-- The type of the message that the event shows `id` to have handled. -/
def handledType (id : ActorId) : EventKind V → Option String
  | .effectObserved _ actor _ msgType _ _ _ => if actor = id then some msgType else none
  | _ => none

def handledTypes (id : ActorId) (kinds : List (EventKind V)) : List String :=
  kinds.filterMap (handledType id)

theorem handledTypes_append (id : ActorId) (left right : List (EventKind V)) :
    handledTypes id (left ++ right) = handledTypes id left ++ handledTypes id right :=
  List.filterMap_append

/-- The state map that the automaton of the service reaches from its initial one. -/
def stateAfter (program : Program) (service : String) (types : List String) : Option StateMap :=
  (program.serviceInitialState.lookup service).bind fun declared =>
    types.foldlM (nextState program service) declared

theorem stateAfter_append (program : Program) (service : String) (left right : List String) :
    stateAfter program service (left ++ right) =
      (stateAfter program service left).bind fun state =>
        right.foldlM (nextState program service) state := by
  unfold stateAfter
  cases program.serviceInitialState.lookup service with
  | none => rfl
  | some declared => exact List.foldlM_append

/-- The trace so far tells the state of every actor. -/
def StatesTraced (program : Program) (past : List (EventKind V)) (core : Core V) : Prop :=
  ∀ id service state, core.profile id = some (service, state) →
    stateAfter program service (handledTypes id past) = some state

theorem StatesTraced.quiet {program : Program} {past kinds : List (EventKind V)}
    {core final : Core V} (traced : StatesTraced program past core)
    (same : final.profile = core.profile) (silent : ∀ id, handledTypes id kinds = []) :
    StatesTraced program (past ++ kinds) final := by
  intro id service state stored
  rw [handledTypes_append, silent, List.append_nil]
  rw [same] at stored
  exact traced id service state stored

variable {host : Host V} {site : Site} {Wire : WireEnvelope V → Prop} {entryActor : ActorId}
  {core final : Core V} {kinds : List (EventKind V)}

theorem sendAll_silent {step : Nat} {actorId : ActorId} {cause : MsgId × V}
    {outbox : List (Outgoing V)}
    (sending : sendAll site step actorId cause outbox core = .ok (kinds, final)) (id : ActorId) :
    handledTypes id kinds = [] := by
  induction outbox generalizing core kinds with
  | nil =>
      cases sending
      rfl
  | cons out rest ih =>
      rw [sendAll] at sending
      split at sending
      · exact ih sending
      · obtain ⟨dispatched, routed, sending⟩ := ExceptRun.bind_ok.mp sending
        obtain ⟨⟨later, last⟩, remaining, sending⟩ := ExceptRun.bind_ok.mp sending
        cases sending
        have others := ih remaining
        rcases (routeOutgoing_ok site).mp routed with ⟨_, _, _, _, _, _, rfl⟩ | ⟨_, _, _, _, _, rfl⟩
        · exact others
        · exact others

theorem QuietStep.silent (step : QuietStep site Wire core kinds final) (id : ActorId) :
    handledTypes id kinds = [] := by
  cases step with
  | fault event isFault =>
      cases event with
      | faultInjected => rfl
      | faultPolicy => rfl
      | _ => exact isFault.elim
  | receive env arrived => rfl
  | fire timer rest dispatched split routed =>
      rcases (routeOutgoing_ok site).mp routed with ⟨_, _, _, _, _, _, rfl⟩ | ⟨_, _, _, _, _, rfl⟩
      · rfl
      · rfl

theorem BootStep.silent (step : BootStep host site entryActor core kinds final) (id : ActorId) :
    handledTypes id kinds = [] := by
  cases step with
  | spawn actor service => rfl
  | bootstrap index actor msgId payload allocated allocates encoded found => rfl

/-- The events of a delivery show one handled message, of the receiver. -/
theorem Delivery.handledTypes {step : Nat} {receiver : ActorId} {handled : Handled V}
    (delivery : Delivery host site step receiver core handled) (id : ActorId) :
    handledTypes id (.deliver site.nodeId receiver handled.msgId :: handled.events) =
      if delivery.actor.id = id then [delivery.incoming.msgType] else [] := by
  have logs (logged : List LogEmission) (popped : Popped V) :
      Runtime.handledTypes id (logged.map (logEvent site popped)) = [] :=
    List.filterMap_eq_nil_iff.mpr fun kind member => by
      obtain ⟨_, _, rfl⟩ := List.mem_map.mp member
      rfl
  have sends := sendAll_silent delivery.emitted id
  rw [delivery.events]
  change ([_] ++ ([_] ++ (_ ++ _))).filterMap (handledType id) = _
  rw [List.filterMap_append, List.filterMap_append, List.filterMap_append]
  have nothing := logs delivery.executed.ctx.logs
    ⟨delivery.actor.id, delivery.actor.service, handled.msgId, delivery.payload⟩
  unfold Runtime.handledTypes at nothing sends
  rw [nothing, sends, List.append_nil, List.append_nil]
  by_cases here : delivery.actor.id = id
  · rw [if_pos here, List.filterMap_cons_none rfl, List.filterMap_nil, List.nil_append]
    exact List.filterMap_cons_some (if_pos here)
  · rw [if_neg here, List.filterMap_cons_none rfl, List.filterMap_nil, List.nil_append]
    exact List.filterMap_cons_none (if_neg here)

/-- The step lemma. -/
theorem NodeStep.statesTraced {past : List (EventKind V)}
    (hosts : core.Hosts host site.program) (traced : StatesTraced site.program past core)
    (step : NodeStep host site Wire core kinds final) :
    StatesTraced site.program (past ++ kinds) final := by
  cases step with
  | quiet step => exact traced.quiet step.profile step.silent
  | deliver step receiver handled handles =>
      obtain ⟨delivery⟩ := (handleDelivery_ok host site).mp handles
      have own := (hosts.hosted receiver delivery.actor delivery.found).id_eq
      obtain ⟨next, moved, profile⟩ := delivery.profile own
      intro id service state stored
      rw [handledTypes_append, delivery.handledTypes, own]
      rw [profile] at stored
      by_cases here : id = receiver
      · subst here
        rw [Function.update_self] at stored
        cases stored
        have before : core.profile id = some (delivery.actor.service, delivery.actor.state) := by
          unfold Core.profile
          rw [delivery.found]
          rfl
        rw [if_pos rfl, stateAfter_append, traced _ _ _ before, Option.bind_some, List.foldlM_cons,
          moved]
        rfl
      · rw [Function.update_of_ne here] at stored
        rw [if_neg (Ne.symm here), List.append_nil]
        exact traced id service state stored

/-- The run lemma. -/
theorem nodeRun_statesTraced {past : List (EventKind V)} (accepted : Accepted host site.program)
    (hosts : core.Hosts host site.program) (traced : StatesTraced site.program past core)
    (run : Run (NodeStep host site Wire) core kinds final) :
    StatesTraced site.program (past ++ kinds) final := by
  have keeps (past : List (EventKind V)) (before : Core V) (labels : List (EventKind V))
      (after : Core V)
      (inv : before.Hosts host site.program ∧ StatesTraced site.program past before)
      (step : NodeStep host site Wire before labels after) :
      after.Hosts host site.program ∧ StatesTraced site.program (past ++ labels) after := by
    have ops : Run (CoreOp host site Wire 0) before labels after := step.ops accepted inv.1
    exact ⟨CoreRun.hosts ops inv.1, step.statesTraced inv.1 inv.2⟩
  exact (Run.history keeps ⟨hosts, traced⟩ run).2

theorem bootRun_statesTraced {past : List (EventKind V)}
    (traced : StatesTraced site.program past core)
    (run : Run (BootStep host site entryActor) core kinds final) :
    StatesTraced site.program (past ++ kinds) final := by
  have keeps (past : List (EventKind V)) (before : Core V) (labels : List (EventKind V))
      (after : Core V) (inv : StatesTraced site.program past before)
      (step : BootStep host site entryActor before labels after) :
      StatesTraced site.program (past ++ labels) after :=
    inv.quiet step.profile step.silent
  exact Run.history keeps traced run

/-- At launch the automata are where they start. -/
theorem statesTraced_initial {program : Program} {system : ActorSystem V × ServiceActors}
    (built : Built host program program.services system) :
    StatesTraced program [] (.initial system.1) := by
  intro id service state stored
  unfold Core.profile at stored
  obtain ⟨actor, found, same⟩ := Option.map_eq_some_iff.mp stored
  cases same
  unfold stateAfter
  rw [built.actor_state id actor found]
  rfl

theorem spawnList_silent (nodeId : NodeId) (services : List String) (id : ActorId) :
    handledTypes id (spawnList host nodeId services) = [] :=
  List.filterMap_eq_nil_iff.mpr fun kind member => by
    rcases List.mem_cons.mp member with rfl | spawned
    · rfl
    · obtain ⟨_, _, rfl⟩ := List.mem_map.mp spawned
      rfl

end Reading

section Record

variable {V : Type} {host : Host V} {program : Program}

theorem Recording.statesTraced {cfg : Config} {inbound : Nat → List (WireEnvelope V)}
    {Wire : WireEnvelope V → Prop} {st : MainState V} (accepted : Accepted host program)
    (recording : Recording host program cfg inbound Wire st) :
    StatesTraced program recording.events st.core := by
  have ready := launch_launched recording.launches
  have same := ready.program_eq
  have boots : Run (BootStep host recording.launched.site recording.entryActor)
      (.initial recording.launched.actors) recording.boots recording.booted :=
    bootAll_run host recording.launched.site recording.boot
  have launched : StatesTraced recording.launched.site.program
      (spawnList host cfg.nodeId program.services) (.initial recording.launched.actors) := by
    rw [same]
    exact (statesTraced_initial ready.built).quiet rfl
      (spawnList_silent cfg.nodeId program.services)
  have hosts : recording.booted.Hosts host recording.launched.site.program :=
    CoreRun.hosts (bootRun_ops boots :
      Run (CoreOp host recording.launched.site Wire recording.entryActor) _ _ _) recording.hosts
  have loop := nodeRun_statesTraced (same.symm ▸ accepted) hosts
    (bootRun_statesTraced launched boots) recording.loop.run
  rw [same] at loop
  exact loop

variable [DecidableEq V]

/-- The trace of a run tells the final state of every actor: it is where the automaton
of its service gets to on the types of the messages that the actor handled. -/
theorem record_states {src : String} (loaded : loadProgram host src = .ok program)
    {cfg : Config} {inbound : Nat → List (WireEnvelope V)} {st : MainState V}
    {trace : List (TraceEvent V)} (ran : record host program cfg inbound = .ok () st)
    (writer : st.writer = some trace) :
    ∀ id actor, st.core.actors.lookup id = some actor →
      stateAfter program actor.service (handledTypes id (trace.map TraceEvent.kind)) =
        some actor.state := by
  intro id actor found
  obtain ⟨recording⟩ : Nonempty (Recording host program cfg inbound (fun _ => True) st) :=
    record_ok (fun _ _ => trivial) ran
  have traced := recording.statesTraced (loadProgram_accepted loaded)
  cases recording.writer.symm.trans writer
  rw [stamp_kind]
  apply traced id
  unfold Core.profile
  rw [found]
  rfl

/-- Node 7 runs the sample program for eight steps. -/
theorem record_states_sample :
    ∃ st trace, record jsonHost sampleProgram (sampleConfig 8) sampleInbound = .ok () st ∧
      st.writer = some trace ∧ ∀ id actor, st.core.actors.lookup id = some actor →
        stateAfter sampleProgram actor.service (handledTypes id (trace.map TraceEvent.kind)) =
          some actor.state := by
  have succeeds : ∃ a st,
      record jsonHost sampleProgram (sampleConfig 8) sampleInbound = .ok a st :=
    StateRun.exists_ok (by decide +kernel)
  obtain ⟨⟨⟩, st, ran⟩ := succeeds
  obtain ⟨recording⟩ : Nonempty (Recording jsonHost sampleProgram (sampleConfig 8) sampleInbound
      (fun _ => True) st) := record_ok (fun _ _ => trivial) ran
  exact ⟨st, _, ran, recording.writer, record_states sampleProgram_loaded ran recording.writer⟩

end Record

end UcoStack.Runtime
