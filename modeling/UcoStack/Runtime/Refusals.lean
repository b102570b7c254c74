import UcoStack.Runtime.MailRun

/-!
# Why a node fails

In a core that hosts its program every queued message and every pending timer can be
dispatched.  What is left to stop a node are the counters of its trace and of its fault
injector, and the handler of the message it delivers.
-/

namespace UcoStack.Runtime

open StateRun

/-! ## Pending timers can be dispatched -/

section Timers

variable {V : Type} {host : Host V} {site : Site} {Wire : WireEnvelope V → Prop}
  {entryActor : ActorId} {core final : Core V} {kinds : List (EventKind V)}

/-- Every pending timer is for a service of the program. -/
def Core.TimersKnown (program : Program) (core : Core V) : Prop :=
  ∀ timer ∈ core.pendingTimers, timer.target.service ∈ program.services

theorem Core.TimersKnown.fewer {program : Program} (known : core.TimersKnown program)
    (fewer : final.pendingTimers ⊆ core.pendingTimers) : final.TimersKnown program :=
  fun timer member => known timer (fewer member)

theorem CoreOp.timersKnown (op : CoreOp host site Wire entryActor core kinds final)
    (known : core.TimersKnown site.program) : final.TimersKnown site.program := by
  cases op with
  | note event isNote => exact known
  | receive env arrived =>
      rw [Core.receive]
      split
      · exact known
      · exact known
  | pop receiver actor message rest found inbox => exact known
  | write id actor state found keys => exact known
  | schedule step actorId cause out delivered answers =>
      intro timer member
      rcases List.mem_append.mp member with old | new
      · exact known timer old
      · cases List.mem_singleton.mp new
        exact answers.service_mem
  | send fromActor target payload cause dispatched delivered answers routed =>
      exact known.fewer (List.Perm.of_eq (routeOutgoing_routed routed).pendingTimers).subset
  | setTimers timers fewer => exact known.fewer fewer.subset
  | fire timer rest dispatched split routed =>
      have waiting : (core.setTimers rest).TimersKnown site.program :=
        known.fewer fun other member => split.mem_iff.mpr (List.mem_cons_of_mem timer member)
      exact waiting.fewer (List.Perm.of_eq (routeOutgoing_routed routed).pendingTimers).subset
  | bootstrap index actor msgId payload allocated allocates encoded found =>
      cases allocates
      exact known

theorem CoreRun.timersKnown (run : Run (CoreOp host site Wire entryActor) core kinds final)
    (known : core.TimersKnown site.program) : final.TimersKnown site.program :=
  run.invariant (fun _ _ _ inv op => op.timersKnown inv) known

end Timers

/-! ## Sending never fails -/

section Sending

variable {V : Type} {host : Host V} {site : Site} {s s' : MainState V} {error : RunError V}

/-- The site knows the actor of every service. -/
def Site.Maps (host : Host V) (site : Site) : Prop :=
  ∀ service ∈ site.program.services,
    site.serviceToActor.lookup service = some (actorIdForService host service)

variable (maps : site.Maps host)

include maps

theorem dispatchOutgoing_succeeds (hosts : s.core.Hosts host site.program) {target : Target}
    (member : target.service ∈ site.program.services) (mode : Mode) (fromActor : ActorId)
    (payload : V) (cause : MsgId × V) :
    ∃ event m, dispatchOutgoing site mode fromActor target payload cause s = .ok event m ∧
      m.core.Hosts host site.program := by
  obtain ⟨dispatched, routed⟩ := routeOutgoing_succeeds hosts maps member fromActor payload cause
  exact ⟨_, _, dispatchOutgoing_ok.mpr ⟨dispatched, routed, rfl, rfl⟩,
    routeOutgoing_hosts hosts routed⟩

/-- Firing a timer fails only in the trace. -/
theorem fireTimer_error (hosts : s.core.Hosts host site.program) {timer : PendingTimer V}
    (member : timer.target.service ∈ site.program.services)
    (failed : fireTimer site timer s = .error error s') : RecordError error := by
  rcases bind_error.mp failed with early | ⟨_, m, recorded, failed⟩
  · exact recordEvent_fails _ s error s' early
  · have same : m.core = s.core := by
      rw [recordEvent_ok recorded]
      rfl
    obtain ⟨event, n, dispatches, _⟩ := dispatchOutgoing_succeeds maps (same.symm ▸ hosts) member
      .record timer.fromActor timer.payload timer.cause
    rcases bind_error.mp failed with early | ⟨_, o, _, late⟩
    · rw [dispatches] at early
      cases early
    · exact recordEvent_fails _ o error s' late

theorem fireAll_error {due : List (PendingTimer V)} (hosts : s.core.Hosts host site.program)
    (known : ∀ timer ∈ due, timer.target.service ∈ site.program.services)
    (failed : due.forM (fireTimer site) s = .error error s') : RecordError error := by
  induction due generalizing s with
  | nil => cases failed
  | cons timer rest ih =>
      rcases bind_error.mp failed with early | ⟨_, m, fired, late⟩
      · exact fireTimer_error maps hosts (known timer List.mem_cons_self) early
      · obtain ⟨dispatched, routed, rfl⟩ := fireTimer_ok fired
        have after : dispatched.core.Hosts host site.program := routeOutgoing_hosts hosts routed
        exact ih after (fun other member => known other (List.mem_cons_of_mem timer member)) late

theorem fireDueTimers_error (hosts : s.core.Hosts host site.program)
    (known : s.core.TimersKnown site.program) {step : Nat}
    (failed : fireDueTimers site step s = .error error s') : RecordError error := by
  rw [fireDueTimers, get_bind, updateCore_bind] at failed
  have waiting : (s.core.setTimers (s.core.pendingTimers.filter fun timer =>
      !timerDue step timer)).Hosts host site.program := hosts.of_actors rfl
  apply fireAll_error maps waiting _ failed
  intro timer member
  have due := (List.perm_insertionSort _ _).mem_iff.mp member
  exact known timer (List.mem_filter.mp due).1

theorem sendOutgoing_error (hosts : s.core.Hosts host site.program) {out : Outgoing V}
    (member : out.target.service ∈ site.program.services) {step : Nat} {actorId : ActorId}
    {cause : MsgId × V} {expected : List (EventKind V)}
    (failed : sendOutgoing site .record step actorId cause expected out s = .error error s') :
    RecordError error := by
  rw [sendOutgoing] at failed
  split at failed
  · cases failed
  · obtain ⟨event, m, dispatches, _⟩ := dispatchOutgoing_succeeds maps hosts member .record actorId
      out.payload cause
    rcases bind_error.mp failed with early | ⟨_, n, _, late⟩
    · rw [dispatches] at early
      cases early
    · rcases bind_error.mp late with early | ⟨_, o, _, late⟩
      · exact recordEvent_fails _ n error s' early
      · cases late

omit maps in
theorem sendOutgoing_hosts (hosts : s.core.Hosts host site.program) {out : Outgoing V} {step : Nat}
    {actorId : ActorId} {cause : MsgId × V} {expected expected' : List (EventKind V)}
    (sent : sendOutgoing site .record step actorId cause expected out s = .ok expected' s') :
    s'.core.Hosts host site.program := by
  rw [sendOutgoing] at sent
  split at sent
  · cases sent
    exact hosts.of_actors rfl
  · obtain ⟨event, m, dispatching, emitting⟩ := bind_ok.mp sent
    obtain ⟨dispatched, routed, rfl, rfl⟩ := dispatchOutgoing_ok.mp dispatching
    obtain ⟨rfl, _⟩ := emit_ok emitting
    exact routeOutgoing_hosts hosts routed

theorem sendOutbox_error (hosts : s.core.Hosts host site.program) {outbox : List (Outgoing V)}
    (known : ∀ out ∈ outbox, out.target.service ∈ site.program.services) {step : Nat}
    {actorId : ActorId} {cause : MsgId × V} {expected : List (EventKind V)}
    (failed : outbox.foldlM (sendOutgoing site .record step actorId cause) expected s =
      .error error s') : RecordError error := by
  induction outbox generalizing expected s with
  | nil => cases failed
  | cons out rest ih =>
      rw [List.foldlM_cons] at failed
      rcases bind_error.mp failed with early | ⟨expected', m, sent, late⟩
      · exact sendOutgoing_error maps hosts (known out List.mem_cons_self) early
      · exact ih (sendOutgoing_hosts hosts sent)
          (fun other member => known other (List.mem_cons_of_mem out member)) late

theorem emitExecuted_error (hosts : s.core.Hosts host site.program) {executed : Executed V}
    (known : ∀ out ∈ executed.ctx.outbox, out.target.service ∈ site.program.services) {step : Nat}
    {popped : Popped V} {incoming : RuntimeMessage}
    (failed : emitExecuted site .record step popped incoming executed s = .error error s') :
    RecordError error := by
  have emits (expected : List (EventKind V)) (event : EventKind V) :
      Fails RecordError (emit .record expected event) :=
    .bind (recordEvent_fails _) fun _ => .pure _
  rcases bind_error.mp failed with early | ⟨expected, m, observed, failed⟩
  · exact emits _ _ s error s' early
  rcases bind_error.mp failed with early | ⟨expected', n, logged, late⟩
  · have logs (logged : List LogEmission) : ∀ expected, Fails RecordError (logged.foldlM
        (fun expected log => emit .record expected (logEvent site popped log)) expected) := by
      induction logged with
      | nil => exact fun expected => .pure expected
      | cons log rest ih =>
          intro expected
          rw [List.foldlM_cons]
          exact .bind (emits expected _) ih
    exact logs _ expected m error s' early
  · have same : n.core = s.core := by
      obtain ⟨rfl, _⟩ := emit_ok observed
      obtain ⟨rfl, _⟩ := emitAll_ok logged
      rfl
    exact sendOutbox_error maps (same.symm ▸ hosts) known late

end Sending

/-! ## Refusals -/

section Refusals

variable {V : Type} {host : Host V} {site : Site} {s s' : MainState V} {error : RunError V}

/-- The service fails on the letter in the state: it is no message, or an increment of its
handler overflows. -/
inductive Refuses (host : Host V) (nodeId : NodeId) (peers : PeerMap) (program : Program)
    (service : String) (state : StateMap) : Option Letter → RunError V → Prop where
  | unread : Refuses host nodeId peers program service state none (.undecodable service)
  | overflow (letter : Letter) (key : String)
      (failed : controlActions host nodeId peers program service letter state = none) :
      Refuses host nodeId peers program service state (some letter)
        (.action service (.stateOverflow service key))

/-- The failure of a step: of its trace or injector, or of the actor that was to handle
a message at hand. -/
def StepFailure (host : Host V) (site : Site) (actors : ActorId → Option (String × StateMap))
    (mail : Multiset Mail) (error : RunError V) : Prop :=
  RecordError error ∨ ∃ receiver service state letter, actors receiver = some (service, state) ∧
    ((site.nodeId, receiver), letter) ∈ mail ∧
    Refuses host site.nodeId site.peers site.program service state letter error

variable (lawful : host.Lawful) (accepted : Accepted host site.program) (maps : site.Maps host)

include accepted in
/-- A handler on the declared variables fails only on an overflow. -/
theorem executeActions_overflow {service : String} {msgId : Uuid} {incoming : RuntimeMessage}
    {state declared : StateMap} {failure : ActionError}
    (stored : site.program.serviceInitialState.lookup service = some declared)
    (keys : SameKeys state declared)
    (failed : executeActions host service msgId incoming site.peers site.program state
      (.new site.nodeId) = .error failure) : ∃ key, failure = .stateOverflow service key := by
  rw [executeActions] at failed
  split at failed
  · cases failed
  · rename_i plan found
    have checked := accepted.handler_checked service incoming.msgType plan found
    have valid := checked.actions_valid declared stored
    let start : Execution V := ⟨state, .new site.nodeId, ∅⟩
    have sameKeys : SameKeys start.state declared := keys
    have progress : (∃ after, executeAll host service msgId incoming site.peers plan.actions start =
        .ok after) ∨ ∃ key, executeAll host service msgId incoming site.peers plan.actions start =
          .error (.stateOverflow service key) ∧
        IncOverflows host service msgId incoming site.peers plan.actions start :=
      executeAll_progress valid sameKeys
    rcases progress with ⟨after, succeeds⟩ | ⟨key, overflow, _⟩
    · rw [succeeds] at failed
      cases failed
    · rw [overflow] at failed
      cases failed
      exact ⟨key, rfl⟩

include lawful accepted maps

/-- The part of a delivery after the message was taken. -/
theorem runHandler_failure {popped : Popped V} {incoming : RuntimeMessage} {actor : Actor V}
    {step : Nat} (hosts : s.core.Hosts host site.program)
    (found : s.core.actors.lookup popped.actorId = some actor)
    (own : popped.service = actor.service)
    (failed : (runHandler host site popped incoming >>=
      emitExecuted site .record step popped incoming) s = .error error s') :
    RecordError error ∨ ∃ key, error = .action actor.service (.stateOverflow actor.service key) ∧
      controlActions host site.nodeId site.peers site.program actor.service
        ⟨incoming.msgType, host.uuidParse incoming.fromNode⟩ actor.state = none := by
  have old := hosts.hosted popped.actorId actor found
  obtain ⟨declared, stored, same⟩ := old.keys
  rcases bind_error.mp failed with early | ⟨executed, m, handled, late⟩
  · obtain ⟨rfl, refused⟩ := runHandler_error found early
    rw [runHandler, get_bind, found] at early
    dsimp only at early
    rw [own] at early refused
    have steered := @executeActions_control _ host site.nodeId actor.service popped.msgId incoming
      site.peers lawful site.program actor.state
    rw [refused] at steered
    generalize controls : controlActions host site.nodeId site.peers site.program actor.service
      ⟨incoming.msgType, host.uuidParse incoming.fromNode⟩ actor.state = control at steered
    cases steered
    cases execution : executeActions host actor.service popped.msgId incoming site.peers
        site.program actor.state (.new site.nodeId) with
    | error failure =>
        rw [execution] at early
        cases early
        obtain ⟨key, rfl⟩ := executeActions_overflow accepted stored same execution
        exact .inr ⟨key, rfl, rfl⟩
    | ok executed =>
        rw [execution] at refused
        cases refused
  · obtain ⟨current, again, execution, rfl⟩ := runHandler_ok handled
    cases Option.some.inj (found.symm.trans again)
    have after : (s.setCore (s.core.setActor popped.actorId
        { actor with state := executed.state })).core.Hosts host site.program :=
      hosts.setActor ⟨old.id_eq, old.service_mem, old.service_id, declared, stored,
        (executeActions_keys execution).trans same⟩
    exact .inl (emitExecuted_error maps after (executeActions_targets accepted execution) late)

theorem deliver_failure [DecidableEq V] {step : Nat} {chosen : PendingDelivery}
    (hosts : s.core.Hosts host site.program)
    (choice : chosen ∈ pendingDeliveries site.nodeId s.core)
    (failed : deliver host site .record step chosen s = .error error s') :
    StepFailure host site s.core.profile (s.core.mail host site.nodeId) error := by
  rcases bind_error.mp failed with early | ⟨_, m, recorded, failed⟩
  · exact .inl (recordEvent_fails _ s error s' early)
  have core : m.core = s.core := by
    rw [recordEvent_ok recorded]
    rfl
  rcases bind_error.mp failed with failed | ⟨_, n, _, late⟩
  · rw [← core] at hosts choice ⊢
    obtain ⟨-, actor, payload, rest, found, inbox⟩ := mem_pendingDeliveries choice
    have old := hosts.hosted chosen.receiver actor found
    have stored : m.core.profile chosen.receiver = some (actor.service, actor.state) := by
      rw [Core.profile, found]
      rfl
    have waiting : ((site.nodeId, chosen.receiver), letterOf host payload) ∈
        m.core.mail host site.nodeId := by
      rw [Core.mail_pop host site.nodeId found inbox]
      exact Multiset.mem_cons_self _ _
    rcases bind_error.mp failed with early | ⟨popped, o, popping, failed⟩
    · rw [popInbox, get_bind, found] at early
      dsimp only at early
      rw [inbox] at early
      cases early
    · obtain ⟨again, others, foundAgain, inboxAgain, same, rfl⟩ := popInbox_ok popping
      cases Option.some.inj (found.symm.trans foundAgain)
      rw [inbox] at inboxAgain
      obtain ⟨actorId, service, msgId, payload⟩ := popped
      cases same
      cases inboxAgain
      dsimp only at failed
      rw [if_neg (by rintro ⟨replays, -⟩; cases replays)] at failed
      cases decoded : decodeMsg host payload with
      | none =>
          rw [decoded] at failed
          cases failed
          have unread : letterOf host payload = none := by
            rw [letterOf, decoded]
            rfl
          rw [unread] at waiting
          exact .inr ⟨_, _, _, _, stored, waiting, .unread⟩
      | some incoming =>
          rw [decoded] at failed
          have letter : letterOf host payload =
              some ⟨incoming.msgType, host.uuidParse incoming.fromNode⟩ := by
            rw [letterOf, decoded]
            rfl
          rw [letter] at waiting
          let popped := m.core.pop chosen.receiver actor (chosen.msgId, payload) rest
          have popHosts : popped.Hosts host site.program := by
            have replaced : (m.core.setActor chosen.receiver
                { actor with inbox := rest }).Hosts host site.program :=
              hosts.setActor ⟨old.id_eq, old.service_mem, old.service_id, old.keys⟩
            exact replaced.of_actors rfl
          have popFound : popped.actors.lookup actor.id = some { actor with inbox := rest } :=
            (congrArg (fun id => popped.actors.lookup id) old.id_eq).trans (AList.lookup_insert _)
          rcases runHandler_failure lawful accepted maps popHosts popFound rfl failed with
            early | ⟨key, rfl, refused⟩
          · exact .inl early
          · exact .inr ⟨_, _, _, _, stored, waiting, .overflow _ key refused⟩
  · cases late

/-- A step fails in its trace or injector, or on a message that it held or received. -/
theorem recordStep_failure [DecidableEq V] (named : site.Named host) {cfg : FaultConfig}
    {step : Nat} {batch : List (WireEnvelope V)} (hosts : s.core.Hosts host site.program)
    (known : s.core.TimersKnown site.program) (settled : s.injector.IsSettled cfg)
    (own : s.Holds fun env => env.toNode = site.nodeId)
    (failed : recordStep host site step batch s = .error error s') :
    StepFailure host site s.core.profile
      (s.inHand host site.nodeId + wireMail host (ownEnvelopes site.nodeId batch)) error := by
  rcases bind_error.mp failed with early | ⟨_, m, drained, failed⟩
  · obtain ⟨count, queue, settled⟩ := settled
    exact .inl (drainNetwork_fails settled early)
  have quiet : Quiet s (finalState (drainNetwork site.nodeId step batch s)) :=
    drainNetwork_quiet step batch s
  have drains : Advances host site (fun _ => True) 0 s
      (finalState (drainNetwork site.nodeId step batch s)) :=
    drainNetwork_advances (fun _ _ => trivial) fun _ _ => trivial
  obtain ⟨-, mail⟩ := @drainNetwork_mail _ host _ _ _ _ _ _ settled own drained
  rw [drained] at quiet drains
  obtain ⟨kinds, run⟩ := drains.run
  rcases bind_error.mp failed with early | ⟨_, n, fired, failed⟩
  · exact .inl (fireDueTimers_error maps (drains.hosts hosts) (CoreRun.timersKnown run known) early)
  have fires : Spends host site.nodeId 0 m (finalState (fireDueTimers site step m)) :=
    fireDueTimers_spends named step
  have advances : Advances host site (fun _ => True) 0 m
      (finalState (fireDueTimers site step m)) := fireDueTimers_advances step m
  rw [fired] at fires advances
  rw [get_bind] at failed
  cases choice : chooseNextDeterministic (pendingDeliveries site.nodeId n.core) with
  | none =>
      rw [choice] at failed
      cases failed
  | some chosen =>
      rw [choice] at failed
      have member := chooseNextDeterministic_mem choice
      rcases deliver_failure lawful accepted maps (advances.hosts (drains.hosts hosts)) member
        failed with early | ⟨receiver, service, state, letter, stored, waiting, refuses⟩
      · exact .inl early
      · refine .inr ⟨receiver, service, state, letter, ?_, ?_, refuses⟩
        · exact (congrFun (fires.profile.trans quiet.profile) receiver).symm.trans stored
        · obtain ⟨new, -, spent⟩ := fires.mail
          rw [add_zero] at spent
          have inside : n.core.mail host site.nodeId ≤ m.inHand host site.nodeId :=
            ((Multiset.le_add_right _ _).trans spent).trans (Multiset.le_add_right _ _)
          exact Multiset.mem_of_le (inside.trans mail) waiting

end Refusals

/-! ## Startup -/

section Startup

variable {V : Type} {host : Host V} {program : Program} {cfg : Config} {launched : Launch V}
  {s s' : MainState V} {error : RunError V}

theorem bootstrapAll_error (ready : Launched host program cfg launched) {indices : List Nat}
    {emitted : List (EventKind V)} (hosts : s.core.Hosts host program)
    (failed : indices.foldlM (bootstrapOne host launched.site .record launched.entryActor) emitted
      s = .error error s') : RecordError error := by
  induction indices generalizing emitted s with
  | nil => cases failed
  | cons index rest ih =>
      rw [List.foldlM_cons] at failed
      obtain ⟨actor, found⟩ := hosts.present launched.entryService ready.entry_mem
      rw [← ready.entryActor_eq.2] at found
      rcases bind_error.mp failed with early | ⟨emitted', m, booted, late⟩
      · rw [bootstrapOne, get_bind] at early
        have same : (s.core.allocate launched.site.nodeId).2.actors.lookup launched.entryActor =
            some actor := found
        rw [same] at early
        dsimp only at early
        rw [updateCore_bind] at early
        rcases bind_error.mp early with early | ⟨_, n, _, late⟩
        · exact recordEvent_fails _ _ error s' early
        · cases late
      · have advances : Advances host launched.site (fun _ => True) launched.entryActor s
            (finalState (bootstrapOne host launched.site .record launched.entryActor emitted index
              s)) := bootstrapOne_advances emitted index s
        rw [booted] at advances
        rw [← ready.program_eq] at hosts
        have after := advances.hosts hosts
        rw [ready.program_eq] at after
        exact ih after late

/-- A node that was launched fails at startup only in its trace. -/
theorem startup_error [DecidableEq V] (ready : Launched host program cfg launched)
    (hosts : s.core.Hosts host program)
    (failed : startup host launched.site .record cfg launched.entryService s = .error error s') :
    RecordError error := by
  rw [startup, spawnEvents_eq ready] at failed
  rcases bind_error.mp failed with early | ⟨spawned, m, same, failed⟩
  · cases early
  cases same
  rcases bind_error.mp failed with early | ⟨_, n, written, failed⟩
  · have records (kinds : List (EventKind V)) : Fails RecordError (kinds.forM (recordIn .record)) :=
      .forM fun kind => recordEvent_fails kind
    exact records _ s error s' early
  rcases bind_error.mp failed with early | ⟨_, o, _, late⟩
  · cases recordInAll_ok written
    have core := @emitted_core _ .record s (spawnList host cfg.nodeId program.services)
    rw [enqueueBootstrap, ready.entryActor_eq.1] at early
    exact bootstrapAll_error ready (core.symm ▸ hosts) early
  · cases late

/-- An accepted program can be launched unless it has no service. -/
theorem launch_error (accepted : Accepted host program)
    (failed : launch host program cfg = .error error) :
    error = .noServices ∧ program.services = [] := by
  obtain ⟨system, building⟩ := @buildActorSystem_succeeds _ host program accepted
  rw [launch, building] at failed
  change (chooseEntryService program system.2 >>= _) = _ at failed
  cases chosen : chooseEntryService program system.2 with
  | ok entryService =>
      rw [chosen] at failed
      cases failed
  | error refusal =>
      rw [chosen] at failed
      cases failed
      rw [chooseEntryService] at chosen
      split at chosen
      · cases chosen
      · split at chosen
        · cases chosen
        · rename_i none
          cases chosen
          exact ⟨rfl, List.head?_eq_none_iff.mp none⟩

end Startup

end UcoStack.Runtime
