import UcoStack.Runtime.Progress

/-!
# Elementary changes of a core

`CoreOp` lists what the code ever does to a core, one change at a time.  The
steps of a node are runs of such changes, and so is every part of a step that
fails half-way; an invariant is therefore proved by one look at each change.
-/

namespace UcoStack.Runtime

section Operations

variable {V : Type} (host : Host V) (site : Site)

/-- A message a handler built in answer to the delivered message `cause`. -/
structure Answers (cause : MsgId × V) (target : Target) (payload : V) : Prop where
  built : ∃ incoming service, decodeMsg host cause.2 = some incoming ∧
    service ∈ site.program.services ∧
    BuiltFrom host site.nodeId service incoming cause.1 payload
  service_mem : target.service ∈ site.program.services

/-- An event that moves no message. -/
def EventKind.IsNote : EventKind V → Prop
  | .send .. | .netRecv .. | .netSend .. | .deliver .. => False
  | _ => True

variable (Wire : WireEnvelope V → Prop) (entryActor : ActorId)

inductive CoreOp : Core V → List (EventKind V) → Core V → Prop where
  | note {core : Core V} (event : EventKind V) (isNote : event.IsNote) : CoreOp core [event] core
  | receive {core : Core V} (env : WireEnvelope V) (arrived : Wire env) :
      CoreOp core [env.recvEvent] (core.receive env.toActor env.msgId env.payload)
  | pop {core : Core V} (receiver : ActorId) (actor : Actor V) (message : MsgId × V)
      (rest : List (MsgId × V)) (found : core.actors.lookup receiver = some actor)
      (inbox : actor.inbox = message :: rest) :
      CoreOp core [.deliver site.nodeId receiver message.1] (core.pop receiver actor message rest)
  | write {core : Core V} (id : ActorId) (actor : Actor V) (state : StateMap)
      (found : core.actors.lookup id = some actor) (keys : SameKeys state actor.state) :
      CoreOp core [] (core.setActor id { actor with state := state })
  | schedule {core : Core V} (step : Nat) (actorId : ActorId) (cause : MsgId × V)
      (out : Outgoing V) (delivered : cause ∈ core.delivered)
      (answers : Answers host site cause out.target out.payload) :
      CoreOp core [] (scheduleTimer site step actorId cause out core)
  | send {core : Core V} (fromActor : ActorId) (target : Target) (payload : V)
      (cause : MsgId × V) (dispatched : Dispatched V) (delivered : cause ∈ core.delivered)
      (answers : Answers host site cause target payload)
      (routed : routeOutgoing site fromActor target payload cause core = .ok dispatched) :
      CoreOp core [dispatched.event] dispatched.core
  | setTimers {core : Core V} (timers : List (PendingTimer V))
      (fewer : timers.Subperm core.pendingTimers) : CoreOp core [] (core.setTimers timers)
  | fire {core : Core V} (timer : PendingTimer V) (rest : List (PendingTimer V))
      (dispatched : Dispatched V) (split : core.pendingTimers.Perm (timer :: rest))
      (routed : routeOutgoing site timer.fromActor timer.target timer.payload timer.cause
        (core.setTimers rest) = .ok dispatched) :
      CoreOp core [timer.firedEvent site, dispatched.event] dispatched.core
  | bootstrap {core : Core V} (index : Nat) (actor : Actor V) (msgId : MsgId) (payload : V)
      (allocated : Core V) (allocates : core.allocate site.nodeId = (msgId, allocated))
      (encoded : payload = encodeMsg host (bootstrapMessage host site index msgId))
      (found : allocated.actors.lookup entryActor = some actor) :
      CoreOp core [.send (systemActorId host) entryActor msgId payload]
        ((allocated.enqueue entryActor actor msgId payload).produce msgId payload none none)

variable {host site Wire entryActor}

theorem CoreOp.mono {Other : WireEnvelope V → Prop} (wider : ∀ env, Wire env → Other env)
    {core final : Core V} {kinds : List (EventKind V)}
    (op : CoreOp host site Wire entryActor core kinds final) :
    CoreOp host site Other entryActor core kinds final := by
  cases op with
  | note event isNote => exact .note event isNote
  | receive env arrived => exact .receive env (wider env arrived)
  | pop receiver actor message rest found inbox => exact .pop receiver actor message rest found inbox
  | write id actor state found keys => exact .write id actor state found keys
  | schedule step actorId cause out delivered answers =>
      exact .schedule step actorId cause out delivered answers
  | send fromActor target payload cause dispatched delivered answers routed =>
      exact .send fromActor target payload cause dispatched delivered answers routed
  | setTimers timers fewer => exact .setTimers timers fewer
  | fire timer rest dispatched split routed => exact .fire timer rest dispatched split routed
  | bootstrap index actor msgId payload allocated allocates encoded found =>
      exact .bootstrap index actor msgId payload allocated allocates encoded found

end Operations

/-! ## The steps of a node as operations -/

section Steps

variable {V : Type} {host : Host V} {site : Site} {Wire : WireEnvelope V → Prop}
  {entryActor : ActorId}

theorem routeOutgoing_delivered {fromActor : ActorId} {target : Target} {payload : V}
    {cause : MsgId × V} {core : Core V} {dispatched : Dispatched V}
    (routed : routeOutgoing site fromActor target payload cause core = .ok dispatched) :
    dispatched.core.delivered = core.delivered := by
  rcases (routeOutgoing_ok site).mp routed with ⟨_, _, _, _, _, _, rfl⟩ | ⟨_, _, _, _, _, rfl⟩
  · rfl
  · rfl

theorem sendAll_ops {step : Nat} {actorId : ActorId} {cause : MsgId × V}
    {outbox : List (Outgoing V)} {core final : Core V} {kinds : List (EventKind V)}
    (delivered : cause ∈ core.delivered)
    (answers : ∀ out ∈ outbox, Answers host site cause out.target out.payload)
    (sending : sendAll site step actorId cause outbox core = .ok (kinds, final)) :
    Run (CoreOp host site Wire entryActor) core kinds final := by
  induction outbox generalizing core kinds with
  | nil =>
      cases sending
      exact .refl _
  | cons item rest ih =>
      have here := answers item List.mem_cons_self
      have others : ∀ out ∈ rest, Answers host site cause out.target out.payload :=
        fun out member => answers out (List.mem_cons_of_mem item member)
      rw [sendAll] at sending
      split at sending
      · have scheduled : CoreOp host site Wire entryActor core []
            (scheduleTimer site step actorId cause item core) :=
          .schedule step actorId cause item delivered here
        have kept : cause ∈ (scheduleTimer site step actorId cause item core).delivered := delivered
        exact Run.head scheduled (ih kept others sending)
      · obtain ⟨dispatched, routed, sending⟩ := ExceptRun.bind_ok.mp sending
        obtain ⟨⟨later, last⟩, remaining, sending⟩ := ExceptRun.bind_ok.mp sending
        cases sending
        refine .head (.send actorId item.target item.payload cause dispatched delivered here
          routed) (ih ?_ others remaining)
        rw [routeOutgoing_delivered routed]
        exact delivered

theorem notes_ops {kinds : List (EventKind V)} (core : Core V)
    (isNote : ∀ kind ∈ kinds, kind.IsNote) :
    Run (CoreOp host site Wire entryActor) core kinds core := by
  induction kinds with
  | nil => exact .refl core
  | cons kind rest ih =>
      have here : CoreOp host site Wire entryActor core [kind] core :=
        .note kind (isNote kind List.mem_cons_self)
      exact .head here (ih fun other member => isNote other (List.mem_cons_of_mem kind member))

/-- What a handler of an accepted program queues answers the delivered message. -/
theorem executeActions_answers (accepted : Accepted host site.program) {service : String}
    {message : MsgId × V} {incoming : RuntimeMessage} {state : StateMap}
    {executed : Executed V} (declared : service ∈ site.program.services)
    (decoded : decodeMsg host message.2 = some incoming)
    (ran : executeActions host service message.1 incoming site.peers site.program state
      (.new site.nodeId) = .ok executed) :
    ∀ out ∈ executed.ctx.outbox, Answers host site message out.target out.payload := by
  intro out member
  have target := executeActions_targets accepted ran out member
  refine ⟨⟨incoming, service, decoded, declared, ?_⟩, target⟩
  unfold executeActions at ran
  split at ran
  · cases ran
    exact absurd member List.not_mem_nil
  · split at ran
    · cases ran
    · rename_i exec execution
      cases ran
      obtain ⟨_, _, _, built⟩ := ((executeAll_executes host service message.1 incoming site.peers
        execution).outbox out member).resolve_left List.not_mem_nil
      exact built

/-- Every actor is stored under its own identifier and runs a declared service. -/
def Core.Hosted (program : Program) (core : Core V) : Prop :=
  ∀ id actor, core.actors.lookup id = some actor →
    actor.id = id ∧ actor.service ∈ program.services

theorem handleDelivery_ops (accepted : Accepted host site.program) {step : Nat}
    {receiver : ActorId} {core : Core V} {handled : Handled V}
    (hosted : core.Hosted site.program)
    (handles : handleDelivery host site step receiver core = .ok handled) :
    Run (CoreOp host site Wire entryActor) core
      (.deliver site.nodeId receiver handled.msgId :: handled.events) handled.core := by
  obtain ⟨delivery⟩ := (handleDelivery_ok host site).mp handles
  obtain ⟨actor, payload, rest, incoming, current, executed, sent, found, inbox, decoded, again,
    ran, emitted, events⟩ := delivery
  have declared := (hosted receiver actor found).2
  let message : MsgId × V := (handled.msgId, payload)
  let popped : Popped V := ⟨actor.id, actor.service, handled.msgId, payload⟩
  let middle := (core.pop receiver actor message rest).setActor actor.id
    { current with state := executed.state }
  have pops : CoreOp host site Wire entryActor core
      [.deliver site.nodeId receiver handled.msgId] (core.pop receiver actor message rest) :=
    .pop receiver actor message rest found inbox
  have writes : CoreOp host site Wire entryActor (core.pop receiver actor message rest) []
      middle :=
    .write actor.id current executed.state again (executeActions_keys ran)
  have notes : Run (CoreOp host site Wire entryActor) middle
      (observedEvent site popped incoming executed.effects ::
        executed.ctx.logs.map (logEvent site popped)) middle := by
    apply notes_ops middle
    intro kind member
    rcases List.mem_cons.mp member with rfl | log
    · trivial
    · obtain ⟨_, _, rfl⟩ := List.mem_map.mp log
      trivial
  have delivered : message ∈ middle.delivered :=
    List.mem_append_right core.delivered List.mem_cons_self
  have answers : ∀ out ∈ executed.ctx.outbox, Answers host site message out.target out.payload :=
    executeActions_answers accepted declared decoded ran
  have whole := Run.head pops (Run.head writes
    (notes.trans (sendAll_ops delivered answers emitted)))
  rw [events]
  exact whole

theorem QuietStep.ops {core final : Core V} {kinds : List (EventKind V)}
    (step : QuietStep site Wire core kinds final) :
    Run (CoreOp host site Wire entryActor) core kinds final := by
  cases step with
  | fault event isFault =>
      refine .single (.note event ?_)
      cases event with
      | faultInjected => trivial
      | faultPolicy => trivial
      | _ => exact isFault.elim
  | receive env arrived => exact .single (.receive env arrived)
  | fire timer rest dispatched split routed =>
      exact .single (.fire timer rest dispatched split routed)

theorem BootStep.ops {core final : Core V} {kinds : List (EventKind V)}
    (step : BootStep host site entryActor core kinds final) :
    Run (CoreOp host site Wire entryActor) core kinds final := by
  cases step with
  | spawn actor service => exact .single (.note _ trivial)
  | bootstrap index actor msgId payload allocated allocates encoded found =>
      exact .single (.bootstrap index actor msgId payload allocated allocates encoded found)

end Steps

end UcoStack.Runtime
