import UcoStack.Library.ExceptRun
import UcoStack.Library.Transition
import UcoStack.Runtime.Inbound
import UcoStack.Runtime.Main

/-!
# A node as a transition system

The abstract view of a node.  Its state is a `Core`; a step injects a network
message, fires a pending timer or delivers the head of an inbox, and is labelled
with the events it leaves in the trace.  Which step comes next is left open, so
record mode and replay mode are two ways of choosing among the same steps.
-/

namespace UcoStack.Runtime

section Delivery

variable {V : Type} (host : Host V) (site : Site)

/-- The outbox loop on the core: the events emitted and the core reached. -/
def sendAll (step : Nat) (actorId : ActorId) (cause : MsgId × V) :
    List (Outgoing V) → Core V → Except (RunError V) (List (EventKind V) × Core V)
  | [], core => .ok ([], core)
  | out :: rest, core =>
      if out.delaySteps > 0 then
        sendAll step actorId cause rest (scheduleTimer site step actorId cause out core)
      else do
        let dispatched ← routeOutgoing site actorId out.target out.payload cause core
        let (events, final) ← sendAll step actorId cause rest dispatched.core
        pure (dispatched.event :: events, final)

/-- A delivery: the message taken, the events emitted and the core reached. -/
structure Handled (V : Type) where
  msgId : MsgId
  events : List (EventKind V)
  core : Core V

/-- What `deliver` does to the core. -/
def handleDelivery (step : Nat) (receiver : ActorId) (core : Core V) :
    Except (RunError V) (Handled V) :=
  match core.actors.lookup receiver with
  | none => .error (.unknownActor receiver)
  | some actor =>
      match actor.inbox with
      | [] => .error (.emptyInbox actor.id)
      | (msgId, payload) :: rest =>
          let popped : Popped V := ⟨actor.id, actor.service, msgId, payload⟩
          let core := core.pop receiver actor (msgId, payload) rest
          match decodeMsg host payload with
          | none => .error (.undecodable actor.service)
          | some incoming =>
              match core.actors.lookup actor.id with
              | none => .error (.unknownActor actor.id)
              | some current =>
                  match executeActions host actor.service msgId incoming site.peers site.program
                      current.state (.new site.nodeId) with
                  | .error error => .error (.action actor.service error)
                  | .ok executed => do
                      let core := core.setActor actor.id { current with state := executed.state }
                      let (sent, final) ←
                        sendAll site step actor.id (msgId, payload) executed.ctx.outbox core
                      pure
                        { msgId := msgId
                          events := observedEvent site popped incoming executed.effects ::
                            (executed.ctx.logs.map (logEvent site popped) ++ sent)
                          core := final }

/-- The data of a successful delivery. -/
structure Delivery (step : Nat) (receiver : ActorId) (core : Core V) (handled : Handled V) where
  actor : Actor V
  payload : V
  rest : List (MsgId × V)
  incoming : RuntimeMessage
  current : Actor V
  executed : Executed V
  sent : List (EventKind V)
  found : core.actors.lookup receiver = some actor
  inbox : actor.inbox = (handled.msgId, payload) :: rest
  decoded : decodeMsg host payload = some incoming
  again : (core.pop receiver actor (handled.msgId, payload) rest).actors.lookup actor.id =
    some current
  ran : executeActions host actor.service handled.msgId incoming site.peers site.program
    current.state (.new site.nodeId) = .ok executed
  emitted : sendAll site step actor.id (handled.msgId, payload) executed.ctx.outbox
    ((core.pop receiver actor (handled.msgId, payload) rest).setActor actor.id
      { current with state := executed.state }) = .ok (sent, handled.core)
  events : handled.events =
    observedEvent site ⟨actor.id, actor.service, handled.msgId, payload⟩ incoming
      executed.effects ::
      (executed.ctx.logs.map (logEvent site ⟨actor.id, actor.service, handled.msgId, payload⟩) ++
        sent)

theorem handleDelivery_ok {step : Nat} {receiver : ActorId} {core : Core V}
    {handled : Handled V} :
    handleDelivery host site step receiver core = .ok handled ↔
      Nonempty (Delivery host site step receiver core handled) := by
  constructor
  · intro ran
    unfold handleDelivery at ran
    split at ran
    · cases ran
    · rename_i actor found
      split at ran
      · cases ran
      · rename_i msgId payload rest inbox
        dsimp only at ran
        split at ran
        · cases ran
        · rename_i incoming decoded
          split at ran
          · cases ran
          · rename_i current again
            split at ran
            · cases ran
            · rename_i executed execution
              cases emitted : sendAll site step actor.id (msgId, payload) executed.ctx.outbox
                  ((core.pop receiver actor (msgId, payload) rest).setActor actor.id
                    { current with state := executed.state }) with
              | error error =>
                  rw [emitted] at ran
                  cases ran
              | ok result =>
                  rw [emitted] at ran
                  cases ran
                  exact ⟨⟨actor, payload, rest, incoming, current, executed, result.1, found,
                    inbox, decoded, again, execution, emitted, rfl⟩⟩
  · rintro ⟨actor, payload, rest, incoming, current, executed, sent, found, inbox, decoded,
      again, ran, emitted, events⟩
    obtain ⟨msgId, handledEvents, final⟩ := handled
    change handledEvents = _ at events
    rw [events]
    unfold handleDelivery
    simp only [found, inbox, decoded, again, ran, emitted]
    rfl

end Delivery

/-! ## The steps of a node -/

section Steps

variable {V : Type} (host : Host V) (site : Site)

variable (Wire : WireEnvelope V → Prop)

/-- The steps that deliver nothing: a fault, a message from the network, a timer.
`Wire` says which envelopes the network may hand over. -/
inductive QuietStep : Core V → List (EventKind V) → Core V → Prop where
  | fault {core : Core V} (event : EventKind V) (isFault : event.IsFault site.nodeId) :
      QuietStep core [event] core
  | receive {core : Core V} (env : WireEnvelope V) (arrived : Wire env) :
      QuietStep core [env.recvEvent] (core.receive env.toActor env.msgId env.payload)
  | fire {core : Core V} (timer : PendingTimer V) (rest : List (PendingTimer V))
      (dispatched : Dispatched V) (split : core.pendingTimers.Perm (timer :: rest))
      (routed : routeOutgoing site timer.fromActor timer.target timer.payload timer.cause
        (core.setTimers rest) = .ok dispatched) :
      QuietStep core [timer.firedEvent site, dispatched.event] dispatched.core

inductive NodeStep : Core V → List (EventKind V) → Core V → Prop where
  | quiet {core final : Core V} {kinds : List (EventKind V)}
      (step : QuietStep site Wire core kinds final) : NodeStep core kinds final
  | deliver {core : Core V} (step : Nat) (receiver : ActorId) (handled : Handled V)
      (handles : handleDelivery host site step receiver core = .ok handled) :
      NodeStep core (.deliver site.nodeId receiver handled.msgId :: handled.events) handled.core

/-- The steps of the startup phase. -/
inductive BootStep (entryActor : ActorId) : Core V → List (EventKind V) → Core V → Prop where
  | spawn {core : Core V} (actor : ActorId) (service : String) :
      BootStep entryActor core [.spawn site.nodeId actor service] core
  | bootstrap {core : Core V} (index : Nat) (actor : Actor V) (msgId : MsgId) (payload : V)
      (allocated : Core V) (allocates : core.allocate site.nodeId = (msgId, allocated))
      (encoded : payload = encodeMsg host (bootstrapMessage host site index msgId))
      (found : allocated.actors.lookup entryActor = some actor) :
      BootStep entryActor core [.send (systemActorId host) entryActor msgId payload]
        ((allocated.enqueue entryActor actor msgId payload).produce msgId payload none none)

/-- Every step in the life of a node. -/
inductive LifeStep (entryActor : ActorId) : Core V → List (EventKind V) → Core V → Prop where
  | boot {core final : Core V} {kinds : List (EventKind V)}
      (step : BootStep host site entryActor core kinds final) : LifeStep entryActor core kinds final
  | node {core final : Core V} {kinds : List (EventKind V)}
      (step : NodeStep host site Wire core kinds final) : LifeStep entryActor core kinds final

end Steps

/-! ## Startup on the core -/

section Boot

variable {V : Type} (host : Host V) (site : Site)

/-- The bootstrap loop on the core: the events emitted and the core reached. -/
def bootAll (entryActor : ActorId) :
    List Nat → Core V → Except (RunError V) (List (EventKind V) × Core V)
  | [], core => .ok ([], core)
  | index :: rest, core =>
      let next := core.allocate site.nodeId
      let payload := encodeMsg host (bootstrapMessage host site index next.1)
      match next.2.actors.lookup entryActor with
      | none => .error .entryActorMissing
      | some actor => do
          let (events, final) ← bootAll entryActor rest
            ((next.2.enqueue entryActor actor next.1 payload).produce next.1 payload none none)
          pure (.send (systemActorId host) entryActor next.1 payload :: events, final)

theorem bootAll_run {entryActor : ActorId} {indices : List Nat} {core final : Core V}
    {events : List (EventKind V)}
    (booted : bootAll host site entryActor indices core = .ok (events, final)) :
    Run (BootStep host site entryActor) core events final := by
  induction indices generalizing core events with
  | nil =>
      cases booted
      exact .refl _
  | cons index rest ih =>
      simp only [bootAll] at booted
      split at booted
      · cases booted
      · rename_i actor found
        obtain ⟨⟨others, last⟩, later, booted⟩ := ExceptRun.bind_ok.mp booted
        cases booted
        exact .head (BootStep.bootstrap index actor _ _ _ rfl rfl found) (ih later)

end Boot

end UcoStack.Runtime
