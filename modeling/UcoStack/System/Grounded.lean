import UcoStack.System.Exchange

/-!
# Where messages come from

What a node produced, and what it has in its inboxes and timers, goes back to
messages that were produced before: a message is a bootstrap message or answers
one that was delivered, and a delivered message is one of this node or arrived in
an envelope addressed to it.
-/

namespace UcoStack.System

open UcoStack.Runtime

/-! ## One node -/

section Node

variable {V : Type} {host : Host V} {site : Site} {Wire : WireEnvelope V → Prop}
  {entryActor : ActorId} {Source : MsgId × V → Prop}

/-- The envelope that a remote message of the node travels in. -/
def EnvelopeOf (site : Site) (target : Target) (msgId : MsgId) (payload : V)
    (env : WireEnvelope V) : Prop :=
  ∃ node service toActor, target = .remoteService node service ∧
    site.serviceToActor.lookup service = some toActor ∧
    env = ⟨site.nodeId, node, toActor, msgId, payload⟩

/-- How a message came about, once the messages `delivered` were delivered. -/
inductive Authored (host : Host V) (site : Site) (delivered : List (MsgId × V)) :
    Produced V → Prop where
  | boot (index : Nat) (msgId : MsgId) : Authored host site delivered
      ⟨msgId, encodeMsg host (bootstrapMessage host site index msgId), none, none⟩
  | answer (msgId : MsgId) (payload : V) (cause : MsgId × V) (target : Target)
      (envelope : Option (WireEnvelope V)) (known : cause ∈ delivered)
      (answers : Answers host site cause target payload)
      (travels : ∀ env, envelope = some env → EnvelopeOf site target msgId payload env) :
      Authored host site delivered ⟨msgId, payload, some cause, envelope⟩

theorem Authored.mono {delivered more : List (MsgId × V)} {made : Produced V}
    (longer : delivered ⊆ more) (authored : Authored host site delivered made) :
    Authored host site more made := by
  cases authored with
  | boot index msgId => exact .boot index msgId
  | answer msgId payload cause target envelope known answers travels =>
      exact .answer msgId payload cause target envelope (longer known) answers travels

theorem Authored.cause_delivered {delivered : List (MsgId × V)} {made : Produced V}
    (authored : Authored host site delivered made) {cause : MsgId × V}
    (caused : made.cause = some cause) : cause ∈ delivered := by
  cases authored with
  | boot index msgId => cases caused
  | answer msgId payload given target envelope known answers travels =>
      cases caused
      exact known

/-- An envelope carries the message it belongs to. -/
theorem Authored.envelope {delivered : List (MsgId × V)} {made : Produced V}
    (authored : Authored host site delivered made) {env : WireEnvelope V}
    (travels : made.envelope = some env) :
    env.fromNode = site.nodeId ∧ env.msgId = made.msgId ∧ env.payload = made.payload := by
  cases authored with
  | boot index msgId => cases travels
  | answer msgId payload cause target envelope known answers shapes =>
      obtain ⟨node, service, toActor, _, _, rfl⟩ := shapes env travels
      exact ⟨rfl, rfl, rfl⟩

theorem routeOutgoing_travels {fromActor : ActorId} {target : Target} {payload : V}
    {cause : MsgId × V} {core : Core V} {dispatched : Dispatched V}
    (routed : routeOutgoing site fromActor target payload cause core = .ok dispatched) :
    ∀ env, dispatched.envelope = some env →
      EnvelopeOf site target (core.allocate site.nodeId).1 payload env := by
  rcases (routeOutgoing_ok site).mp routed with
    ⟨service, toActorId, toActor, rfl, mapped, found, rfl⟩ |
    ⟨node, service, toActorId, rfl, mapped, rfl⟩
  · exact nofun
  · rintro _ ⟨⟩
    exact ⟨node, service, toActorId, rfl, mapped, rfl⟩

/-- The timers of a node hold answers to delivered messages. -/
def TimersAnswer (host : Host V) (site : Site) (core : Core V) : Prop :=
  ∀ timer ∈ core.pendingTimers, timer.cause ∈ core.delivered ∧
    Answers host site timer.cause timer.target timer.payload

/-- An operation produces at most one message, authored by what was delivered before. -/
theorem CoreOp.produces {core final : Core V} {kinds : List (EventKind V)}
    (op : CoreOp host site Wire entryActor core kinds final) (timers : TimersAnswer host site core) :
    final.history = core.history ∨ ∃ made, final.history = core.history ++ [made] ∧
      Authored host site core.delivered made := by
  cases op with
  | note event isNote => exact .inl rfl
  | receive env arrived =>
      refine .inl ?_
      unfold Core.receive
      split
      · rfl
      · rfl
  | pop receiver actor message rest found inbox => exact .inl rfl
  | write id actor state found keys => exact .inl rfl
  | schedule step actorId cause out delivered answers => exact .inl rfl
  | send fromActor target payload cause dispatched delivered answers routed =>
      refine .inr ⟨_, (routeOutgoing_routed routed).history, ?_⟩
      exact .answer _ _ _ target _ delivered answers (routeOutgoing_travels routed)
  | setTimers timers fewer => exact .inl rfl
  | fire timer rest dispatched split routed =>
      obtain ⟨delivered, answers⟩ := timers timer (split.symm.subset List.mem_cons_self)
      refine .inr ⟨_, (routeOutgoing_routed routed).history, ?_⟩
      exact .answer _ _ _ timer.target _ delivered answers (routeOutgoing_travels routed)
  | bootstrap index actor msgId payload allocated allocates encoded found =>
      cases allocates
      cases encoded
      exact .inr ⟨_, rfl, .boot index _⟩

/-- Everything that waits in an inbox has a source. -/
def InboxesFrom (Source : MsgId × V → Prop) (actors : ActorSystem V) : Prop :=
  ∀ id actor, actors.lookup id = some actor → ∀ message ∈ actor.inbox, Source message

theorem InboxesFrom.insert {actors : ActorSystem V} (inboxes : InboxesFrom Source actors)
    {id : ActorId} {actor : Actor V} (filled : ∀ message ∈ actor.inbox, Source message) :
    InboxesFrom Source (actors.insert id actor) := by
  intro other stored found
  by_cases same : other = id
  · subst same
    rw [AList.lookup_insert] at found
    cases found
    exact filled
  · rw [AList.lookup_insert_ne same] at found
    exact inboxes other stored found

theorem InboxesFrom.enqueue {core : Core V} (inboxes : InboxesFrom Source core.actors)
    {id : ActorId} {actor : Actor V} (found : core.actors.lookup id = some actor)
    {msgId : MsgId} {payload : V} (source : Source (msgId, payload)) :
    InboxesFrom Source (core.enqueue id actor msgId payload).actors := by
  refine inboxes.insert fun message member => ?_
  rcases List.mem_append.mp member with old | new
  · exact inboxes id actor found message old
  · rw [List.mem_singleton.mp new]
    exact source

theorem InboxesFrom.route {fromActor : ActorId} {target : Target} {payload : V}
    {cause : MsgId × V} {core : Core V} {dispatched : Dispatched V}
    (inboxes : InboxesFrom Source core.actors)
    (routed : routeOutgoing site fromActor target payload cause core = .ok dispatched)
    (own : dispatched.envelope = none → Source ((core.allocate site.nodeId).1, payload)) :
    InboxesFrom Source dispatched.core.actors := by
  rcases (routeOutgoing_ok site).mp routed with
    ⟨service, toActorId, toActor, rfl, mapped, found, rfl⟩ |
    ⟨node, service, toActorId, rfl, mapped, rfl⟩
  · have allocated : InboxesFrom Source (core.allocate site.nodeId).2.actors := inboxes
    exact allocated.enqueue found (own rfl)
  · exact inboxes

/-- The messages of a node have a source. -/
structure Grounded (host : Host V) (site : Site) (Source : MsgId × V → Prop) (core : Core V) :
    Prop where
  inboxes : InboxesFrom Source core.actors
  delivered : ∀ message ∈ core.delivered, Source message
  timers : TimersAnswer host site core
  history : ∀ made ∈ core.history, Authored host site core.delivered made

theorem Grounded.mono {Other : MsgId × V → Prop} {core : Core V}
    (wider : ∀ message, Source message → Other message)
    (grounded : Grounded host site Source core) : Grounded host site Other core where
  inboxes := fun id actor found message member =>
    wider message (grounded.inboxes id actor found message member)
  delivered := fun message member => wider message (grounded.delivered message member)
  timers := grounded.timers
  history := grounded.history

theorem Grounded.initial {actors : ActorSystem V}
    (empty : ∀ id actor, actors.lookup id = some actor → actor.inbox = []) :
    Grounded host site Source (.initial actors) where
  inboxes := fun id actor found message member => by
    rw [empty id actor found] at member
    exact absurd member List.not_mem_nil
  delivered := fun _ member => absurd member List.not_mem_nil
  timers := fun _ member => absurd member List.not_mem_nil
  history := fun _ member => absurd member List.not_mem_nil

/-- The messages after an operation that leaves the delivered ones alone. -/
theorem Grounded.history_op {core final : Core V} {kinds : List (EventKind V)}
    (grounded : Grounded host site Source core)
    (op : CoreOp host site Wire entryActor core kinds final)
    (longer : core.delivered ⊆ final.delivered) :
    ∀ made ∈ final.history, Authored host site final.delivered made := by
  have old : ∀ made ∈ core.history, Authored host site final.delivered made :=
    fun made member => (grounded.history made member).mono longer
  rcases CoreOp.produces op grounded.timers with same | ⟨made, history, authored⟩
  · rw [same]
    exact old
  · rw [history]
    intro other member
    rcases List.mem_append.mp member with before | new
    · exact old other before
    · rw [List.mem_singleton.mp new]
      exact authored.mono longer

/-- The step lemma. -/
theorem Grounded.op {core final : Core V} {kinds : List (EventKind V)}
    (grounded : Grounded host site Source core)
    (op : CoreOp host site Wire entryActor core kinds final)
    (received : ∀ env, Wire env → Source (env.msgId, env.payload))
    (own : ∀ made ∈ final.history, made.envelope = none → Source (made.msgId, made.payload)) :
    Grounded host site Source final := by
  have made := grounded.history_op op
  cases op with
  | note event isNote => exact grounded
  | receive env arrived =>
      unfold Core.receive
      split
      · rename_i actor found
        exact ⟨grounded.inboxes.enqueue found (received env arrived), grounded.delivered,
          grounded.timers, grounded.history⟩
      · exact grounded
  | pop receiver actor message rest found inbox =>
      have waiting := grounded.inboxes receiver actor found
      rw [inbox] at waiting
      have longer : core.delivered ⊆ (core.pop receiver actor message rest).delivered :=
        List.subset_append_left _ _
      refine ⟨?_, ?_, ?_, made longer⟩
      · exact grounded.inboxes.insert fun other member =>
          waiting other (List.mem_cons_of_mem message member)
      · intro other member
        rcases List.mem_append.mp member with before | new
        · exact grounded.delivered other before
        · rw [List.mem_singleton.mp new]
          exact waiting message List.mem_cons_self
      · intro timer pending
        obtain ⟨delivered, answers⟩ := grounded.timers timer pending
        exact ⟨longer delivered, answers⟩
  | write id actor state found keys =>
      refine ⟨?_, grounded.delivered, grounded.timers, grounded.history⟩
      have filled : ∀ message ∈ actor.inbox, Source message := grounded.inboxes id actor found
      exact grounded.inboxes.insert filled
  | schedule step actorId cause out delivered answers =>
      refine ⟨grounded.inboxes, grounded.delivered, ?_, grounded.history⟩
      intro timer pending
      rcases List.mem_append.mp pending with old | new
      · exact grounded.timers timer old
      · rw [List.mem_singleton.mp new]
        exact ⟨delivered, answers⟩
  | send fromActor target payload cause dispatched delivered answers routed =>
      have change := routeOutgoing_routed routed
      have dispatchedMade : ⟨(core.allocate site.nodeId).1, payload, some cause,
          dispatched.envelope⟩ ∈ dispatched.core.history := by
        rw [change.history]
        exact List.mem_append_right _ List.mem_cons_self
      refine ⟨grounded.inboxes.route routed fun staysHere => own _ dispatchedMade staysHere, ?_, ?_,
        made ?_⟩
      · rw [change.delivered]
        exact grounded.delivered
      · unfold TimersAnswer
        rw [change.delivered, change.pendingTimers]
        exact grounded.timers
      · rw [change.delivered]
        exact List.Subset.refl _
  | setTimers timers fewer =>
      refine ⟨grounded.inboxes, grounded.delivered, ?_, grounded.history⟩
      exact fun timer pending => grounded.timers timer (fewer.subset pending)
  | fire timer rest dispatched split routed =>
      have change := routeOutgoing_routed routed
      have dispatchedMade : ⟨((core.setTimers rest).allocate site.nodeId).1, timer.payload,
          some timer.cause, dispatched.envelope⟩ ∈ dispatched.core.history := by
        rw [change.history]
        exact List.mem_append_right _ List.mem_cons_self
      have inboxes : InboxesFrom Source (core.setTimers rest).actors := grounded.inboxes
      refine ⟨inboxes.route routed fun staysHere => own _ dispatchedMade staysHere, ?_, ?_,
        made ?_⟩
      · rw [change.delivered]
        exact grounded.delivered
      · unfold TimersAnswer
        rw [change.delivered, change.pendingTimers]
        exact fun other pending =>
          grounded.timers other (split.symm.subset (List.mem_cons_of_mem timer pending))
      · rw [change.delivered]
        exact List.Subset.refl _
  | bootstrap index actor msgId payload allocated allocates encoded found =>
      cases allocates
      have inboxes : InboxesFrom Source (core.allocate site.nodeId).2.actors := grounded.inboxes
      refine ⟨inboxes.enqueue found ?_, grounded.delivered, grounded.timers,
        made (List.Subset.refl _)⟩
      exact own ⟨_, payload, none, none⟩ (List.mem_append_right _ List.mem_cons_self) rfl

end Node

/-! ## All nodes -/

section System

variable {ι V : Type} {host : Host V} {sites : ι → Site} {entries : ι → ActorId}
  {cores cores' : ι → Core V}

/-- A message of some node that could be delivered at node `i`. -/
def Received (sites : ι → Site) (cores : ι → Core V) (i : ι) (message : MsgId × V) : Prop :=
  ∃ j, ∃ made ∈ (cores j).history, message = (made.msgId, made.payload) ∧
    (j = i ∧ made.envelope = none ∨
      ∃ env, made.envelope = some env ∧ env.toNode = (sites i).nodeId)

theorem Received.mono (grows : Grows cores cores') {i : ι} {message : MsgId × V}
    (received : Received sites cores i message) : Received sites cores' i message := by
  obtain ⟨j, made, produced, same, way⟩ := received
  exact ⟨j, made, grows j produced, same, way⟩

def AllGrounded (host : Host V) (sites : ι → Site) (cores : ι → Core V) : Prop :=
  ∀ i, Grounded host (sites i) (Received sites cores i) (cores i)

theorem AllGrounded.flying (grounded : AllGrounded host sites cores) {i : ι}
    {env : WireEnvelope V} (flying : Flying cores (sites i).nodeId env) :
    Received sites cores i (env.msgId, env.payload) := by
  obtain ⟨addressed, j, made, produced, envelope⟩ := flying
  obtain ⟨_, sameId, samePayload⟩ := ((grounded j).history made produced).envelope envelope
  exact ⟨j, made, produced, by rw [sameId, samePayload], .inr ⟨env, envelope, addressed⟩⟩

theorem AllGrounded.act [DecidableEq ι] {i : ι} {kinds : List (EventKind V)} {next : Core V}
    (grounded : AllGrounded host sites cores)
    (op : CoreOp host (sites i) (Flying cores (sites i).nodeId) (entries i) (cores i) kinds next) :
    AllGrounded host sites (Function.update cores i next) := by
  have grows := grows_update (i := i) op.history_subset
  intro j
  have before := (grounded j).mono fun message received => received.mono grows
  by_cases same : j = i
  · subst same
    rw [Function.update_self]
    refine before.op op (fun env flying => (grounded.flying flying).mono grows) ?_
    intro made produced staysHere
    exact ⟨j, made, by rwa [Function.update_self], rfl, .inl ⟨rfl, staysHere⟩⟩
  · rw [Function.update_of_ne same]
    exact before

end System

end UcoStack.System
