import UcoStack.Runtime.Trace
import UcoStack.Tool.LocalVerify

/-!
# Inboxes and the events about them

What one operation does to the inboxes of a node, and the invariant that ties
them to the trace: for every actor the messages that arrived are those delivered
and then those waiting, in order.
-/

namespace UcoStack.System

open UcoStack.Runtime UcoStack.Tool

section History

variable {V : Type}

/-- The message an event puts into the inbox of `id`. -/
def arrivalAt (id : ActorId) (kind : EventKind V) : Option (MsgId × V) :=
  match arrival kind with
  | some ((receiver, msgId), payload) => if receiver = id then some (msgId, payload) else none
  | none => none

def removalAt (id : ActorId) (kind : EventKind V) : Option MsgId :=
  match removal kind with
  | some (receiver, msgId) => if receiver = id then some msgId else none
  | none => none

/-- The messages sent to an actor or received for it, in trace order. -/
def arrivedAt (id : ActorId) (kinds : List (EventKind V)) : List (MsgId × V) :=
  kinds.filterMap (arrivalAt id)

/-- The messages delivered to an actor, in trace order. -/
def deliveredAt (id : ActorId) (kinds : List (EventKind V)) : List MsgId :=
  kinds.filterMap (removalAt id)

@[simp] theorem arrivedAt_append (id : ActorId) (left right : List (EventKind V)) :
    arrivedAt id (left ++ right) = arrivedAt id left ++ arrivedAt id right :=
  List.filterMap_append

@[simp] theorem deliveredAt_append (id : ActorId) (left right : List (EventKind V)) :
    deliveredAt id (left ++ right) = deliveredAt id left ++ deliveredAt id right :=
  List.filterMap_append

/-- Events that neither put a message into an inbox nor take one out. -/
def Still (kinds : List (EventKind V)) : Prop :=
  ∀ kind ∈ kinds, arrival kind = none ∧ removal kind = none

theorem Still.arrivedAt {kinds : List (EventKind V)} (still : Still kinds) (id : ActorId) :
    arrivedAt id kinds = [] := by
  refine List.filterMap_eq_nil_iff.mpr fun kind member => ?_
  unfold arrivalAt
  rw [(still kind member).1]

theorem Still.deliveredAt {kinds : List (EventKind V)} (still : Still kinds) (id : ActorId) :
    deliveredAt id kinds = [] := by
  refine List.filterMap_eq_nil_iff.mpr fun kind member => ?_
  unfold removalAt
  rw [(still kind member).2]

/-- Events of which exactly one puts a message into an inbox, and none takes one out. -/
structure Enters (kinds : List (EventKind V)) (id : ActorId) (message : MsgId × V) : Prop where
  arrives : kinds.filterMap arrival = [((id, message.1), message.2)]
  stays : ∀ kind ∈ kinds, removal kind = none

theorem Enters.single {kind : EventKind V} {id : ActorId} {message : MsgId × V}
    (arrives : arrival kind = some ((id, message.1), message.2)) : Enters [kind] id message where
  arrives := by simp [arrives]
  stays := fun other member => by
    rw [List.mem_singleton.mp member]
    exact removal_of_arrival arrives

/-- Events that move no message may come before. -/
theorem Enters.after {before kinds : List (EventKind V)} {id : ActorId} {message : MsgId × V}
    (still : Still before) (enters : Enters kinds id message) :
    Enters (before ++ kinds) id message where
  arrives := by
    have nothing : before.filterMap arrival = [] :=
      List.filterMap_eq_nil_iff.mpr fun kind member => (still kind member).1
    rw [List.filterMap_append, nothing, List.nil_append, enters.arrives]
  stays := fun kind member =>
    (List.mem_append.mp member).elim (fun early => (still kind early).2) (enters.stays kind)

theorem Still.append {left right : List (EventKind V)} (first : Still left)
    (second : Still right) : Still (left ++ right) :=
  fun kind member => (List.mem_append.mp member).elim (first kind) (second kind)

theorem arrivedAt_eq (id : ActorId) (kinds : List (EventKind V)) :
    arrivedAt id kinds = ((kinds.filterMap arrival).filter fun item => item.1.1 = id).map
      fun item => (item.1.2, item.2) := by
  induction kinds with
  | nil => rfl
  | cons kind rest ih =>
      unfold arrivedAt at ih ⊢
      rw [List.filterMap_cons, List.filterMap_cons, ih]
      unfold arrivalAt
      cases arrival kind with
      | none => rfl
      | some item =>
          obtain ⟨⟨receiver, msgId⟩, payload⟩ := item
          by_cases same : receiver = id
          · simp [same]
          · simp [same]

theorem Enters.arrivedAt {kinds : List (EventKind V)} {id : ActorId} {message : MsgId × V}
    (enters : Enters kinds id message) (other : ActorId) :
    arrivedAt other kinds = if id = other then [message] else [] := by
  rw [arrivedAt_eq, enters.arrives]
  by_cases same : id = other
  · simp [same]
  · simp [same]

theorem Enters.deliveredAt {kinds : List (EventKind V)} {id : ActorId} {message : MsgId × V}
    (enters : Enters kinds id message) (other : ActorId) : deliveredAt other kinds = [] := by
  refine List.filterMap_eq_nil_iff.mpr fun kind member => ?_
  unfold removalAt
  rw [enters.stays kind member]

end History

/-! ## What an operation does to the inboxes -/

section Moves

variable {V : Type}

/-- The inboxes before and after some events. -/
inductive InboxMove (actors : ActorSystem V) : List (EventKind V) → ActorSystem V → Prop where
  | keep {kinds : List (EventKind V)} (still : Still kinds) : InboxMove actors kinds actors
  | write {kinds : List (EventKind V)} (id : ActorId) (actor : Actor V) (state : StateMap)
      (found : actors.lookup id = some actor) (still : Still kinds) :
      InboxMove actors kinds (actors.insert id { actor with state := state })
  | lose (node fromNode : NodeId) (id : ActorId) (message : MsgId × V)
      (missing : actors.lookup id = none) :
      InboxMove actors [.netRecv node fromNode id message.1 message.2] actors
  | enter {kinds : List (EventKind V)} (id : ActorId) (actor : Actor V) (message : MsgId × V)
      (found : actors.lookup id = some actor) (enters : Enters kinds id message) :
      InboxMove actors kinds (actors.insert id { actor with inbox := actor.inbox ++ [message] })
  | leave (node : NodeId) (id : ActorId) (actor : Actor V) (message : MsgId × V)
      (rest : List (MsgId × V)) (found : actors.lookup id = some actor)
      (inbox : actor.inbox = message :: rest) :
      InboxMove actors [.deliver node id message.1] (actors.insert id { actor with inbox := rest })

variable {host : Host V} {site : Site} {Wire : WireEnvelope V → Prop} {entryActor : ActorId}

theorem note_still {kind : EventKind V} (isNote : kind.IsNote) : Still [kind] := by
  intro other member
  cases List.mem_singleton.mp member
  cases kind <;> first | exact ⟨rfl, rfl⟩ | exact isNote.elim

/-- A dispatched message enters an inbox or leaves the node; events without
messages may come before. -/
theorem routeOutgoing_inboxMove {fromActor : ActorId} {target : Target} {payload : V}
    {cause : MsgId × V} {core : Core V} {dispatched : Dispatched V}
    (routed : routeOutgoing site fromActor target payload cause core = .ok dispatched)
    {before : List (EventKind V)} (still : Still before) :
    InboxMove core.actors (before ++ [dispatched.event]) dispatched.core.actors := by
  rcases (routeOutgoing_ok site).mp routed with
    ⟨service, toActorId, toActor, rfl, mapped, found, rfl⟩ |
    ⟨node, service, toActorId, rfl, mapped, rfl⟩
  · have enters : Enters [(.send fromActor toActorId (core.allocate site.nodeId).1 payload :
        EventKind V)] toActorId ((core.allocate site.nodeId).1, payload) := .single rfl
    exact .enter toActorId toActor _ found (enters.after still)
  · have remote : Still [(.netSend site.nodeId node fromActor (core.allocate site.nodeId).1
        payload : EventKind V)] := by
      intro kind member
      cases List.mem_singleton.mp member
      exact ⟨rfl, rfl⟩
    exact .keep (still.append remote)

/-- Everything an operation can do to the inboxes. -/
theorem CoreOp.inboxMove {core final : Core V} {kinds : List (EventKind V)}
    (op : CoreOp host site Wire entryActor core kinds final) :
    InboxMove core.actors kinds final.actors := by
  cases op with
  | note event isNote => exact .keep (note_still isNote)
  | receive env arrived =>
      unfold Core.receive
      split
      · rename_i actor found
        exact .enter env.toActor actor (env.msgId, env.payload) found (.single rfl)
      · rename_i missing
        exact .lose env.toNode env.fromNode env.toActor (env.msgId, env.payload) missing
  | pop receiver actor message rest found inbox =>
      exact .leave site.nodeId receiver actor message rest found inbox
  | write id actor state found keys =>
      exact .write id actor state found fun _ member => absurd member List.not_mem_nil
  | schedule step actorId cause out delivered answers =>
      exact .keep fun _ member => absurd member List.not_mem_nil
  | send fromActor target payload cause dispatched delivered answers routed =>
      have nothing : Still ([] : List (EventKind V)) :=
        fun _ member => absurd member List.not_mem_nil
      exact routeOutgoing_inboxMove routed nothing
  | setTimers timers fewer => exact .keep fun _ member => absurd member List.not_mem_nil
  | fire timer rest dispatched split routed =>
      have fired : Still [timer.firedEvent site] := note_still trivial
      exact routeOutgoing_inboxMove routed fired
  | bootstrap index actor msgId payload allocated allocates encoded found =>
      cases allocates
      exact .enter entryActor actor _ found (.single rfl)

end Moves

/-! ## First in, first out -/

section Fifo

variable {V : Type}

/-- The inbox of every actor holds what arrived and was not delivered, in order. -/
structure Fifo (past : List (EventKind V)) (actors : ActorSystem V) : Prop where
  inbox : ∀ id actor, actors.lookup id = some actor →
    ∃ taken, arrivedAt id past = taken ++ actor.inbox ∧ taken.map Prod.fst = deliveredAt id past
  unknown : ∀ id, actors.lookup id = none → deliveredAt id past = []

theorem Fifo.initial {actors : ActorSystem V}
    (empty : ∀ id actor, actors.lookup id = some actor → actor.inbox = []) : Fifo [] actors where
  inbox := fun id actor found => ⟨[], by rw [empty id actor found]; rfl, rfl⟩
  unknown := fun _ _ => rfl

theorem lookup_replace {actors : ActorSystem V} {id : ActorId} {actor replaced : Actor V}
    (found : actors.lookup id = some actor) {other : ActorId} {stored : Actor V}
    (after : (actors.insert id replaced).lookup other = some stored) :
    (other = id ∧ stored = replaced) ∨ (other ≠ id ∧ actors.lookup other = some stored) := by
  by_cases same : other = id
  · subst same
    rw [AList.lookup_insert] at after
    exact .inl ⟨rfl, (Option.some.inj after).symm⟩
  · rw [AList.lookup_insert_ne same] at after
    exact .inr ⟨same, after⟩

theorem lookup_replace_none {actors : ActorSystem V} {id : ActorId} {actor replaced : Actor V}
    (found : actors.lookup id = some actor) (other : ActorId) :
    (actors.insert id replaced).lookup other = none ↔ actors.lookup other = none := by
  by_cases same : other = id
  · subst same
    simp [found]
  · rw [AList.lookup_insert_ne same]

/-- The step lemma. -/
theorem Fifo.move {past kinds : List (EventKind V)} {actors final : ActorSystem V}
    (fifo : Fifo past actors) (move : InboxMove actors kinds final) :
    Fifo (past ++ kinds) final := by
  cases move with
  | keep still =>
      constructor
      · intro id actor found
        rw [arrivedAt_append, deliveredAt_append, still.arrivedAt, still.deliveredAt]
        simpa using fifo.inbox id actor found
      · intro id missing
        rw [deliveredAt_append, still.deliveredAt, fifo.unknown id missing]
        rfl
  | write id actor state found still =>
      constructor
      · intro other stored after
        rw [arrivedAt_append, deliveredAt_append, still.arrivedAt, still.deliveredAt]
        rcases lookup_replace found after with ⟨rfl, rfl⟩ | ⟨_, before⟩
        · simpa using fifo.inbox other actor found
        · simpa using fifo.inbox other stored before
      · intro other missing
        rw [deliveredAt_append, still.deliveredAt,
          fifo.unknown other ((lookup_replace_none found other).mp missing)]
        rfl
  | lose node fromNode id message missing =>
      have enters : Enters [(.netRecv node fromNode id message.1 message.2 : EventKind V)] id
          message := .single rfl
      constructor
      · intro other stored found
        have differs : id ≠ other := by
          rintro rfl
          rw [missing] at found
          cases found
        rw [arrivedAt_append, deliveredAt_append, enters.arrivedAt, enters.deliveredAt,
          if_neg differs]
        simpa using fifo.inbox other stored found
      · intro other unknown
        rw [deliveredAt_append, enters.deliveredAt, fifo.unknown other unknown]
        rfl
  | enter id actor message found enters =>
      constructor
      · intro other stored after
        rw [arrivedAt_append, deliveredAt_append, enters.arrivedAt, enters.deliveredAt,
          List.append_nil]
        rcases lookup_replace found after with ⟨rfl, rfl⟩ | ⟨differs, before⟩
        · obtain ⟨taken, arrived, delivered⟩ := fifo.inbox other actor found
          refine ⟨taken, ?_, delivered⟩
          rw [if_pos rfl, arrived, List.append_assoc]
        · rw [if_neg (Ne.symm differs), List.append_nil]
          exact fifo.inbox other stored before
      · intro other missing
        rw [deliveredAt_append, enters.deliveredAt,
          fifo.unknown other ((lookup_replace_none found other).mp missing)]
        rfl
  | leave node id actor message rest found inbox =>
      have noArrival (other : ActorId) :
          arrivedAt other [(.deliver node id message.1 : EventKind V)] = [] := rfl
      have removed (other : ActorId) : deliveredAt other
          [(.deliver node id message.1 : EventKind V)] = if id = other then [message.1] else [] := by
        by_cases same : id = other
        · simp [deliveredAt, removalAt, removal, same]
        · simp [deliveredAt, removalAt, removal, same]
      constructor
      · intro other stored after
        rw [arrivedAt_append, deliveredAt_append, noArrival, removed, List.append_nil]
        rcases lookup_replace found after with ⟨rfl, rfl⟩ | ⟨differs, before⟩
        · obtain ⟨taken, arrived, delivered⟩ := fifo.inbox other actor found
          refine ⟨taken ++ [message], ?_, ?_⟩
          · rw [arrived, inbox, List.append_assoc, List.singleton_append]
          · rw [if_pos rfl, List.map_append, delivered, List.map_singleton]
        · rw [if_neg (Ne.symm differs), List.append_nil]
          exact fifo.inbox other stored before
      · intro other missing
        have absent := (lookup_replace_none found other).mp missing
        have differs : id ≠ other := by
          rintro rfl
          rw [found] at absent
          cases absent
        rw [deliveredAt_append, removed, if_neg differs, fifo.unknown other absent]
        rfl

end Fifo

end UcoStack.System
