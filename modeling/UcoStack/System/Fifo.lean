import UcoStack.System.Inbox
import UcoStack.Tool.JsonTool

/-!
# No loss, no duplication, first in first out

The trace of a recording determines the inboxes it ended with.  The local
verifier, which matches deliveries by receiver and message id, therefore finds a
waiting payload at every delivery and counts the messages that are still waiting.
-/

namespace UcoStack.System

open UcoStack.Runtime UcoStack.Tool

/-! ## The waiting payloads -/

section Waiting

variable {V : Type}

theorem payloadsFor_eq (id : ActorId) (msgId : MsgId) (kinds : List (EventKind V)) :
    payloadsFor (id, msgId) kinds =
      ((arrivedAt id kinds).filter fun message => message.1 = msgId).map Prod.snd := by
  induction kinds with
  | nil => rfl
  | cons kind rest ih =>
      unfold payloadsFor arrivedAt at ih ⊢
      rw [List.filterMap_cons, List.filterMap_cons, ih]
      unfold payloadFor arrivalAt
      cases arrival kind with
      | none => rfl
      | some item =>
          obtain ⟨⟨receiver, other⟩, payload⟩ := item
          by_cases here : receiver = id
          · by_cases same : other = msgId
            · simp [here, same]
            · simp [here, same]
          · simp [here]

theorem deliveries_eq (id : ActorId) (msgId : MsgId) (kinds : List (EventKind V)) :
    deliveries (id, msgId) kinds = (deliveredAt id kinds).count msgId := by
  induction kinds with
  | nil => rfl
  | cons kind rest ih =>
      unfold deliveries deliveredAt at ih ⊢
      rw [List.filterMap_cons, List.filterMap_cons]
      unfold removalAt at ih ⊢
      cases removal kind with
      | none => exact ih
      | some item =>
          obtain ⟨receiver, other⟩ := item
          by_cases here : receiver = id
          · by_cases same : other = msgId
            · simp [here, same, ih]
            · simp [here, same, ih]
          · simp [here, ih]

/-- What the verifier still expects for an actor is what its inbox holds. -/
theorem Fifo.waiting {past : List (EventKind V)} {actors : ActorSystem V}
    (fifo : Fifo past actors) {id : ActorId} {actor : Actor V}
    (found : actors.lookup id = some actor) (msgId : MsgId) :
    waiting (id, msgId) past =
      (actor.inbox.filter fun message => message.1 = msgId).map Prod.snd := by
  obtain ⟨taken, arrived, delivered⟩ := fifo.inbox id actor found
  have counted : (deliveredAt id past).count msgId =
      ((taken.filter fun message => message.1 = msgId).map Prod.snd).length := by
    rw [← delivered, List.length_map, ← List.countP_eq_length_filter, List.count, List.countP_map]
    rfl
  unfold Tool.waiting
  rw [payloadsFor_eq, deliveries_eq, arrived, List.filter_append, List.map_append, counted,
    List.drop_left]

/-- A delivery finds its payload waiting, with every other event in between. -/
theorem Fifo.takes {past kinds : List (EventKind V)} {actors final : ActorSystem V}
    (fifo : Fifo past actors) (every : EveryPosition Takes past)
    (move : InboxMove actors kinds final) : EveryPosition Takes (past ++ kinds) := by
  have always (stays : ∀ kind ∈ kinds, removal kind = none) :
      EveryPosition Takes (past ++ kinds) := by
    refine every.append_of_forall fun kind member before key removes => ?_
    rw [stays kind member] at removes
    cases removes
  cases move with
  | keep still => exact always fun kind member => (still kind member).2
  | write id actor state found still => exact always fun kind member => (still kind member).2
  | lose node fromNode id message missing =>
      refine always fun kind member => ?_
      cases List.mem_singleton.mp member
      rfl
  | enter id actor message found enters => exact always enters.stays
  | leave node id actor message rest found inbox =>
      rw [EveryPosition.snoc]
      refine ⟨every, fun key removes => ?_⟩
      cases removes
      refine ⟨message.2, ?_⟩
      rw [fifo.waiting found, inbox]
      simp

end Waiting

/-! ## Counting -/

section Counting

variable {V : Type}

def arrivalCount (kinds : List (EventKind V)) : Nat := (kinds.filterMap arrival).length

def removalCount (kinds : List (EventKind V)) : Nat := (kinds.filterMap removal).length

@[simp] theorem arrivalCount_append (left right : List (EventKind V)) :
    arrivalCount (left ++ right) = arrivalCount left + arrivalCount right := by
  simp [arrivalCount]

@[simp] theorem removalCount_append (left right : List (EventKind V)) :
    removalCount (left ++ right) = removalCount left + removalCount right := by
  simp [removalCount]

theorem Still.counts {kinds : List (EventKind V)} (still : Still kinds) :
    arrivalCount kinds = 0 ∧ removalCount kinds = 0 := by
  constructor
  · have none : kinds.filterMap arrival = [] :=
      List.filterMap_eq_nil_iff.mpr fun kind member => (still kind member).1
    rw [arrivalCount, none, List.length_nil]
  · have none : kinds.filterMap removal = [] :=
      List.filterMap_eq_nil_iff.mpr fun kind member => (still kind member).2
    rw [removalCount, none, List.length_nil]

theorem Enters.counts {kinds : List (EventKind V)} {id : ActorId} {message : MsgId × V}
    (enters : Enters kinds id message) : arrivalCount kinds = 1 ∧ removalCount kinds = 0 := by
  constructor
  · rw [arrivalCount, enters.arrives, List.length_singleton]
  · have none : kinds.filterMap removal = [] := List.filterMap_eq_nil_iff.mpr enters.stays
    rw [removalCount, none, List.length_nil]

/-! ### The verifier -/

/-- The table of produced messages is filled without regard to the checks. -/
theorem verifyTrace_pendingMessages (tool : ToolHost V) (events : List (TraceEvent V)) :
    (verifyTrace tool events).pendingMessages =
      HashMap.total List.length ((kindsOf events).foldl producedAfter ∅) := by
  have produced (st : VerifyState V) (rest : List (TraceEvent V)) :
      (rest.foldl (verifyEvent tool) st).produced =
        (kindsOf rest).foldl producedAfter st.produced := by
    induction rest generalizing st with
    | nil => rfl
    | cons ev rest ih =>
        obtain ⟨more, result, _⟩ : Reports (advance tool ev st) _ (verifyEvent tool st ev) :=
          verifyEvent_reports ev st
        rw [List.foldl_cons, ih, result]
        rfl
  have ending (st : VerifyState V) : (checkEnd tool st).produced = st.produced := by
    obtain ⟨problems, seed, expectedSeq, spawned, produced, lineage, dropped, timer, effect⟩ := st
    cases timer with
    | none => cases effect <;> rfl
    | some pending => cases effect <;> rfl
  change HashMap.total List.length (checkEnd tool (events.foldl (verifyEvent tool) .initial)).produced
    = _
  rw [ending, produced]
  rfl

theorem pushPayload_total (produced : HashMap DeliveryKey (List V)) (key : DeliveryKey)
    (payload : V) : HashMap.total List.length (pushPayload produced key payload) =
      HashMap.total List.length produced + 1 := by
  unfold pushPayload
  cases found : produced.lookup key with
  | none =>
      rw [HashMap.total_insert_fresh List.length found]
      rfl
  | some payloads =>
      have replaced := HashMap.total_replace List.length found (payloads ++ [payload])
      rw [List.length_append, List.length_singleton] at replaced
      rw [Option.getD_some]
      omega

theorem popPayload_total {produced : HashMap DeliveryKey (List V)} {key : DeliveryKey}
    {payload : V} {queue : List V} (found : produced.lookup key = some (payload :: queue)) :
    HashMap.total List.length (popPayload produced key) + 1 =
      HashMap.total List.length produced := by
  have erased := HashMap.total_erase_add List.length found
  unfold popPayload
  rw [found]
  cases queue with
  | nil => exact erased
  | cons next queue =>
      have replaced := HashMap.total_replace List.length found (next :: queue)
      rw [List.length_cons] at replaced
      change HashMap.total List.length (produced.insert key (next :: queue)) + 1 = _
      omega

/-- When every delivery takes a waiting payload, the table holds what arrived and
was not delivered. -/
theorem produced_total {kinds : List (EventKind V)} (every : EveryPosition Takes kinds) :
    (Queued kinds (kinds.foldl producedAfter ∅) ∧
      ∀ key, deliveries key kinds ≤ (payloadsFor key kinds).length) ∧
      HashMap.total List.length (kinds.foldl producedAfter ∅) + removalCount kinds =
        arrivalCount kinds := by
  induction kinds using List.reverseRecOn with
  | nil =>
      refine ⟨⟨fun key => ?_, fun key => Nat.le_refl 0⟩, rfl⟩
      simp [waiting, payloadsFor]
  | append_singleton past kind ih =>
      rw [EveryPosition.snoc] at every
      obtain ⟨before, takes⟩ := every
      obtain ⟨⟨queued, balanced⟩, total⟩ := ih before
      rw [List.foldl_append, arrivalCount_append, removalCount_append]
      refine ⟨⟨producedAfter_queued queued balanced kind,
        fun key => balanced_snoc (balanced key) takes⟩, ?_⟩
      change HashMap.total List.length (producedAfter (past.foldl producedAfter ∅) kind) + _ = _
      cases kind with
      | send sender receiver msgId payload =>
          change HashMap.total List.length (pushPayload _ (receiver, msgId) payload) +
            (removalCount past + 0) = arrivalCount past + 1
          rw [pushPayload_total]
          omega
      | netRecv node fromNode receiver msgId payload =>
          change HashMap.total List.length (pushPayload _ (receiver, msgId) payload) +
            (removalCount past + 0) = arrivalCount past + 1
          rw [pushPayload_total]
          omega
      | deliver node receiver msgId =>
          obtain ⟨payload, first⟩ := takes (receiver, msgId) rfl
          obtain ⟨queue, waits⟩ := List.head?_eq_some_iff.mp first
          have found := queued (receiver, msgId)
          rw [waits, if_neg (List.cons_ne_nil payload queue)] at found
          have popped := popPayload_total found
          change HashMap.total List.length (popPayload _ (receiver, msgId)) +
            (removalCount past + 1) = arrivalCount past + 0
          omega
      | _ => exact total

/-! ### The node -/

/-- As long as every received message is for an actor of `start`, the inboxes hold
what arrived and was not delivered. -/
structure Counted (start : ActorSystem V) (past : List (EventKind V)) (actors : ActorSystem V) :
    Prop where
  present : ∀ id, (actors.lookup id).isSome = (start.lookup id).isSome
  total : (∀ node fromNode receiver msgId payload,
      .netRecv node fromNode receiver msgId payload ∈ past → (start.lookup receiver).isSome) →
    HashMap.total (fun actor => actor.inbox.length) actors + removalCount past = arrivalCount past

theorem lookup_replace_isSome {actors : ActorSystem V} {id : ActorId} {actor : Actor V}
    (found : actors.lookup id = some actor) (replaced : Actor V) (other : ActorId) :
    ((actors.insert id replaced).lookup other).isSome = (actors.lookup other).isSome := by
  by_cases same : other = id
  · subst same
    rw [AList.lookup_insert, found]
    rfl
  · rw [AList.lookup_insert_ne same]

theorem Counted.move {start actors final : ActorSystem V} {past kinds : List (EventKind V)}
    (counted : Counted start past actors) (move : InboxMove actors kinds final) :
    Counted start (past ++ kinds) final := by
  have before {labels : List (EventKind V)} (known : ∀ node fromNode receiver msgId payload,
      .netRecv node fromNode receiver msgId payload ∈ past ++ labels →
        (start.lookup receiver).isSome) :
      HashMap.total (fun actor => actor.inbox.length) actors + removalCount past =
        arrivalCount past :=
    counted.total fun node fromNode receiver msgId payload member =>
      known node fromNode receiver msgId payload (List.mem_append_left _ member)
  cases move with
  | keep still =>
      obtain ⟨arrivals, removals⟩ := Still.counts still
      refine ⟨counted.present, fun known => ?_⟩
      have total := before known
      rw [arrivalCount_append, removalCount_append]
      omega
  | write id actor state found still =>
      obtain ⟨arrivals, removals⟩ := Still.counts still
      refine ⟨fun other => (lookup_replace_isSome found _ other).trans (counted.present other),
        fun known => ?_⟩
      have total := before known
      have replaced := HashMap.total_replace (fun actor : Actor V => actor.inbox.length) found
        { actor with state := state }
      rw [arrivalCount_append, removalCount_append]
      dsimp only at replaced
      omega
  | lose node fromNode id message missing =>
      refine ⟨counted.present, fun known => ?_⟩
      have isKnown := known node fromNode id message.1 message.2
        (List.mem_append_right past List.mem_cons_self)
      rw [← counted.present id, missing] at isKnown
      cases isKnown
  | enter id actor message found enters =>
      obtain ⟨arrivals, removals⟩ := Enters.counts enters
      refine ⟨fun other => (lookup_replace_isSome found _ other).trans (counted.present other),
        fun known => ?_⟩
      have total := before known
      have replaced := HashMap.total_replace (fun actor : Actor V => actor.inbox.length) found
        { actor with inbox := actor.inbox ++ [message] }
      rw [arrivalCount_append, removalCount_append]
      dsimp only at replaced
      rw [List.length_append, List.length_singleton] at replaced
      omega
  | leave node id actor message rest found inbox =>
      refine ⟨fun other => (lookup_replace_isSome found _ other).trans (counted.present other),
        fun known => ?_⟩
      have total := before known
      have replaced := HashMap.total_replace (fun actor : Actor V => actor.inbox.length) found
        { actor with inbox := rest }
      have longer : actor.inbox.length = rest.length + 1 := by rw [inbox, List.length_cons]
      have arrivals : arrivalCount [(.deliver node id message.1 : EventKind V)] = 0 := rfl
      have removals : removalCount [(.deliver node id message.1 : EventKind V)] = 1 := rfl
      rw [arrivalCount_append, removalCount_append]
      dsimp only at replaced
      omega

end Counting

/-! ## Recordings -/

section Recordings

variable {V : Type}

/-- The run lemma: what the operations of a node preserve. -/
theorem coreRun_fifo {host : Host V} {site : Site} {Wire : WireEnvelope V → Prop}
    {entryActor : ActorId} {core final : Core V} {kinds : List (EventKind V)}
    (empty : ∀ id actor, core.actors.lookup id = some actor → actor.inbox = [])
    (run : Run (CoreOp host site Wire entryActor) core kinds final) :
    Fifo kinds final.actors ∧ EveryPosition Takes kinds ∧
      Counted core.actors kinds final.actors := by
  have nothing : HashMap.total (fun actor : Actor V => actor.inbox.length) core.actors = 0 := by
    refine List.sum_eq_zero_iff_forall_eq_nat.mpr fun weight member => ?_
    obtain ⟨actor, stored, rfl⟩ := List.mem_map.mp member
    obtain ⟨entry, inEntries, rfl⟩ := List.mem_map.mp stored
    rw [empty entry.1 entry.2 (AList.mem_lookup_iff.mpr inEntries)]
    rfl
  have start : Fifo [] core.actors ∧ EveryPosition Takes ([] : List (EventKind V)) ∧
      Counted core.actors [] core.actors :=
    ⟨.initial empty, .nil, fun _ => rfl, fun _ => nothing⟩
  have keeps (past : List (EventKind V)) (middle : Core V) (labels : List (EventKind V))
      (next : Core V) (inv : Fifo past middle.actors ∧ EveryPosition Takes past ∧
        Counted core.actors past middle.actors)
      (op : CoreOp host site Wire entryActor middle labels next) :
      Fifo (past ++ labels) next.actors ∧ EveryPosition Takes (past ++ labels) ∧
        Counted core.actors (past ++ labels) next.actors := by
    obtain ⟨fifo, takes, counted⟩ := inv
    have move := CoreOp.inboxMove op
    exact ⟨fifo.move move, fifo.takes takes move, counted.move move⟩
  exact Run.history keeps start run

theorem kindsOf_stamp (first : Nat) (kinds : List (EventKind V)) :
    kindsOf (stamp first kinds) = kinds :=
  stamp_kind first kinds

/-- The messages delivered to an actor are a prefix of those that arrived for it,
and the others are its inbox; the verifier counts what the inboxes hold. -/
theorem record_fifo (tool : ToolHost V) [DecidableEq V] {src : String} {program : Program}
    (loaded : loadProgram tool.toHost src = .ok program) (cfg : Config)
    (inbound : Nat → List (WireEnvelope V)) {st : MainState V}
    (ran : record tool.toHost program cfg inbound = .ok () st) :
    ∃ trace, st.writer = some trace ∧
      (∀ id, st.core.actors.lookup id = none → deliveredAt id (kindsOf trace) = []) ∧
      (∀ id actor, st.core.actors.lookup id = some actor →
        ∃ taken, arrivedAt id (kindsOf trace) = taken ++ actor.inbox ∧
          taken.map Prod.fst = deliveredAt id (kindsOf trace)) ∧
      ((∀ node fromNode receiver msgId payload,
          .netRecv node fromNode receiver msgId payload ∈ kindsOf trace →
            (st.core.actors.lookup receiver).isSome) →
        (verifyTrace tool trace).pendingMessages = st.core.pendingInboxMessages) := by
  have accepted := loadProgram_accepted loaded
  obtain ⟨recording⟩ : Nonempty (Recording tool.toHost program cfg inbound (fun _ => True) st) :=
    record_ok (fun _ _ => trivial) ran
  have ready := launch_launched recording.launches
  obtain ⟨fifo, takes, counted⟩ := coreRun_fifo ready.built.actor_inbox (recording.ops accepted)
  refine ⟨stamp 0 recording.events, recording.writer, ?_, ?_, ?_⟩
  · rw [kindsOf_stamp]
    exact fifo.unknown
  · rw [kindsOf_stamp]
    exact fifo.inbox
  · rw [kindsOf_stamp]
    intro known
    obtain ⟨_, table⟩ := produced_total takes
    have inboxes := counted.total fun node fromNode receiver msgId payload member => by
      rw [← counted.present receiver]
      exact known node fromNode receiver msgId payload member
    rw [verifyTrace_pendingMessages, kindsOf_stamp]
    unfold Core.pendingInboxMessages
    omega

theorem record_fifo_sample :
    ∃ st trace, record jsonHost sampleProgram (sampleConfig 2) sampleInbound = .ok () st ∧
      st.writer = some trace ∧
      (∀ id, st.core.actors.lookup id = none → deliveredAt id (kindsOf trace) = []) ∧
      (∀ id actor, st.core.actors.lookup id = some actor →
        ∃ taken, arrivedAt id (kindsOf trace) = taken ++ actor.inbox ∧
          taken.map Prod.fst = deliveredAt id (kindsOf trace)) ∧
      ((∀ node fromNode receiver msgId payload,
          .netRecv node fromNode receiver msgId payload ∈ kindsOf trace →
            (st.core.actors.lookup receiver).isSome) →
        (verifyTrace jsonTool trace).pendingMessages = st.core.pendingInboxMessages) := by
  obtain ⟨⟨⟩, st, ran⟩ := sampleRecord_succeeds
  obtain ⟨trace, rest⟩ :=
    record_fifo jsonTool sampleProgram_loaded (sampleConfig 2) sampleInbound ran
  exact ⟨st, trace, ran, rest⟩

end Recordings

end UcoStack.System
