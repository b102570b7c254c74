import UcoStack.Library.Monitor
import UcoStack.Tool.LocalStep

/-!
# Well-formed traces

What the local verifier is for, stated over whole traces and without its state:
which messages entered an inbox and which were delivered, how events follow each
other, and how the provenance of a delivered payload continues that of messages
delivered before.
-/

namespace UcoStack.Tool

open UcoStack.Runtime

section History

variable {V : Type}

def kindsOf (events : List (TraceEvent V)) : List (EventKind V) := events.map TraceEvent.kind

def spawnedActor : EventKind V → Option ActorId
  | .spawn _ actor _ => some actor
  | _ => none

def spawnedIn (kinds : List (EventKind V)) : List ActorId := kinds.filterMap spawnedActor

/-- The message an event puts into an inbox. -/
def arrival : EventKind V → Option (DeliveryKey × V)
  | .send _ receiver msgId payload => some ((receiver, msgId), payload)
  | .netRecv _ _ receiver msgId payload => some ((receiver, msgId), payload)
  | _ => none

/-- The message an event takes out of an inbox. -/
def removal : EventKind V → Option DeliveryKey
  | .deliver _ receiver msgId => some (receiver, msgId)
  | _ => none

def payloadFor (key : DeliveryKey) (kind : EventKind V) : Option V :=
  match arrival kind with
  | some (other, payload) => if other = key then some payload else none
  | none => none

/-- The payloads of the `Send` and `NetRecv` events of a message, in trace order. -/
def payloadsFor (key : DeliveryKey) (kinds : List (EventKind V)) : List V :=
  kinds.filterMap (payloadFor key)

/-- How often a message was delivered. -/
def deliveries (key : DeliveryKey) (kinds : List (EventKind V)) : Nat :=
  (kinds.filterMap removal).count key

/-- The payloads still to be delivered: each delivery takes the first. -/
def waiting (key : DeliveryKey) (kinds : List (EventKind V)) : List V :=
  (payloadsFor key kinds).drop (deliveries key kinds)

def droppedKey : EventKind V → Option (NodeId × ActorId × MsgId)
  | .faultInjected _ fromNode receiver msgId .drop => some (fromNode, receiver, msgId)
  | _ => none

def droppedIn (kinds : List (EventKind V)) : List (NodeId × ActorId × MsgId) :=
  kinds.filterMap droppedKey

/-- The payload an event delivers after the events of `past`. -/
def deliveredPayload (past : List (EventKind V)) (kind : EventKind V) : Option (MsgId × V) :=
  match removal kind with
  | some key => (waiting key past).head?.map fun payload => (key.2, payload)
  | none => none

/-- The readable lineage of the message an event delivers. -/
def lineageOf (tool : ToolHost V) (past : List (EventKind V)) (kind : EventKind V) :
    Option (LineageKey × DeliveredLineage) :=
  match deliveredPayload past kind with
  | some (msgId, payload) =>
      (readLineage tool payload).map fun parsed => ((parsed.fromNode, msgId), parsed.record)
  | none => none

def lineagesFrom (tool : ToolHost V) :
    List (EventKind V) → List (EventKind V) → List (LineageKey × DeliveredLineage)
  | _, [] => []
  | past, kind :: rest => (lineageOf tool past kind).toList ++ lineagesFrom tool (past ++ [kind]) rest

/-- The readable lineages of all delivered messages, in delivery order. -/
def lineages (tool : ToolHost V) (kinds : List (EventKind V)) :
    List (LineageKey × DeliveredLineage) :=
  lineagesFrom tool [] kinds

/-- The lineage of the last delivered message with the given key. -/
def lastLineage (tool : ToolHost V) (kinds : List (EventKind V)) (key : LineageKey) :
    Option DeliveredLineage :=
  ((lineages tool kinds).reverse.find? fun entry => entry.1 = key).map Prod.snd

end History

/-! ## Appending one event -/

section Snoc

variable {V : Type} (past : List (EventKind V)) (kind : EventKind V)

theorem filterMap_snoc {α β : Type} (f : α → Option β) (xs : List α) (x : α) :
    (xs ++ [x]).filterMap f = xs.filterMap f ++ (f x).toList := by
  rw [List.filterMap_append]
  cases h : f x <;> simp [h]

theorem spawnedIn_append (later : List (EventKind V)) :
    spawnedIn (past ++ later) = spawnedIn past ++ spawnedIn later :=
  List.filterMap_append

theorem spawnedIn_snoc :
    spawnedIn (past ++ [kind]) = spawnedIn past ++ (spawnedActor kind).toList :=
  filterMap_snoc spawnedActor past kind

theorem droppedIn_snoc :
    droppedIn (past ++ [kind]) = droppedIn past ++ (droppedKey kind).toList :=
  filterMap_snoc droppedKey past kind

theorem payloadsFor_snoc (key : DeliveryKey) :
    payloadsFor key (past ++ [kind]) = payloadsFor key past ++ (payloadFor key kind).toList :=
  filterMap_snoc (payloadFor key) past kind

theorem deliveries_snoc (key : DeliveryKey) :
    deliveries key (past ++ [kind]) =
      deliveries key past + if removal kind = some key then 1 else 0 := by
  unfold deliveries
  rw [List.filterMap_append, List.count_append]
  cases h : removal kind with
  | none => simp [h]
  | some other => simp [h, List.count_singleton]

theorem lineagesFrom_snoc (tool : ToolHost V) (before : List (EventKind V)) :
    lineagesFrom tool before (past ++ [kind]) =
      lineagesFrom tool before past ++ (lineageOf tool (before ++ past) kind).toList := by
  induction past generalizing before with
  | nil => simp [lineagesFrom]
  | cons first rest ih =>
      rw [List.cons_append, lineagesFrom, lineagesFrom, ih, List.append_assoc]
      simp

theorem lineages_snoc (tool : ToolHost V) :
    lineages tool (past ++ [kind]) =
      lineages tool past ++ (lineageOf tool past kind).toList :=
  lineagesFrom_snoc past kind tool []

theorem lastLineage_snoc (tool : ToolHost V) (key : LineageKey) :
    lastLineage tool (past ++ [kind]) key =
      match lineageOf tool past kind with
      | some (other, record) => if other = key then some record else lastLineage tool past key
      | none => lastLineage tool past key := by
  unfold lastLineage
  rw [lineages_snoc]
  cases lineageOf tool past kind with
  | none => simp
  | some entry =>
      obtain ⟨other, record⟩ := entry
      by_cases same : other = key
      · simp [same]
      · simp [same]

end Snoc

/-! ## Well-formedness -/

section WellFormed

variable {V : Type}

/-- A trace in which the local verifier finds no problem. -/
structure WellFormed (tool : ToolHost V) (events : List (TraceEvent V)) : Prop where
  seq : ∀ (index : Nat) (ev : TraceEvent V), events[index]? = some ev → ev.seq = index
  seed : ∀ first ∈ events, ∀ second ∈ events, first.seed = second.seed
  spawn_once : (spawnedIn (kindsOf events)).Nodup
  spawned_before : EveryPosition
    (fun past kind => spawnedIn past ≠ [] → ∀ actor ∈ named kind, actor ∈ spawnedIn past)
    (kindsOf events)
  delivered_arrived : EveryPosition
    (fun past kind => ∀ key, removal kind = some key →
      deliveries key (past ++ [kind]) ≤ (payloadsFor key past).length)
    (kindsOf events)
  effect_follows : ∀ past node receiver msgId later,
    kindsOf events = past ++ .deliver node receiver msgId :: later →
      ∃ service msgType declared observed rest, later =
        .effectObserved node receiver service msgType msgId declared observed :: rest
  delivery_precedes : ∀ past node actor service msgType msgId declared observed later,
    kindsOf events =
        past ++ .effectObserved node actor service msgType msgId declared observed :: later →
      ∃ before, past = before ++ [.deliver node actor msgId]
  emission_follows : ∀ past node sender timerId later,
    kindsOf events = past ++ .timerFired node sender timerId :: later →
      ∃ next rest, later = next :: rest ∧ emitter next = some sender
  effects_declared : ∀ node actor service msgType msgId declared observed,
    .effectObserved node actor service msgType msgId declared observed ∈ kindsOf events →
      declared.Nodup ∧ observed.Nodup ∧ observed ⊆ declared
  not_dropped : ∀ past node fromNode receiver msgId payload later,
    kindsOf events = past ++ .netRecv node fromNode receiver msgId payload :: later →
      ∀ other, .faultInjected other fromNode receiver msgId .drop ∉ past
  lineage : ∀ past node receiver msgId later payload,
    kindsOf events = past ++ .deliver node receiver msgId :: later →
    (payloadsFor (receiver, msgId) past)[deliveries (receiver, msgId) past]? = some payload →
      ∃ parsed, ReadsAs tool payload parsed ∧ parsed.InOrder msgId (lastLineage tool past)

end WellFormed

end UcoStack.Tool
