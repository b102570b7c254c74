import UcoStack.Tool.JsonTool
import UcoStack.Tool.LocalVerify

/-!
# Local verification accepts the well-formed traces

The conditions at every position are those of `WellFormed`: a condition on an
event and its successor is, read at the successor, a condition on the event
before it, with the end of the trace as the remaining case.
-/

namespace UcoStack.Tool

open UcoStack.Runtime

section Headers

variable {V : Type} {events : List (TraceEvent V)}

theorem headers_iff (fits : events.length ≤ 2 ^ 64) :
    EveryPosition HeaderOk events ↔
      (∀ (index : Nat) (ev : TraceEvent V), events[index]? = some ev → ev.seq = index) ∧
        ∀ first ∈ events, ∀ second ∈ events, first.seed = second.seed := by
  have bound (index : Nat) (ev : TraceEvent V) (found : events[index]? = some ev) :
      min (events.take index).length u64Max = index := by
    obtain ⟨inside, _⟩ := List.getElem?_eq_some_iff.mp found
    have limit : u64Max = 2 ^ 64 - 1 := rfl
    rw [List.length_take, limit]
    omega
  constructor
  · intro every
    refine ⟨fun index ev found => ?_, ?_⟩
    · exact (EveryPosition.iff_getElem?.mp every index ev found).seq.trans (bound index ev found)
    · have toFirst (ev : TraceEvent V) (member : ev ∈ events) :
          ∀ first, events.head? = some first → ev.seed = first.seed := by
        intro first head
        obtain ⟨past, later, split⟩ := List.append_of_mem member
        cases past with
        | nil =>
            rw [split] at head
            cases head
            rfl
        | cons start rest =>
            rw [split] at head
            obtain rfl : start = first := by simpa using head
            exact ((every _ _ _ split).seed start rfl).symm
      intro first inFirst second inSecond
      cases head : events.head? with
      | none =>
          rw [List.head?_eq_none_iff.mp head] at inFirst
          exact absurd inFirst List.not_mem_nil
      | some start =>
          exact (toFirst first inFirst start head).trans (toFirst second inSecond start head).symm
  · rintro ⟨seq, seed⟩
    rw [EveryPosition.iff_getElem?]
    intro index ev found
    refine ⟨(seq index ev found).trans (bound index ev found).symm, ?_⟩
    intro first head
    have member : first ∈ events := List.mem_of_mem_take (List.mem_of_head? head)
    exact seed first member ev (List.mem_of_getElem? found)

end Headers

section Kinds

variable {V : Type} {tool : ToolHost V} {kinds : List (EventKind V)}

theorem mem_droppedIn {fromNode : NodeId} {receiver : ActorId} {msgId : MsgId} :
    (fromNode, receiver, msgId) ∈ droppedIn kinds ↔
      ∃ node, EventKind.faultInjected node fromNode receiver msgId .drop ∈ kinds := by
  unfold droppedIn
  rw [List.mem_filterMap]
  constructor
  · rintro ⟨kind, member, found⟩
    unfold droppedKey at found
    split at found
    · cases found
      exact ⟨_, member⟩
    · cases found
  · rintro ⟨node, member⟩
    exact ⟨_, member, rfl⟩

theorem isEffectObserved_iff {kind : EventKind V} :
    isEffectObserved kind = true ↔ ∃ node actor service msgType msgId declared observed,
      kind = .effectObserved node actor service msgType msgId declared observed := by
  constructor
  · intro isEffect
    cases kind with
    | effectObserved => exact ⟨_, _, _, _, _, _, _, rfl⟩
    | _ => cases isEffect
  · rintro ⟨_, _, _, _, _, _, _, rfl⟩
    rfl

/-- What waits first is the payload with the number of the delivery. -/
theorem head?_waiting (key : DeliveryKey) (past : List (EventKind V)) :
    (waiting key past).head? = (payloadsFor key past)[deliveries key past]? :=
  List.head?_drop

theorem deliveries_removal {key : DeliveryKey} {kind : EventKind V}
    (removes : removal kind = some key) (past : List (EventKind V)) :
    deliveries key (past ++ [kind]) = deliveries key past + 1 := by
  rw [deliveries_snoc, if_pos removes]

/-- An event of a split trace is followed by the first of the later events. -/
theorem getLast?_snoc_split {past : List (EventKind V)} {kind next : EventKind V}
    {later : List (EventKind V)} (split : kinds = past ++ kind :: next :: later) :
    kinds = (past ++ [kind]) ++ next :: later ∧ (past ++ [kind]).getLast? = some kind := by
  refine ⟨?_, List.getLast?_concat⟩
  rw [split, List.append_assoc, List.singleton_append]

/-- An event and the one after it, or the end. -/
theorem follows_iff (kinds : List (EventKind V)) (Awaits : EventKind V → Prop)
    (Follows : EventKind V → EventKind V → Prop) :
    (EveryPosition (fun past next => ∀ kind, past.getLast? = some kind → Awaits kind →
        Follows kind next) kinds ∧
      ∀ kind, kinds.getLast? = some kind → ¬Awaits kind) ↔
      ∀ past kind later, kinds = past ++ kind :: later → Awaits kind →
        ∃ next rest, later = next :: rest ∧ Follows kind next := by
  constructor
  · rintro ⟨every, settled⟩ past kind later split awaits
    cases later with
    | nil =>
        have last : kinds.getLast? = some kind := by
          rw [split]
          exact List.getLast?_concat
        exact absurd awaits (settled kind last)
    | cons next rest =>
        obtain ⟨moved, last⟩ := getLast?_snoc_split split
        exact ⟨next, rest, rfl, every _ _ _ moved kind last awaits⟩
  · intro follows
    constructor
    · intro past next later split kind last awaits
      obtain ⟨before, rfl⟩ := List.getLast?_eq_some_iff.mp last
      rw [List.append_assoc, List.singleton_append] at split
      obtain ⟨other, rest, same, ok⟩ := follows before kind _ split awaits
      cases same
      exact ok
    · intro kind last awaits
      obtain ⟨before, rfl⟩ := List.getLast?_eq_some_iff.mp last
      obtain ⟨_, _, none, _⟩ := follows before kind [] rfl awaits
      cases none

end Kinds

section Meaning

variable {V : Type} {tool : ToolHost V} {events : List (TraceEvent V)}

/-- Deliveries await an effect record, fired timers an emission. -/
def IsDelivery (kind : EventKind V) : Prop :=
  ∃ node receiver msgId, kind = .deliver node receiver msgId

def IsTimer (kind : EventKind V) : Prop :=
  ∃ node sender timerId, kind = .timerFired node sender timerId

def EmissionOf (kind next : EventKind V) : Prop :=
  ∀ node sender timerId, kind = .timerFired node sender timerId → emitter next = some sender

theorem WellFormed.positions (formed : WellFormed tool events) :
    EveryPosition (KindOk tool) (kindsOf events) ∧ Settled (kindsOf events) := by
  obtain ⟨effects, delivered⟩ := (follows_iff (kindsOf events) IsDelivery
    fun _ next => isEffectObserved next = true).mpr (by
      rintro past kind later split ⟨node, receiver, msgId, rfl⟩
      obtain ⟨_, _, _, _, rest, rfl⟩ := formed.effect_follows past node receiver msgId later split
      exact ⟨_, rest, rfl, rfl⟩)
  obtain ⟨emissions, fired⟩ := (follows_iff (kindsOf events) IsTimer EmissionOf).mpr (by
    rintro past kind later split ⟨node, sender, timerId, rfl⟩
    obtain ⟨next, rest, rfl, emits⟩ :=
      formed.emission_follows past node sender timerId later split
    refine ⟨next, rest, rfl, ?_⟩
    rintro _ _ _ ⟨⟩
    exact emits)
  refine ⟨fun past kind later split => ⟨?_, ?_, ?_, ?_⟩, ?_, ?_⟩
  · intro node receiver msgId last
    exact effects past kind later split _ last ⟨node, receiver, msgId, rfl⟩
  · intro node sender timerId last
    exact emissions past kind later split _ last ⟨node, sender, timerId, rfl⟩ _ _ _ rfl
  · exact formed.spawned_before past kind later split
  · cases kind with
    | spawn node actor service =>
        exact EveryPosition.nodup_iff.mpr formed.spawn_once past _ later split actor rfl
    | netRecv node fromNode receiver msgId payload =>
        intro dropped
        obtain ⟨other, member⟩ := mem_droppedIn.mp dropped
        exact formed.not_dropped past node fromNode receiver msgId payload later split other member
    | deliver node receiver msgId =>
        have arrived := formed.delivered_arrived past _ later split (receiver, msgId) rfl
        rw [deliveries_removal rfl] at arrived
        have found := List.getElem?_eq_getElem (Nat.lt_of_succ_le arrived)
        obtain ⟨parsed, reads, inOrder⟩ :=
          formed.lineage past node receiver msgId later _ split found
        exact ⟨_, (head?_waiting _ past).trans found, parsed, readLineage_eq_some.mpr reads, inOrder⟩
    | effectObserved node actor service msgType msgId declared observed =>
        obtain ⟨before, rfl⟩ :=
          formed.delivery_precedes past node actor service msgType msgId declared observed later split
        refine ⟨List.getLast?_concat, formed.effects_declared node actor service msgType msgId
          declared observed ?_⟩
        rw [split]
        exact List.mem_append_right _ List.mem_cons_self
    | _ => trivial
  · intro node sender timerId last
    exact fired _ last ⟨node, sender, timerId, rfl⟩
  · intro node receiver msgId last
    exact delivered _ last ⟨node, receiver, msgId, rfl⟩

theorem WellFormed.of_positions (headers : EveryPosition HeaderOk events)
    (fits : events.length ≤ 2 ^ 64) (every : EveryPosition (KindOk tool) (kindsOf events))
    (settled : Settled (kindsOf events)) : WellFormed tool events := by
  obtain ⟨seq, seed⟩ := (headers_iff fits).mp headers
  have effects := (follows_iff (kindsOf events) IsDelivery
    fun _ next => isEffectObserved next = true).mp
    ⟨by
      rintro past next later split kind last ⟨node, receiver, msgId, rfl⟩
      exact (every past next later split).effect node receiver msgId last,
    by
      rintro kind last ⟨node, receiver, msgId, rfl⟩
      exact settled.2 node receiver msgId last⟩
  have emissions := (follows_iff (kindsOf events) IsTimer EmissionOf).mp
    ⟨by
      rintro past next later split kind last ⟨node, sender, timerId, rfl⟩
      rintro _ _ _ ⟨⟩
      exact (every past next later split).timer node sender timerId last,
    by
      rintro kind last ⟨node, sender, timerId, rfl⟩
      exact settled.1 node sender timerId last⟩
  refine ⟨seq, seed, ?_, ?_, ?_, ?_, ?_, ?_, ?_, ?_, ?_⟩
  · apply EveryPosition.nodup_iff.mp
    intro past kind later split actor spawns
    cases kind with
    | spawn node other service =>
        cases spawns
        exact (every past _ later split).own
    | _ => cases spawns
  · intro past kind later split
    exact (every past kind later split).known
  · intro past kind later split key removes
    obtain ⟨payload, first⟩ := (every past kind later split).own.takes key removes
    rw [head?_waiting] at first
    obtain ⟨inside, _⟩ := List.getElem?_eq_some_iff.mp first
    rw [deliveries_removal removes]
    exact inside
  · intro past node receiver msgId later split
    obtain ⟨next, rest, rfl, isEffect⟩ :=
      effects past _ later split ⟨node, receiver, msgId, rfl⟩
    obtain ⟨node', actor, service, msgType, msgId', declared, observed, rfl⟩ :=
      isEffectObserved_iff.mp isEffect
    obtain ⟨moved, last⟩ := getLast?_snoc_split split
    obtain ⟨same, _⟩ := (every _ _ _ moved).own
    rw [last] at same
    cases same
    exact ⟨service, msgType, declared, observed, rest, rfl⟩
  · intro past node actor service msgType msgId declared observed later split
    exact List.getLast?_eq_some_iff.mp (every past _ later split).own.1
  · intro past node sender timerId later split
    obtain ⟨next, rest, rfl, emits⟩ := emissions past _ later split ⟨node, sender, timerId, rfl⟩
    exact ⟨next, rest, rfl, emits node sender timerId rfl⟩
  · intro node actor service msgType msgId declared observed member
    obtain ⟨past, later, split⟩ := List.append_of_mem member
    exact (every past _ later split).own.2
  · intro past node fromNode receiver msgId payload later split other member
    exact (every past _ later split).own (mem_droppedIn.mpr ⟨other, member⟩)
  · intro past node receiver msgId later payload split found
    obtain ⟨first, waits, parsed, reads, inOrder⟩ := (every past _ later split).own
    rw [head?_waiting, found] at waits
    cases waits
    exact ⟨parsed, readLineage_eq_some.mp reads, inOrder⟩

/-- The exact meaning of local verification.  A slice has fewer than `2 ^ 64`
elements; beyond that the expected sequence number would saturate. -/
theorem verifyTrace_wellFormed (tool : ToolHost V) (events : List (TraceEvent V))
    (fits : events.length ≤ 2 ^ 64) :
    (verifyTrace tool events).problems = [] ↔ WellFormed tool events := by
  rw [verifyTrace_positions]
  constructor
  · rintro ⟨headers, every, settled⟩
    exact .of_positions headers fits every settled
  · intro formed
    exact ⟨(headers_iff fits).mpr ⟨formed.seq, formed.seed⟩, formed.positions⟩

theorem verifyTrace_wellFormed_sample : WellFormed jsonTool sampleTrace :=
  (verifyTrace_wellFormed jsonTool sampleTrace (by decide)).mp (by decide +kernel)

end Meaning

end UcoStack.Tool
