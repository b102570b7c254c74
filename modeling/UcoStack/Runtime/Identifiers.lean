import UcoStack.Runtime.CoreOp

/-!
# Identifiers of messages and timers

Identifiers are the node id plus a counter that saturates.  As long as it has not,
the messages of a node have distinct identifiers, and so have its pending timers.
-/

namespace UcoStack.Runtime

section Operations

variable {V : Type} {host : Host V} {site : Site} {Wire : WireEnvelope V → Prop}
  {entryActor : ActorId}

/-- What dispatching a message changes besides the inboxes. -/
structure Routed (site : Site) (payload : V) (cause : MsgId × V) (core : Core V)
    (dispatched : Dispatched V) : Prop where
  history : dispatched.core.history =
    core.history ++ [⟨(core.allocate site.nodeId).1, payload, some cause, dispatched.envelope⟩]
  msgCounter : dispatched.core.msgCounter = (core.allocate site.nodeId).2.msgCounter
  delivered : dispatched.core.delivered = core.delivered
  pendingTimers : dispatched.core.pendingTimers = core.pendingTimers
  timerCounter : dispatched.core.timerCounter = core.timerCounter
  timersCreated : dispatched.core.timersCreated = core.timersCreated

theorem routeOutgoing_routed {fromActor : ActorId} {target : Target} {payload : V}
    {cause : MsgId × V} {core : Core V} {dispatched : Dispatched V}
    (routed : routeOutgoing site fromActor target payload cause core = .ok dispatched) :
    Routed site payload cause core dispatched := by
  rcases (routeOutgoing_ok site).mp routed with ⟨_, _, _, _, _, _, rfl⟩ | ⟨_, _, _, _, _, rfl⟩
  · exact ⟨rfl, rfl, rfl, rfl, rfl, rfl⟩
  · exact ⟨rfl, rfl, rfl, rfl, rfl, rfl⟩

/-- An operation produces at most one message, under the next identifier. -/
theorem CoreOp.history_cases {core final : Core V} {kinds : List (EventKind V)}
    (op : CoreOp host site Wire entryActor core kinds final) :
    (final.history = core.history ∧ final.msgCounter = core.msgCounter) ∨
      ∃ payload cause envelope,
        final.history =
          core.history ++ [⟨(core.allocate site.nodeId).1, payload, cause, envelope⟩] ∧
        final.msgCounter = (core.allocate site.nodeId).2.msgCounter := by
  cases op with
  | note event isNote => exact .inl ⟨rfl, rfl⟩
  | receive env arrived =>
      refine .inl ?_
      unfold Core.receive
      split
      · exact ⟨rfl, rfl⟩
      · exact ⟨rfl, rfl⟩
  | pop receiver actor message rest found inbox => exact .inl ⟨rfl, rfl⟩
  | write id actor state found keys => exact .inl ⟨rfl, rfl⟩
  | schedule step actorId cause out delivered answers => exact .inl ⟨rfl, rfl⟩
  | send fromActor target payload cause dispatched delivered answers routed =>
      have change := routeOutgoing_routed routed
      exact .inr ⟨payload, some cause, dispatched.envelope, change.history, change.msgCounter⟩
  | setTimers timers fewer => exact .inl ⟨rfl, rfl⟩
  | fire timer rest dispatched split routed =>
      have change := routeOutgoing_routed routed
      exact .inr ⟨timer.payload, some timer.cause, dispatched.envelope, change.history,
        change.msgCounter⟩
  | bootstrap index actor msgId payload allocated allocates encoded found =>
      cases allocates
      exact .inr ⟨payload, none, none, rfl, rfl⟩

theorem CoreOp.history_subset {core final : Core V} {kinds : List (EventKind V)}
    (op : CoreOp host site Wire entryActor core kinds final) : core.history ⊆ final.history := by
  rcases op.history_cases with ⟨same, _⟩ | ⟨payload, cause, envelope, longer, _⟩
  · rw [same]
    exact List.Subset.refl _
  · rw [longer]
    exact List.subset_append_left _ _

/-- An operation creates at most one timer, under the next identifier. -/
theorem CoreOp.timers_cases {core final : Core V} {kinds : List (EventKind V)}
    (op : CoreOp host site Wire entryActor core kinds final) :
    (final.pendingTimers.Subperm core.pendingTimers ∧ final.timerCounter = core.timerCounter ∧
        final.timersCreated = core.timersCreated) ∨
      ∃ step actorId cause out, final = scheduleTimer site step actorId cause out core := by
  cases op with
  | note event isNote => exact .inl ⟨List.Subperm.refl _, rfl, rfl⟩
  | receive env arrived =>
      refine .inl ?_
      unfold Core.receive
      split
      · exact ⟨List.Subperm.refl _, rfl, rfl⟩
      · exact ⟨List.Subperm.refl _, rfl, rfl⟩
  | pop receiver actor message rest found inbox => exact .inl ⟨List.Subperm.refl _, rfl, rfl⟩
  | write id actor state found keys => exact .inl ⟨List.Subperm.refl _, rfl, rfl⟩
  | schedule step actorId cause out delivered answers => exact .inr ⟨step, actorId, cause, out, rfl⟩
  | send fromActor target payload cause dispatched delivered answers routed =>
      have change := routeOutgoing_routed routed
      refine .inl ⟨?_, change.timerCounter, change.timersCreated⟩
      rw [change.pendingTimers]
  | setTimers timers fewer => exact .inl ⟨fewer, rfl, rfl⟩
  | fire timer rest dispatched split routed =>
      have change := routeOutgoing_routed routed
      refine .inl ⟨?_, change.timerCounter, change.timersCreated⟩
      rw [change.pendingTimers]
      exact (List.sublist_cons_self timer rest).subperm.trans split.symm.subperm
  | bootstrap index actor msgId payload allocated allocates encoded found =>
      cases allocates
      exact .inl ⟨List.Subperm.refl _, rfl, rfl⟩

end Operations

/-! ## Distinct identifiers -/

section Numbering

variable {V : Type} {host : Host V} {site : Site} {Wire : WireEnvelope V → Prop}
  {entryActor : ActorId}

def messageIdAt (nodeId : NodeId) (number : Nat) : MsgId := nodeId + BitVec.ofNat 128 number

def timerIdAt (nodeId : NodeId) (number : Nat) : Uuid :=
  nodeId + BitVec.ofNat 128 (2 ^ 96) + BitVec.ofNat 128 number

/-- Counters below the saturation point give different identifiers. -/
theorem offset_injective (base : Uuid) {first second : Nat} (small : first ≤ u64Max)
    (small' : second ≤ u64Max)
    (same : base + BitVec.ofNat 128 first = base + BitVec.ofNat 128 second) : first = second := by
  have equal := congrArg BitVec.toNat (BitVec.add_right_inj base |>.mp same)
  have limit : u64Max = 2 ^ 64 - 1 := rfl
  rw [BitVec.toNat_ofNat, BitVec.toNat_ofNat] at equal
  omega

theorem saturatingAdd_min (count : Nat) :
    saturatingAdd (min (count + 1) u64Max) 1 = min (count + 1 + 1) u64Max := by
  unfold saturatingAdd
  omega

/-- The identifiers taken from a saturating counter, in order, and its next value. -/
structure Counted (base : Uuid) (next : Nat) (ids : List Uuid) : Prop where
  counter : next = min (ids.length + 1) u64Max
  inOrder : ids.length ≤ u64Max →
    ids = (List.range ids.length).map fun index => base + BitVec.ofNat 128 (index + 1)

namespace Counted

variable {base : Uuid} {next : Nat} {ids : List Uuid}

theorem take (counted : Counted base next ids) :
    Counted base (saturatingAdd next 1) (ids ++ [base + BitVec.ofNat 128 next]) where
  counter := by rw [counted.counter, List.length_append, List.length_singleton, saturatingAdd_min]
  inOrder := by
    intro few
    rw [List.length_append, List.length_singleton] at few ⊢
    have number : next = ids.length + 1 := by rw [counted.counter, Nat.min_eq_left few]
    rw [List.range_succ, List.map_append, ← counted.inOrder (by omega), number]
    rfl

theorem nodup (counted : Counted base next ids) (few : ids.length ≤ u64Max) : ids.Nodup := by
  rw [counted.inOrder few]
  refine List.Nodup.map_on ?_ List.nodup_range
  intro first inFirst second inSecond same
  have small := List.mem_range.mp inFirst
  have small' := List.mem_range.mp inSecond
  have equal := offset_injective base (by omega) (by omega) same
  omega

theorem number (counted : Counted base next ids) (few : ids.length ≤ u64Max) {id : Uuid}
    (member : id ∈ ids) : ∃ number ≤ u64Max, id = base + BitVec.ofNat 128 number := by
  rw [counted.inOrder few] at member
  obtain ⟨index, inside, rfl⟩ := List.mem_map.mp member
  have small := List.mem_range.mp inside
  exact ⟨index + 1, by omega, rfl⟩

end Counted

structure Numbered (site : Site) (core : Core V) : Prop where
  msgCounter : core.msgCounter = min (core.history.length + 1) u64Max
  msgIds : core.history.length ≤ u64Max →
    core.history.map Produced.msgId =
      (List.range core.history.length).map fun index => messageIdAt site.nodeId (index + 1)
  timerCounter : core.timerCounter = min (core.timersCreated + 1) u64Max
  timerIds : core.timersCreated ≤ u64Max →
    (core.pendingTimers.map PendingTimer.timerId).Nodup ∧
      ∀ timer ∈ core.pendingTimers, ∃ number, 0 < number ∧ number ≤ core.timersCreated ∧
        timer.timerId = timerIdAt site.nodeId number

/-- The messages produced so far take their identifiers from the message counter. -/
theorem Numbered.counted {core : Core V} (numbered : Numbered site core) :
    Counted site.nodeId core.msgCounter (core.history.map Produced.msgId) where
  counter := by rw [List.length_map, numbered.msgCounter]
  inOrder := by
    rw [List.length_map]
    exact numbered.msgIds

theorem Numbered.initial (site : Site) (actors : ActorSystem V) :
    Numbered site (.initial actors) where
  msgCounter := rfl
  msgIds := fun _ => rfl
  timerCounter := rfl
  timerIds := fun _ => ⟨List.nodup_nil, fun _ member => absurd member List.not_mem_nil⟩

/-- The step lemma. -/
theorem Numbered.op {core final : Core V} {kinds : List (EventKind V)}
    (numbered : Numbered site core) (op : CoreOp host site Wire entryActor core kinds final) :
    Numbered site final := by
  have messages : final.msgCounter = min (final.history.length + 1) u64Max ∧
      (final.history.length ≤ u64Max → final.history.map Produced.msgId =
        (List.range final.history.length).map fun index =>
          messageIdAt site.nodeId (index + 1)) := by
    rcases CoreOp.history_cases op with
      ⟨history, counter⟩ | ⟨payload, cause, envelope, history, counter⟩
    · rw [history, counter]
      exact ⟨numbered.msgCounter, numbered.msgIds⟩
    · have taken := numbered.counted.take
      have produced : final.history.map Produced.msgId =
          core.history.map Produced.msgId ++ [site.nodeId + BitVec.ofNat 128 core.msgCounter] := by
        rw [history, List.map_append]
        rfl
      rw [← produced] at taken
      refine ⟨?_, fun few => ?_⟩
      · rw [counter, ← List.length_map Produced.msgId, ← taken.counter]
        rfl
      · rw [← List.length_map Produced.msgId] at few ⊢
        exact taken.inOrder few
  have timers : final.timerCounter = min (final.timersCreated + 1) u64Max ∧
      (final.timersCreated ≤ u64Max → (final.pendingTimers.map PendingTimer.timerId).Nodup ∧
        ∀ timer ∈ final.pendingTimers, ∃ number, 0 < number ∧ number ≤ final.timersCreated ∧
          timer.timerId = timerIdAt site.nodeId number) := by
    rcases CoreOp.timers_cases op with
      ⟨fewer, counter, created⟩ | ⟨step, actorId, cause, out, rfl⟩
    · rw [counter, created]
      refine ⟨numbered.timerCounter, fun bound => ?_⟩
      obtain ⟨distinct, ids⟩ := numbered.timerIds bound
      constructor
      · obtain ⟨kept, perm, sublist⟩ := fewer
        have keptDistinct := distinct.sublist (sublist.map PendingTimer.timerId)
        exact (perm.map PendingTimer.timerId).nodup_iff.mp keptDistinct
      · exact fun timer member => ids timer (fewer.subset member)
    · constructor
      · change saturatingAdd core.timerCounter 1 = min (core.timersCreated + 1 + 1) u64Max
        rw [numbered.timerCounter, saturatingAdd_min]
      · intro bound
        have created : core.timersCreated + 1 ≤ u64Max := bound
        obtain ⟨distinct, ids⟩ := numbered.timerIds (by omega)
        have next : (nextDeterministicTimerId site.nodeId core.timerCounter).1 =
            timerIdAt site.nodeId (core.timersCreated + 1) := by
          unfold nextDeterministicTimerId
          rw [numbered.timerCounter, Nat.min_eq_left created]
          rfl
        constructor
        · change ((core.pendingTimers ++ [_]).map PendingTimer.timerId).Nodup
          rw [List.map_append, List.nodup_append]
          refine ⟨distinct, List.nodup_singleton _, ?_⟩
          rintro old member _ inNew rfl
          obtain ⟨timer, pending, rfl⟩ := List.mem_map.mp member
          obtain ⟨number, _, small, same⟩ := ids timer pending
          have fresh : timer.timerId = timerIdAt site.nodeId (core.timersCreated + 1) :=
            (List.mem_singleton.mp inNew).trans next
          rw [same] at fresh
          have equal := offset_injective _ (by omega) created fresh
          omega
        · intro timer member
          rcases List.mem_append.mp member with old | new
          · obtain ⟨number, positive, small, same⟩ := ids timer old
            exact ⟨number, positive, Nat.le_succ_of_le small, same⟩
          · cases List.mem_singleton.mp new
            exact ⟨core.timersCreated + 1, Nat.succ_pos _, Nat.le_refl _, next⟩
  exact ⟨messages.1, messages.2, timers.1, timers.2⟩

theorem CoreRun.numbered {core final : Core V} {kinds : List (EventKind V)}
    (run : Run (CoreOp host site Wire entryActor) core kinds final)
    (numbered : Numbered site core) : Numbered site final :=
  run.invariant (fun _ _ _ inv op => inv.op op) numbered

/-- Messages that fit the counter have distinct identifiers. -/
theorem Numbered.msgIds_nodup {core : Core V} (numbered : Numbered site core)
    (few : core.history.length ≤ u64Max) : (core.history.map Produced.msgId).Nodup := by
  exact numbered.counted.nodup (by rwa [List.length_map])

/-- Timers are never forgotten by the count of the created ones. -/
theorem CoreRun.timersCreated_le {core final : Core V} {kinds : List (EventKind V)}
    (run : Run (CoreOp host site Wire entryActor) core kinds final) :
    core.timersCreated ≤ final.timersCreated := by
  induction run with
  | refl core => exact Nat.le_refl _
  | head op run ih =>
      rcases CoreOp.timers_cases op with ⟨_, _, created⟩ | ⟨step, actorId, cause, out, rfl⟩
      · rw [← created]
        exact ih
      · exact Nat.le_trans (Nat.le_succ _) ih

end Numbering

end UcoStack.Runtime
