import UcoStack.Tool.TraceSpec

/-!
# What local verification means

The state of the verifier represents the events read so far, and an event passes
exactly when it is in order after them.  So a trace without problems is one in
which every event is in order and nothing is awaited at the end.
-/

namespace UcoStack.Tool

open UcoStack.Runtime

section Positions

variable {V : Type}

/-- Sequence number and seed of an event after the events `past`. -/
structure HeaderOk (past : List (TraceEvent V)) (ev : TraceEvent V) : Prop where
  seq : ev.seq = min past.length u64Max
  seed : ∀ first, past.head? = some first → first.seed = ev.seed

/-- The conditions on single kinds of events. -/
def OwnOk (tool : ToolHost V) (past : List (EventKind V)) : EventKind V → Prop
  | .spawn _ actor _ => actor ∉ spawnedIn past
  | .netRecv _ fromNode receiver msgId _ => (fromNode, receiver, msgId) ∉ droppedIn past
  | .deliver _ receiver msgId => ∃ payload, (waiting (receiver, msgId) past).head? = some payload ∧
      ∃ parsed, readLineage tool payload = some parsed ∧
        parsed.InOrder msgId (lastLineage tool past)
  | .effectObserved node actor _ _ msgId declared observed =>
      past.getLast? = some (.deliver node actor msgId) ∧
        declared.Nodup ∧ observed.Nodup ∧ observed ⊆ declared
  | _ => True

/-- An event is in order after the events `past`. -/
structure KindOk (tool : ToolHost V) (past : List (EventKind V)) (kind : EventKind V) : Prop where
  effect : ∀ node receiver msgId, past.getLast? = some (.deliver node receiver msgId) →
    isEffectObserved kind = true
  timer : ∀ node sender timerId, past.getLast? = some (.timerFired node sender timerId) →
    emitter kind = some sender
  known : spawnedIn past ≠ [] → ∀ actor ∈ named kind, actor ∈ spawnedIn past
  own : OwnOk tool past kind

/-- The state of the verifier after the events `past`. -/
structure Represents (tool : ToolHost V) (past : List (TraceEvent V)) (st : VerifyState V) :
    Prop where
  seed : st.seed = past.head?.map TraceEvent.seed
  expectedSeq : st.expectedSeq = min past.length u64Max
  spawned : ∀ actor, (st.spawned.lookup actor).isSome ↔ actor ∈ spawnedIn (kindsOf past)
  produced : ∀ key, st.produced.lookup key =
    if waiting key (kindsOf past) = [] then none else some (waiting key (kindsOf past))
  balanced : ∀ key, deliveries key (kindsOf past) ≤ (payloadsFor key (kindsOf past)).length
  lineage : ∀ key, st.deliveredLineage.lookup key = lastLineage tool (kindsOf past) key
  dropped : ∀ key, key ∈ st.dropped ↔ key ∈ droppedIn (kindsOf past)
  timer : st.pendingTimerEmit = past.getLast?.bind fun ev => firedBy ev.seq ev.kind
  effect : st.pendingEffectObserved = past.getLast?.bind fun ev => deliveredBy ev.seq ev.kind

theorem Represents.initial (tool : ToolHost V) : Represents tool [] (.initial : VerifyState V) where
  seed := rfl
  expectedSeq := rfl
  spawned := fun actor => by simp [VerifyState.initial, spawnedIn, kindsOf]
  produced := fun key => by simp [VerifyState.initial, waiting, payloadsFor, kindsOf]
  balanced := fun key => by simp [deliveries, kindsOf]
  lineage := fun key => by
    simp [VerifyState.initial, lastLineage, lineages, lineagesFrom, kindsOf]
  dropped := fun key => by simp [VerifyState.initial, droppedIn, kindsOf]
  timer := rfl
  effect := rfl

end Positions

/-! ## The verdict on one event -/

section Verdict

variable {V : Type} {tool : ToolHost V} {past : List (TraceEvent V)} {st : VerifyState V}

theorem getLast?_kindsOf (past : List (TraceEvent V)) :
    (kindsOf past).getLast? = past.getLast?.map TraceEvent.kind :=
  List.getLast?_map

theorem Represents.unknown_iff (rep : Represents tool past st) (actor : ActorId) :
    ¬st.Unknown actor ↔ (spawnedIn (kindsOf past) ≠ [] → actor ∈ spawnedIn (kindsOf past)) := by
  have empty : st.spawned ≠ ∅ ↔ spawnedIn (kindsOf past) ≠ [] := by
    rw [not_iff_not]
    constructor
    · intro none
      rw [List.eq_nil_iff_forall_not_mem]
      intro other member
      have found := (rep.spawned other).mpr member
      rw [none] at found
      cases found
    · intro none
      apply HashMap.eq_empty_of_lookup
      intro other
      have absent := (not_congr (rep.spawned other)).mpr (none ▸ List.not_mem_nil)
      simpa using absent
  unfold VerifyState.Unknown
  rw [not_and, empty]
  refine imp_congr_right fun _ => ?_
  rw [← rep.spawned actor]
  cases st.spawned.lookup actor <;> simp

theorem Represents.delivered_iff (rep : Represents tool past st) (node : NodeId)
    (receiver : ActorId) (msgId : MsgId) :
    (∃ pending, st.pendingEffectObserved = some pending ∧
      node = pending.node ∧ receiver = pending.receiver ∧ msgId = pending.msgId) ↔
      (kindsOf past).getLast? = some (.deliver node receiver msgId) := by
  rw [rep.effect, getLast?_kindsOf]
  cases past.getLast? with
  | none => simp
  | some ev =>
      obtain ⟨seq, seed, kind⟩ := ev
      cases kind <;> simp [deliveredBy, eq_comm]

theorem Represents.fired_iff (rep : Represents tool past st) (kind : EventKind V) :
    (∀ pending, st.pendingTimerEmit = some pending → emitter kind = some pending.sender) ↔
      ∀ node sender timerId, (kindsOf past).getLast? = some (.timerFired node sender timerId) →
        emitter kind = some sender := by
  rw [rep.timer, getLast?_kindsOf]
  cases past.getLast? with
  | none => simp
  | some ev =>
      obtain ⟨seq, seed, kind⟩ := ev
      cases kind <;> simp [firedBy]

theorem Represents.kind_iff (rep : Represents tool past st) (kind : EventKind V) :
    KindPasses tool st kind ↔ OwnOk tool (kindsOf past) kind := by
  cases kind with
  | spawn node actor service =>
      change st.spawned.lookup actor = none ↔ actor ∉ spawnedIn (kindsOf past)
      rw [← rep.spawned actor]
      simp
  | netRecv node fromNode receiver msgId payload => exact not_congr (rep.dropped _)
  | deliver node receiver msgId =>
      have lineage : (fun key => st.deliveredLineage.lookup key) = lastLineage tool (kindsOf past) :=
        funext rep.lineage
      change (∃ payload queue, st.produced.lookup (receiver, msgId) = some (payload :: queue) ∧
        ∃ parsed, readLineage tool payload = some parsed ∧
          parsed.InOrder msgId fun key => st.deliveredLineage.lookup key) ↔
        ∃ payload, (waiting (receiver, msgId) (kindsOf past)).head? = some payload ∧ _
      rw [rep.produced, lineage]
      cases waiting (receiver, msgId) (kindsOf past) with
      | nil => simp
      | cons first queue => simp
  | effectObserved node actor service msgType msgId declared observed =>
      exact and_congr_left' (rep.delivered_iff node actor msgId)
  | _ => exact Iff.rfl

theorem Represents.passes_iff (rep : Represents tool past st) (ev : TraceEvent V) :
    Passes tool ev st ↔ HeaderOk past ev ∧ KindOk tool (kindsOf past) ev.kind := by
  have effect : (st.pendingEffectObserved.isSome → isEffectObserved ev.kind = true) ↔
      ∀ node receiver msgId, (kindsOf past).getLast? = some (.deliver node receiver msgId) →
        isEffectObserved ev.kind = true := by
    constructor
    · intro gap node receiver msgId last
      obtain ⟨pending, found, _⟩ := (rep.delivered_iff node receiver msgId).mpr last
      exact gap (by simp [found])
    · intro gap found
      obtain ⟨pending, found⟩ := Option.isSome_iff_exists.mp found
      exact gap _ _ _ ((rep.delivered_iff pending.node pending.receiver pending.msgId).mp
        ⟨pending, found, rfl, rfl, rfl⟩)
  constructor
  · rintro ⟨seq, seed, effectOk, timer, known, kind⟩
    refine ⟨⟨seq.trans rep.expectedSeq, ?_⟩, effect.mp effectOk, (rep.fired_iff _).mp timer,
      fun some actor member => (rep.unknown_iff actor).mp (known actor member) some,
      (rep.kind_iff _).mp kind⟩
    intro first head
    exact seed first.seed (by rw [rep.seed, head]; rfl)
  · rintro ⟨⟨seq, seed⟩, effectOk, timer, known, own⟩
    refine ⟨seq.trans rep.expectedSeq.symm, ?_, effect.mpr effectOk, (rep.fired_iff _).mpr timer,
      fun actor member => (rep.unknown_iff actor).mpr fun some => known some actor member,
      (rep.kind_iff _).mpr own⟩
    intro stored found
    rw [rep.seed] at found
    obtain ⟨first, head, rfl⟩ := Option.map_eq_some_iff.mp found
    exact seed first head

end Verdict

/-! ## The state after one event -/

section Advancing

variable {V : Type} {tool : ToolHost V} {past : List (TraceEvent V)} {st : VerifyState V}

theorem kindsOf_snoc (past : List (TraceEvent V)) (ev : TraceEvent V) :
    kindsOf (past ++ [ev]) = kindsOf past ++ [ev.kind] := by
  simp [kindsOf]

theorem Represents.spawned_snoc (rep : Represents tool past st) (kind : EventKind V)
    (actor : ActorId) :
    ((spawnedAfter st.spawned kind).lookup actor).isSome ↔
      actor ∈ spawnedIn (kindsOf past ++ [kind]) := by
  rw [spawnedIn_snoc, List.mem_append, ← rep.spawned actor]
  cases kind with
  | spawn node other service =>
      by_cases same : actor = other
      · subst same
        simp [spawnedAfter, spawnedActor]
      · simp [spawnedAfter, spawnedActor, AList.lookup_insert_ne same, same]
  | _ => simp [spawnedAfter, spawnedActor]

theorem Represents.dropped_snoc (rep : Represents tool past st) (kind : EventKind V)
    (key : NodeId × ActorId × MsgId) :
    key ∈ droppedAfter st.dropped kind ↔ key ∈ droppedIn (kindsOf past ++ [kind]) := by
  rw [droppedIn_snoc, List.mem_append, ← rep.dropped key]
  cases kind with
  | faultInjected node fromNode receiver msgId action =>
      cases action <;> simp [droppedAfter, droppedKey, or_comm]
  | _ => simp [droppedAfter, droppedKey]

/-- An event moves a message into an inbox or out of one, not both. -/
theorem removal_of_arrival {kind : EventKind V} {arrived : DeliveryKey × V}
    (arrives : arrival kind = some arrived) : removal kind = none := by
  cases kind <;> first | rfl | simp [arrival] at arrives

theorem payloadFor_of_removal (key : DeliveryKey) {kind : EventKind V} {removed : DeliveryKey}
    (removes : removal kind = some removed) : payloadFor key kind = none := by
  cases kind <;> first | rfl | simp [removal] at removes

/-- The waiting payloads after an event that neither delivers too much nor moves
another message. -/
theorem waiting_snoc {kinds : List (EventKind V)} {key : DeliveryKey}
    (balanced : deliveries key kinds ≤ (payloadsFor key kinds).length) (kind : EventKind V) :
    waiting key (kinds ++ [kind]) =
      if removal kind = some key then (waiting key kinds).tail
      else waiting key kinds ++ (payloadFor key kind).toList := by
  unfold waiting
  rw [payloadsFor_snoc, deliveries_snoc]
  by_cases taken : removal kind = some key
  · have nothing := payloadFor_of_removal key taken
    rw [if_pos taken, if_pos taken, nothing, Option.toList_none, List.append_nil, List.tail_drop]
  · rw [if_neg taken, if_neg taken, Nat.add_zero, List.drop_append_of_le_length balanced]

/-- A delivery takes a payload that waits. -/
def Takes (kinds : List (EventKind V)) (kind : EventKind V) : Prop :=
  ∀ key, removal kind = some key → ∃ payload, (waiting key kinds).head? = some payload

theorem OwnOk.takes {kinds : List (EventKind V)} {kind : EventKind V}
    (own : OwnOk tool kinds kind) : Takes kinds kind := by
  intro key taken
  cases kind with
  | deliver node receiver msgId =>
      cases taken
      obtain ⟨payload, first, _⟩ := own
      exact ⟨payload, first⟩
  | _ => cases taken

theorem balanced_snoc {kinds : List (EventKind V)} {key : DeliveryKey} {kind : EventKind V}
    (balanced : deliveries key kinds ≤ (payloadsFor key kinds).length)
    (takes : Takes kinds kind) :
    deliveries key (kinds ++ [kind]) ≤ (payloadsFor key (kinds ++ [kind])).length := by
  rw [deliveries_snoc, payloadsFor_snoc, List.length_append]
  by_cases taken : removal kind = some key
  · rw [if_pos taken]
    obtain ⟨payload, first⟩ := takes key taken
    have less : deliveries key kinds < (payloadsFor key kinds).length := by
      by_contra long
      have none : waiting key kinds = [] := List.drop_of_length_le (Nat.not_lt.mp long)
      rw [none] at first
      cases first
    omega
  · rw [if_neg taken]
    omega

theorem popPayload_lookup (produced : HashMap DeliveryKey (List V)) (taken key : DeliveryKey) :
    (popPayload produced taken).lookup key =
      if key = taken then
        match produced.lookup taken with
        | some (_ :: first :: queue) => some (first :: queue)
        | _ => none
      else produced.lookup key := by
  unfold popPayload
  by_cases same : key = taken
  · subst same
    rw [if_pos rfl]
    cases found : produced.lookup key with
    | none => exact found
    | some payloads =>
        match payloads with
        | [] => exact AList.lookup_erase _ _
        | [_] => exact AList.lookup_erase _ _
        | _ :: first :: queue => exact AList.lookup_insert _
  · rw [if_neg same]
    cases found : produced.lookup taken with
    | none => rfl
    | some payloads =>
        match payloads with
        | [] => exact AList.lookup_erase_ne same
        | [_] => exact AList.lookup_erase_ne same
        | _ :: first :: queue => exact AList.lookup_insert_ne same

/-- The table of produced messages holds the waiting payloads, under no key an
empty list. -/
def Queued (kinds : List (EventKind V)) (produced : HashMap DeliveryKey (List V)) : Prop :=
  ∀ key, produced.lookup key = if waiting key kinds = [] then none else some (waiting key kinds)

theorem pushPayload_queued {kinds : List (EventKind V)}
    {produced : HashMap DeliveryKey (List V)} (queued : Queued kinds produced)
    (balanced : ∀ key, deliveries key kinds ≤ (payloadsFor key kinds).length)
    {kind : EventKind V} {target : DeliveryKey} {payload : V}
    (arrives : arrival kind = some (target, payload)) :
    Queued (kinds ++ [kind]) (pushPayload produced target payload) := by
  intro key
  have kept : removal kind ≠ some key := by
    rw [removal_of_arrival arrives]
    exact nofun
  rw [waiting_snoc (balanced key), if_neg kept]
  unfold pushPayload payloadFor
  rw [arrives]
  by_cases same : key = target
  · subst same
    rw [AList.lookup_insert, queued key]
    by_cases none : waiting key kinds = []
    · simp [none]
    · simp [none]
  · rw [AList.lookup_insert_ne same, queued key]
    simp [Ne.symm same]

theorem popPayload_queued {kinds : List (EventKind V)}
    {produced : HashMap DeliveryKey (List V)} (queued : Queued kinds produced)
    (balanced : ∀ key, deliveries key kinds ≤ (payloadsFor key kinds).length)
    {kind : EventKind V} {target : DeliveryKey} (removes : removal kind = some target) :
    Queued (kinds ++ [kind]) (popPayload produced target) := by
  intro key
  rw [waiting_snoc (balanced key), popPayload_lookup]
  have nothing := payloadFor_of_removal key removes
  by_cases same : key = target
  · subst same
    rw [if_pos rfl, if_pos removes, queued key]
    match waiting key kinds with
    | [] => simp
    | [_] => simp
    | _ :: first :: queue => simp
  · have other : removal kind ≠ some key := by
      rw [removes]
      intro equal
      exact same (Option.some.inj equal).symm
    rw [if_neg same, if_neg other, nothing, queued key]
    simp

theorem producedAfter_queued {kinds : List (EventKind V)}
    {produced : HashMap DeliveryKey (List V)} (queued : Queued kinds produced)
    (balanced : ∀ key, deliveries key kinds ≤ (payloadsFor key kinds).length)
    (kind : EventKind V) : Queued (kinds ++ [kind]) (producedAfter produced kind) := by
  have still (idle : ∀ key, removal kind ≠ some key ∧ payloadFor key kind = none) :
      Queued (kinds ++ [kind]) produced := by
    intro key
    obtain ⟨kept, nothing⟩ := idle key
    rw [waiting_snoc (balanced key), if_neg kept, nothing, queued key]
    simp
  cases kind with
  | send sender receiver msgId payload => exact pushPayload_queued queued balanced rfl
  | netRecv node fromNode receiver msgId payload => exact pushPayload_queued queued balanced rfl
  | deliver node receiver msgId => exact popPayload_queued queued balanced rfl
  | _ => exact still fun key => ⟨nofun, rfl⟩

theorem Represents.lineage_snoc (rep : Represents tool past st) (kind : EventKind V)
    (key : LineageKey) :
    (deliveredAfter tool st.produced st.deliveredLineage kind).lookup key =
      lastLineage tool (kindsOf past ++ [kind]) key := by
  rw [lastLineage_snoc, ← rep.lineage key]
  cases kind with
  | deliver node receiver msgId =>
      unfold deliveredAfter lineageOf deliveredPayload removal
      dsimp only
      rw [rep.produced]
      cases waiting (receiver, msgId) (kindsOf past) with
      | nil => simp
      | cons payload queue =>
          simp only [List.cons_ne_nil, if_false, List.head?_cons, Option.map_some]
          unfold lineageAfter
          cases readLineage tool payload with
          | none => rfl
          | some parsed =>
              simp only [Option.map_some]
              by_cases same : (parsed.fromNode, msgId) = key
              · subst same
                rw [if_pos rfl]
                exact AList.lookup_insert _
              · rw [if_neg same]
                exact AList.lookup_insert_ne (Ne.symm same)
  | _ => rfl

theorem Represents.snoc (rep : Represents tool past st) {ev : TraceEvent V}
    (header : HeaderOk past ev) (ok : KindOk tool (kindsOf past) ev.kind) :
    Represents tool (past ++ [ev]) (advance tool ev st) where
  seed := by
    change some (st.seed.getD ev.seed) = _
    rw [rep.seed]
    cases past with
    | nil => rfl
    | cons first rest => rfl
  expectedSeq := by
    change saturatingAdd ev.seq 1 = _
    rw [header.seq, List.length_append, List.length_singleton]
    unfold saturatingAdd
    omega
  spawned := fun actor => by
    rw [kindsOf_snoc]
    exact rep.spawned_snoc ev.kind actor
  produced := by
    rw [kindsOf_snoc]
    exact producedAfter_queued rep.produced rep.balanced ev.kind
  balanced := fun key => by
    rw [kindsOf_snoc]
    exact balanced_snoc (rep.balanced key) ok.own.takes
  lineage := fun key => by
    rw [kindsOf_snoc]
    exact rep.lineage_snoc ev.kind key
  dropped := fun key => by
    rw [kindsOf_snoc]
    exact rep.dropped_snoc ev.kind key
  timer := by simp [advance]
  effect := by simp [advance]

end Advancing

/-! ## The whole trace -/

section Whole

variable {V : Type} (tool : ToolHost V)

theorem verifyEvent_monitors :
    Monitors (verifyEvent tool) (fun st : VerifyState V => st.problems = [])
      (Represents tool) (fun past ev => HeaderOk past ev ∧ KindOk tool (kindsOf past) ev.kind) := by
  constructor
  · intro st ev clean
    obtain ⟨more, result, _⟩ : Reports _ _ (verifyEvent tool st ev) := verifyEvent_reports ev st
    rw [result] at clean
    exact (List.append_eq_nil_iff.mp clean).1
  · intro past st ev clean rep
    obtain ⟨more, result, passes⟩ : Reports _ _ (verifyEvent tool st ev) :=
      verifyEvent_reports ev st
    rw [result, ← rep.passes_iff ev, ← passes]
    change st.problems ++ more = [] ↔ more = []
    rw [clean, List.nil_append]
  · intro past st ev clean rep
    obtain ⟨more, result, passes⟩ : Reports _ _ (verifyEvent tool st ev) :=
      verifyEvent_reports ev st
    rw [result] at clean ⊢
    have none : more = [] := (List.append_eq_nil_iff.mp clean).2
    obtain ⟨header, ok⟩ := (rep.passes_iff ev).mp (passes.mp none)
    rw [none, VerifyState.addProblems_nil]
    exact rep.snoc header ok

/-- Nothing is awaited after the events. -/
def Settled (kinds : List (EventKind V)) : Prop :=
  (∀ node sender timerId, kinds.getLast? ≠ some (.timerFired node sender timerId)) ∧
    ∀ node receiver msgId, kinds.getLast? ≠ some (.deliver node receiver msgId)

theorem checkEnd_problems (st : VerifyState V) :
    (checkEnd tool st).problems = [] ↔
      st.problems = [] ∧ st.pendingTimerEmit = none ∧ st.pendingEffectObserved = none := by
  obtain ⟨problems, seed, expectedSeq, spawned, produced, lineage, dropped, timer, effect⟩ := st
  unfold checkEnd
  cases timer with
  | none => cases effect <;> simp [VerifyState.report]
  | some pending => cases effect <;> simp [VerifyState.report]

/-- A trace has no problem when every event is in order and nothing is awaited. -/
theorem verifyTrace_positions (events : List (TraceEvent V)) :
    (verifyTrace tool events).problems = [] ↔
      EveryPosition HeaderOk events ∧ EveryPosition (KindOk tool) (kindsOf events) ∧
        Settled (kindsOf events) := by
  obtain ⟨verdict, represents⟩ := (verifyEvent_monitors tool).foldl_iff
    rfl (.initial tool) events
  have positions : EveryPosition (fun past ev => HeaderOk past ev ∧
      KindOk tool (kindsOf past) ev.kind) events ↔
        EveryPosition HeaderOk events ∧ EveryPosition (KindOk tool) (kindsOf events) := by
    rw [EveryPosition.and]
    exact and_congr_right' EveryPosition.map
  change (checkEnd tool (events.foldl (verifyEvent tool) .initial)).problems = [] ↔ _
  rw [checkEnd_problems, verdict, positions, and_assoc]
  refine and_congr_right fun headers => and_congr_right fun kinds => ?_
  have rep := represents (verdict.mpr (positions.mpr ⟨headers, kinds⟩))
  rw [rep.timer, rep.effect]
  unfold Settled
  rw [getLast?_kindsOf]
  cases events.getLast? with
  | none => simp
  | some last =>
      obtain ⟨seq, seed, kind⟩ := last
      cases kind <;> simp [firedBy, deliveredBy]

end Whole

end UcoStack.Tool
