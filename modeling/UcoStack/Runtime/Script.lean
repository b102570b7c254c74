import UcoStack.Runtime.Recording

/-!
# Replay as a reader of event kinds

The abstract view of replay mode: a function of the core and of the kinds of the
events still to be read.  It has no cursor, no pushed back event and no fuel, and
a failure carries no text.  `replay_script` shows that the driver succeeds exactly
when it does, with the same core.
-/

namespace UcoStack.Runtime

open StateRun

/-- The kinds of the events a cursor has left. -/
def ReplayCursor.script {V : Type} (cursor : ReplayCursor V) : List (EventKind V) :=
  cursor.remaining.map TraceEvent.kind

/-! ## The reader -/

section Reader

variable {V : Type} [DecidableEq V] (host : Host V) (site : Site)

/-- Fire the pending timer with the given id and actor: what it emits, and the core. -/
def replayTimer (fromActor : ActorId) (timerId : Uuid) (core : Core V) :
    Option (EventKind V × Core V) :=
  let wanted (timer : PendingTimer V) : Bool :=
    timer.timerId = timerId && timer.fromActor = fromActor
  match core.pendingTimers.find? wanted with
  | none => none
  | some timer =>
      let waiting := swapRemove core.pendingTimers (core.pendingTimers.findIdx wanted)
      match routeOutgoing site timer.fromActor timer.target timer.payload timer.cause
          (core.setTimers waiting) with
      | .error _ => none
      | .ok dispatched => some (dispatched.event, dispatched.core)

/-- Read up to the next delivery of this node; `none` when the events end.  The
first argument is the emission of a timer that fired just before. -/
def quietScript : Option (EventKind V) → Core V → List (EventKind V) →
    Option (Option PendingDelivery × Core V × List (EventKind V))
  | none, core, [] => some (none, core, [])
  | some _, _, [] => none
  | some expected, core, actual :: rest =>
      if actual = expected then quietScript none core rest else none
  | none, core, kind :: rest =>
      match kind with
      | .netRecv node _ receiver msgId payload =>
          quietScript none
            (if node = site.nodeId then core.receive receiver msgId payload else core) rest
      | .deliver node receiver msgId =>
          if node = site.nodeId then some (some ⟨node, receiver, msgId⟩, core, rest)
          else quietScript none core rest
      | .faultInjected .. | .faultPolicy .. => quietScript none core rest
      | .timerFired node fromActor timerId =>
          if node = site.nodeId then
            match replayTimer site fromActor timerId core with
            | some (expected, next) => quietScript (some expected) next rest
            | none => none
          else quietScript none core rest
      | .send .. | .netSend .. | .spawn .. | .log .. | .effectObserved .. => none

/-- The emissions that may not follow the expected ones. -/
def EventKind.isExtraEmit : EventKind V → Bool
  | .send .. => true
  | .netSend .. => true
  | .log .. => true
  | .effectObserved .. => true
  | _ => false

/-- Read exactly the expected events and no further emission. -/
def matchScript : List (EventKind V) → List (EventKind V) → Option (List (EventKind V))
  | [], rest => if (rest.head?.map EventKind.isExtraEmit).getD false then none else some rest
  | _ :: _, [] => none
  | expected :: more, actual :: rest => if actual = expected then matchScript more rest else none

/-- One iteration; `true` when the events are exhausted. -/
def roundScript (step : Nat) (core : Core V) (script : List (EventKind V)) :
    Option (Bool × Core V × List (EventKind V)) :=
  match quietScript site none core script with
  | none => none
  | some (none, core, rest) =>
      if core.pendingInboxMessages = 0 then some (true, core, rest) else none
  | some (some chosen, core, rest) =>
      match handleDelivery host site step chosen.receiver core with
      | .error _ => none
      | .ok handled =>
          if handled.msgId = chosen.msgId then
            (matchScript handled.events rest).map fun later => (false, handled.core, later)
          else none

/-- The loop and the checks after it. -/
def replayScript : (step count : Nat) → Core V → List (EventKind V) → Option (Core V)
  | _, 0, core, script => if script = [] ∧ core.pendingInboxMessages = 0 then some core else none
  | step, count + 1, core, script =>
      match roundScript host site step core script with
      | none => none
      | some (true, core, _) => some core
      | some (false, core, rest) => replayScript (step + 1) count core rest

end Reader

/-! ## The cursor reads the script -/

section Cursor

variable {V α β : Type}

/-- The run succeeds with the given value, core and events left. -/
def Ends (r : EStateM.Result (RunError V) (MainState V) α) (a : α) (core : Core V)
    (script : List (EventKind V)) : Prop :=
  ∃ s, r = .ok a s ∧ s.core = core ∧ s.replay.script = script

@[simp] theorem ends_ok {s : MainState V} {a b : α} {core : Core V}
    {script : List (EventKind V)} :
    Ends (.ok a s) b core script ↔ a = b ∧ s.core = core ∧ s.replay.script = script := by
  constructor
  · rintro ⟨_, ⟨⟩, same⟩
    exact ⟨rfl, same⟩
  · rintro ⟨rfl, same⟩
    exact ⟨s, rfl, same⟩

@[simp] theorem ends_error {s : MainState V} {error : RunError V} {a : α} {core : Core V}
    {script : List (EventKind V)} : ¬Ends (.error error s) a core script := by
  rintro ⟨_, ⟨⟩, _⟩

theorem ends_bind {x : MainM V α} {f : α → MainM V β} {s : MainState V} {b : β} {core : Core V}
    {script : List (EventKind V)} :
    Ends ((x >>= f) s) b core script ↔ ∃ a m, x s = .ok a m ∧ Ends (f a m) b core script := by
  rw [bind_apply]
  cases x s with
  | ok a m => simp
  | error error m => simp

theorem nextEvent_none {s : MainState V} (done : s.replay.script = []) :
    nextEvent s = .ok none s := by
  obtain ⟨core, seq, writer, ⟨reader, buffered⟩, injector, sent⟩ := s
  cases buffered with
  | some ev => cases done
  | none =>
      cases reader with
      | nil => rfl
      | cons ev rest => cases done

/-- Reading an event takes the first of the script, and nothing is pushed back. -/
theorem nextEvent_some {s : MainState V} {kind : EventKind V} {rest : List (EventKind V)}
    (more : s.replay.script = kind :: rest) :
    ∃ ev m, nextEvent s = .ok (some ev) m ∧ ev.kind = kind ∧ m.core = s.core ∧
      m.replay.script = rest ∧ m.replay.buffered = none := by
  obtain ⟨core, seq, writer, ⟨reader, buffered⟩, injector, sent⟩ := s
  cases buffered with
  | some ev =>
      obtain ⟨same, left⟩ := List.cons.inj more
      exact ⟨ev, _, rfl, same, rfl, left, rfl⟩
  | none =>
      cases reader with
      | nil => cases more
      | cons ev later =>
          obtain ⟨same, left⟩ := List.cons.inj more
          exact ⟨ev, _, rfl, same, rfl, left, rfl⟩

theorem unread_ok {s : MainState V} (free : s.replay.buffered = none) (ev : TraceEvent V) :
    ∃ m, unread ev s = .ok () m ∧ m.core = s.core ∧
      m.replay.script = ev.kind :: s.replay.script := by
  obtain ⟨core, seq, writer, ⟨reader, buffered⟩, injector, sent⟩ := s
  cases free
  exact ⟨_, rfl, rfl, rfl⟩

theorem script_length (s : MainState V) :
    s.replay.remaining.length = s.replay.script.length :=
  (List.length_map _).symm

end Cursor

/-! ## The parts of a replayed step -/

section Rounds

variable {V : Type} {site : Site} {s : MainState V}

theorem sends_replay (dispatched : Dispatched V) : dispatched.sends site .replay = [] := by
  unfold Dispatched.sends
  cases dispatched.envelope <;> rfl

/-- Dispatching in replay mode is routing. -/
theorem dispatchOutgoing_replay {fromActor : ActorId} {target : Target} {payload : V}
    {cause : MsgId × V} {dispatched : Dispatched V}
    (routed : routeOutgoing site fromActor target payload cause s.core = .ok dispatched) :
    dispatchOutgoing site .replay fromActor target payload cause s =
      .ok dispatched.event (s.setCore dispatched.core) := by
  rw [dispatchOutgoing_eq, routed]
  dsimp only
  rw [sends_replay, MainState.addSent_nil]

theorem injectReplayNetrecv_eq (node : NodeId) (receiver : ActorId) (msgId : MsgId) (payload : V)
    (s : MainState V) : injectReplayNetrecv site node receiver msgId payload s =
      .ok () (s.setCore
        (if node = site.nodeId then s.core.receive receiver msgId payload else s.core)) := by
  unfold injectReplayNetrecv
  by_cases own : node = site.nodeId
  · rw [if_pos own, if_pos own]
    rfl
  · rw [if_neg own, if_neg own, MainState.setCore_self]
    rfl

variable [DecidableEq V]

theorem replayFireTimer_script {fromActor : ActorId} {timerId : Uuid} {core : Core V}
    {rest : List (EventKind V)} :
    Ends (replayFireTimer site site.nodeId fromActor timerId s) () core rest ↔
      ∃ expected, replayTimer site fromActor timerId s.core = some (expected, core) ∧
        s.replay.script = expected :: rest := by
  unfold replayFireTimer replayTimer
  rw [if_neg (not_not.mpr rfl), get_bind]
  dsimp only
  cases found : s.core.pendingTimers.find? fun timer =>
      timer.timerId = timerId && timer.fromActor = fromActor with
  | none => simp
  | some timer =>
      dsimp only
      rw [updateCore_bind]
      let waiting := swapRemove s.core.pendingTimers
        (s.core.pendingTimers.findIdx fun timer =>
          timer.timerId = timerId && timer.fromActor = fromActor)
      cases routed : routeOutgoing site timer.fromActor timer.target timer.payload timer.cause
          (s.core.setTimers waiting) with
      | error error =>
          rw [bind_apply, dispatchOutgoing_eq, MainState.setCore_core, routed]
          simp
      | ok dispatched =>
          have dispatch : dispatchOutgoing site .replay timer.fromActor timer.target timer.payload
              timer.cause (s.setCore (s.core.setTimers waiting)) =
              .ok dispatched.event (s.setCore dispatched.core) := by
            rw [dispatchOutgoing_replay routed, MainState.setCore_setCore]
          rw [bind_of_ok dispatch]
          cases script : s.replay.script with
          | nil =>
              have done : (s.setCore dispatched.core).replay.script = [] := script
              rw [bind_of_ok (nextEvent_none done)]
              simp
          | cons kind later =>
              have more : (s.setCore dispatched.core).replay.script = kind :: later := script
              obtain ⟨ev, m, read, rfl, sameCore, left, _⟩ := nextEvent_some more
              rw [bind_of_ok read]
              dsimp only
              by_cases same : ev.kind = dispatched.event
              · rw [if_neg (not_not.mpr same), pure_apply, ends_ok, sameCore, left, same]
                simp
              · rw [if_pos same, throw_apply]
                simp only [ends_error, Option.some.injEq, Prod.mk.injEq, List.cons.injEq,
                  false_iff, not_exists, not_and]
                rintro expected ⟨rfl, _⟩ equal
                exact absurd equal same

/-- The loop of `next_replay_delivery` reads as `quietScript` does. -/
theorem nextReplayLoop_script {fuel : Nat} (enough : s.replay.script.length < fuel)
    {chosen : Option PendingDelivery} {core : Core V} {rest : List (EventKind V)} :
    Ends (nextReplayLoop site fuel s) chosen core rest ↔
      quietScript site none s.core s.replay.script = some (chosen, core, rest) := by
  induction fuel generalizing s with
  | zero => exact absurd enough (Nat.not_lt_zero _)
  | succ fuel ih =>
      unfold nextReplayLoop
      cases script : s.replay.script with
      | nil =>
          rw [bind_of_ok (nextEvent_none script)]
          simp [quietScript, script]
      | cons kind later =>
          obtain ⟨ev, m, read, same, sameCore, left, _⟩ := nextEvent_some script
          have shorter : m.replay.script.length < fuel := by
            rw [script, List.length_cons] at enough
            rw [left]
            omega
          rw [bind_of_ok read]
          dsimp only
          rw [same]
          cases kind with
          | netRecv node fromNode receiver msgId payload =>
              dsimp only
              let next := m.setCore
                (if node = site.nodeId then m.core.receive receiver msgId payload else m.core)
              have shorterNext : next.replay.script.length < fuel := shorter
              rw [bind_of_ok (injectReplayNetrecv_eq node receiver msgId payload m), quietScript]
              refine (ih shorterNext).trans ?_
              change quietScript site none (if node = site.nodeId then
                m.core.receive receiver msgId payload else m.core) m.replay.script = _ ↔ _
              rw [sameCore, left]
          | deliver node receiver msgId =>
              dsimp only
              rw [quietScript]
              by_cases own : node = site.nodeId
              · rw [if_pos own, if_pos own, pure_apply, ends_ok, sameCore, left]
                simp
              · rw [if_neg own, if_neg own, ih shorter, sameCore, left]
          | faultInjected node fromNode receiver msgId action =>
              dsimp only
              rw [ih shorter, quietScript, sameCore, left]
          | faultPolicy node step dropEvery delaySteps reorderWindow =>
              dsimp only
              rw [ih shorter, quietScript, sameCore, left]
          | timerFired node fromActor timerId =>
              dsimp only
              rw [quietScript]
              by_cases own : node = site.nodeId
              · rw [if_pos own, own, ends_bind]
                constructor
                · rintro ⟨⟨⟩, next, fired, ends⟩
                  obtain ⟨expected, timer, reads⟩ :=
                    replayFireTimer_script.mp ⟨next, fired, rfl, rfl⟩
                  rw [sameCore] at timer
                  rw [left] at reads
                  have shorterNext : next.replay.script.length < fuel := by
                    rw [left, reads, List.length_cons] at shorter
                    omega
                  rw [timer, reads]
                  dsimp only
                  rw [quietScript, if_pos rfl]
                  exact (ih shorterNext).mp ends
                · intro quiet
                  split at quiet
                  · rename_i expected next timer
                    cases later with
                    | nil => cases quiet
                    | cons actual after =>
                        rw [quietScript] at quiet
                        split at quiet
                        · rename_i equal
                          subst equal
                          rw [← sameCore] at timer
                          obtain ⟨reached, fired, rfl, rfl⟩ :=
                            replayFireTimer_script.mpr ⟨actual, timer, left⟩
                          have shorterNext : reached.replay.script.length < fuel := by
                            rw [left, List.length_cons] at shorter
                            omega
                          exact ⟨(), reached, fired, (ih shorterNext).mpr quiet⟩
                        · cases quiet
                  · cases quiet
              · have skips : replayFireTimer site node fromActor timerId m = .ok () m := by
                  unfold replayFireTimer
                  rw [if_pos own]
                  rfl
                rw [if_neg own, bind_of_ok skips, ih shorter, sameCore, left]
          | spawn node actor service => simp [quietScript]
          | send sender receiver msgId payload => simp [quietScript]
          | netSend node toNode sender msgId payload => simp [quietScript]
          | log node sender service text => simp [quietScript]
          | effectObserved node actor service msgType msgId declared observed =>
              simp [quietScript]

/-- What the first loop of a step reads, the second would have read as well. -/
theorem drainReplayLoop_script {fuel : Nat} (enough : s.replay.script.length < fuel) :
    ∃ m, drainReplayLoop site fuel s = .ok () m ∧
      quietScript site none m.core m.replay.script =
        quietScript site none s.core s.replay.script := by
  induction fuel generalizing s with
  | zero => exact absurd enough (Nat.not_lt_zero _)
  | succ fuel ih =>
      unfold drainReplayLoop
      cases script : s.replay.script with
      | nil =>
          rw [bind_of_ok (nextEvent_none script)]
          exact ⟨s, rfl, by rw [script]⟩
      | cons kind later =>
          obtain ⟨ev, m, read, same, sameCore, left, free⟩ := nextEvent_some script
          have shorter : m.replay.script.length < fuel := by
            rw [script, List.length_cons] at enough
            rw [left]
            omega
          have stops : ∃ n, unread ev m = .ok () n ∧
              quietScript site none n.core n.replay.script =
                quietScript site none s.core (kind :: later) := by
            obtain ⟨n, pushed, coreOfN, scriptOfN⟩ := unread_ok free ev
            refine ⟨n, pushed, ?_⟩
            rw [coreOfN, scriptOfN, sameCore, left, same]
          rw [bind_of_ok read]
          dsimp only
          rw [same]
          cases kind with
          | netRecv node fromNode receiver msgId payload =>
              dsimp only
              let next := m.setCore
                (if node = site.nodeId then m.core.receive receiver msgId payload else m.core)
              have shorterNext : next.replay.script.length < fuel := shorter
              rw [bind_of_ok (injectReplayNetrecv_eq node receiver msgId payload m)]
              obtain ⟨n, drained, quiet⟩ := ih shorterNext
              refine ⟨n, drained, quiet.trans ?_⟩
              change quietScript site none (if node = site.nodeId then
                m.core.receive receiver msgId payload else m.core) m.replay.script = _
              rw [sameCore, left, quietScript]
          | faultInjected node fromNode receiver msgId action =>
              obtain ⟨n, drained, quiet⟩ := ih shorter
              refine ⟨n, drained, quiet.trans ?_⟩
              rw [sameCore, left, quietScript]
          | faultPolicy node step dropEvery delaySteps reorderWindow =>
              obtain ⟨n, drained, quiet⟩ := ih shorter
              refine ⟨n, drained, quiet.trans ?_⟩
              rw [sameCore, left, quietScript]
          | _ => exact stops

theorem drainReplayInbound_script (s : MainState V) :
    ∃ m, drainReplayInbound site s = .ok () m ∧
      quietScript site none m.core m.replay.script =
        quietScript site none s.core s.replay.script := by
  unfold drainReplayInbound
  rw [get_bind, script_length]
  exact drainReplayLoop_script (Nat.lt_succ_self _)

theorem nextReplayDelivery_script {chosen : Option PendingDelivery} {core : Core V}
    {rest : List (EventKind V)} :
    Ends (nextReplayDelivery site s) chosen core rest ↔
      quietScript site none s.core s.replay.script = some (chosen, core, rest) := by
  unfold nextReplayDelivery
  rw [get_bind, script_length]
  exact nextReplayLoop_script (Nat.lt_succ_self _)

/-! ### Comparing emissions -/

theorem compareReplayEmits_script {index : Nat} {expected : List (EventKind V)} {core : Core V}
    {rest : List (EventKind V)} :
    Ends (compareReplayEmits index expected s) () core rest ↔
      s.core = core ∧ s.replay.script = expected ++ rest := by
  induction expected generalizing s index with
  | nil =>
      unfold compareReplayEmits
      rw [pure_apply, ends_ok]
      simp
  | cons first more ih =>
      unfold compareReplayEmits
      cases script : s.replay.script with
      | nil =>
          rw [bind_of_ok (nextEvent_none script)]
          simp
      | cons kind later =>
          obtain ⟨ev, m, read, same, sameCore, left, _⟩ := nextEvent_some script
          rw [bind_of_ok read]
          dsimp only
          rw [same]
          by_cases equal : kind = first
          · rw [if_neg (not_not.mpr equal), ih, sameCore, left, equal, List.cons_append]
            simp
          · rw [if_pos equal, throw_apply]
            simp [equal]

theorem matchScript_eq {expected script rest : List (EventKind V)} :
    matchScript expected script = some rest ↔
      script = expected ++ rest ∧ (rest.head?.map EventKind.isExtraEmit).getD false = false := by
  induction expected generalizing script with
  | nil =>
      rw [matchScript, List.nil_append]
      cases extra : (script.head?.map EventKind.isExtraEmit).getD false with
      | true =>
          simp only [if_true, reduceCtorEq, false_iff, not_and]
          rintro rfl
          simp [extra]
      | false =>
          simp only [Bool.false_eq_true, if_false, Option.some.injEq]
          constructor
          · rintro rfl
            exact ⟨rfl, extra⟩
          · exact fun same => same.1
  | cons first more ih =>
      cases script with
      | nil => simp [matchScript]
      | cons kind later =>
          rw [matchScript]
          by_cases equal : kind = first
          · rw [if_pos equal, ih, equal, List.cons_append]
            simp
          · rw [if_neg equal]
            simp [equal]

theorem verifyReplayEmits_script {expected : List (EventKind V)} {core : Core V}
    {rest : List (EventKind V)} :
    Ends (verifyReplayEmits expected s) () core rest ↔
      s.core = core ∧ matchScript expected s.replay.script = some rest := by
  have peek (m : MainState V) : Ends (verifyReplayEmits [] m) () core rest ↔
      m.core = core ∧ m.replay.script = rest ∧
        (rest.head?.map EventKind.isExtraEmit).getD false = false := by
    have compared : compareReplayEmits 0 [] m = .ok () m := rfl
    unfold verifyReplayEmits
    rw [bind_of_ok compared]
    cases script : m.replay.script with
    | nil =>
        rw [bind_of_ok (nextEvent_none script)]
        dsimp only
        rw [pure_apply, ends_ok, script]
        simp only [true_and]
        constructor
        · rintro ⟨rfl, rfl⟩
          exact ⟨rfl, rfl, rfl⟩
        · rintro ⟨rfl, rfl, _⟩
          exact ⟨rfl, rfl⟩
    | cons kind later =>
        obtain ⟨ev, n, read, same, sameCore, left, free⟩ := nextEvent_some script
        obtain ⟨k, pushed, coreOfK, scriptOfK⟩ := unread_ok free ev
        rw [bind_of_ok read]
        dsimp only
        have stops : Ends (unread ev n) () core rest ↔ m.core = core ∧ kind :: later = rest := by
          rw [pushed, ends_ok, coreOfK, scriptOfK, sameCore, left, same]
          simp
        rw [same]
        cases kind <;> first
          | refine stops.trans (and_congr_right fun _ => ?_)
            constructor
            · rintro rfl
              exact ⟨rfl, rfl⟩
            · exact fun equal => equal.1
          | simp only [throw_apply, ends_error, false_iff, not_and]
            rintro _ rfl
            simp [EventKind.isExtraEmit]
  unfold verifyReplayEmits
  rw [ends_bind, matchScript_eq]
  constructor
  · rintro ⟨⟨⟩, m, compared, ends⟩
    obtain ⟨sameCore, split⟩ := compareReplayEmits_script.mp ⟨m, compared, rfl, rfl⟩
    obtain ⟨coreOfM, scriptOfM, extra⟩ := (peek m).mp ends
    rw [scriptOfM] at split
    exact ⟨sameCore.trans coreOfM, split, extra⟩
  · rintro ⟨sameCore, split, extra⟩
    obtain ⟨m, compared, coreOfM, scriptOfM⟩ :=
      compareReplayEmits_script.mpr ⟨sameCore, split⟩
    exact ⟨(), m, compared, (peek m).mpr ⟨coreOfM, scriptOfM, extra⟩⟩

end Rounds

/-! ## Delivering in replay mode -/

section Delivering

variable {V : Type} {host : Host V} {site : Site} {s : MainState V}

theorem sendOutgoing_replay {step : Nat} {actorId : ActorId} {cause : MsgId × V}
    {outbox : List (Outgoing V)} {expected kinds : List (EventKind V)} {core : Core V}
    (sending : sendAll site step actorId cause outbox s.core = .ok (kinds, core)) :
    outbox.foldlM (sendOutgoing site .replay step actorId cause) expected s =
      .ok (expected ++ kinds) (s.setCore core) := by
  induction outbox generalizing s expected kinds with
  | nil =>
      cases sending
      rw [List.append_nil, MainState.setCore_self]
      rfl
  | cons item rest ih =>
      rw [List.foldlM_cons]
      rw [sendAll] at sending
      split at sending
      · rename_i delayed
        have here : sendOutgoing site .replay step actorId cause expected item s =
            .ok expected (s.setCore (scheduleTimer site step actorId cause item s.core)) := by
          unfold sendOutgoing
          rw [if_pos delayed]
          rfl
        have later := @ih (s.setCore (scheduleTimer site step actorId cause item s.core)) expected
          kinds sending
        rw [bind_of_ok here, later]
        rfl
      · rename_i immediate
        obtain ⟨dispatched, routed, sending⟩ := ExceptRun.bind_ok.mp sending
        obtain ⟨⟨others, final⟩, remaining, sending⟩ := ExceptRun.bind_ok.mp sending
        cases sending
        have here : sendOutgoing site .replay step actorId cause expected item s =
            .ok (expected ++ [dispatched.event]) (s.setCore dispatched.core) := by
          unfold sendOutgoing
          rw [if_neg immediate, bind_of_ok (dispatchOutgoing_replay routed)]
          rfl
        have later := @ih (s.setCore dispatched.core) (expected ++ [dispatched.event]) others
          remaining
        rw [bind_of_ok here, later, List.append_assoc]
        rfl

theorem emitAll_replay {α : Type} (event : α → EventKind V) (xs : List α)
    (expected : List (EventKind V)) (s : MainState V) :
    xs.foldlM (fun expected x => emit .replay expected (event x)) expected s =
      .ok (expected ++ xs.map event) s := by
  induction xs generalizing expected with
  | nil =>
      rw [List.map_nil, List.append_nil]
      rfl
  | cons x rest ih =>
      rw [List.foldlM_cons]
      refine (ih (expected ++ [event x])).trans ?_
      rw [List.append_assoc]
      rfl

/-- A successful delivery of the core is one of replay mode. -/
theorem processMessage_replay {step : Nat} {chosen : PendingDelivery} {handled : Handled V}
    (handles : handleDelivery host site step chosen.receiver s.core = .ok handled)
    (same : handled.msgId = chosen.msgId) :
    processMessage host site .replay step chosen s =
      .ok handled.events (s.setCore handled.core) := by
  obtain ⟨actor, payload, rest, incoming, current, executed, sent, found, inbox, decoded, again,
    ran, emitted, events⟩ := (handleDelivery_ok host site).mp handles
  let popped : Popped V := ⟨actor.id, actor.service, handled.msgId, payload⟩
  let taken := s.setCore (s.core.pop chosen.receiver actor (handled.msgId, payload) rest)
  let executedIn := taken.setCore
    (taken.core.setActor actor.id { current with state := executed.state })
  have pops : popInbox chosen.receiver s = .ok popped taken := by
    unfold popInbox
    rw [get_bind, found]
    dsimp only
    rw [inbox]
    rfl
  have handler : runHandler host site popped incoming taken = .ok executed executedIn := by
    have stored : taken.core.actors.lookup popped.actorId = some current := again
    have ok : executeActions host popped.service popped.msgId incoming site.peers site.program
        current.state (.new site.nodeId) = .ok executed := ran
    unfold runHandler
    rw [get_bind, stored]
    dsimp only
    rw [ok]
    rfl
  have sending : sendAll site step popped.actorId (popped.msgId, popped.payload)
      executed.ctx.outbox executedIn.core = .ok (sent, handled.core) := emitted
  have emission : emitExecuted site .replay step popped incoming executed executedIn =
      .ok handled.events (s.setCore handled.core) := by
    unfold emitExecuted
    have observed : emit .replay [] (observedEvent site popped incoming executed.effects)
        executedIn = .ok [observedEvent site popped incoming executed.effects] executedIn := rfl
    rw [bind_of_ok observed, bind_of_ok (emitAll_replay _ _ _ _), sendOutgoing_replay sending,
      events]
    rfl
  unfold processMessage
  rw [bind_of_ok pops, if_neg (fun differs => differs.2 same)]
  have read : decodeMsg host popped.payload = some incoming := decoded
  rw [read]
  dsimp only
  rw [bind_of_ok handler, emission]

variable [DecidableEq V]

theorem deliver_script {step : Nat} {chosen : PendingDelivery} {core : Core V}
    {rest : List (EventKind V)} :
    Ends (deliver host site .replay step chosen s) () core rest ↔
      ∃ handled, handleDelivery host site step chosen.receiver s.core = .ok handled ∧
        handled.msgId = chosen.msgId ∧ handled.core = core ∧
        matchScript handled.events s.replay.script = some rest := by
  unfold deliver
  rw [ends_bind]
  constructor
  · rintro ⟨expected, m, processing, ends⟩
    obtain ⟨handled, sent, handles, same, rfl, rfl, _⟩ := processMessage_ok processing
    obtain ⟨sameCore, reads⟩ := verifyReplayEmits_script.mp ends
    exact ⟨handled, handles, same rfl, sameCore, reads⟩
  · rintro ⟨handled, handles, same, sameCore, reads⟩
    exact ⟨handled.events, s.setCore handled.core, processMessage_replay handles same,
      verifyReplayEmits_script.mpr ⟨sameCore, reads⟩⟩

/-! ## The loop -/

theorem replayStep_script {step : Nat} {finished : Bool} {core : Core V}
    {rest : List (EventKind V)} :
    Ends (replayStep host site step s) finished core rest ↔
      roundScript host site step s.core s.replay.script = some (finished, core, rest) := by
  obtain ⟨m, drained, quiet⟩ : ∃ m, drainReplayInbound site s = .ok () m ∧ _ :=
    drainReplayInbound_script s
  unfold replayStep roundScript
  rw [bind_of_ok drained, ends_bind, ← quiet]
  constructor
  · rintro ⟨chosen, n, next, ends⟩
    rw [nextReplayDelivery_script.mp ⟨n, next, rfl, rfl⟩]
    cases chosen with
    | none =>
        dsimp only at ends ⊢
        rw [get_bind] at ends
        by_cases empty : n.core.pendingInboxMessages = 0
        · have idle : ¬n.core.pendingInboxMessages > 0 := by omega
          rw [if_neg idle] at ends
          obtain ⟨rfl, rfl, rfl⟩ := ends_ok.mp ends
          rw [if_pos empty]
        · have busy : n.core.pendingInboxMessages > 0 := by omega
          rw [if_pos busy] at ends
          exact absurd ends ends_error
    | some chosen =>
        dsimp only at ends ⊢
        obtain ⟨⟨⟩, k, delivered, ends⟩ := ends_bind.mp ends
        obtain ⟨rfl, rfl, rfl⟩ := ends_ok.mp ends
        obtain ⟨handled, handles, same, sameCore, reads⟩ :=
          deliver_script.mp ⟨k, delivered, rfl, rfl⟩
        rw [handles]
        dsimp only
        rw [if_pos same, reads, sameCore]
        rfl
  · intro reads
    split at reads
    · cases reads
    · rename_i next left found
      obtain ⟨n, delivery, rfl, rfl⟩ := nextReplayDelivery_script.mpr found
      refine ⟨none, n, delivery, ?_⟩
      split at reads
      · rename_i empty
        cases reads
        have idle : ¬n.core.pendingInboxMessages > 0 := by omega
        dsimp only
        rw [get_bind, if_neg idle]
        exact ends_ok.mpr ⟨rfl, rfl, rfl⟩
      · cases reads
    · rename_i chosen next left found
      obtain ⟨n, delivery, rfl, rfl⟩ := nextReplayDelivery_script.mpr found
      refine ⟨some chosen, n, delivery, ?_⟩
      split at reads
      · cases reads
      · rename_i handled handles
        split at reads
        · rename_i same
          obtain ⟨later, matched, result⟩ := Option.map_eq_some_iff.mp reads
          cases result
          obtain ⟨k, delivered, sameCore, left⟩ :=
            deliver_script.mpr ⟨handled, handles, same, rfl, matched⟩
          exact ends_bind.mpr ⟨(), k, delivered, ends_ok.mpr ⟨rfl, sameCore, left⟩⟩
        · cases reads

omit [DecidableEq V] in
/-- The end of a replay: the core reached, with nothing left to read. -/
theorem replayEnd_script {steps : Nat} {core : Core V} :
    (∃ final, replayEnd steps s = .ok () final ∧ final.core = core) ↔
      s.core = core ∧ s.replay.script = [] ∧ s.core.pendingInboxMessages = 0 := by
  unfold replayEnd
  cases script : s.replay.script with
  | nil =>
      rw [bind_of_ok (nextEvent_none script)]
      dsimp only
      rw [get_bind]
      by_cases empty : s.core.pendingInboxMessages = 0
      · have idle : ¬s.core.pendingInboxMessages > 0 := by omega
        rw [if_neg idle, pure_apply]
        simp [empty]
      · have busy : s.core.pendingInboxMessages > 0 := by omega
        rw [if_pos busy, throw_apply]
        simp [empty]
  | cons kind later =>
      obtain ⟨ev, m, read, _⟩ := nextEvent_some script
      rw [bind_of_ok read]
      simp

theorem replayLoop_script {steps step count : Nat} {core : Core V} :
    (∃ final, (replayLoop host site step count >>= fun finished =>
        if finished then pure () else replayEnd steps) s = .ok () final ∧ final.core = core) ↔
      replayScript host site step count s.core s.replay.script = some core := by
  induction count generalizing step s with
  | zero =>
      unfold replayLoop replayScript
      rw [pure_bind_apply]
      apply replayEnd_script.trans
      by_cases done : s.replay.script = [] ∧ s.core.pendingInboxMessages = 0
      · rw [if_pos done]
        simp [done]
      · rw [if_neg done]
        simp only [reduceCtorEq, iff_false]
        exact fun ends => done ends.2
  | succ count ih =>
      unfold replayLoop replayScript
      constructor
      · rintro ⟨final, ran, rfl⟩
        obtain ⟨finished, n, loop, ending⟩ := bind_ok.mp ran
        obtain ⟨stop, m, here, later⟩ := bind_ok.mp loop
        rw [replayStep_script.mp ⟨m, here, rfl, rfl⟩]
        cases stop with
        | true =>
            cases later
            cases ending
            rfl
        | false => exact ih.mp ⟨final, bind_ok.mpr ⟨finished, n, later, ending⟩, rfl⟩
      · intro reads
        split at reads
        · cases reads
        · rename_i reached left round
          cases reads
          obtain ⟨m, here, rfl, rfl⟩ := replayStep_script.mpr round
          exact ⟨m, bind_ok.mpr ⟨true, m, bind_ok.mpr ⟨true, m, here, rfl⟩, rfl⟩, rfl⟩
        · rename_i reached left round
          obtain ⟨m, here, rfl, rfl⟩ := replayStep_script.mpr round
          obtain ⟨final, ran, same⟩ := ih.mpr reads
          obtain ⟨finished, n, loop, ending⟩ := bind_ok.mp ran
          exact ⟨final, bind_ok.mpr ⟨finished, n, bind_ok.mpr ⟨false, m, here, loop⟩, ending⟩, same⟩

end Delivering

/-! ## The whole run -/

section Whole

variable {V : Type} {host : Host V}

theorem bootstrapAll_replay {site : Site} {entryActor : ActorId} {indices : List Nat}
    {emitted kinds : List (EventKind V)} {core : Core V} {s : MainState V}
    (booted : bootAll host site entryActor indices s.core = .ok (kinds, core)) :
    indices.foldlM (bootstrapOne host site .replay entryActor) emitted s =
      .ok (emitted ++ kinds) (s.setCore core) := by
  induction indices generalizing emitted kinds s with
  | nil =>
      cases booted
      rw [List.append_nil, MainState.setCore_self]
      rfl
  | cons index rest ih =>
      simp only [bootAll] at booted
      split at booted
      · cases booted
      · rename_i actor found
        obtain ⟨⟨others, final⟩, later, booted⟩ := ExceptRun.bind_ok.mp booted
        cases booted
        let msgId := (s.core.allocate site.nodeId).1
        let payload := encodeMsg host (bootstrapMessage host site index msgId)
        let event : EventKind V := .send (systemActorId host) entryActor msgId payload
        let next := (((s.core.allocate site.nodeId).2.enqueue entryActor actor msgId
          payload).produce msgId payload none none)
        have here : bootstrapOne host site .replay entryActor emitted index s =
            .ok (emitted ++ [event]) (s.setCore next) := by
          unfold bootstrapOne
          rw [get_bind]
          dsimp only
          rw [found]
          rfl
        rw [List.foldlM_cons, bind_of_ok here, @ih (emitted ++ [event]) others (s.setCore next) later,
          List.append_assoc]
        rfl

theorem recordInAll_replay (kinds : List (EventKind V)) (s : MainState V) :
    kinds.forM (recordIn .replay) s = .ok () s := by
  induction kinds with
  | nil => rfl
  | cons kind rest ih => exact ih

variable [DecidableEq V] {program : Program} {cfg : Config}

theorem startup_script {launched : Launch V} (ready : Launched host program cfg launched)
    {s : MainState V} {core : Core V} {rest : List (EventKind V)} :
    Ends (startup host launched.site .replay cfg launched.entryService s) () core rest ↔
      ∃ entryActor boots,
        launched.site.serviceToActor.lookup launched.entryService = some entryActor ∧
        bootAll host launched.site entryActor (List.range (bootstrapCount cfg)) s.core =
          .ok (boots, core) ∧
        matchScript (spawnList host cfg.nodeId program.services ++ boots) s.replay.script =
          some rest := by
  unfold startup
  have spawned : (ofExcept (spawnEvents host launched.site) : MainM V (List (EventKind V))) s =
      .ok (spawnList host cfg.nodeId program.services) s := by
    unfold ofExcept
    rw [spawnEvents_eq ready]
  rw [bind_of_ok spawned, bind_of_ok (recordInAll_replay _ s), ends_bind]
  constructor
  · rintro ⟨boots, m, bootstraps, ends⟩
    obtain ⟨entryActor, booted, mapped, boot, rfl⟩ := enqueueBootstrap_ok bootstraps
    obtain ⟨sameCore, reads⟩ := verifyReplayEmits_script.mp ends
    cases sameCore
    exact ⟨entryActor, boots, mapped, boot, reads⟩
  · rintro ⟨entryActor, boots, mapped, boot, reads⟩
    refine ⟨boots, s.setCore core, ?_, verifyReplayEmits_script.mpr ⟨rfl, reads⟩⟩
    unfold enqueueBootstrap
    rw [mapped]
    exact bootstrapAll_replay boot

/-- Replay mode succeeds exactly when the reader does, and in the same core. -/
theorem replay_script {trace : List (TraceEvent V)} {core : Core V} :
    (∃ st, replay host program cfg trace = .ok () st ∧ st.core = core) ↔
      ∃ launched entryActor boots booted rest, launch host program cfg = .ok launched ∧
        launched.site.serviceToActor.lookup launched.entryService = some entryActor ∧
        bootAll host launched.site entryActor (List.range (bootstrapCount cfg))
          (.initial launched.actors) = .ok (boots, booted) ∧
        matchScript (spawnList host cfg.nodeId program.services ++ boots)
          (trace.map TraceEvent.kind) = some rest ∧
        replayScript host launched.site 0 cfg.steps booted rest = some core := by
  unfold replay
  cases starts : launch host program cfg with
  | error error => simp
  | ok launched =>
      have ready := launch_launched starts
      let start : MainState V := .initial .replay cfg launched.actors trace
      have script : start.replay.script = trace.map TraceEvent.kind := rfl
      constructor
      · rintro ⟨st, ran, rfl⟩
        obtain ⟨⟨⟩, m, starting, looping⟩ := bind_ok.mp ran
        obtain ⟨entryActor, boots, mapped, boot, reads⟩ :=
          (startup_script ready).mp ⟨m, starting, rfl, rfl⟩
        exact ⟨launched, entryActor, boots, m.core, m.replay.script, rfl, mapped, boot, reads,
          replayLoop_script.mp ⟨st, looping, rfl⟩⟩
      · rintro ⟨other, entryActor, boots, booted, rest, same, mapped, boot, reads, loops⟩
        cases same
        obtain ⟨m, starting, rfl, rfl⟩ :=
          (startup_script (s := start) ready).mpr ⟨entryActor, boots, mapped, boot, reads⟩
        obtain ⟨st, looping, sameCore⟩ := replayLoop_script.mpr loops
        exact ⟨st, bind_ok.mpr ⟨(), m, starting, looping⟩, sameCore⟩

end Whole

end UcoStack.Runtime
