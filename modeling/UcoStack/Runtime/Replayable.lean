import UcoStack.Runtime.Pacing

/-!
# Runs behind accepted traces

The converse of `record_replay`.  A trace that replay mode accepts was written by
the node, step by step, as `Rounds` describes a recording; but the order of the
deliveries, the moments at which timers fire and the fault evidence are those of
the trace, and no scheduler need have chosen them.
-/

namespace UcoStack.Runtime

open StateRun

section Rebuilding

variable {V : Type} {host : Host V} {site : Site}

/-- The event is one of this node; sends carry no node. -/
def EventKind.At (nodeId : NodeId) : EventKind V → Prop
  | .spawn node _ _ => node = nodeId
  | .send .. => True
  | .deliver node _ _ => node = nodeId
  | .timerFired node _ _ => node = nodeId
  | .netRecv node _ _ _ _ => node = nodeId
  | .netSend node _ _ _ _ => node = nodeId
  | .log node _ _ _ => node = nodeId
  | .effectObserved node _ _ _ _ _ _ => node = nodeId
  | .faultInjected node _ _ _ _ => node = nodeId
  | .faultPolicy node _ _ _ _ => node = nodeId

/-- A replayed timer is one of the pending timers, taken out and dispatched. -/
theorem replayTimer_fires {fromActor : ActorId} {timerId : Uuid} {core next : Core V}
    {event : EventKind V} (fires : replayTimer site fromActor timerId core = some (event, next)) :
    QuietStep site (Addressed site.nodeId) core
      [.timerFired site.nodeId fromActor timerId, event] next := by
  unfold replayTimer at fires
  dsimp only at fires
  split at fires
  · cases fires
  · rename_i timer found
    split at fires
    · cases fires
    · rename_i dispatched routed
      cases fires
      have wanted := List.find?_some found
      simp only [Bool.and_eq_true, decide_eq_true_eq] at wanted
      have place := List.find?_eq_getElem?_findIdx.symm.trans found
      have step : QuietStep site (Addressed site.nodeId) core
          [timer.firedEvent site, dispatched.event] dispatched.core :=
        .fire timer _ dispatched (swapRemove_perm place).symm routed
      unfold PendingTimer.firedEvent at step
      rwa [wanted.1, wanted.2] at step

variable [DecidableEq V]

/-- What is read up to a delivery is a run of quiet steps.  An emission that a timer
still owes comes first. -/
theorem quietScript_run {owed : Option (EventKind V)} {core final : Core V}
    {script rest : List (EventKind V)} {chosen : Option PendingDelivery}
    (own : ∀ kind ∈ script, kind.At site.nodeId)
    (quiet : quietScript site owed core script = some (chosen, final, rest)) :
    ∃ read, script = owed.toList ++ read ++ stoppedAt chosen ++ rest ∧
      (∀ delivery, chosen = some delivery → delivery.node = site.nodeId) ∧
      (chosen = none → rest = []) ∧
      Run (QuietStep site (Addressed site.nodeId)) core read final := by
  induction script generalizing owed core with
  | nil =>
      cases owed with
      | none =>
          cases quiet
          exact ⟨[], rfl, nofun, fun _ => rfl, .refl _⟩
      | some expected => cases quiet
  | cons kind later ih =>
      obtain ⟨here, others⟩ := List.forall_mem_cons.mp own
      cases owed with
      | some expected =>
          rw [quietScript] at quiet
          split at quiet
          · rename_i same
            subst same
            obtain ⟨read, split, isOwn, ends, run⟩ := ih others quiet
            refine ⟨read, ?_, isOwn, ends, run⟩
            rw [split]
            rfl
          · cases quiet
      | none =>
          have fault (isFault : kind.IsFault site.nodeId)
              (reads : quietScript site none core later = some (chosen, final, rest)) :
              ∃ read, kind :: later = read ++ stoppedAt chosen ++ rest ∧
                (∀ delivery, chosen = some delivery → delivery.node = site.nodeId) ∧
                (chosen = none → rest = []) ∧
                Run (QuietStep site (Addressed site.nodeId)) core read final := by
            obtain ⟨read, split, isOwn, ends, run⟩ := ih others reads
            refine ⟨kind :: read, ?_, isOwn, ends, .head (.fault kind isFault) run⟩
            rw [split]
            rfl
          cases kind with
          | netRecv node fromNode receiver msgId payload =>
              change node = site.nodeId at here
              rw [quietScript, if_pos here] at quiet
              obtain ⟨read, split, isOwn, ends, run⟩ := ih others quiet
              have arrives : QuietStep site (Addressed site.nodeId) core
                  [.netRecv node fromNode receiver msgId payload]
                  (core.receive receiver msgId payload) :=
                .receive ⟨fromNode, node, receiver, msgId, payload⟩ here
              refine ⟨.netRecv node fromNode receiver msgId payload :: read, ?_, isOwn, ends,
                .head arrives run⟩
              rw [split]
              rfl
          | deliver node receiver msgId =>
              change node = site.nodeId at here
              rw [quietScript, if_pos here] at quiet
              cases quiet
              refine ⟨[], rfl, ?_, fun goesOn => ?_, .refl _⟩
              · rintro _ ⟨⟩
                exact here
              · cases goesOn
          | timerFired node fromActor timerId =>
              change node = site.nodeId at here
              rw [quietScript, if_pos here] at quiet
              split at quiet
              · rename_i expected next fires
                obtain ⟨read, split, isOwn, ends, run⟩ := ih others quiet
                have fired := replayTimer_fires fires
                refine ⟨.timerFired site.nodeId fromActor timerId :: expected :: read, ?_, isOwn,
                  ends, .head fired run⟩
                rw [split, here]
                rfl
              · cases quiet
          | faultInjected node fromNode receiver msgId action =>
              rw [quietScript] at quiet
              exact fault here quiet
          | faultPolicy node at' dropEvery delaySteps reorderWindow =>
              rw [quietScript] at quiet
              exact fault here quiet
          | spawn node actor service => cases quiet
          | send sender receiver msgId payload => cases quiet
          | netSend node toNode sender msgId payload => cases quiet
          | log node sender service text => cases quiet
          | effectObserved node actor service msgType msgId declared observed => cases quiet

/-- The converse simulation: an accepted list of events is what rounds of the node
write. -/
theorem replayScript_rounds {step count : Nat} {core final : Core V} {script : List (EventKind V)}
    (own : ∀ kind ∈ script, kind.At site.nodeId)
    (reads : replayScript host site step count core script = some final) :
    (∃ rounds ≤ count, Rounds host site (Addressed site.nodeId) rounds core script final) ∧
      final.pendingInboxMessages = 0 := by
  induction count generalizing step core script with
  | zero =>
      rw [replayScript] at reads
      split at reads
      · rename_i done
        obtain ⟨rfl, empty⟩ := done
        cases reads
        exact ⟨⟨0, Nat.le_refl 0, .done _⟩, empty⟩
      · cases reads
  | succ count ih =>
      rw [replayScript] at reads
      cases round : roundScript host site step core script with
      | none =>
          rw [round] at reads
          cases reads
      | some outcome =>
          obtain ⟨finished, reached, left⟩ := outcome
          rw [round] at reads
          unfold roundScript at round
          cases quiet : quietScript site none core script with
          | none =>
              rw [quiet] at round
              cases round
          | some stop =>
              obtain ⟨chosen, next, rest⟩ := stop
              rw [quiet] at round
              obtain ⟨read, split, isOwn, ends, run⟩ := quietScript_run own quiet
              cases chosen with
              | none =>
                  dsimp only at round
                  split at round
                  · rename_i empty
                    cases round
                    cases reads
                    have whole : script = read ++ [] := by
                      rw [split, ends rfl]
                      simp [stoppedAt]
                    rw [whole]
                    exact ⟨⟨1, by omega, .idle run (.done _)⟩, empty⟩
                  · cases round
              | some chosen =>
                  dsimp only at round
                  cases handling : handleDelivery host site step chosen.receiver next with
                  | error error =>
                      rw [handling] at round
                      cases round
                  | ok handled =>
                      rw [handling] at round
                      dsimp only at round
                      split at round
                      · rename_i same
                        obtain ⟨later, matched, result⟩ := Option.map_eq_some_iff.mp round
                        cases result
                        obtain ⟨emitted, _⟩ := matchScript_eq.mp matched
                        have event : (chosen.event : EventKind V) =
                            .deliver site.nodeId chosen.receiver handled.msgId := by
                          rw [PendingDelivery.event, isOwn chosen rfl, same]
                        have whole : script = read ++
                            (.deliver site.nodeId chosen.receiver handled.msgId ::
                              handled.events) ++ left := by
                          rw [split, emitted, ← event]
                          simp [stoppedAt]
                        have ownLeft : ∀ kind ∈ left, kind.At site.nodeId := fun kind member =>
                          own kind (whole ▸ List.mem_append_right _ member)
                        obtain ⟨⟨rounds, bound, later⟩, empty⟩ := ih ownLeft reads
                        rw [whole]
                        exact ⟨⟨rounds + 1, by omega,
                          .busy run step chosen.receiver handled handling later⟩, empty⟩
                      · cases round

end Rebuilding

/-! ## Whole traces -/

section Whole

variable {V : Type} [DecidableEq V] {host : Host V} {program : Program} {cfg : Config}
  {trace : List (TraceEvent V)} {st : MainState V}

/-- A trace as a node writes it: numbered from 0, with the seed of the runtime, and
with events of this node alone. -/
structure OwnTrace (nodeId : NodeId) (trace : List (TraceEvent V)) : Prop where
  numbered : trace = stamp 0 (trace.map TraceEvent.kind)
  own : ∀ event ∈ trace, event.kind.At nodeId

/-- Replay mode accepts only traces that rounds of the node write: after the startup,
each round takes in arrivals and fault evidence, fires pending timers, and delivers
the first message of some inbox.  Which inbox, when a timer fires and what arrives is
up to the trace. -/
theorem replay_rounds (written : OwnTrace cfg.nodeId trace)
    (ran : replay host program cfg trace = .ok () st) :
    ∃ launched entryActor boots booted kinds count,
      launch host program cfg = .ok launched ∧
      launched.site.serviceToActor.lookup launched.entryService = some entryActor ∧
      bootAll host launched.site entryActor (List.range (bootstrapCount cfg))
        (.initial launched.actors) = .ok (boots, booted) ∧
      trace = stamp 0 (spawnList host cfg.nodeId program.services ++ boots ++ kinds) ∧
      count ≤ cfg.steps ∧
      Rounds host launched.site (Addressed cfg.nodeId) count booted kinds st.core ∧
      ∀ id actor, st.core.actors.lookup id = some actor → actor.inbox = [] := by
  obtain ⟨launched, entryActor, boots, booted, rest, launches, entry, boot, matched, reads⟩ :=
    replay_script.mp ⟨st, ran, rfl⟩
  have ready := launch_launched launches
  obtain ⟨split, _⟩ := matchScript_eq.mp matched
  have own : ∀ kind ∈ rest, kind.At launched.site.nodeId := by
    intro kind member
    have inTrace : kind ∈ trace.map TraceEvent.kind := split ▸ List.mem_append_right _ member
    obtain ⟨event, isEvent, rfl⟩ := List.mem_map.mp inTrace
    rw [ready.nodeId_eq]
    exact written.own event isEvent
  obtain ⟨⟨count, bound, rounds⟩, empty⟩ := replayScript_rounds own reads
  rw [ready.nodeId_eq] at rounds
  refine ⟨launched, entryActor, boots, booted, rest, count, launches, entry, boot, ?_, bound,
    rounds, (pendingInboxMessages_eq_zero st.core).mp empty⟩
  rw [← split]
  exact written.numbered

end Whole

/-! ## Accepted traces that nobody records -/

section Unrecorded

/-- Two services; a started gateway sends a message at once and one three steps later. -/
def relaySource : String :=
  "service Gateway\non start\neffects send_local timer_local\nsend local Echo ping \"p\"\n" ++
    "timer 3 local Gateway tick \"t\"\non tick\neffects log\nlog \"late\"\n" ++
    "service Echo\non ping\neffects log\nlog \"pong\"\n"

def relayProgram : Program :=
  { services := ["Gateway", "Echo"]
    serviceInitialState := AList.insert "Echo" ∅ (AList.insert "Gateway" ∅ ∅)
    handlers :=
      AList.insert ("Echo", "ping") { actions := [.log "pong"], declaredEffects := [.log] }
        (AList.insert ("Gateway", "tick") { actions := [.log "late"], declaredEffects := [.log] }
          (AList.insert ("Gateway", "start")
            { actions :=
                [.sendLocal "Echo" "ping" "p", .timerLocal 3 "Gateway" "tick" "t"]
              declaredEffects := [.sendLocal, .timerLocal] } ∅)) }

theorem relayProgram_loaded : loadProgram jsonHost relaySource = .ok relayProgram := by
  decide +kernel

/-- The gateway is started twice. -/
def relayConfig : Config :=
  { nodeId := 7
    peers := ∅
    bootstrapHello := true
    bootstrapBurst := 2
    steps := 6
    fault := .default }

def relayRecorded : List (EventKind JsonDoc) :=
  ((finalState (record jsonHost relayProgram relayConfig fun _ => [])).writer.getD []).map
    TraceEvent.kind

/-- Swap the blocks between the positions `first`, `second` and `third`. -/
def swapBlocks {α : Type} (xs : List α) (first second third : Nat) : List α :=
  xs.take first ++ (xs.take third).drop second ++ (xs.take second).drop first ++ xs.drop third

/-- The message to the other service overtakes the second start of the gateway. -/
def overtaking : List (EventKind JsonDoc) := swapBlocks relayRecorded 9 12 15

/-- The first timer fires one step early. -/
def hasty : List (EventKind JsonDoc) := swapBlocks relayRecorded 12 15 20

/-- No fault policy is in force. -/
def unpoliced : List (EventKind JsonDoc) := relayRecorded.eraseIdx 5

/-- An accepted trace that no recording of the program writes. -/
structure Unrecorded (kinds : List (EventKind JsonDoc)) : Prop where
  written : OwnTrace relayConfig.nodeId (stamp 0 kinds)
  accepted : ∃ st, replay jsonHost relayProgram relayConfig (stamp 0 kinds) = .ok () st
  unrecorded : ∀ (steps : Nat) (fault : FaultConfig) (inbound : Nat → List (WireEnvelope JsonDoc))
    (st : MainState JsonDoc),
    record jsonHost relayProgram { relayConfig with steps := steps, fault := fault } inbound =
        .ok () st → st.writer ≠ some (stamp 0 kinds)

instance {V : Type} (nodeId : NodeId) (kind : EventKind V) : Decidable (kind.At nodeId) := by
  unfold EventKind.At
  cases kind <;> infer_instance

theorem unrecorded_of_unpaced {kinds : List (EventKind JsonDoc)} (fuel : Nat)
    (own : ∀ kind ∈ kinds, kind.At relayConfig.nodeId)
    (accepted : succeeds (replay jsonHost relayProgram relayConfig (stamp 0 kinds)) = true)
    (unpaced : pacedTrace jsonHost relayProgram relayConfig fuel kinds = false) :
    Unrecorded kinds where
  written := by
    constructor
    · rw [stamp_kind]
    · intro event member
      have inKinds := List.mem_map_of_mem (f := TraceEvent.kind) member
      rw [stamp_kind] at inKinds
      exact own event.kind inKinds
  accepted := by
    obtain ⟨⟨⟩, st, ran⟩ := exists_ok accepted
    exact ⟨st, ran⟩
  unrecorded := by
    intro steps fault inbound st ran wrote
    have paced := record_paced ran wrote fuel
    rw [stamp_kind] at paced
    have same : pacedTrace jsonHost relayProgram
        { relayConfig with steps := steps, fault := fault } fuel kinds =
        pacedTrace jsonHost relayProgram relayConfig fuel kinds := rfl
    rw [same, unpaced] at paced
    cases paced

theorem overtaking_unrecorded : Unrecorded overtaking := by
  apply unrecorded_of_unpaced 2 <;> decide +kernel

theorem hasty_unrecorded : Unrecorded hasty := by
  apply unrecorded_of_unpaced 3 <;> decide +kernel

theorem unpoliced_unrecorded : Unrecorded unpoliced := by
  apply unrecorded_of_unpaced 0 <;> decide +kernel

/-- Replay mode accepts an order of deliveries that the scheduler does not choose, a
timer before its due step, and a trace without fault evidence. -/
theorem replay_accepts_unrecorded :
    loadProgram jsonHost relaySource = .ok relayProgram ∧
      Unrecorded overtaking ∧ Unrecorded hasty ∧ Unrecorded unpoliced :=
  ⟨relayProgram_loaded, overtaking_unrecorded, hasty_unrecorded, unpoliced_unrecorded⟩

theorem replay_rounds_sample :
    ∃ st launched entryActor boots booted kinds count,
      replay jsonHost relayProgram relayConfig (stamp 0 overtaking) = .ok () st ∧
      launch jsonHost relayProgram relayConfig = .ok launched ∧
      launched.site.serviceToActor.lookup launched.entryService = some entryActor ∧
      bootAll jsonHost launched.site entryActor (List.range 2) (.initial launched.actors) =
        .ok (boots, booted) ∧
      stamp 0 overtaking = stamp 0 (spawnList jsonHost 7 ["Gateway", "Echo"] ++ boots ++ kinds) ∧
      count ≤ 6 ∧ Rounds jsonHost launched.site (Addressed 7) count booted kinds st.core ∧
      ∀ id actor, st.core.actors.lookup id = some actor → actor.inbox = [] := by
  obtain ⟨written, ⟨st, ran⟩, _⟩ := overtaking_unrecorded
  obtain ⟨launched, entryActor, boots, booted, kinds, count, rest⟩ := replay_rounds written ran
  exact ⟨st, launched, entryActor, boots, booted, kinds, count, ran, rest⟩

end Unrecorded

end UcoStack.Runtime
