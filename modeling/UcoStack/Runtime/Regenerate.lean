import UcoStack.Runtime.Script
import UcoStack.Runtime.Trace

/-!
# What replay mode accepts

A node reacts to what it receives, delivers and fires; everything else in its
trace is an emission.  `regenerate` runs the node on the inputs of a trace alone.
Replay mode accepts a trace only when the emissions in it are those that the
inputs generate.
-/

namespace UcoStack.Runtime

open StateRun

section Reactions

variable {V : Type} (host : Host V) (site : Site)

/-- The events replay mode takes from the trace for the node. -/
def EventKind.isInput (nodeId : NodeId) : EventKind V → Bool
  | .netRecv node _ _ _ _ => node = nodeId
  | .deliver node _ _ => node = nodeId
  | .timerFired node _ _ => node = nodeId
  | _ => false

def EventKind.isEmission : EventKind V → Bool
  | .spawn .. => true
  | .send .. => true
  | .netSend .. => true
  | .log .. => true
  | .effectObserved .. => true
  | _ => false

def inputs (nodeId : NodeId) (kinds : List (EventKind V)) : List (EventKind V) :=
  kinds.filter (EventKind.isInput nodeId)

def emissions (kinds : List (EventKind V)) : List (EventKind V) :=
  kinds.filter EventKind.isEmission

/-- What the node emits in answer to an input.  The number counts deliveries. -/
def react (state : Nat × Core V) : EventKind V → Option (List (EventKind V) × (Nat × Core V))
  | .netRecv _ _ receiver msgId payload =>
      some ([], (state.1, state.2.receive receiver msgId payload))
  | .deliver _ receiver msgId =>
      match handleDelivery host site state.1 receiver state.2 with
      | .error _ => none
      | .ok handled =>
          if handled.msgId = msgId then some (handled.events, (state.1 + 1, handled.core)) else none
  | .timerFired _ fromActor timerId =>
      match replayTimer site fromActor timerId state.2 with
      | none => none
      | some (event, core) => some ([event], (state.1, core))
  | _ => some ([], state)

/-- Everything the node emits on a list of inputs, and the state it ends in. -/
def regenerate (state : Nat × Core V) :
    List (EventKind V) → Option (List (EventKind V) × (Nat × Core V))
  | [] => some ([], state)
  | input :: rest =>
      match react host site state input with
      | none => none
      | some (emitted, next) =>
          (regenerate next rest).map fun later => (emitted ++ later.1, later.2)

variable {host site}

theorem regenerate_cons {state next final : Nat × Core V} {input : EventKind V}
    {rest emitted later : List (EventKind V)}
    (reacts : react host site state input = some (emitted, next))
    (others : regenerate host site next rest = some (later, final)) :
    regenerate host site state (input :: rest) = some (emitted ++ later, final) := by
  rw [regenerate, reacts]
  dsimp only
  rw [others]
  rfl

theorem regenerate_append {state middle final : Nat × Core V}
    {left right first second : List (EventKind V)}
    (before : regenerate host site state left = some (first, middle))
    (after : regenerate host site middle right = some (second, final)) :
    regenerate host site state (left ++ right) = some (first ++ second, final) := by
  induction left generalizing state first with
  | nil =>
      cases before
      exact after
  | cons input rest ih =>
      rw [regenerate] at before
      split at before
      · cases before
      · rename_i emitted next reacts
        obtain ⟨⟨others, reached⟩, later, same⟩ := Option.map_eq_some_iff.mp before
        cases same
        rw [List.cons_append, List.append_assoc]
        exact regenerate_cons reacts (ih later)

@[simp] theorem inputs_append (nodeId : NodeId) (left right : List (EventKind V)) :
    inputs nodeId (left ++ right) = inputs nodeId left ++ inputs nodeId right :=
  List.filter_append _ _

@[simp] theorem emissions_append (left right : List (EventKind V)) :
    emissions (left ++ right) = emissions left ++ emissions right :=
  List.filter_append _ _

theorem inputs_cons_own {nodeId : NodeId} {kind : EventKind V}
    (own : kind.isInput nodeId = true) (rest : List (EventKind V)) :
    inputs nodeId (kind :: rest) = kind :: inputs nodeId rest :=
  List.filter_cons_of_pos own

theorem inputs_cons_other {nodeId : NodeId} {kind : EventKind V}
    (other : kind.isInput nodeId = false) (rest : List (EventKind V)) :
    inputs nodeId (kind :: rest) = inputs nodeId rest :=
  List.filter_cons_of_neg (other ▸ Bool.false_ne_true)

theorem emissions_cons_silent {kind : EventKind V} (silent : kind.isEmission = false)
    (rest : List (EventKind V)) : emissions (kind :: rest) = emissions rest :=
  List.filter_cons_of_neg (silent ▸ Bool.false_ne_true)

/-- Events that are emissions and nothing else. -/
def AllEmissions (kinds : List (EventKind V)) : Prop := ∀ kind ∈ kinds, kind.isEmission = true

theorem AllEmissions.emissions {kinds : List (EventKind V)} (all : AllEmissions kinds) :
    emissions kinds = kinds :=
  List.filter_eq_self.mpr all

theorem AllEmissions.inputs {kinds : List (EventKind V)} (all : AllEmissions kinds)
    (nodeId : NodeId) : inputs nodeId kinds = [] := by
  refine List.filter_eq_nil_iff.mpr fun kind member => ?_
  have isEmission := all kind member
  cases kind <;> first | exact Bool.false_ne_true | cases isEmission

theorem AllEmissions.append {left right : List (EventKind V)} (first : AllEmissions left)
    (second : AllEmissions right) : AllEmissions (left ++ right) :=
  fun kind member => (List.mem_append.mp member).elim (first kind) (second kind)

theorem regenerate_split {state final : Nat × Core V} {left right generated : List (EventKind V)}
    (whole : regenerate host site state (left ++ right) = some (generated, final)) :
    ∃ first middle second, regenerate host site state left = some (first, middle) ∧
      regenerate host site middle right = some (second, final) := by
  induction left generalizing state generated with
  | nil => exact ⟨[], state, generated, rfl, whole⟩
  | cons input rest ih =>
      rw [List.cons_append, regenerate] at whole
      split at whole
      · cases whole
      · rename_i emitted next reacts
        obtain ⟨⟨others, reached⟩, later, same⟩ := Option.map_eq_some_iff.mp whole
        cases same
        obtain ⟨first, middle, second, before, after⟩ := ih later
        exact ⟨emitted ++ first, middle, second, regenerate_cons reacts before, after⟩

/-- A delivery takes the first message of the inbox, and it is the one in the trace. -/
theorem regenerate_pops {state final : Nat × Core V} {node : NodeId} {receiver : ActorId}
    {msgId : MsgId} {rest generated : List (EventKind V)}
    (generates : regenerate host site state (.deliver node receiver msgId :: rest) =
      some (generated, final)) :
    ∃ actor payload others, state.2.actors.lookup receiver = some actor ∧
      actor.inbox = (msgId, payload) :: others := by
  rw [regenerate] at generates
  split at generates
  · cases generates
  · rename_i emitted next reacts
    unfold react at reacts
    dsimp only at reacts
    split at reacts
    · cases reacts
    · rename_i handled handles
      split at reacts
      · rename_i same
        obtain ⟨delivery⟩ := (handleDelivery_ok host site).mp handles
        exact ⟨delivery.actor, delivery.payload, delivery.rest, delivery.found,
          same ▸ delivery.inbox⟩
      · cases reacts

/-! ### What the node emits -/

theorem routeOutgoing_emission {fromActor : ActorId} {target : Target} {payload : V}
    {cause : MsgId × V} {core : Core V} {dispatched : Dispatched V}
    (routed : routeOutgoing site fromActor target payload cause core = .ok dispatched) :
    dispatched.event.isEmission = true := by
  rcases (routeOutgoing_ok site).mp routed with ⟨_, _, _, _, _, _, rfl⟩ | ⟨_, _, _, _, _, rfl⟩
  · rfl
  · rfl

theorem sendAll_emissions {step : Nat} {actorId : ActorId} {cause : MsgId × V}
    {outbox : List (Outgoing V)} {core final : Core V} {kinds : List (EventKind V)}
    (sending : sendAll site step actorId cause outbox core = .ok (kinds, final)) :
    AllEmissions kinds := by
  induction outbox generalizing core kinds with
  | nil =>
      cases sending
      exact fun _ member => absurd member List.not_mem_nil
  | cons item rest ih =>
      rw [sendAll] at sending
      split at sending
      · exact ih sending
      · obtain ⟨dispatched, routed, sending⟩ := ExceptRun.bind_ok.mp sending
        obtain ⟨⟨later, last⟩, remaining, sending⟩ := ExceptRun.bind_ok.mp sending
        cases sending
        intro kind member
        rcases List.mem_cons.mp member with rfl | other
        · exact routeOutgoing_emission routed
        · exact ih remaining kind other

theorem handled_emissions {step : Nat} {receiver : ActorId} {core : Core V}
    {handled : Handled V}
    (handles : handleDelivery host site step receiver core = .ok handled) :
    AllEmissions handled.events := by
  obtain ⟨delivery⟩ := (handleDelivery_ok host site).mp handles
  rw [delivery.events]
  intro kind member
  rcases List.mem_cons.mp member with rfl | later
  · rfl
  · rcases List.mem_append.mp later with log | sent
    · obtain ⟨_, _, rfl⟩ := List.mem_map.mp log
      rfl
    · exact sendAll_emissions delivery.emitted kind sent

theorem spawnList_emissions (nodeId : NodeId) (services : List String) :
    AllEmissions (spawnList host nodeId services) := by
  intro kind member
  rcases List.mem_cons.mp member with rfl | spawned
  · rfl
  · obtain ⟨_, _, rfl⟩ := List.mem_map.mp spawned
    rfl

theorem bootAll_emissions {entryActor : ActorId} {indices : List Nat} {core final : Core V}
    {events : List (EventKind V)}
    (booted : bootAll host site entryActor indices core = .ok (events, final)) :
    AllEmissions events := by
  induction indices generalizing core events with
  | nil =>
      cases booted
      exact fun _ member => absurd member List.not_mem_nil
  | cons index rest ih =>
      simp only [bootAll] at booted
      split at booted
      · cases booted
      · obtain ⟨⟨others, last⟩, later, booted⟩ := ExceptRun.bind_ok.mp booted
        cases booted
        intro kind member
        rcases List.mem_cons.mp member with rfl | other
        · rfl
        · exact ih later kind other

end Reactions

/-! ## Accepted traces -/

section Acceptance

variable {V : Type} [DecidableEq V] {host : Host V} {site : Site}

/-- The event of the delivery a quiet phase stops at. -/
def stoppedAt (chosen : Option PendingDelivery) : List (EventKind V) :=
  (chosen.map PendingDelivery.event).toList

omit [DecidableEq V] in
theorem replayTimer_emission {fromActor : ActorId} {timerId : Uuid} {core next : Core V}
    {event : EventKind V} (fires : replayTimer site fromActor timerId core = some (event, next)) :
    event.isEmission = true := by
  unfold replayTimer at fires
  dsimp only at fires
  split at fires
  · cases fires
  · split at fires
    · cases fires
    · rename_i dispatched routed
      cases fires
      exact routeOutgoing_emission routed

/-- What is read up to a delivery: inputs of the node and the emissions they cause.
An emission that a timer still owes comes first. -/
theorem quietScript_regenerates {step : Nat} {owed : Option (EventKind V)} {core final : Core V}
    {script rest : List (EventKind V)} {chosen : Option PendingDelivery}
    (quiet : quietScript site owed core script = some (chosen, final, rest)) :
    ∃ read, script = owed.toList ++ read ++ stoppedAt chosen ++ rest ∧
      (∀ delivery, chosen = some delivery → delivery.node = site.nodeId) ∧
      (chosen = none → rest = []) ∧
      regenerate host site (step, core) (inputs site.nodeId read) =
        some (emissions read, (step, final)) := by
  induction script generalizing owed core with
  | nil =>
      cases owed with
      | none =>
          cases quiet
          exact ⟨[], rfl, nofun, fun _ => rfl, rfl⟩
      | some expected => cases quiet
  | cons kind later ih =>
      cases owed with
      | some expected =>
          rw [quietScript] at quiet
          split at quiet
          · rename_i same
            subst same
            obtain ⟨read, split, own, ends, generated⟩ := ih quiet
            refine ⟨read, ?_, own, ends, generated⟩
            rw [split]
            rfl
          · cases quiet
      | none =>
          have skip (foreign : kind.isInput site.nodeId = false) (silent : kind.isEmission = false)
              (reads : quietScript site none core later = some (chosen, final, rest)) :
              ∃ read, kind :: later = read ++ stoppedAt chosen ++ rest ∧
                (∀ delivery, chosen = some delivery → delivery.node = site.nodeId) ∧
                (chosen = none → rest = []) ∧
                regenerate host site (step, core) (inputs site.nodeId read) =
                  some (emissions read, (step, final)) := by
            obtain ⟨read, split, own, ends, generated⟩ := ih reads
            refine ⟨kind :: read, ?_, own, ends, ?_⟩
            · rw [split]
              rfl
            · rw [inputs_cons_other foreign, emissions_cons_silent silent]
              exact generated
          have foreignInput {node : NodeId} (foreign : node ≠ site.nodeId) :
              decide (node = site.nodeId) = false := decide_eq_false foreign
          cases kind with
          | netRecv node fromNode receiver msgId payload =>
              rw [quietScript] at quiet
              by_cases own : node = site.nodeId
              · rw [if_pos own] at quiet
                obtain ⟨read, split, isOwn, ends, generated⟩ := ih quiet
                refine ⟨.netRecv node fromNode receiver msgId payload :: read, ?_, isOwn, ends, ?_⟩
                · rw [split]
                  rfl
                · have isOwn : EventKind.isInput site.nodeId
                      (.netRecv node fromNode receiver msgId payload) = true := decide_eq_true own
                  rw [inputs_cons_own isOwn, emissions_cons_silent rfl]
                  have reacts : react host site (step, core)
                      (.netRecv node fromNode receiver msgId payload) =
                      some ([], (step, core.receive receiver msgId payload)) := rfl
                  exact regenerate_cons reacts generated
              · rw [if_neg own] at quiet
                exact skip (foreignInput own) rfl quiet
          | deliver node receiver msgId =>
              rw [quietScript] at quiet
              by_cases own : node = site.nodeId
              · rw [if_pos own] at quiet
                cases quiet
                refine ⟨[], rfl, ?_, fun goesOn => ?_, rfl⟩
                · rintro _ ⟨⟩
                  exact own
                · cases goesOn
              · rw [if_neg own] at quiet
                exact skip (foreignInput own) rfl quiet
          | timerFired node fromActor timerId =>
              rw [quietScript] at quiet
              by_cases own : node = site.nodeId
              · rw [if_pos own] at quiet
                split at quiet
                · rename_i expected next fires
                  obtain ⟨read, split, isOwn, ends, generated⟩ := ih quiet
                  refine ⟨.timerFired node fromActor timerId :: expected :: read, ?_, isOwn, ends, ?_⟩
                  · rw [split]
                    rfl
                  · have one : AllEmissions [expected] := fun other member => by
                      rw [List.mem_singleton.mp member]
                      exact replayTimer_emission fires
                    have reacts : react host site (step, core) (.timerFired node fromActor timerId) =
                        some ([expected], (step, next)) := by
                      change (match replayTimer site fromActor timerId core with
                        | none => none
                        | some (event, core) => some ([event], (step, core))) = _
                      rw [fires]
                    have isOwn : EventKind.isInput site.nodeId
                        (.timerFired node fromActor timerId : EventKind V) = true := decide_eq_true own
                    have pair : expected :: read = [expected] ++ read := rfl
                    rw [inputs_cons_own isOwn, emissions_cons_silent rfl, pair,
                      inputs_append, emissions_append, one.inputs, one.emissions]
                    exact regenerate_cons reacts generated
                · cases quiet
              · rw [if_neg own] at quiet
                exact skip (foreignInput own) rfl quiet
          | faultInjected node fromNode receiver msgId action =>
              rw [quietScript] at quiet
              exact skip rfl rfl quiet
          | faultPolicy node at' dropEvery delaySteps reorderWindow =>
              rw [quietScript] at quiet
              exact skip rfl rfl quiet
          | spawn node actor service => cases quiet
          | send sender receiver msgId payload => cases quiet
          | netSend node toNode sender msgId payload => cases quiet
          | log node sender service text => cases quiet
          | effectObserved node actor service msgType msgId declared observed => cases quiet

/-- The run lemma: what the loop reads are the inputs of the node and exactly the
emissions they cause, and it ends with empty inboxes. -/
theorem replayScript_regenerates {step count : Nat} {core final : Core V}
    {script : List (EventKind V)}
    (reads : replayScript host site step count core script = some final) :
    (∃ steps, regenerate host site (step, core) (inputs site.nodeId script) =
      some (emissions script, (steps, final))) ∧ final.pendingInboxMessages = 0 := by
  induction count generalizing step core script with
  | zero =>
      rw [replayScript] at reads
      split at reads
      · rename_i done
        obtain ⟨rfl, empty⟩ := done
        cases reads
        exact ⟨⟨step, rfl⟩, empty⟩
      · cases reads
  | succ count ih =>
      rw [replayScript] at reads
      split at reads
      · cases reads
      · rename_i reached left round
        cases reads
        unfold roundScript at round
        split at round
        · cases round
        · rename_i next rest quiet
          split at round
          · rename_i empty
            cases round
            obtain ⟨read, split, _, ends, generated⟩ := quietScript_regenerates quiet
            rw [ends rfl] at split
            have whole : script = read := by simpa [stoppedAt] using split
            exact ⟨⟨step, whole ▸ generated⟩, empty⟩
          · cases round
        · split at round
          · cases round
          · split at round
            · obtain ⟨_, _, same⟩ := Option.map_eq_some_iff.mp round
              cases same
            · cases round
      · rename_i reached left round
        unfold roundScript at round
        split at round
        · cases round
        · split at round
          · cases round
          · cases round
        · rename_i chosen next rest quiet
          split at round
          · cases round
          · rename_i handled handles
            split at round
            · rename_i same
              obtain ⟨later, matched, result⟩ := Option.map_eq_some_iff.mp round
              cases result
              obtain ⟨split, _⟩ := matchScript_eq.mp matched
              obtain ⟨read, whole, own, _, generated⟩ := quietScript_regenerates quiet
              obtain ⟨⟨steps, others⟩, empty⟩ := ih reads
              refine ⟨⟨steps, ?_⟩, empty⟩
              have emitted := handled_emissions handles
              have delivered : react host site (step, next) chosen.event =
                  some (handled.events, (step + 1, handled.core)) := by
                unfold react PendingDelivery.event
                dsimp only
                rw [handles]
                dsimp only
                rw [if_pos same]
              have ownEvent : inputs site.nodeId [(chosen.event : EventKind V)] = [chosen.event] :=
                List.filter_cons_of_pos (decide_eq_true (own chosen rfl))
              have noEmission : emissions [(chosen.event : EventKind V)] = [] := rfl
              have parts : script = read ++ ([chosen.event] ++ (handled.events ++ left)) := by
                rw [whole, split]
                simp [stoppedAt]
              rw [parts, inputs_append, inputs_append, inputs_append, ownEvent, emitted.inputs,
                List.nil_append, emissions_append, emissions_append, emissions_append, noEmission,
                List.nil_append, emitted.emissions]
              exact regenerate_append generated (regenerate_cons delivered others)
            · cases round

/-! ### Whole traces -/

/-- A replayed execution: its startup, and what the inputs of the trace generate. -/
structure Replayed (host : Host V) (program : Program) (cfg : Config)
    (kinds : List (EventKind V)) (final : Core V) where
  launched : Launch V
  entryActor : ActorId
  boots : List (EventKind V)
  booted : Core V
  generated : List (EventKind V)
  steps : Nat
  launches : launch host program cfg = .ok launched
  entry : launched.site.serviceToActor.lookup launched.entryService = some entryActor
  boot : bootAll host launched.site entryActor (List.range (bootstrapCount cfg))
    (.initial launched.actors) = .ok (boots, booted)
  generates : regenerate host launched.site (0, booted) (inputs cfg.nodeId kinds) =
    some (generated, (steps, final))
  emitted : emissions kinds = spawnList host cfg.nodeId program.services ++ boots ++ generated
  empty : ∀ id actor, final.actors.lookup id = some actor → actor.inbox = []

omit [DecidableEq V] in
theorem pendingInboxMessages_eq_zero (core : Core V) : core.pendingInboxMessages = 0 ↔
    ∀ id actor, core.actors.lookup id = some actor → actor.inbox = [] := by
  unfold Core.pendingInboxMessages
  rw [HashMap.total_eq_zero_iff]
  simp only [List.length_eq_zero_iff]

theorem replay_replayed {program : Program} {cfg : Config} {trace : List (TraceEvent V)}
    {st : MainState V} (ran : replay host program cfg trace = .ok () st) :
    Nonempty (Replayed host program cfg (trace.map TraceEvent.kind) st.core) := by
  obtain ⟨launched, entryActor, boots, booted, rest, launches, entry, boot, matched, reads⟩ :=
    replay_script.mp ⟨st, ran, rfl⟩
  have ready := launch_launched launches
  obtain ⟨⟨steps, generates⟩, empty⟩ := replayScript_regenerates reads
  rw [ready.nodeId_eq] at generates
  obtain ⟨split, _⟩ := matchScript_eq.mp matched
  have started : AllEmissions (spawnList host cfg.nodeId program.services ++ boots) :=
    (spawnList_emissions cfg.nodeId program.services).append (bootAll_emissions boot)
  refine ⟨⟨launched, entryActor, boots, booted, emissions rest, steps, launches, entry, boot, ?_, ?_,
    (pendingInboxMessages_eq_zero st.core).mp empty⟩⟩
  · rw [split, inputs_append, started.inputs, List.nil_append]
    exact generates
  · rw [split, emissions_append, started.emissions]

omit [DecidableEq V] in
/-- Startup and reactions are functions of the program, the configuration and the
inputs. -/
theorem Replayed.emissions_eq {program : Program} {cfg : Config}
    {left right : List (EventKind V)} {first second : Core V}
    (one : Replayed host program cfg left first) (other : Replayed host program cfg right second)
    (same : inputs cfg.nodeId left = inputs cfg.nodeId right) :
    emissions left = emissions right := by
  have launched : one.launched = other.launched :=
    Except.ok.inj (one.launches.symm.trans other.launches)
  have entry : one.entryActor = other.entryActor := by
    have found := other.entry
    rw [← launched, one.entry] at found
    exact Option.some.inj found
  have boot := other.boot
  rw [← launched, ← entry, one.boot] at boot
  obtain ⟨boots, booted⟩ := Prod.mk.inj (Except.ok.inj boot)
  have generates := other.generates
  rw [← launched, ← booted, ← same, one.generates] at generates
  rw [one.emitted, other.emitted, boots, (Prod.mk.inj (Option.some.inj generates)).1]

/-- Replay mode accepts a trace only if its emissions are those that its inputs
generate; every delivery takes the message the trace names, and none is left. -/
theorem replay_accepts_generated {program : Program} {cfg : Config}
    {trace : List (TraceEvent V)} {st : MainState V}
    (ran : replay host program cfg trace = .ok () st) :
    (∃ replayed : Replayed host program cfg (trace.map TraceEvent.kind) st.core,
      ∀ before node receiver msgId later,
        inputs cfg.nodeId (trace.map TraceEvent.kind) =
            before ++ .deliver node receiver msgId :: later →
          ∃ generated state actor payload rest,
            regenerate host replayed.launched.site (0, replayed.booted) before =
              some (generated, state) ∧
            state.2.actors.lookup receiver = some actor ∧
            actor.inbox = (msgId, payload) :: rest) ∧
      ∀ (other : List (TraceEvent V)) (st' : MainState V),
        replay host program cfg other = .ok () st' →
        inputs cfg.nodeId (other.map TraceEvent.kind) =
            inputs cfg.nodeId (trace.map TraceEvent.kind) →
          emissions (other.map TraceEvent.kind) = emissions (trace.map TraceEvent.kind) := by
  obtain ⟨replayed⟩ := replay_replayed ran
  constructor
  · refine ⟨replayed, fun before node receiver msgId later split => ?_⟩
    have generates := replayed.generates
    rw [split] at generates
    obtain ⟨first, middle, second, reached, rest⟩ := regenerate_split generates
    obtain ⟨actor, payload, others, found, inbox⟩ := regenerate_pops rest
    exact ⟨first, middle, actor, payload, others, reached, found, inbox⟩
  · intro other st' ranOther same
    obtain ⟨replayedOther⟩ := replay_replayed ranOther
    exact replayedOther.emissions_eq replayed same

theorem replay_accepts_generated_sample :
    ∃ st, replay jsonHost sampleProgram (sampleConfig 8) sampleRecorded = .ok () st ∧
      ∀ (other : List (TraceEvent JsonDoc)) (st' : MainState JsonDoc),
        replay jsonHost sampleProgram (sampleConfig 8) other = .ok () st' →
        inputs 7 (other.map TraceEvent.kind) = inputs 7 (sampleRecorded.map TraceEvent.kind) →
          emissions (other.map TraceEvent.kind) =
            emissions (sampleRecorded.map TraceEvent.kind) := by
  have replays : ∃ a st,
      replay jsonHost sampleProgram (sampleConfig 8) sampleRecorded = .ok a st :=
    exists_ok (by decide +kernel)
  obtain ⟨⟨⟩, st, ran⟩ := replays
  exact ⟨st, ran, (replay_accepts_generated ran).2⟩

end Acceptance

end UcoStack.Runtime
