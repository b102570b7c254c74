import UcoStack.Runtime.JsonText
import UcoStack.System.LocalAcceptance
import UcoStack.Tool.Command

/-!
# The trace file of a node that was stopped

A node may be stopped at any moment, and its trace file then holds some part of what it
had written.  The events that can still be read of that file are in order; the tool
reports nothing but a last event that awaits the next one.
-/

namespace UcoStack.System

open UcoStack.Runtime UcoStack.Tool

/-! ## Parts of traces -/

section Parts

variable {V : Type} (tool : ToolHost V)

/-- The problem that the end of the events adds: what the last of them still awaits. -/
def dangling (events : List (TraceEvent V)) : List String :=
  match events.getLast? with
  | some ⟨seq, _, .timerFired _ _ timerId⟩ =>
      [s!"TimerFired at seq {seq} (timer_id=" ++
        s!"{tool.uuidToString timerId}) reached end-of-trace without Send/NetSend"]
  | some ⟨seq, _, .deliver _ _ _⟩ =>
      [s!"Deliver at seq {seq} reached end-of-trace without EffectObserved"]
  | _ => []

variable {tool}

theorem everyPosition_cut {α : Type} {Ok : List α → α → Prop} {part xs : List α}
    (every : EveryPosition Ok xs) (cut : part <+: xs) : EveryPosition Ok part := by
  obtain ⟨later, rfl⟩ := cut
  exact (EveryPosition.append.mp every).1

/-- Events in order have no problem but the one at their end. -/
theorem verifyTrace_dangling {events : List (TraceEvent V)}
    (headers : EveryPosition HeaderOk events)
    (inOrder : EveryPosition (KindOk tool) (kindsOf events)) :
    (verifyTrace tool events).problems = dangling tool events := by
  obtain ⟨verdict, represents⟩ := (verifyEvent_monitors tool).foldl_iff rfl (.initial tool) events
  have positions : EveryPosition (fun past ev => HeaderOk past ev ∧
      KindOk tool (kindsOf past) ev.kind) events :=
    EveryPosition.and.mpr ⟨headers, EveryPosition.map.mpr inOrder⟩
  have clean := verdict.mpr positions
  have rep := represents clean
  change (checkEnd tool (events.foldl (verifyEvent tool) .initial)).problems = _
  have timer := rep.timer
  have effect := rep.effect
  revert clean timer effect
  generalize events.foldl (verifyEvent tool) .initial = st
  obtain ⟨problems, seed, expectedSeq, spawned, produced, lineage, dropped, timer, effect⟩ := st
  rintro ⟨⟩ ⟨⟩ ⟨⟩
  rw [checkEnd, dangling]
  cases events.getLast? with
  | none => rfl
  | some last =>
      obtain ⟨seq, seed, kind⟩ := last
      cases kind with
      | timerFired node sender timerId => rfl
      | deliver node receiver msgId => rfl
      | _ => rfl

end Parts

/-! ## The trace of a running node -/

section Running

variable {ι V : Type} {tool : ToolHost V} {program : Program} {cfgs : ι → Config}
  {c : Cluster ι V} {i : ι} {launched : Launch V} {step : Nat} {st : MainState V}

theorem Cluster.core_of_running (running : c.process i = .running launched step st) :
    c.core i = st.core := by
  rw [Cluster.core, running]
  rfl

variable [DecidableEq ι] [DecidableEq V]

/-- What a running node has done so far is a recording of its own. -/
theorem Reachable.recordingSoFar {host : Host V} (reached : Reachable host program cfgs c)
    (running : c.process i = .running launched step st) :
    ∃ inbound, arrivals (cfgs i).nodeId inbound 0 step = c.arrived i ∧
      Nonempty (Recording host program { cfgs i with steps := step } inbound
        (· ∈ c.arrived i) st) := by
  have ok := reached.process_ok i
  rw [running] at ok
  obtain ⟨launches, _, ran⟩ := ok
  obtain ⟨inbound, arrived, recorded⟩ := ran.record launches
  refine ⟨inbound, arrived, record_ok ?_ recorded⟩
  rw [← arrived]
  exact fun _ member => member

variable [Fintype ι]

theorem Orderly.traceSoFar (orderly : Orderly tool.toHost program cfgs c)
    (accepted : Accepted tool.toHost program) (reached : Reachable tool.toHost program cfgs c)
    (running : c.process i = .running launched step st) :
    ∃ kinds, NodeTrace tool program (cfgs i) (c.arrived i) st kinds := by
  obtain ⟨inbound, arrived, ⟨recording⟩⟩ := reached.recordingSoFar running
  have ready := launch_launched recording.launches
  have known : ForActors tool.toHost program ({ cfgs i with steps := step } : Config).nodeId
      (· ∈ c.arrived i) :=
    fun env member => ⟨orderly.actor_known ((reached.arrived_once i).subset member),
      reached.arrived_addressed i env member⟩
  refine ⟨recording.events, recording.writer, ?_, Recording.shaped accepted known recording, ?_,
    ?_, coreRun_netSends rfl (recording.ops accepted),
    coreRun_remembers ready.built.actor_inbox rfl (recording.ops accepted)⟩
  · have seq := orderly.sending.seq i
    rw [running] at seq
    rw [← Recording.seq recording]
    exact seq
  · intro key
    have balance := Recording.taken recording key
    rwa [arrived] at balance
  · intro env place
    rw [← arrived]
    exact Recording.source recording place

/-- Every event that a running node has written so far is in order. -/
theorem Orderly.inOrderSoFar (orderly : Orderly tool.toHost program cfgs c)
    (lawful : tool.Lawful) (accepted : Accepted tool.toHost program)
    (actors : ActorsDistinct tool.toHost program)
    (reached : Reachable tool.toHost program cfgs c)
    (running : c.process i = .running launched step st) :
    ∃ trace, st.writer = some trace ∧ EveryPosition HeaderOk trace ∧
      EveryPosition (KindOk tool) (kindsOf trace) := by
  obtain ⟨kinds, trace⟩ := orderly.traceSoFar accepted reached running
  obtain ⟨rest, split, shaped⟩ := trace.spawned
  have remembers := trace.remembers
  rw [← Cluster.core_of_running running] at remembers
  have delivers := orderly.deliversInOrder lawful remembers
  have once : (takenKeys kinds).Nodup := by
    refine List.nodup_iff_count_le_one.mpr fun key => ?_
    have arrived := List.nodup_iff_count_le_one.mp (orderly.arrivedKeys_nodup reached i) key
    have balance := trace.taken key
    omega
  have undropped := undropped_of_nodup once
  have fresh : EveryPosition (fun past kind => ∀ actor, spawnedActor kind = some actor →
      actor ∉ spawnedIn past) kinds := by
    apply EveryPosition.nodup_iff.mpr
    change (spawnedIn kinds).Nodup
    rw [trace.spawnedIn]
    exact actors.nodup accepted
  have known := known_of_spawned (spawnedIn_spawnList tool.toHost program (cfgs i).nodeId)
    (named_spawnList tool.toHost (cfgs i).nodeId program.services) shaped.names
  rw [← split] at known
  refine ⟨stamp 0 kinds, trace.writer, stamp_headers trace.fits, ?_⟩
  rw [kindsOf_stamp]
  exact fun past kind later here => (trace.tidy.adjacent past kind later here).kindOk
    (known past kind later here) (fresh past kind later here) (undropped past kind later here)
    (delivers past kind later here)

/-- However much of the trace of a running node has reached its file, the tool reads the
events whose lines are whole and finds them in order, or it fails at the last line of the
file, the line of an event, torn. -/
theorem cut_trace_verifies (lawful : tool.Lawful) {src : String}
    (loaded : loadProgram tool.toHost src = .ok program)
    (actors : ActorsDistinct tool.toHost program)
    (nodes : Function.Injective fun i => (cfgs i).nodeId)
    (reached : Reachable tool.toHost program cfgs c)
    (few : ∀ i, (c.core i).history.length < u64Max)
    (running : c.process i = .running launched step st) {codec : JsonCodec (TraceEvent V)}
    {trace : List (TraceEvent V)} (writer : st.writer = some trace)
    (safe : ∀ ev ∈ trace, codec.lines.Safe ev) {file : List UInt8}
    (cut : file <+: (trace.foldl (TraceWriter.write codec) .create).bytes) :
    ∃ events, events <+: trace ∧
      ((readEvents codec file = .ok events ∧
          (file = codec.lines.writeAll events ∨
            file ++ [newline] = codec.lines.writeAll events) ∧
          (verifyTrace tool events).problems = dangling tool events) ∨
        ∃ torn, readEvents codec file = .error (.ofLine torn) ∧
          codec.lines.TornAt trace file events torn) := by
  have accepted := loadProgram_accepted loaded
  have orderly := reached.orderly accepted nodes few
  obtain ⟨other, written, headers, inOrder⟩ :=
    orderly.inOrderSoFar lawful accepted actors reached running
  cases writer.symm.trans written
  obtain ⟨events, before, ⟨read, ends⟩ | broken⟩ := readEvents_cut safe cut
  · have kinds : kindsOf events <+: kindsOf trace := before.map TraceEvent.kind
    exact ⟨events, before, .inl ⟨read, ends, verifyTrace_dangling
      (everyPosition_cut headers before) (everyPosition_cut inOrder kinds)⟩⟩
  · exact ⟨events, before, .inr broken⟩

end Running

/-! ## Files that were cut off -/

section Cuts

variable {V : Type} (codec : JsonCodec (TraceEvent V)) (written : List (TraceEvent V))
  (whole bytes : Nat)

/-- The lines of the first events, and some bytes of the next line. -/
def cutFile : List UInt8 :=
  codec.lines.writeAll (written.take whole) ++
    (codec.lines.writeAll (written.drop whole)).take bytes

theorem cutFile_begins : cutFile codec written whole bytes <+:
    (written.foldl (TraceWriter.write codec) .create).bytes := by
  have split : codec.lines.writeAll written =
      codec.lines.writeAll (written.take whole) ++ codec.lines.writeAll (written.drop whole) := by
    rw [← LineFormat.writeAll_append, List.take_append_drop]
  rw [traceWriter_bytes, split]
  exact (List.prefix_append_right_inj _).mpr (List.take_prefix bytes _)

variable {codec written whole bytes}

theorem cutFile_torn {next : TraceEvent V} (here : written[whole]? = some next)
    (inside : 0 < bytes) (long : bytes < (codec.toBytes next).length) :
    codec.lines.TornAt written (cutFile codec written whole bytes) (written.take whole)
      ((codec.toBytes next).take bytes) := by
  obtain ⟨bound, rfl⟩ := List.getElem?_eq_some_iff.mp here
  have short : ((codec.toBytes written[whole]).take bytes).length = bytes :=
    List.length_take_of_le long.le
  refine ⟨?_, ?_, written[whole], ?_, List.take_prefix bytes _, ?_⟩
  · rw [cutFile, List.drop_eq_getElem_cons bound, LineFormat.writeAll, LineFormat.writeAll,
      List.flatMap_cons, LineFormat.write, List.append_assoc]
    exact congrArg _ (List.take_append_of_le_length long.le)
  · exact List.ne_nil_of_length_pos (short.symm ▸ inside)
  · rw [List.take_append_getElem bound]
    exact List.take_prefix (whole + 1) written
  · intro same
    exact absurd (short.symm.trans (congrArg List.length same)) long.ne

end Cuts

/-! ## A sample -/

section Samples

namespace SampleFiles

open JsonText

def uuidText (id : Uuid) : List Char :=
  '"' :: UuidText.hyphenate UuidText.groupSizes (UuidText.digits 32 id.toNat) ++ ['"']

theorem uuidText_oneLine (id : Uuid) : '\n' ∉ uuidText id := by
  have chars := (UuidText.parse_chars (UuidText.parse_print id)).2
  rw [UuidText.print, String.toList_ofList] at chars
  exact enclosed_oneLine (by decide) fun inside => absurd (chars _ inside) (by decide)

def optionText : Option Nat → List Char
  | none => "null".toList
  | some value => number value

def scalarText : JsonScalar → List Char
  | .null => "null".toList
  | .number value => number value
  | .string value => quoted value

/-- Objects of the JSON library are printed in the order of their keys. -/
def sortedObject (fields : List (String × List Char)) : List Char :=
  object (fields.insertionSort fun left right => left.1 ≤ right.1)

def fieldText : JsonField → List Char
  | .scalar value => scalarText value
  | .object fields => sortedObject (fields.map fun field => (field.1, scalarText field.2))

def payloadText (doc : JsonDoc) : List Char :=
  sortedObject (doc.map fun field => (field.1, fieldText field.2))

def variantName : EffectKind → String
  | .log => "Log"
  | .stateRead => "StateRead"
  | .stateWrite => "StateWrite"
  | .sendLocal => "SendLocal"
  | .sendRemote => "SendRemote"
  | .timerLocal => "TimerLocal"
  | .timerRemote => "TimerRemote"

def effectsText (effects : List EffectKind) : List Char :=
  array (effects.map fun effect => quoted (variantName effect))

def actionText : FaultAction → List Char
  | .drop => quoted "Drop"
  | .delay steps => object [("Delay", object [("steps", number steps)])]
  | .reorder window => object [("Reorder", object [("window", number window)])]

def kindFields : EventKind JsonDoc → List (String × List Char)
  | .spawn node actor service =>
      [("node", uuidText node), ("actor", uuidText actor), ("service", quoted service)]
  | .send sender receiver msgId payload =>
      [("from", uuidText sender), ("to", uuidText receiver), ("msg_id", uuidText msgId),
        ("payload", payloadText payload)]
  | .deliver node receiver msgId =>
      [("node", uuidText node), ("to", uuidText receiver), ("msg_id", uuidText msgId)]
  | .timerFired node sender timerId =>
      [("node", uuidText node), ("from", uuidText sender), ("timer_id", uuidText timerId)]
  | .netRecv node fromNode receiver msgId payload =>
      [("node", uuidText node), ("from_node", uuidText fromNode), ("to", uuidText receiver),
        ("msg_id", uuidText msgId), ("payload", payloadText payload)]
  | .netSend node toNode sender msgId payload =>
      [("node", uuidText node), ("to_node", uuidText toNode), ("from", uuidText sender),
        ("msg_id", uuidText msgId), ("payload", payloadText payload)]
  | .log node sender service text =>
      [("node", uuidText node), ("from", uuidText sender), ("service", quoted service),
        ("text", quoted text)]
  | .effectObserved node actor service msgType msgId declared observed =>
      [("node", uuidText node), ("actor", uuidText actor), ("service", quoted service),
        ("msg_type", quoted msgType), ("msg_id", uuidText msgId),
        ("declared", effectsText declared), ("observed", effectsText observed)]
  | .faultInjected node fromNode receiver msgId action =>
      [("node", uuidText node), ("from_node", uuidText fromNode), ("to", uuidText receiver),
        ("msg_id", uuidText msgId), ("action", actionText action)]
  | .faultPolicy node step dropEvery delaySteps reorderWindow =>
      [("node", uuidText node), ("step", number step), ("drop_every", optionText dropEvery),
        ("delay_steps", number delaySteps), ("reorder_window", number reorderWindow)]

def eventText (ev : TraceEvent JsonDoc) : List Char :=
  object
    [("seq", number ev.seq), ("seed", number ev.seed),
      ("kind", object [(eventKindName ev.kind, object (kindFields ev.kind))])]

theorem optionText_oneLine (value : Option Nat) : '\n' ∉ optionText value := by
  cases value with
  | none => decide
  | some value => exact number_oneLine value

theorem scalarText_oneLine (value : JsonScalar) : '\n' ∉ scalarText value := by
  cases value with
  | null => decide
  | number value => exact number_oneLine value
  | string value => exact quoted_oneLine value

theorem sortedObject_oneLine {fields : List (String × List Char)}
    (each : ∀ field ∈ fields, '\n' ∉ field.2) : '\n' ∉ sortedObject fields :=
  object_oneLine fun field member => each field ((List.mem_insertionSort _).mp member)

theorem fieldText_oneLine (value : JsonField) : '\n' ∉ fieldText value := by
  cases value with
  | scalar value => exact scalarText_oneLine value
  | object fields =>
      refine sortedObject_oneLine fun field member => ?_
      obtain ⟨entry, _, rfl⟩ := List.mem_map.mp member
      exact scalarText_oneLine entry.2

theorem payloadText_oneLine (doc : JsonDoc) : '\n' ∉ payloadText doc := by
  refine sortedObject_oneLine fun field member => ?_
  obtain ⟨entry, _, rfl⟩ := List.mem_map.mp member
  exact fieldText_oneLine entry.2

theorem effectsText_oneLine (effects : List EffectKind) : '\n' ∉ effectsText effects := by
  refine array_oneLine fun item member => ?_
  obtain ⟨effect, _, rfl⟩ := List.mem_map.mp member
  exact quoted_oneLine _

theorem actionText_oneLine (action : FaultAction) : '\n' ∉ actionText action := by
  cases action with
  | drop => exact quoted_oneLine "Drop"
  | delay steps =>
      exact object_oneLine (List.forall_mem_singleton.mpr
        (object_oneLine (List.forall_mem_singleton.mpr (number_oneLine steps))))
  | reorder window =>
      exact object_oneLine (List.forall_mem_singleton.mpr
        (object_oneLine (List.forall_mem_singleton.mpr (number_oneLine window))))

theorem kindFields_oneLine (kind : EventKind JsonDoc) :
    ∀ field ∈ kindFields kind, '\n' ∉ field.2 := by
  cases kind <;>
    simp [kindFields, uuidText_oneLine, quoted_oneLine, payloadText_oneLine, effectsText_oneLine,
      actionText_oneLine, number_oneLine, optionText_oneLine]

/-- Whatever an event says, its text is one line. -/
theorem eventText_oneLine (ev : TraceEvent JsonDoc) : '\n' ∉ eventText ev := by
  have kind := object_oneLine (kindFields_oneLine ev.kind)
  refine object_oneLine ?_
  simp [number_oneLine, object_oneLine, kind]

end SampleFiles

def Process.trace {V : Type} : Process V → List (TraceEvent V)
  | .running _ _ st => st.writer.getD []
  | _ => []

/-- The nodes of the sample take turns until both are at their end. -/
def sampleEnd : Cluster (Fin 2) JsonDoc :=
  samplePair (List.replicate 5 (List.finRange 2)).flatten

def sampleTrace (i : Fin 2) : List (TraceEvent JsonDoc) := (sampleEnd.process i).trace

/-- The lines of all events in the traces of the sample. -/
def sampleFileTable : List (List UInt8 × TraceEvent JsonDoc) :=
  JsonText.lineTable (((List.finRange 2).flatMap sampleTrace).map fun ev =>
    (SampleFiles.eventText ev, ev))

def sampleCodec : JsonCodec (TraceEvent JsonDoc) := .ofTable sampleFileTable

theorem sampleFileTable_free : PrefixFree sampleFileTable := by
  have apart : ((List.finRange 2).flatMap sampleTrace).Pairwise fun ev other =>
      ¬SampleFiles.eventText ev <+: SampleFiles.eventText other ∧
        ¬SampleFiles.eventText other <+: SampleFiles.eventText ev := by
    decide +kernel
  refine JsonText.lineTable_free ?_ ?_ (List.pairwise_map.mpr apart)
  · intro entry member
    obtain ⟨ev, _, rfl⟩ := List.mem_map.mp member
    exact SampleFiles.eventText_oneLine ev
  · intro entry member
    obtain ⟨ev, _, rfl⟩ := List.mem_map.mp member
    exact List.cons_ne_nil _ _

theorem sampleCodec_safe {i : Fin 2} {ev : TraceEvent JsonDoc} (member : ev ∈ sampleTrace i) :
    sampleCodec.lines.Safe ev := by
  apply sampleFileTable_free.safe
  rw [sampleFileTable, JsonText.lineTable, List.map_map, List.map_map]
  exact List.mem_map.mpr ⟨ev, List.mem_flatMap.mpr ⟨i, List.mem_finRange i, member⟩, rfl⟩

/-- What node `i` has written after its first iteration. -/
def sampleWritten (i j : Fin 2) : List (TraceEvent JsonDoc) :=
  ((samplePair [i, j, i]).process i).trace

theorem Process.running_of_iterations {V : Type} {process : Process V} {step : Nat}
    (going : process.iterations = some step) :
    ∃ launched st, process = .running launched step st := by
  cases process with
  | running launched step st =>
      cases going
      exact ⟨launched, st, rfl⟩
  | starting launched st => cases going
  | failed error st => cases going

/-- The file ends behind the delivery of the first message, or inside the next line. -/
theorem cut_trace_verifies_sample :
    readEvents sampleCodec (cutFile sampleCodec (sampleWritten 0 1) 5 0) =
        .ok ((sampleWritten 0 1).take 5) ∧
      (verifyTrace jsonTool ((sampleWritten 0 1).take 5)).problems =
        ["Deliver at seq 4 reached end-of-trace without EffectObserved"] ∧
      ∃ events torn,
        readEvents sampleCodec (cutFile sampleCodec (sampleWritten 0 1) 5 60) =
            .error (.ofLine torn) ∧
          sampleCodec.lines.TornAt (sampleWritten 0 1)
            (cutFile sampleCodec (sampleWritten 0 1) 5 60) events torn := by
  have going : ((samplePair [0, 1, 0]).process 0).iterations = some 1 := by decide +kernel
  have few : ∀ i, ((samplePair [0, 1, 0]).core i).history.length < u64Max := by decide +kernel
  obtain ⟨launched, st, running⟩ := Process.running_of_iterations going
  obtain ⟨_, _, ⟨recording⟩⟩ := (samplePair_reachable [0, 1, 0]).recordingSoFar running
  have writer : st.writer = some (sampleWritten 0 1) := by
    rw [sampleWritten, running, Process.trace, recording.writer]
    rfl
  have earlier : sampleWritten 0 1 <+: sampleTrace 0 := by decide +kernel
  have safe : ∀ ev ∈ sampleWritten 0 1, sampleCodec.lines.Safe ev :=
    fun ev member => sampleCodec_safe (earlier.subset member)
  have verifies (bytes : Nat) := cut_trace_verifies jsonTool_lawful sampleProgram_loaded
    sampleProgram_actors sampleNodes_distinct (samplePair_reachable [0, 1, 0]) few running writer
    safe (cutFile_begins sampleCodec (sampleWritten 0 1) 5 bytes)
  have front : ∀ ev ∈ (sampleWritten 0 1).take 5, sampleCodec.lines.Safe ev :=
    fun ev member => safe ev (List.mem_of_mem_take member)
  have whole : readEvents sampleCodec (cutFile sampleCodec (sampleWritten 0 1) 5 0) =
      .ok ((sampleWritten 0 1).take 5) := by
    rw [cutFile, List.take_zero, List.append_nil, ← traceWriter_bytes]
    exact readEvents_written front
  have long : ∀ ev ∈ (sampleWritten 0 1)[5]?, 60 < (sampleCodec.toBytes ev).length := by
    decide +kernel
  obtain ⟨next, here⟩ := Option.isSome_iff_exists.mp
    (by decide +kernel : (sampleWritten 0 1)[5]?.isSome)
  have torn := cutFile_torn here (by decide) (long next here)
  refine ⟨whole, ?_, ?_⟩
  · obtain ⟨events, _, ⟨read, _, problems⟩ | ⟨torn, read, _⟩⟩ := verifies 0
    · have same : events = (sampleWritten 0 1).take 5 := Except.ok.inj (read.symm.trans whole)
      rw [← same, problems, same]
      decide +kernel
    · rw [whole] at read
      cases read
  · obtain ⟨events, _, ⟨read, _⟩ | ⟨torn, ends⟩⟩ := verifies 60
    · rw [readEvents_torn safe torn] at read
      cases read
    · exact ⟨events, torn, ends⟩

end Samples

end UcoStack.System
