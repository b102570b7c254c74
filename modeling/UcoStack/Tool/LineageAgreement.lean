import UcoStack.Tool.LineageIndex

/-!
# The two lineage tables of a trace

The local verifier and the lineage index match deliveries to payloads and keep the
lineage of each, in two loops of their own.  The loops see the same payloads in any
trace; their tables agree as long as the verifier has nothing to report.
-/

namespace UcoStack.Tool

open UcoStack.Runtime

section Agreement

variable {V : Type} {tool : ToolHost V}

/-- The entries of the two tables under one key. -/
structure SameLineage (tool : ToolHost V) (entry : DeliveredLineage) (item : LineageRecord) :
    Prop where
  hops : entry.hops = item.provenance.hops
  originNode : entry.originNode = item.provenance.originNode
  originService : entry.originService = item.provenance.originService
  originMsgId : tool.uuidParse item.provenance.originMsgId = some entry.originMsgId

/-- The tables of the two loops after the same events. -/
def TablesAgree (tool : ToolHost V) (st : VerifyState V) (out : List (DeliveredPayload V)) : Prop :=
  ∀ key, Option.Rel (SameLineage tool) (st.deliveredLineage.lookup key)
    ((out.foldl (indexDelivery tool) ∅).lookup key)

theorem verifyEvent_produced (st : VerifyState V) (ev : TraceEvent V) :
    (verifyEvent tool st ev).produced = producedAfter st.produced ev.kind := by
  obtain ⟨more, result, _⟩ : Reports _ _ (verifyEvent tool st ev) := verifyEvent_reports ev st
  rw [result]
  rfl

/-- The verifier matches payloads as the index does, whatever it reports. -/
theorem produced_agree (tool : ToolHost V) (events : List (TraceEvent V)) :
    (events.foldl (verifyEvent tool) .initial).produced =
      (events.foldl collectEvent ⟨∅, []⟩).produced := by
  induction events using List.reverseRecOn with
  | nil => rfl
  | append_singleton past ev ih =>
      rw [List.foldl_append, List.foldl_append, List.foldl_cons, List.foldl_cons, List.foldl_nil,
        List.foldl_nil, verifyEvent_produced, collectEvent_produced, ih]

/-- A payload whose lineage can be read is entered into both tables under the same key. -/
theorem indexDelivery_reads {delivery : DeliveredPayload V} {parsed : ParsedLineage}
    (reads : ReadsAs tool delivery.payload parsed) (index : HashMap LineageKey LineageRecord) :
    ∃ item, SameLineage tool parsed.record item ∧
      indexDelivery tool index delivery =
        index.insert (parsed.fromNode, delivery.msgId) item := by
  obtain ⟨item, recorded⟩ := reads.recorded
  obtain ⟨key, provenance⟩ := lineageRecord_reads recorded reads
  refine ⟨item, ?_, ?_⟩
  · have origin := reads.origin
    rw [← provenance] at origin
    exact ⟨by rw [provenance]; rfl, by rw [provenance]; rfl, by rw [provenance]; rfl, origin⟩
  · unfold indexDelivery
    rw [recorded, ← key]

/-- The step lemma. -/
theorem TablesAgree.step {st : VerifyState V} {collected : Collecting V}
    (agree : TablesAgree tool st collected.out) (matched : st.produced = collected.produced)
    {ev : TraceEvent V} (passes : Passes tool ev st) :
    TablesAgree tool (advance tool ev st) (collectEvent collected ev).out := by
  obtain ⟨seq, seed, kind⟩ := ev
  cases kind with
  | deliver node receiver msgId =>
      obtain ⟨payload, queue, found, parsed, reads, _⟩ := passes.kind
      let delivery : DeliveredPayload V := ⟨seq, node, receiver, msgId, payload⟩
      have reading : ReadsAs tool delivery.payload parsed := readLineage_eq_some.mp reads
      obtain ⟨item, same, indexed⟩ :=
        indexDelivery_reads reading (collected.out.foldl (indexDelivery tool) ∅)
      have entered : deliveredAfter tool st.produced st.deliveredLineage
          (.deliver node receiver msgId) =
            st.deliveredLineage.insert (parsed.fromNode, msgId) parsed.record := by
        unfold deliveredAfter lineageAfter
        simp only [found, reads]
      have listed : (collectEvent collected ⟨seq, seed, .deliver node receiver msgId⟩).out =
          collected.out ++ [delivery] := by
        unfold collectEvent
        simp only [← matched, found]
        rfl
      intro key
      change Option.Rel _ ((deliveredAfter tool st.produced st.deliveredLineage
        (.deliver node receiver msgId)).lookup key) _
      rw [entered, listed, List.foldl_append, List.foldl_cons, List.foldl_nil, indexed]
      exact HashMap.lookup_insert_rel agree same _ key
  | _ => exact agree

/-- The run lemma. -/
theorem tablesAgree_of_clean {events : List (TraceEvent V)}
    (clean : (events.foldl (verifyEvent tool) .initial).problems = []) :
    TablesAgree tool (events.foldl (verifyEvent tool) .initial)
      (collectDeliveriesWithPayload events) := by
  unfold collectDeliveriesWithPayload
  induction events using List.reverseRecOn with
  | nil => exact fun _ => .none
  | append_singleton past ev ih =>
      rw [List.foldl_append, List.foldl_cons, List.foldl_nil] at clean ⊢
      rw [List.foldl_append, List.foldl_cons, List.foldl_nil]
      obtain ⟨more, result, passes⟩ : Reports _ _ (verifyEvent tool _ ev) := verifyEvent_reports ev _
      rw [result] at clean ⊢
      obtain ⟨before, none⟩ := List.append_eq_nil_iff.mp clean
      rw [none, VerifyState.addProblems_nil]
      exact (ih before).step (produced_agree tool past) (passes.mp none)

end Agreement

/-- In an accepted trace the table of the verifier and the lineage index have the same
keys, and the same lineage under each of them. -/
theorem lineage_tables_agree {V : Type} (tool : ToolHost V) (events : List (TraceEvent V))
    (clean : (verifyTrace tool events).problems = []) :
    let table := (checkEnd tool (events.foldl (verifyEvent tool) .initial)).deliveredLineage
    (∀ key, key ∈ table ↔ key ∈ buildLineageIndex tool events) ∧
      ∀ key entry item, table.lookup key = some entry →
        (buildLineageIndex tool events).lookup key = some item → SameLineage tool entry item := by
  have kept (st : VerifyState V) : (checkEnd tool st).deliveredLineage = st.deliveredLineage := by
    obtain ⟨problems, seed, expectedSeq, spawned, produced, lineage, dropped, timer, effect⟩ := st
    unfold checkEnd
    cases timer <;> cases effect <;> rfl
  rw [kept]
  have agree := tablesAgree_of_clean ((checkEnd_problems tool _).mp clean).1
  refine ⟨fun key => HashMap.mem_iff_of_rel (agree key), fun key entry item found listed => ?_⟩
  have related := agree key
  unfold buildLineageIndex at listed
  rw [found, listed] at related
  cases related
  assumption

/-- The bootstrap message of the sample trace is in the verifier's table, since it is indexed. -/
theorem lineage_tables_agree_sample :
    ((7, 1) : LineageKey) ∈
      (checkEnd jsonTool (sampleTrace.foldl (verifyEvent jsonTool) .initial)).deliveredLineage :=
  ((lineage_tables_agree jsonTool sampleTrace (by decide +kernel)).1 (7, 1)).mpr
    (by decide +kernel)

end UcoStack.Tool
