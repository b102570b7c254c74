import UcoStack.Tool.ClusterSpec
import UcoStack.Tool.ReadOrder

/-!
# The phases of cluster verification

Every loop of the cluster verifier is a one-pass monitor: its verdict on one
element is a condition on that element and the ones before it, and without a
problem its report holds counts of elements.
-/

namespace UcoStack.Tool

open UcoStack.Runtime

section Reports

theorem ClusterReport.report_problems (found : ClusterReport) (problem : String) :
    (found.report problem).problems ≠ [] := by
  simp [report]

theorem ClusterReport.keeps_report {found : ClusterReport} {problem : String}
    (clean : (found.report problem).problems = []) : found.problems = [] :=
  absurd clean (found.report_problems problem)

theorem ClusterReport.reportIf_clean {found : ClusterReport} {fails : Prop} [Decidable fails]
    {problem : String} :
    (found.reportIf fails problem).problems = [] ↔ found.problems = [] ∧ ¬fails := by
  unfold reportIf
  split
  · rename_i holds
    simp [report, holds]
  · rename_i holds
    simp [holds]

end Reports

/-! ## Included nodes -/

section Included

variable {V : Type} (tool : ToolHost V)

theorem includeTrace_monitors :
    Monitors (includeTrace tool) (fun state => state.1.problems = [])
      (fun (past : List (ClusterTrace V)) state => state = (.empty, includedNodes past))
      (fun _ trace => (traceNodes trace).length = 1) := by
  constructor
  · intro state trace clean
    unfold includeTrace at clean
    dsimp only at clean
    split at clean
    · exact ClusterReport.keeps_report clean
    · exact (ClusterReport.reportIf_clean.mp clean).1
  · rintro past _ trace clean rfl
    unfold includeTrace
    cases nodes : traceNodes trace with
    | nil => simp [ClusterReport.report]
    | cons node rest =>
        simp only [List.isEmpty_cons, ClusterReport.reportIf_clean,
          List.length_cons, Bool.false_eq_true, if_false]
        constructor
        · rintro ⟨_, single⟩
          omega
        · intro single
          exact ⟨rfl, by omega⟩
  · rintro past _ trace clean rfl
    unfold includeTrace at clean ⊢
    dsimp only at clean ⊢
    split at clean
    · exact absurd clean (ClusterReport.report_problems _ _)
    · rename_i some
      obtain ⟨_, single⟩ := ClusterReport.reportIf_clean.mp clean
      rw [if_neg some]
      unfold ClusterReport.reportIf
      rw [if_neg single]
      refine Prod.ext rfl ?_
      simp [includedNodes]

end Included

/-! ## Indexing the network messages -/

section Indexing

variable {V : Type} (tool : ToolHost V)

/-- One event with the path of its trace. -/
abbrev Tagged (V : Type) := String × TraceEvent V

def tagged (traces : List (ClusterTrace V)) : List (Tagged V) :=
  traces.flatMap fun trace => trace.events.map fun ev => (trace.path, ev)

def taggedKinds (items : List (Tagged V)) : List (EventKind V) := items.map fun item => item.2.kind

theorem taggedKinds_tagged (traces : List (ClusterTrace V)) :
    taggedKinds (tagged traces) = clusterKinds traces := by
  simp [taggedKinds, tagged, clusterKinds, kindsOf, List.map_flatMap, Function.comp_def]

def indexItem (index : NetworkIndex V) (item : Tagged V) : NetworkIndex V :=
  indexEvent tool item.1 index item.2

theorem indexTraces_eq (traces : List (ClusterTrace V)) (index : NetworkIndex V) :
    traces.foldl (indexTrace tool) index = (tagged traces).foldl (indexItem tool) index := by
  induction traces generalizing index with
  | nil => rfl
  | cons trace rest ih =>
      rw [List.foldl_cons, ih]
      unfold tagged
      rw [List.flatMap_cons, List.foldl_append, List.foldl_map]
      rfl

/-- The index of some events: no problem, and one entry for each network message. -/
structure Indexed (kinds : List (EventKind V)) (index : NetworkIndex V) : Prop where
  report : index.report = .empty
  sends : index.sends.entries.map (fun entry => (entry.1, entry.2.payload)) =
    (kinds.filterMap sentMessage).reverse
  recvs : index.recvs.entries.map (fun entry => (entry.1, entry.2.payload)) =
    (kinds.filterMap receivedMessage).reverse
  drops : index.drops.keys = (dropKeys kinds).reverse

/-- The keys of an event are new. -/
structure FreshKeys (past : List (EventKind V)) (kind : EventKind V) : Prop where
  send : ∀ key, sendKey kind = some key → key ∉ sendKeys past
  recv : ∀ key, recvKey kind = some key → key ∉ recvKeys past
  drop : ∀ key, dropKey kind = some key → key ∉ dropKeys past

theorem freshKeys_iff {kinds : List (EventKind V)} :
    EveryPosition FreshKeys kinds ↔
      (sendKeys kinds).Nodup ∧ (recvKeys kinds).Nodup ∧ (dropKeys kinds).Nodup := by
  unfold sendKeys recvKeys dropKeys
  rw [← EveryPosition.nodup_iff, ← EveryPosition.nodup_iff, ← EveryPosition.nodup_iff]
  constructor
  · intro every
    exact ⟨fun past kind later split => (every past kind later split).send,
      fun past kind later split => (every past kind later split).recv,
      fun past kind later split => (every past kind later split).drop⟩
  · rintro ⟨sends, recvs, drops⟩ past kind later split
    exact ⟨sends past kind later split, recvs past kind later split, drops past kind later split⟩

variable {kinds : List (EventKind V)} {index : NetworkIndex V}

theorem Indexed.mem_sends (indexed : Indexed kinds index) {key : ClusterKey} {payload : V} :
    (∃ send, index.sends.lookup key = some send ∧ send.payload = payload) ↔
      (key, payload) ∈ kinds.filterMap sentMessage := by
  rw [← List.mem_reverse, ← indexed.sends, List.mem_map]
  constructor
  · rintro ⟨send, found, rfl⟩
    exact ⟨⟨key, send⟩, AList.mem_lookup_iff.mp found, rfl⟩
  · rintro ⟨⟨other, send⟩, stored, same⟩
    cases same
    exact ⟨send, AList.mem_lookup_iff.mpr stored, rfl⟩

theorem Indexed.sent_iff (indexed : Indexed kinds index) (key : ClusterKey) :
    (index.sends.lookup key).isSome ↔ key ∈ sendKeys kinds := by
  rw [mem_sendKeys, Option.isSome_iff_exists]
  constructor
  · rintro ⟨send, found⟩
    exact ⟨send.payload, indexed.mem_sends.mp ⟨send, found, rfl⟩⟩
  · rintro ⟨payload, member⟩
    obtain ⟨send, found, _⟩ := indexed.mem_sends.mpr member
    exact ⟨send, found⟩

theorem insertEvidence_clean {ν : Type} {what : String} {place : ν → String × Nat}
    {key : ClusterKey} {value : ν} {map : HashMap ClusterKey ν} {found : ClusterReport} :
    (insertEvidence tool what place key value map found).2.problems = [] ↔
      found.problems = [] ∧ key ∉ map.keys := by
  unfold insertEvidence
  rw [← AList.mem_keys, ← AList.lookup_eq_none]
  cases map.lookup key with
  | none => simp
  | some prev => simp [ClusterReport.report]

/-- Without a problem the evidence is a new entry. -/
theorem insertEvidence_fresh {ν : Type} (what : String) (place : ν → String × Nat)
    {key : ClusterKey} (value : ν) {map : HashMap ClusterKey ν} (found : ClusterReport)
    (fresh : key ∉ map.keys) :
    (insertEvidence tool what place key value map found).1.entries = ⟨key, value⟩ :: map.entries ∧
      (insertEvidence tool what place key value map found).2 = found := by
  unfold insertEvidence
  have absent := AList.mem_keys.not.mpr fresh
  constructor
  · exact AList.entries_insert_of_notMem absent
  · rw [AList.lookup_eq_none.mpr absent]

theorem Indexed.sends_keys (indexed : Indexed kinds index) :
    index.sends.keys = (sendKeys kinds).reverse := by
  have same := congrArg (List.map Prod.fst) indexed.sends
  rw [List.map_map, List.map_reverse, List.map_filterMap] at same
  exact same

theorem Indexed.recvs_keys (indexed : Indexed kinds index) :
    index.recvs.keys = (recvKeys kinds).reverse := by
  have same := congrArg (List.map Prod.fst) indexed.recvs
  rw [List.map_map, List.map_reverse, List.map_filterMap] at same
  exact same

/-- The verdict on one event, and the index after it. -/
theorem indexEvent_verdict (indexed : Indexed kinds index) (path : String) (ev : TraceEvent V) :
    (indexEvent tool path index ev).report.problems = [] ↔ FreshKeys kinds ev.kind := by
  have clean : index.report.problems = [] := by
    rw [indexed.report]
    rfl
  obtain ⟨seq, seed, kind⟩ := ev
  cases kind with
  | netSend node toNode sender msgId payload =>
      refine (insertEvidence_clean tool).trans ?_
      rw [indexed.sends_keys, List.mem_reverse]
      constructor
      · rintro ⟨_, fresh⟩
        refine ⟨?_, nofun, nofun⟩
        rintro key ⟨⟩
        exact fresh
      · intro fresh
        exact ⟨clean, fresh.send _ rfl⟩
  | netRecv node fromNode receiver msgId payload =>
      refine (insertEvidence_clean tool).trans ?_
      rw [indexed.recvs_keys, List.mem_reverse]
      constructor
      · rintro ⟨_, fresh⟩
        refine ⟨nofun, ?_, nofun⟩
        rintro key ⟨⟩
        exact fresh
      · intro fresh
        exact ⟨clean, fresh.recv _ rfl⟩
  | faultInjected node fromNode receiver msgId action =>
      cases action with
      | drop =>
          refine (insertEvidence_clean tool).trans ?_
          rw [indexed.drops, List.mem_reverse]
          constructor
          · rintro ⟨_, fresh⟩
            refine ⟨nofun, nofun, ?_⟩
            rintro key ⟨⟩
            exact fresh
          · intro fresh
            exact ⟨clean, fresh.drop _ rfl⟩
      | _ => exact ⟨fun _ => ⟨nofun, nofun, nofun⟩, fun _ => clean⟩
  | _ => exact ⟨fun _ => ⟨nofun, nofun, nofun⟩, fun _ => clean⟩

theorem reverse_filterMap_snoc {α β : Type} (f : α → Option β) (xs : List α) (x : α) :
    ((xs ++ [x]).filterMap f).reverse = (f x).toList ++ (xs.filterMap f).reverse := by
  rw [List.filterMap_append, List.reverse_append]
  cases has : f x <;> simp [has]

theorem indexEvent_indexed (indexed : Indexed kinds index) (path : String) {ev : TraceEvent V}
    (fresh : FreshKeys kinds ev.kind) :
    Indexed (kinds ++ [ev.kind]) (indexEvent tool path index ev) := by
  obtain ⟨seq, seed, kind⟩ := ev
  have idle (noSend : sentMessage kind = none) (noRecv : receivedMessage kind = none)
      (noDrop : dropKey kind = none) : Indexed (kinds ++ [kind]) index := by
    refine ⟨indexed.report, ?_, ?_, ?_⟩
    · rw [reverse_filterMap_snoc, noSend]
      exact indexed.sends
    · rw [reverse_filterMap_snoc, noRecv]
      exact indexed.recvs
    · rw [dropKeys, reverse_filterMap_snoc, noDrop]
      exact indexed.drops
  cases kind with
  | netSend node toNode sender msgId payload =>
      have absent : (node, msgId, toNode) ∉ index.sends.keys := by
        rw [indexed.sends_keys, List.mem_reverse]
        exact fresh.send _ rfl
      obtain ⟨entries, same⟩ := insertEvidence_fresh tool "NetSend" NetRecord.place
        ⟨path, seq, payload⟩ index.report absent
      refine ⟨same.trans indexed.report, ?_, ?_, ?_⟩
      · refine (congrArg (List.map _) entries).trans ?_
        rw [reverse_filterMap_snoc, List.map_cons, indexed.sends]
        rfl
      · rw [reverse_filterMap_snoc]
        exact indexed.recvs
      · rw [dropKeys, reverse_filterMap_snoc]
        exact indexed.drops
  | netRecv node fromNode receiver msgId payload =>
      have absent : (fromNode, msgId, node) ∉ index.recvs.keys := by
        rw [indexed.recvs_keys, List.mem_reverse]
        exact fresh.recv _ rfl
      obtain ⟨entries, same⟩ := insertEvidence_fresh tool "NetRecv" NetRecord.place
        ⟨path, seq, payload⟩ index.report absent
      refine ⟨same.trans indexed.report, ?_, ?_, ?_⟩
      · rw [reverse_filterMap_snoc]
        exact indexed.sends
      · refine (congrArg (List.map _) entries).trans ?_
        rw [reverse_filterMap_snoc, List.map_cons, indexed.recvs]
        rfl
      · rw [dropKeys, reverse_filterMap_snoc]
        exact indexed.drops
  | faultInjected node fromNode receiver msgId action =>
      cases action with
      | drop =>
          have absent : (fromNode, msgId, node) ∉ index.drops.keys := by
            rw [indexed.drops, List.mem_reverse]
            exact fresh.drop _ rfl
          obtain ⟨entries, same⟩ := insertEvidence_fresh tool "Drop fault" DropRecord.place
            ⟨path, seq⟩ index.report absent
          refine ⟨same.trans indexed.report, ?_, ?_, ?_⟩
          · rw [reverse_filterMap_snoc]
            exact indexed.sends
          · rw [reverse_filterMap_snoc]
            exact indexed.recvs
          · refine (congrArg List.keys entries).trans ?_
            rw [dropKeys, reverse_filterMap_snoc, List.keys_cons]
            exact congrArg (List.cons _) indexed.drops
      | _ => exact idle rfl rfl rfl
  | _ => exact idle rfl rfl rfl

theorem indexEvent_keeps (path : String) (ev : TraceEvent V) (index : NetworkIndex V)
    (clean : (indexEvent tool path index ev).report.problems = []) :
    index.report.problems = [] := by
  unfold indexEvent at clean
  split at clean
  · exact ((insertEvidence_clean tool).mp clean).1
  · exact ((insertEvidence_clean tool).mp clean).1
  · split at clean
    · exact clean
    · exact ((insertEvidence_clean tool).mp clean).1
  · exact clean

theorem indexItem_monitors :
    Monitors (indexItem tool) (fun index : NetworkIndex V => index.report.problems = [])
      (fun past index => Indexed (taggedKinds past) index)
      (fun past item => FreshKeys (taggedKinds past) item.2.kind) := by
  constructor
  · intro index item clean
    exact indexEvent_keeps tool item.1 item.2 index clean
  · intro past index item _ indexed
    exact indexEvent_verdict tool indexed item.1 item.2
  · intro past index item clean indexed
    have fresh := (indexEvent_verdict tool indexed item.1 item.2).mp clean
    have after := indexEvent_indexed tool indexed item.1 fresh
    rwa [taggedKinds, List.map_append]

theorem Indexed.empty : Indexed [] (⟨.empty, ∅, ∅, ∅⟩ : NetworkIndex V) := ⟨rfl, rfl, rfl, rfl⟩

/-- The second phase: the keys of network messages are distinct, and all are indexed. -/
theorem indexTraces_clean (traces : List (ClusterTrace V)) :
    ((traces.foldl (indexTrace tool) ⟨.empty, ∅, ∅, ∅⟩).report.problems = [] ↔
      (sendKeys (clusterKinds traces)).Nodup ∧ (recvKeys (clusterKinds traces)).Nodup ∧
        (dropKeys (clusterKinds traces)).Nodup) ∧
      ((traces.foldl (indexTrace tool) ⟨.empty, ∅, ∅, ∅⟩).report.problems = [] →
        Indexed (clusterKinds traces) (traces.foldl (indexTrace tool) ⟨.empty, ∅, ∅, ∅⟩)) := by
  rw [indexTraces_eq, ← freshKeys_iff, ← taggedKinds_tagged]
  obtain ⟨verdict, represents⟩ :=
    (indexItem_monitors tool).foldl_iff rfl Indexed.empty (tagged traces)
  refine ⟨verdict.trans ?_, represents⟩
  exact EveryPosition.map

end Indexing

/-! ## Matching the network messages -/

section Matching

variable {V : Type} (tool : ToolHost V) (included : Finset NodeId) (index : NetworkIndex V)
  (start : ClusterReport)

/-- Keys whose sender is, or is not, included. -/
def fromInside (keys : List ClusterKey) : Nat := keys.countP fun key => key.1 ∈ included

def fromOutside (keys : List ClusterKey) : Nat := keys.countP fun key => key.1 ∉ included

/-- Keys whose receiver is not included. -/
def toOutside (keys : List ClusterKey) : Nat := keys.countP fun key => key.2.2 ∉ included

theorem checkRecv_monitors [DecidableEq V] :
    Monitors (checkRecv tool included index) (fun found => found.problems = [])
      (fun past found => found =
        { start with
          externalInbound := start.externalInbound + fromOutside included (past.map Sigma.fst)
          matchedRecv := start.matchedRecv + fromInside included (past.map Sigma.fst) })
      (fun _ entry => entry.1.1 ∈ included →
        ∃ send, index.sends.lookup entry.1 = some send ∧ send.payload = entry.2.payload) := by
  constructor
  · intro found entry clean
    unfold checkRecv at clean
    dsimp only at clean
    split at clean
    · exact clean
    · split at clean
      · exact ClusterReport.keeps_report clean
      · split at clean
        · exact ClusterReport.keeps_report clean
        · exact clean
  · intro past found entry clean _
    unfold checkRecv
    dsimp only
    by_cases inside : entry.1.1 ∈ included
    · rw [if_neg (not_not.mpr inside)]
      cases lookup : index.sends.lookup entry.1 with
      | none => simp [inside, ClusterReport.report]
      | some send =>
          by_cases same : send.payload = entry.2.payload
          · simp [same, clean]
          · simp [same, inside, ClusterReport.report]
    · simp [inside, clean]
  · intro past found entry clean rep
    unfold checkRecv at clean ⊢
    dsimp only at clean ⊢
    by_cases inside : entry.1.1 ∈ included
    · rw [if_neg (not_not.mpr inside)] at clean ⊢
      cases lookup : index.sends.lookup entry.1 with
      | none =>
          rw [lookup] at clean
          exact absurd clean (ClusterReport.report_problems _ _)
      | some send =>
          rw [lookup] at clean
          dsimp only at clean ⊢
          by_cases same : send.payload = entry.2.payload
          · rw [if_neg (not_not.mpr same), rep]
            simp [fromInside, fromOutside, inside, Nat.add_assoc]
          · rw [if_pos same] at clean
            exact absurd clean (ClusterReport.report_problems _ _)
    · rw [if_pos inside, rep]
      simp [fromInside, fromOutside, inside, Nat.add_assoc]

theorem checkDrop_monitors :
    Monitors (checkDrop tool included index) (fun found => found.problems = [])
      (fun past found => found =
        { start with
          externalInbound := start.externalInbound + fromOutside included (past.map Sigma.fst)
          matchedDrop := start.matchedDrop + fromInside included (past.map Sigma.fst) })
      (fun _ entry => entry.1.1 ∈ included → (index.sends.lookup entry.1).isSome) := by
  constructor
  · intro found entry clean
    unfold checkDrop at clean
    dsimp only at clean
    split at clean
    · exact clean
    · split at clean
      · exact clean
      · exact ClusterReport.keeps_report clean
  · intro past found entry clean _
    unfold checkDrop
    dsimp only
    by_cases inside : entry.1.1 ∈ included
    · by_cases sent : (index.sends.lookup entry.1).isSome
      · simp [inside, sent, clean]
      · simp [inside, sent, ClusterReport.report]
    · simp [inside, clean]
  · intro past found entry clean rep
    unfold checkDrop at clean ⊢
    dsimp only at clean ⊢
    by_cases inside : entry.1.1 ∈ included
    · rw [if_neg (not_not.mpr inside)] at clean ⊢
      by_cases sent : (index.sends.lookup entry.1).isSome
      · rw [if_pos sent, rep]
        simp [fromInside, fromOutside, inside, Nat.add_assoc]
      · rw [if_neg sent] at clean
        exact absurd clean (ClusterReport.report_problems _ _)
    · rw [if_pos inside, rep]
      simp [fromInside, fromOutside, inside, Nat.add_assoc]

theorem checkSent_monitors :
    Monitors (checkSent tool included index) (fun found => found.problems = [])
      (fun past found => found =
        { start with
          externalOutbound := start.externalOutbound + toOutside included past })
      (fun _ key => key.2.2 ∈ included →
        ((index.recvs.lookup key).isSome ↔ ¬(index.drops.lookup key).isSome)) := by
  constructor
  · intro found key clean
    unfold checkSent at clean
    dsimp only at clean
    split at clean
    · exact clean
    · split at clean
      · exact ClusterReport.keeps_report clean
      · exact (ClusterReport.reportIf_clean.mp clean).1
  · intro past found key clean _
    unfold checkSent
    dsimp only
    by_cases inside : key.2.2 ∈ included
    · rw [if_neg (not_not.mpr inside)]
      cases (index.recvs.lookup key).isSome <;> cases (index.drops.lookup key).isSome <;>
        simp [inside, clean, ClusterReport.report, ClusterReport.reportIf]
    · simp [inside, clean]
  · intro past found key clean rep
    unfold checkSent at clean ⊢
    dsimp only at clean ⊢
    by_cases inside : key.2.2 ∈ included
    · rw [if_neg (not_not.mpr inside)] at clean ⊢
      split at clean
      · exact absurd clean (ClusterReport.report_problems _ _)
      · rename_i notBoth
        obtain ⟨_, notNone⟩ := ClusterReport.reportIf_clean.mp clean
        rw [if_neg notBoth]
        unfold ClusterReport.reportIf
        rw [if_neg notNone, rep]
        simp [toOutside, inside]
    · rw [if_pos inside, rep]
      simp [toOutside, inside, Nat.add_assoc]

end Matching

/-! ## Lineage across traces -/

section Global

variable {V : Type} (tool : ToolHost V)

/-- One delivered lineage with the path of its trace. -/
abbrev TaggedRecord := String × Sigma fun _ : LineageKey => LineageRecord

def taggedRecords (traces : List (ClusterTrace V)) : List TaggedRecord :=
  traces.flatMap fun trace =>
    (buildLineageIndex tool trace.events).entries.map fun entry => (trace.path, entry)

def TaggedRecord.key (item : TaggedRecord) : LineageKey := item.2.1

def TaggedRecord.entry (item : TaggedRecord) : LineageKey × LineageRecord :=
  (item.2.1, item.2.2)

theorem taggedRecords_lineage (traces : List (ClusterTrace V)) :
    (taggedRecords tool traces).map TaggedRecord.entry = clusterLineage tool traces := by
  simp [taggedRecords, clusterLineage, List.map_flatMap, Function.comp_def, TaggedRecord.entry]

def mergeItem (state : ClusterReport × GlobalLineage) (item : TaggedRecord) :
    ClusterReport × GlobalLineage :=
  mergeRecord tool item.1 state item.2

theorem mergeTraces_eq (traces : List (ClusterTrace V)) (state : ClusterReport × GlobalLineage) :
    traces.foldl (mergeTrace tool) state = (taggedRecords tool traces).foldl (mergeItem tool) state := by
  induction traces generalizing state with
  | nil => rfl
  | cons trace rest ih =>
      rw [List.foldl_cons, ih]
      unfold taggedRecords
      rw [List.flatMap_cons, List.foldl_append, List.foldl_map]
      rfl

/-- The merged lineage of some records. -/
structure Merged (start : ClusterReport) (past : List TaggedRecord)
    (state : ClusterReport × GlobalLineage) : Prop where
  report : state.1 = start
  entries : state.2.entries = (past.map fun item => ⟨item.2.1, (item.2.2, item.1)⟩).reverse

theorem Merged.keys {start : ClusterReport} {past : List TaggedRecord}
    {state : ClusterReport × GlobalLineage} (merged : Merged start past state) :
    state.2.keys = (past.map TaggedRecord.key).reverse := by
  have same := congrArg List.keys merged.entries
  rw [List.keys, List.map_reverse, List.map_map] at same
  exact same

theorem mergeItem_monitors (start : ClusterReport) :
    Monitors (mergeItem tool) (fun state => state.1.problems = []) (Merged start)
      (fun past item => item.key ∉ past.map TaggedRecord.key) := by
  have step (state : ClusterReport × GlobalLineage) (item : TaggedRecord) :
      (mergeItem tool state item).1.problems = [] ↔
        state.1.problems = [] ∧ item.key ∉ state.2.keys := by
    unfold mergeItem mergeRecord
    rw [← AList.mem_keys, ← AList.lookup_eq_none]
    dsimp only [TaggedRecord.key]
    cases state.2.lookup item.2.1 with
    | none => simp
    | some prev => simp [ClusterReport.report]
  constructor
  · intro state item clean
    exact ((step state item).mp clean).1
  · intro past state item clean merged
    rw [step, merged.keys, List.mem_reverse]
    exact and_iff_right clean
  · intro past state item clean merged
    obtain ⟨_, fresh⟩ := (step state item).mp clean
    have absent := AList.mem_keys.not.mpr fresh
    unfold mergeItem mergeRecord
    dsimp only [TaggedRecord.key] at absent ⊢
    rw [AList.lookup_eq_none.mpr absent]
    refine ⟨merged.report, ?_⟩
    rw [AList.entries_insert_of_notMem absent, merged.entries]
    simp

theorem checkGlobalParent_clean (key parent : LineageKey) (item : LineageRecord) (path : String)
    (parentRec : LineageRecord) (parentPath : String) (found : ClusterReport) :
    ((checkGlobalParent tool key parent item path parentRec parentPath found).problems = [] ↔
      found.problems = [] ∧ item.Continues parentRec) ∧
      (item.Continues parentRec →
        checkGlobalParent tool key parent item path parentRec parentPath found = found) := by
  constructor
  · unfold checkGlobalParent
    simp only [ClusterReport.reportIf_clean, not_not]
    constructor
    · rintro ⟨⟨⟨⟨clean, hops⟩, originMsgId⟩, originNode⟩, originService⟩
      exact ⟨clean, hops, originMsgId, originNode, originService⟩
    · rintro ⟨clean, hops, originMsgId, originNode, originService⟩
      exact ⟨⟨⟨⟨clean, hops⟩, originMsgId⟩, originNode⟩, originService⟩
  · rintro ⟨hops, originMsgId, originNode, originService⟩
    simp [checkGlobalParent, ClusterReport.reportIf, hops, originMsgId, originNode, originService]

/-- The counts of the last phase apart, the report is unchanged. -/
def SameMatches (start found : ClusterReport) : Prop :=
  found =
    { start with
      resolvedLineageParents := found.resolvedLineageParents
      externalLineageParents := found.externalLineageParents }

/-- A record with hops names a parent that is, or is not, among the known keys. -/
def resolvedParent (known : LineageKey → Bool) (item : LineageRecord) : Bool :=
  if item.provenance.hops = 0 then false
  else
    match lineageParentKey tool item with
    | .ok parent => known parent
    | .error _ => false

def externalParent (known : LineageKey → Bool) (item : LineageRecord) : Bool :=
  if item.provenance.hops = 0 then false
  else
    match lineageParentKey tool item with
    | .ok parent => !known parent
    | .error _ => false

/-- The report with the parents of some records counted. -/
def countParents (known : LineageKey → Bool) (items : List LineageRecord)
    (start : ClusterReport) : ClusterReport :=
  { start with
    resolvedLineageParents :=
      start.resolvedLineageParents + items.countP (resolvedParent tool known)
    externalLineageParents :=
      start.externalLineageParents + items.countP (externalParent tool known) }

theorem countParents_same (known : LineageKey → Bool) (items : List LineageRecord)
    (start : ClusterReport) : SameMatches start (countParents tool known items start) := rfl

/-- The order of the records does not matter. -/
theorem countParents_perm (known : LineageKey → Bool) {items other : List LineageRecord}
    (same : items.Perm other) (start : ClusterReport) :
    countParents tool known items start = countParents tool known other start := by
  simp only [countParents, same.countP_eq]

theorem countParents_snoc (known : LineageKey → Bool) (items : List LineageRecord)
    (item : LineageRecord) (start : ClusterReport) :
    countParents tool known (items ++ [item]) start =
      countParents tool known [item] (countParents tool known items start) := by
  simp [countParents, List.countP_append, Nat.add_assoc]

theorem checkGlobal_monitors (included : Finset NodeId) (lineage : GlobalLineage)
    (start : ClusterReport) :
    Monitors (checkGlobal tool included lineage) (fun found => found.problems = [])
      (fun past found => found = countParents tool (fun key => (lineage.lookup key).isSome)
        (past.map fun entry => entry.2.1) start)
      (fun _ entry => entry.2.1.provenance.hops ≠ 0 →
        ∃ parent, lineageParentKey tool entry.2.1 = .ok parent ∧
          (∀ item, lineage.lookup parent = some item → entry.2.1.Continues item.1) ∧
          (lineage.lookup parent = none → parent.1 ∉ included)) := by
  constructor
  · intro found entry clean
    unfold checkGlobal at clean
    dsimp only at clean
    split at clean
    · exact clean
    · split at clean
      · exact ClusterReport.keeps_report clean
      · split at clean
        · exact ((checkGlobalParent_clean tool _ _ _ _ _ _ _).1.mp clean).1
        · split at clean
          · exact ClusterReport.keeps_report clean
          · exact clean
  · intro past found entry clean _
    unfold checkGlobal
    dsimp only
    by_cases root : entry.2.1.provenance.hops = 0
    · simp [root, clean]
    · rw [if_neg root]
      cases names : lineageParentKey tool entry.2.1 with
      | error err => simp [root, ClusterReport.report]
      | ok parent =>
          dsimp only
          cases stored : lineage.lookup parent with
          | none =>
              by_cases inside : parent.1 ∈ included
              · simp [root, inside, stored, ClusterReport.report]
              · simp [inside, stored, clean]
          | some item =>
              obtain ⟨parentRec, parentPath⟩ := item
              refine (checkGlobalParent_clean tool _ _ _ _ _ _ _).1.trans ?_
              simp [root, stored, clean]
  · intro past found entry clean rep
    rw [List.map_append, List.map_singleton, countParents_snoc, ← rep]
    unfold checkGlobal at clean ⊢
    dsimp only at clean ⊢
    by_cases root : entry.2.1.provenance.hops = 0
    · simp [root, countParents, resolvedParent, externalParent]
    · rw [if_neg root] at clean ⊢
      cases names : lineageParentKey tool entry.2.1 with
      | error err =>
          rw [names] at clean
          exact absurd clean (ClusterReport.report_problems _ _)
      | ok parent =>
          rw [names] at clean
          dsimp only at clean ⊢
          cases stored : lineage.lookup parent with
          | none =>
              rw [stored] at clean
              dsimp only at clean ⊢
              split at clean
              · exact absurd clean (ClusterReport.report_problems _ _)
              · rename_i outside
                rw [if_neg outside]
                simp [countParents, resolvedParent, externalParent, root, names, stored]
          | some item =>
              rw [stored] at clean
              dsimp only at clean ⊢
              obtain ⟨_, continues⟩ := (checkGlobalParent_clean tool _ _ _ _ _ _ _).1.mp clean
              rw [(checkGlobalParent_clean tool _ _ _ _ _ _ _).2 continues]
              simp [countParents, resolvedParent, externalParent, root, names, stored]

end Global

end UcoStack.Tool
