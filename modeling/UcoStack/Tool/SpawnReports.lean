import UcoStack.Tool.Classify

/-!
# Reports of spawned actors

The verifier reports a duplicate or a conflicting `Spawn` exactly if the spawned actors
of the trace are not distinct, whatever else it reports.
-/

namespace UcoStack.Tool

open UcoStack.Runtime
open Format

/-! ## The two messages -/

/-- How the two messages about a repeated `Spawn` start. -/
def spawnTexts : List Pattern :=
  [pattern "duplicate Spawn at seq ", pattern "conflicting Spawn at seq "]

def reportsSpawn (problem : String) : Bool :=
  spawnTexts.any fun part => decide (part.chars <+: problem.toList)

def Invariant.isSpawn : Invariant → Bool
  | .spawnOnce => true
  | .spawnSame => true
  | _ => false

/-- The fixed text at the start of a format tells whether it is one of the two. -/
def Invariant.opensApart (invariant : Invariant) : Bool :=
  if invariant.isSpawn then
    spawnTexts.any fun part => decide (part.chars <+: opening invariant.format)
  else
    spawnTexts.all fun part => decide (¬part.chars <+: opening invariant.format ∧
      ¬opening invariant.format <+: part.chars)

theorem allInvariants_openApart : allInvariants.all Invariant.opensApart = true := by
  decide +kernel

theorem Violation.reportsSpawn_iff {V : Type} (tool : ToolHost V) (violation : Violation) :
    reportsSpawn (violation.message tool) = true ↔ violation.invariant.isSpawn = true := by
  have apart : violation.invariant.opensApart = true :=
    List.all_eq_true.mp allInvariants_openApart _ (mem_allInvariants _)
  unfold Invariant.opensApart at apart
  unfold reportsSpawn
  rw [violation.message_toList]
  cases spawns : violation.invariant.isSpawn with
  | true =>
      rw [spawns, if_pos rfl] at apart
      obtain ⟨part, among, starts⟩ := List.any_eq_true.mp apart
      have first := (of_decide_eq_true starts).trans
        (opening_fill violation.invariant.format (violation.slotTexts tool))
      exact iff_of_true (List.any_eq_true.mpr ⟨part, among, decide_eq_true first⟩) rfl
  | false =>
      rw [spawns, if_neg Bool.false_ne_true] at apart
      refine iff_of_false (fun reports => ?_) Bool.false_ne_true
      obtain ⟨part, among, starts⟩ := List.any_eq_true.mp reports
      obtain ⟨longer, shorter⟩ := of_decide_eq_true (List.all_eq_true.mp apart part among)
      exact not_prefix_of_opening longer shorter (of_decide_eq_true starts)

/-! ## The findings of one event -/

section Findings

variable {V : Type}

/-- No finding is about a repeated `Spawn`. -/
def NoSpawn (findings : List (Finding V)) : Prop :=
  ∀ finding ∈ findings, finding.violation.invariant.isSpawn = false

namespace NoSpawn

variable {first later : List (Finding V)}

theorem nil : NoSpawn ([] : List (Finding V)) := fun finding member => by cases member

theorem one {violation : Violation} {about : Option (TraceEvent V)}
    (other : violation.invariant.isSpawn = false) : NoSpawn [⟨violation, about⟩] := by
  intro finding member
  rw [List.mem_singleton.mp member]
  exact other

theorem append_iff : NoSpawn (first ++ later) ↔ NoSpawn first ∧ NoSpawn later :=
  List.forall_mem_append

theorem append (front : NoSpawn first) (back : NoSpawn later) : NoSpawn (first ++ later) :=
  append_iff.mpr ⟨front, back⟩

theorem findingIf {fails : Prop} [Decidable fails] {violation : Violation}
    {about : Option (TraceEvent V)} (other : violation.invariant.isSpawn = false) :
    NoSpawn (findingIf fails violation about) := by
  unfold Tool.findingIf
  split
  · exact one other
  · exact nil

end NoSpawn

variable (tool : ToolHost V)

theorem lineageFindings_noSpawn (seq : Nat) (msgId : MsgId) (payload : V)
    (about : Option (TraceEvent V)) (st : VerifyState V) :
    NoSpawn (lineageFindings tool seq msgId payload about st) := by
  unfold lineageFindings
  cases read : readPayload tool seq msgId payload with
  | error violation =>
      rcases readPayload_error read with ⟨field, raw, rfl⟩ | ⟨err, rfl⟩ | rfl
      all_goals exact .one rfl
  | ok parsed =>
      dsimp only
      by_cases later : parsed.prov.hops ≠ 0
      · rw [dif_pos later]
        refine .append (.findingIf rfl) ?_
        unfold deliveredParentFindings
        cases st.deliveredLineage.lookup parsed.parent with
        | none => exact .nil
        | some parent =>
            refine .append (.append (.append ?_ ?_) ?_) ?_
            all_goals exact .findingIf rfl
      · rw [dif_neg later]
        refine .append (.append (.append (.append ?_ ?_) ?_) ?_) ?_
        all_goals exact .findingIf rfl

theorem knownFindings_noSpawn (naming : Naming) (ev : TraceEvent V) (actor : ActorId)
    (st : VerifyState V) : NoSpawn (knownFindings naming ev actor st) :=
  .findingIf rfl

theorem payloadFindings_noSpawn (ev : TraceEvent V) (receiver : ActorId) (msgId : MsgId)
    (st : VerifyState V) : NoSpawn (payloadFindings tool ev receiver msgId st) := by
  unfold payloadFindings
  split
  · exact lineageFindings_noSpawn tool ev.seq msgId _ _ st
  · exact .one rfl

theorem matchFindings_noSpawn (ev : TraceEvent V) (node : NodeId) (actor : ActorId)
    (msgId : MsgId) (st : VerifyState V) : NoSpawn (matchFindings ev node actor msgId st) := by
  unfold matchFindings
  split
  · exact .findingIf rfl
  · exact .one rfl

theorem effectFindings_noSpawn (ev : TraceEvent V) (declared observed : List EffectKind) :
    NoSpawn (effectFindings ev declared observed) := by
  unfold effectFindings
  refine .append (.append ?_ ?_) ?_
  all_goals exact .findingIf rfl

/-- A spawned actor is reported exactly if the table holds it. -/
theorem spawnFindings_noSpawn_iff (ev : TraceEvent V) (actor : ActorId) (service : String)
    (st : VerifyState V) :
    NoSpawn (spawnFindings ev actor service st) ↔ st.spawned.lookup actor = none := by
  unfold spawnFindings
  cases st.spawned.lookup actor with
  | none => exact iff_of_true .nil rfl
  | some prev =>
      refine iff_of_false (fun silent => ?_) nofun
      dsimp only at silent
      split at silent
      · cases silent _ List.mem_cons_self
      · cases silent _ List.mem_cons_self

theorem kindFindings_noSpawn_iff (ev : TraceEvent V) (st : VerifyState V) :
    NoSpawn (kindFindings tool ev st) ↔
      ∀ actor, spawnedActor ev.kind = some actor → st.spawned.lookup actor = none := by
  unfold kindFindings
  cases ev.kind with
  | spawn node actor service =>
      rw [spawnFindings_noSpawn_iff]
      refine ⟨fun absent other same => ?_, fun absent => absent actor rfl⟩
      cases same
      exact absent
  | send sender receiver msgId payload =>
      exact iff_of_true (.append (knownFindings_noSpawn _ _ _ _) (knownFindings_noSpawn _ _ _ _))
        nofun
  | netRecv node fromNode receiver msgId payload =>
      exact iff_of_true (.append (knownFindings_noSpawn _ _ _ _) (.findingIf rfl)) nofun
  | deliver node receiver msgId =>
      exact iff_of_true (.append (knownFindings_noSpawn _ _ _ _)
        (payloadFindings_noSpawn tool _ _ _ _)) nofun
  | netSend node toNode sender msgId payload =>
      exact iff_of_true (knownFindings_noSpawn _ _ _ _) nofun
  | log node sender service text => exact iff_of_true (knownFindings_noSpawn _ _ _ _) nofun
  | effectObserved node actor service msgType msgId declared observed =>
      exact iff_of_true (.append (.append (knownFindings_noSpawn _ _ _ _)
        (matchFindings_noSpawn _ _ _ _ _)) (effectFindings_noSpawn _ _ _)) nofun
  | faultInjected node fromNode receiver msgId action => exact iff_of_true .nil nofun
  | faultPolicy node step dropEvery delaySteps reorderWindow => exact iff_of_true .nil nofun
  | timerFired node sender timerId => exact iff_of_true .nil nofun

/-- The checks before the one of the kind are not about spawned actors. -/
theorem eventFindings_noSpawn_iff (previous : Option (TraceEvent V)) (ev : TraceEvent V)
    (st : VerifyState V) :
    NoSpawn (eventFindings tool previous ev st) ↔
      ∀ actor, spawnedActor ev.kind = some actor → st.spawned.lookup actor = none := by
  have seq : NoSpawn (seqFindings ev st) := .findingIf rfl
  have seed : NoSpawn (seedFindings ev st) := by
    unfold seedFindings
    split
    · exact .nil
    · exact .findingIf rfl
  have effect : NoSpawn (effectGapFindings tool previous ev st) := by
    unfold effectGapFindings
    split
    · exact .nil
    · exact .findingIf rfl
  have timer : NoSpawn (timerGapFindings tool previous ev st) := by
    unfold timerGapFindings
    split
    · exact .nil
    · split
      · exact .findingIf rfl
      · exact .one rfl
  have headers := ((seq.append seed).append effect).append timer
  unfold eventFindings
  rw [NoSpawn.append_iff, ← kindFindings_noSpawn_iff tool ev st]
  exact and_iff_right headers

theorem endFindings_noSpawn (previous : Option (TraceEvent V)) (st : VerifyState V) :
    NoSpawn (endFindings previous st) := by
  unfold endFindings
  refine .append ?_ ?_
  · cases st.pendingTimerEmit with
    | none => exact .nil
    | some pending => exact .one rfl
  · cases st.pendingEffectObserved with
    | none => exact .nil
    | some pending => exact .one rfl

/-! ## The findings of a trace -/

theorem verifyEvent_spawned (ev : TraceEvent V) (st : VerifyState V) :
    (verifyEvent tool st ev).spawned = spawnedAfter st.spawned ev.kind := by
  rw [verifyEvent_logs none ev st]
  rfl

/-- The run lemma: nothing is reported if the actors are distinct and not in the table. -/
theorem findingsFrom_noSpawn_iff (previous : Option (TraceEvent V)) (st : VerifyState V)
    (events : List (TraceEvent V)) :
    NoSpawn (findingsFrom tool previous st events) ↔
      (spawnedIn (kindsOf events)).Nodup ∧
        ∀ actor ∈ spawnedIn (kindsOf events), st.spawned.lookup actor = none := by
  induction events generalizing previous st with
  | nil =>
      exact iff_of_true (endFindings_noSpawn previous st)
        ⟨List.nodup_nil, fun _ member => absurd member List.not_mem_nil⟩
  | cons ev rest ih =>
      rw [findingsFrom, NoSpawn.append_iff, eventFindings_noSpawn_iff, ih, verifyEvent_spawned]
      cases spawns : spawnedActor ev.kind with
      | none =>
          have same : spawnedIn (kindsOf (ev :: rest)) = spawnedIn (kindsOf rest) :=
            List.filterMap_cons_none spawns
          have kept : spawnedAfter st.spawned ev.kind = st.spawned := by
            cases kind : ev.kind with
            | spawn node actor service =>
                rw [kind] at spawns
                cases spawns
            | _ => rfl
          rw [same, kept]
          exact and_iff_right fun _ same => by cases same
      | some actor =>
          have longer : spawnedIn (kindsOf (ev :: rest)) = actor :: spawnedIn (kindsOf rest) :=
            List.filterMap_cons_some spawns
          have inserted : ∃ service,
              spawnedAfter st.spawned ev.kind = st.spawned.insert actor service := by
            cases kind : ev.kind with
            | spawn node other service =>
                rw [kind] at spawns
                cases spawns
                exact ⟨service, rfl⟩
            | _ =>
                rw [kind] at spawns
                cases spawns
          obtain ⟨service, inserted⟩ := inserted
          have absent (other : ActorId) :
              (st.spawned.insert actor service).lookup other = none ↔
                other ≠ actor ∧ st.spawned.lookup other = none := by
            by_cases same : other = actor
            · subst same
              simp
            · rw [AList.lookup_insert_ne same]
              exact (and_iff_right same).symm
          rw [longer, inserted, List.nodup_cons, List.forall_mem_cons]
          simp only [absent]
          constructor
          · rintro ⟨first, distinct, later⟩
            exact ⟨⟨fun again => (later actor again).1 rfl, distinct⟩, first actor rfl,
              fun other member => (later other member).2⟩
          · rintro ⟨⟨fresh, distinct⟩, first, later⟩
            refine ⟨fun other same => ?_, distinct, fun other member => ⟨?_, later other member⟩⟩
            · cases same
              exact first
            · rintro rfl
              exact fresh member

/-- Nothing about a repeated `Spawn` is reported exactly if the spawned actors are
distinct. -/
theorem verifyTrace_reportsSpawn (trace : List (TraceEvent V)) :
    (∀ problem ∈ (verifyTrace tool trace).problems, reportsSpawn problem = false) ↔
      (spawnedIn (kindsOf trace)).Nodup := by
  have silent : (∀ problem ∈ (verifyTrace tool trace).problems, reportsSpawn problem = false) ↔
      NoSpawn (traceFindings tool trace) := by
    rw [traceFindings_problems, List.forall_mem_map]
    refine forall₂_congr fun finding _ => ?_
    have same := finding.violation.reportsSpawn_iff tool
    exact Bool.eq_iff_iff.mpr same ▸ Iff.rfl
  rw [silent]
  exact (findingsFrom_noSpawn_iff tool none .initial trace).trans
    (and_iff_left fun actor _ => AList.lookup_empty actor)

end Findings

end UcoStack.Tool
