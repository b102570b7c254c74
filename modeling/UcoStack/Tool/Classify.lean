import UcoStack.Library.FirstMatch
import UcoStack.Tool.JsonTool
import UcoStack.Tool.ClusterFindings
import UcoStack.Tool.Findings

/-!
# Classification

`classifyProblem` looks for fixed texts in a problem and gives the code of the first
branch that finds its own.  A violation gets the code of its check unless a text that
the message quotes holds the patterns of an earlier branch, with two exceptions: the
checks of spawned actors have no branch, and the message of a delivery that is not
followed by its effect record does not hold the pattern of its branch.
-/

namespace UcoStack.Tool

open UcoStack.Runtime
open Format

/-! ## The branches -/

/-- A text that is looked for, with its characters. -/
structure Pattern where
  text : String
  chars : List Char
  spells : text = String.ofList chars

def pattern (text : String) {chars : List Char} (spells : text = String.ofList chars := by rfl) :
    Pattern :=
  ⟨text, chars, spells⟩

/-- `problem.contains(pattern)`. -/
def contains (problem : String) (part : Pattern) : Bool :=
  decide (part.chars <:+: problem.toList)

/-- A branch is taken when all patterns of one alternative are found. -/
structure Rule where
  code : ProblemCode
  alternatives : List (List Pattern)

def Rule.fires (problem : String) (rule : Rule) : Bool :=
  rule.alternatives.any fun patterns => patterns.all (contains problem)

/-- The branches of `classify_problem` in source order. -/
def classifyRules : List Rule :=
  [⟨.traceSeqMismatch, [[pattern "seq mismatch"]]⟩,
    ⟨.traceSeedMismatch, [[pattern "seed mismatch"]]⟩,
    ⟨.deliverWithoutSource, [[pattern "without prior Send/NetRecv"]]⟩,
    ⟨.deliverWithoutEffectObserved, [[pattern "without EffectObserved"]]⟩,
    ⟨.effectWithoutDeliver, [[pattern "without preceding Deliver"]]⟩,
    ⟨.effectDeliverMismatch, [[pattern "does not match preceding Deliver"]]⟩,
    ⟨.effectUndeclaredObserved, [[pattern "undeclared observed effects"]]⟩,
    ⟨.effectDeclaredDuplicate, [[pattern "duplicate declared effects"]]⟩,
    ⟨.effectObservedDuplicate, [[pattern "duplicate observed effects"]]⟩,
    ⟨.payloadDecodeFailed, [[pattern "payload decode failed"]]⟩,
    ⟨.payloadMissingProvenance, [[pattern "payload missing provenance"]]⟩,
    ⟨.payloadInvalidProvenanceField, [[pattern "invalid provenance field"]]⟩,
    ⟨.lineageInvalidRoot, [[pattern "has hops=0 but"]]⟩,
    ⟨.lineageParentSelf, [[pattern "has hops>0 but parent_msg_id is self"]]⟩,
    ⟨.lineageParentMismatch, [[pattern "does not match parent"], [pattern "has hops="]]⟩,
    ⟨.faultDropRecvConflict, [[pattern "dropped earlier but later NetRecv observed"]]⟩,
    ⟨.timerWithoutImmediateEmit, [[pattern "TimerFired", pattern "not followed by Send/NetSend"]]⟩,
    ⟨.timerEmitActorMismatch, [[pattern "TimerFired", pattern "expected next send from actor"]]⟩,
    ⟨.timerWithoutEmitEndOfTrace,
      [[pattern "TimerFired", pattern "reached end-of-trace without Send/NetSend"]]⟩,
    ⟨.unknownActorReference, [[pattern "unknown actor"]]⟩,
    ⟨.clusterSendMissingInboundEvidence, [[pattern "no matching NetRecv or Drop fault"]]⟩,
    ⟨.clusterMissingSend, [[pattern "has no matching NetSend in provided traces"]]⟩,
    ⟨.clusterPayloadMismatch, [[pattern "payload mismatch"]]⟩,
    ⟨.clusterConflictingRecvAndDrop, [[pattern "has both NetRecv and Drop fault evidence"]]⟩,
    ⟨.clusterMissingLineageParent, [[pattern "missing in-cluster parent"]]⟩,
    ⟨.clusterDuplicateNetworkKey,
      [[pattern "duplicate NetSend key"], [pattern "duplicate NetRecv key"],
        [pattern "duplicate Drop fault key"]]⟩,
    ⟨.clusterDuplicateLineageKey, [[pattern "duplicate delivered lineage key"]]⟩,
    ⟨.lineageInvalidParentReference, [[pattern "invalid parent reference"]]⟩,
    ⟨.clusterTraceMixedNodes, [[pattern "mixes multiple node ids"]]⟩,
    ⟨.clusterTraceMissingNodeScope, [[pattern "has no node-scoped events"]]⟩]

def classifyProblem (problem : String) : ProblemCode :=
  firstHit (Rule.fires problem) Rule.code .unknown classifyRules

/-- The branches that are tried before the one of a code. -/
def rulesBefore (code : ProblemCode) : List Rule :=
  classifyRules.takeWhile fun rule => rule.code ≠ code

theorem classifyRules_distinct : (ProblemCode.unknown :: classifyRules.map Rule.code).Nodup := by
  decide

theorem classifyProblem_eq_iff {rule : Rule} (member : rule ∈ classifyRules) (problem : String) :
    classifyProblem problem = rule.code ↔
      rule.fires problem = true ∧ ∀ earlier ∈ rulesBefore rule.code,
        earlier.fires problem = false :=
  firstHit_eq_iff classifyRules_distinct member

/-! ## What the formats decide -/

/-- The pattern touches nothing fixed. -/
def Pattern.clearOf (format : Format) (part : Pattern) : Bool :=
  !part.chars.isEmpty && !canTouch part.chars format

def Pattern.standsIn (format : Format) (part : Pattern) : Bool := mustOccur part.chars format

/-- In a format without quotes it is enough that one pattern of each alternative touches
nothing. -/
def Rule.clearOf (format : Format) (rule : Rule) : Bool :=
  rule.alternatives.all fun patterns =>
    patterns.all (Pattern.clearOf format) ||
      (!hasFree format && patterns.any (Pattern.clearOf format))

/-- An alternative stands in the fixed text. -/
def Rule.standsIn (format : Format) (rule : Rule) : Bool :=
  rule.alternatives.any fun patterns => patterns.all (Pattern.standsIn format)

/-- What the format of a check decides: it is clear of the branches before its own, and of
its own too or holds its patterns. -/
def Invariant.decided (invariant : Invariant) : Bool :=
  match invariant.code with
  | none => true
  | some code =>
      ((rulesBefore code).all (Rule.clearOf invariant.format)) &&
        classifyRules.any fun own =>
          own.code = code &&
            if invariant = .effectGap then own.clearOf invariant.format
            else own.standsIn invariant.format

def allInvariants : List Invariant :=
  [.seqNext, .seedSame, .effectGap, .timerActor, .timerGap, .spawnOnce, .spawnSame,
    .known .sendFrom, .known .sendTo, .known .netRecvTo, .known .deliverTo, .known .netSendFrom,
    .known .logFrom, .known .effectFrom, .notDropped, .sourced, .fieldValid .originMsgId,
    .fieldValid .parentNode, .fieldValid .parentMsgId, .fieldValid .fromNode, .payloadDecodes,
    .hasProvenance, .rootOrigin, .rootParentMsg, .rootParentNode, .rootOriginNode,
    .rootOriginService, .parentNotSelf, .parentHops, .parentOrigin, .parentOriginNode,
    .parentOriginService, .effectMatches, .effectAfterDeliver, .declaredOnce, .observedOnce,
    .observedDeclared, .timerEnd, .deliverEnd, .traceHasNode, .traceOneNode, .keyOnce .netSend,
    .keyOnce .netRecv, .keyOnce .drop, .recvSent, .dropSent, .samePayload, .recvOrDrop, .sendSeen,
    .lineageOnce, .parentReadable, .globalHops, .globalOrigin .originMsgId,
    .globalOrigin .originNode, .globalOrigin .originService, .parentInCluster]

theorem mem_allInvariants (invariant : Invariant) : invariant ∈ allInvariants := by
  cases invariant with
  | known naming => cases naming <;> decide
  | fieldValid field => cases field <;> decide
  | keyOnce evidence => cases evidence <;> decide
  | globalOrigin field => cases field <;> decide
  | _ => decide

theorem allInvariants_decided : allInvariants.all Invariant.decided = true := by
  decide +kernel

theorem Invariant.decides (invariant : Invariant) : invariant.decided = true :=
  List.all_eq_true.mp allInvariants_decided invariant (mem_allInvariants invariant)

/-! ## When a problem gets its code -/

/-- A text of the list holds the pattern. -/
def Pattern.QuotedIn (quotes : List String) (part : Pattern) : Prop :=
  ∃ quote ∈ quotes, contains quote part = true

/-- The quoted texts alone make the branch fire. -/
def Rule.QuotedIn (quotes : List String) (rule : Rule) : Prop :=
  ∃ patterns ∈ rule.alternatives, ∀ part ∈ patterns, part.QuotedIn quotes

/-- Every branch needs some text. -/
theorem not_quotedIn_nil {rule : Rule} (member : rule ∈ classifyRules) : ¬rule.QuotedIn [] := by
  have needed : (classifyRules.all fun rule =>
      rule.alternatives.all fun patterns => !patterns.isEmpty) = true := rfl
  rintro ⟨patterns, among, every⟩
  have some := List.all_eq_true.mp (List.all_eq_true.mp needed rule member) patterns among
  rw [Bool.not_eq_true', List.isEmpty_eq_false_iff] at some
  obtain ⟨part, inside⟩ := List.exists_mem_of_ne_nil patterns some
  obtain ⟨quote, nothing, _⟩ := every part inside
  cases nothing

theorem contains_iff (problem : String) (part : Pattern) :
    contains problem part = true ↔ part.chars <:+: problem.toList := by
  rw [contains, decide_eq_true_iff]

section Formats

variable {format : Format} {texts : List (List Char)} {problem : String} {quotes : List String}

theorem Pattern.contains_iff_quoted (filled : Filled format texts problem.toList)
    (quoting : quoted format texts = quotes.map String.toList) {part : Pattern}
    (clear : part.clearOf format = true) :
    contains problem part = true ↔ part.QuotedIn quotes := by
  rw [Pattern.clearOf, Bool.and_eq_true, Bool.not_eq_true', Bool.not_eq_true',
    List.isEmpty_eq_false_iff] at clear
  rw [contains_iff, occurs_iff_quoted filled clear.1 clear.2, quoting]
  simp only [List.mem_map, exists_exists_and_eq_and]
  exact exists_congr fun quote => and_congr_right fun _ => (contains_iff quote part).symm

theorem Rule.fires_iff_quoted (filled : Filled format texts problem.toList)
    (quoting : quoted format texts = quotes.map String.toList) {rule : Rule}
    (clear : rule.clearOf format = true) :
    rule.fires problem = true ↔ rule.QuotedIn quotes := by
  rw [Rule.fires, List.any_eq_true]
  refine exists_congr fun patterns => and_congr_right fun member => ?_
  have alternative := List.all_eq_true.mp clear patterns member
  rw [List.all_eq_true]
  rcases Bool.or_eq_true_iff.mp alternative with every | closed
  · exact forall₂_congr fun part inside =>
      Pattern.contains_iff_quoted filled quoting (List.all_eq_true.mp every part inside)
  · rw [Bool.and_eq_true, Bool.not_eq_true'] at closed
    obtain ⟨part, inside, quiet⟩ := List.any_eq_true.mp closed.2
    have never : ¬part.QuotedIn quotes := by
      rw [quoted_eq_nil closed.1, eq_comm, List.map_eq_nil_iff] at quoting
      rintro ⟨quote, among, _⟩
      rw [quoting] at among
      cases among
    exact iff_of_false
      (fun all => never ((Pattern.contains_iff_quoted filled quoting quiet).mp (all part inside)))
      fun all => never (all part inside)

theorem Rule.fires_of_standsIn (filled : Filled format texts problem.toList) {rule : Rule}
    (stands : rule.standsIn format = true) : rule.fires problem = true := by
  obtain ⟨patterns, member, every⟩ := List.any_eq_true.mp stands
  refine List.any_eq_true.mpr ⟨patterns, member, List.all_eq_true.mpr fun part inside => ?_⟩
  exact (contains_iff problem part).mpr
    (occurs_of_mustOccur filled (List.all_eq_true.mp every part inside))

end Formats

/-- Only one branch gives the code of a delivery without an effect record. -/
theorem effect_rule {rule : Rule} (member : rule ∈ classifyRules)
    (code : rule.code = .deliverWithoutEffectObserved) :
    rule = ⟨.deliverWithoutEffectObserved, [[pattern "without EffectObserved"]]⟩ := by
  have only : (classifyRules.filter fun rule => rule.code = .deliverWithoutEffectObserved) =
      [⟨.deliverWithoutEffectObserved, [[pattern "without EffectObserved"]]⟩] := rfl
  have found : rule ∈ classifyRules.filter fun rule =>
      rule.code = .deliverWithoutEffectObserved :=
    List.mem_filter.mpr ⟨member, decide_eq_true code⟩
  rw [only] at found
  exact List.mem_singleton.mp found

namespace Violation

variable {V : Type} {tool : ToolHost V}

/-- The problem is given the code of the check that failed. -/
def Coded (tool : ToolHost V) (violation : Violation) : Prop :=
  violation.invariant.code = some (classifyProblem (violation.message tool))

/-- The check has a code, no branch before its own is held by the quoted texts, and the
message of a delivery not followed by its effect record quotes the pattern of its branch. -/
def Clear (violation : Violation) : Prop :=
  ∃ code, violation.invariant.code = some code ∧
    (violation.invariant = .effectGap →
      (pattern "without EffectObserved").QuotedIn violation.quotes) ∧
    ∀ rule ∈ rulesBefore code, ¬rule.QuotedIn violation.quotes

theorem coded_iff_clear (prints : PrintsHex tool) (violation : Violation) :
    violation.Coded tool ↔ violation.Clear := by
  have filled := violation.filled prints
  have quoting := @quoted_eq V tool violation
  have decided := violation.invariant.decides
  unfold Coded Clear
  rw [Invariant.decided] at decided
  cases coded : violation.invariant.code with
  | none => simp
  | some code =>
      rw [coded] at decided
      dsimp only at decided
      rw [Bool.and_eq_true, List.any_eq_true] at decided
      obtain ⟨before, own, member, owned⟩ := decided
      rw [Bool.and_eq_true, decide_eq_true_iff] at owned
      obtain ⟨rfl, stands⟩ := owned
      have earlier : (∀ rule ∈ rulesBefore own.code, rule.fires (violation.message tool) = false) ↔
          ∀ rule ∈ rulesBefore own.code, ¬rule.QuotedIn violation.quotes := by
        refine forall₂_congr fun rule among => ?_
        rw [← Rule.fires_iff_quoted filled quoting (List.all_eq_true.mp before rule among),
          Bool.not_eq_true]
      have fires : own.fires (violation.message tool) = true ↔
          (violation.invariant = .effectGap →
            (pattern "without EffectObserved").QuotedIn violation.quotes) := by
        by_cases gap : violation.invariant = .effectGap
        · rw [if_pos gap] at stands
          have single := effect_rule member (Option.some.inj (coded.symm.trans (by rw [gap]; rfl)))
          rw [Rule.fires_iff_quoted filled quoting stands, single, Rule.QuotedIn]
          simp [gap]
        · rw [if_neg gap] at stands
          exact iff_of_true (Rule.fires_of_standsIn filled stands) fun same => absurd same gap
      rw [Option.some.injEq, eq_comm, classifyProblem_eq_iff member, fires, earlier]
      simp

end Violation

/-! ## The codes of problems -/

/-- The problems of a trace and of a cluster are the messages of their violations, and a
problem is given the code of its check exactly when the violation is clear. -/
theorem problem_codes_iff {V : Type} [DecidableEq V] (tool : ToolHost V)
    (prints : PrintsHex tool) :
    (∀ events : List (TraceEvent V),
      (verifyTrace tool events).problems =
          (traceFindings tool events).map (Finding.problem tool) ∧
        ∀ finding ∈ traceFindings tool events,
          finding.violation.Coded tool ↔ finding.violation.Clear) ∧
      ∀ traces : List (ClusterTrace V),
        (verifyCluster tool traces).problems =
            (clusterViolations tool traces).map (Violation.message tool) ∧
          ∀ violation ∈ clusterViolations tool traces,
            violation.Coded tool ↔ violation.Clear := by
  constructor
  · intro events
    exact ⟨traceFindings_problems events,
      fun finding _ => finding.violation.coded_iff_clear prints⟩
  · intro traces
    exact ⟨clusterViolations_problems traces,
      fun violation _ => violation.coded_iff_clear prints⟩

theorem mem_hyphenate {sizes : List Nat} {cs : List Char} {c : Char}
    (member : c ∈ UuidText.hyphenate sizes cs) : c = '-' ∨ c ∈ cs := by
  induction sizes generalizing cs with
  | nil => exact .inr member
  | cons size sizes ih =>
      rw [UuidText.hyphenate, List.mem_append, List.mem_cons] at member
      rcases member with front | rfl | back
      · exact .inr (List.mem_of_mem_take front)
      · exact .inl rfl
      · exact (ih back).imp_right List.mem_of_mem_drop

theorem mem_digits {width value : Nat} {c : Char} (member : c ∈ UuidText.digits width value) :
    c ∈ UuidText.hexDigits := by
  have every : ∀ digit : Fin 16, UuidText.hexDigit digit.val ∈ UuidText.hexDigits := by decide
  induction width generalizing value with
  | zero => cases member
  | succ width ih =>
      rw [UuidText.digits, List.mem_append, List.mem_singleton] at member
      rcases member with front | rfl
      · exact ih front
      · exact every ⟨value % 16, Nat.mod_lt value (by decide)⟩

theorem uuidText_chars (id : Uuid) : ∀ c ∈ (UuidText.print id).toList, isUuidChar c = true := by
  intro c member
  rw [UuidText.print, String.toList_ofList] at member
  rw [isUuidChar, Bool.or_eq_true, beq_iff_eq, List.elem_iff]
  exact (mem_hyphenate member).imp_right mem_digits

/-- The derived `Debug` form of a log event. -/
def debugLog (node : NodeId) (sender : ActorId) (service text : String) : String :=
  s!"Log \x7b node: {UuidText.print node}, from: {UuidText.print sender}, " ++
    s!"service: \"{service}\", text: \"{text}\" \x7d"

/-- The JSON tool with the debug form of log events. -/
def debugTool : ToolHost JsonDoc :=
  { jsonTool with
    debugEvent := fun kind =>
      match kind with
      | .log node sender service text => debugLog node sender service text
      | kind => jsonTool.debugEvent kind }

theorem debugTool_printsHex : PrintsHex debugTool := uuidText_chars

/-- The sample trace with a log event in place of the effect record. -/
def gapTrace : List (TraceEvent JsonDoc) :=
  sampleTrace.take 4 ++ [⟨4, 7, .log 7 22 "B" "done"⟩]

/-- An actor that was never spawned; the problem is given its code. -/
def strayTrace : List (TraceEvent JsonDoc) :=
  [⟨0, 7, .spawn 7 11 "A"⟩, ⟨1, 7, .log 7 33 "B" "done"⟩]

theorem problem_codes_sample :
    (verifyTrace debugTool strayTrace).problems =
        [(Violation.known .logFrom 1 33).message debugTool] ∧
      classifyProblem ((Violation.known .logFrom 1 33).message debugTool) =
        .unknownActorReference := by
  obtain ⟨_, codes⟩ := (problem_codes_iff debugTool debugTool_printsHex).1 strayTrace
  have stray : (⟨.known .logFrom 1 33, some ⟨1, 7, .log 7 33 "B" "done"⟩⟩ : Finding JsonDoc) ∈
      traceFindings debugTool strayTrace := List.mem_singleton.mpr rfl
  have clear : (Violation.known .logFrom 1 33).Clear := by
    refine ⟨.unknownActorReference, rfl, (by intro same; cases same), fun rule member quoted => ?_⟩
    exact not_quotedIn_nil (List.takeWhile_subset _ member) quoted
  have coded := (codes _ stray).mpr clear
  exact ⟨rfl, (Option.some.inj coded).symm⟩

/-- The problem of the gap is not given its code. -/
theorem effectGap_loses_code :
    (verifyTrace debugTool gapTrace).problems =
        [(Violation.effectGap 3 (debugLog 7 22 "B" "done") 4).message debugTool] ∧
      classifyProblem ((Violation.effectGap 3 (debugLog 7 22 "B" "done") 4).message debugTool) ≠
        .deliverWithoutEffectObserved := by
  refine ⟨rfl, fun same => ?_⟩
  have coded : (Violation.effectGap 3 (debugLog 7 22 "B" "done") 4).Coded debugTool :=
    congrArg some same.symm
  obtain ⟨_, _, quoted, _⟩ := (Violation.coded_iff_clear debugTool_printsHex _).mp coded
  obtain ⟨quote, member, holds⟩ := quoted rfl
  rw [List.mem_singleton.mp member] at holds
  have absent : contains (debugLog 7 22 "B" "done") (pattern "without EffectObserved") = false := by
    decide +kernel
  cases holds.symm.trans absent

end UcoStack.Tool
