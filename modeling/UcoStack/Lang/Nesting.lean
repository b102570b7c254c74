import UcoStack.Library.ExceptRun
import UcoStack.Lang.RoundTrip

/-!
# How deep conditionals nest

The parser turns every action line into one action, and an action nests as many
conditionals as its line has groups `if <state> == <int>` in front.  The depth
that `parse_action` compares with its limit is the one it starts with.
-/

namespace UcoStack.Lang

open ExceptRun

/-! ## Nesting of actions and of lines -/

/-- The number of conditionals around the innermost action. -/
def ActionDecl.ifDepth : ActionDecl → Nat
  | .ifStateEq _ _ thenAction => thenAction.ifDepth + 1
  | _ => 0

/-- The number of groups `if <state> == <int>` in front of a token list. -/
def ifGroups : List String → Nat
  | head :: _ :: op :: _ :: rest => if head = "if" ∧ op = "==" then ifGroups rest + 1 else 0
  | _ => 0

def ServiceDecl.actions (service : ServiceDecl) : List ActionDecl :=
  service.handlers.flatMap HandlerDecl.actions

/-- The actions of a program in the order of its text. -/
def Module.actions (module : Module) : List ActionDecl :=
  module.services.flatMap ServiceDecl.actions

/-- The lines that `parse_module` takes for actions. -/
def isActionLine (raw : List Char) : Bool :=
  let line := trim raw
  !(line.isEmpty || startsWith line "//" || startsWith line "#" || startsWith line "service " ||
    startsWith line "state " || startsWith line "on " || startsWith line "effects ")

theorem ifGroups_of_head {head : String} {tail : List String} (other : head ≠ "if") :
    ifGroups (head :: tail) = 0 := by
  unfold ifGroups
  split
  · rename_i same
    cases same
    exact if_neg fun both => other both.1
  · rfl

section Actions

variable {lineNo : Nat} {toks : List String} {action : ActionDecl}

theorem parseLog_ifDepth (run : parseLog toks lineNo = .ok action) : action.ifDepth = 0 := by
  unfold parseLog at run
  split at run
  · cases run
  · cases run
    rfl

theorem parseSetState_ifDepth (run : parseSetState toks lineNo = .ok action) :
    action.ifDepth = 0 := by
  unfold parseSetState at run
  split at run
  · split at run
    · cases run
    · cases run
      rfl
  · cases run

theorem parseIncState_ifDepth (run : parseIncState toks lineNo = .ok action) :
    action.ifDepth = 0 := by
  unfold parseIncState at run
  split at run
  · cases run
    rfl
  · split at run
    · cases run
    · cases run
      rfl
  · cases run

theorem parseSend_ifDepth (run : parseSend toks lineNo = .ok action) : action.ifDepth = 0 := by
  unfold parseSend at run
  split at run
  · split at run
    · cases run
      rfl
    · split at run
      · rename_i rest _ _
        by_cases empty : rest.isEmpty
        · rw [if_pos empty] at run
          cases run
        · rw [if_neg empty] at run
          obtain ⟨_, _, run⟩ := bind_ok.mp run
          cases run
          rfl
      · cases run
  · cases run

theorem parseTimerLocal_ifDepth (run : parseTimerLocal toks lineNo = .ok action) :
    action.ifDepth = 0 := by
  unfold parseTimerLocal at run
  split at run
  · split at run
    · cases run
    · cases run
    · split at run
      · split at run
        · rename_i template
          by_cases empty : template.isEmpty
          · rw [if_pos empty] at run
            cases run
          · rw [if_neg empty] at run
            obtain ⟨_, _, run⟩ := bind_ok.mp run
            cases run
            rfl
        · cases run
      · split at run
        · split at run
          · cases run
          · cases run
            rfl
        · cases run
          rfl
  · cases run

/-- By recursion on the nested action of a conditional. -/
theorem parseActionTokens_ifDepth {depth : Nat}
    (run : parseActionTokens lineNo toks depth = .ok action) :
    action.ifDepth = ifGroups toks := by
  induction toks, depth using parseActionTokens.induct generalizing action with
  | case1 => cases run
  | case2 key op raw nested rest depth wrong =>
      rw [parseActionTokens, if_pos wrong] at run
      cases run
  | case3 key op raw nested rest depth equals reads =>
      rw [parseActionTokens, if_neg equals, reads] at run
      cases run
  | case4 key op raw nested rest depth equals value reads ih =>
      rw [parseActionTokens, if_neg equals, reads] at run
      dsimp only at run
      have equals : op = "==" := not_not.mp equals
      cases inner : parseActionTokens lineNo (nested :: rest) (depth + 1) with
      | error error =>
          rw [inner] at run
          cases run
      | ok thenAction =>
          rw [inner] at run
          cases run
          rw [ifGroups, if_pos ⟨rfl, equals⟩, ← ih inner]
          rfl
  | case5 tail depth =>
      rw [parseActionTokens] at run
      · rw [ifGroups_of_head (by decide)]
        exact parseLog_ifDepth run
      · assumption
  | case6 tail depth =>
      rw [parseActionTokens] at run
      · rw [ifGroups_of_head (by decide)]
        exact parseSetState_ifDepth run
      · assumption
  | case7 tail depth =>
      rw [parseActionTokens] at run
      · rw [ifGroups_of_head (by decide)]
        exact parseIncState_ifDepth run
      · assumption
  | case8 tail depth =>
      rw [parseActionTokens] at run
      · rw [ifGroups_of_head (by decide)]
        exact parseTimerLocal_ifDepth run
      · assumption
  | case9 tail depth =>
      rw [parseActionTokens] at run
      · rw [ifGroups_of_head (by decide)]
        exact parseSend_ifDepth run
      · assumption
  | case10 tail depth =>
      rw [parseActionTokens] at run
      · cases run
      · assumption
  | case11 head tail depth _ log set inc timer send conditional =>
      rw [parseActionTokens, if_neg log, if_neg set, if_neg inc, if_neg timer, if_neg send,
        if_neg conditional] at run
      · cases run
      · assumption

/-- The line number only matters in errors. -/
theorem tokenizeLoop_lineNo {quoted : Bool} {cur : List Char} {out : List String}
    {cs : List Char} (other : Nat) (run : tokenizeLoop lineNo quoted cur out cs = .ok toks) :
    tokenizeLoop other quoted cur out cs = .ok toks := by
  induction quoted, cur, out, cs using tokenizeLoop.induct with
  | case1 => cases run
  | case2 cur out => exact run
  | case3 cur out cs ih => exact ih run
  | case4 => cases run
  | case5 cur out next cs ih => exact ih run
  | case6 cur out c cs _ _ _ ih =>
      rw [tokenizeLoop] at run ⊢
      · exact ih run
      all_goals assumption
  | case7 cur out cs ih => exact ih run
  | case8 cur out c cs _ space empty ih =>
      rw [tokenizeLoop, if_pos space, if_pos empty] at run ⊢
      · exact ih run
      all_goals assumption
  | case9 cur out c cs _ space empty ih =>
      rw [tokenizeLoop, if_pos space, if_neg empty] at run ⊢
      · exact ih run
      all_goals assumption
  | case10 cur out c cs _ space ih =>
      rw [tokenizeLoop, if_neg space] at run ⊢
      · exact ih run
      all_goals assumption

theorem parseAction_ifDepth {line : List Char}
    (run : parseAction line lineNo 0 = .ok action) :
    ∃ toks, tokenize line lineNo = .ok toks ∧ action.ifDepth = ifGroups toks := by
  unfold parseAction at run
  rw [if_neg (by decide)] at run
  obtain ⟨toks, tokens, run⟩ := bind_ok.mp run
  exact ⟨toks, tokens, parseActionTokens_ifDepth run⟩

end Actions

/-! ## The actions of a program -/

section Lines

variable {st st' : ParserState} {lineNo : Nat}

/-- The actions read so far. -/
def ParserState.actions (st : ParserState) : List ActionDecl :=
  st.services.flatMap ServiceDecl.actions ++ st.currentService.toList.flatMap ServiceDecl.actions ++
    st.currentHandler.toList.flatMap HandlerDecl.actions

/-- A handler is only under construction inside a service. -/
def ParserState.Nested (st : ParserState) : Prop :=
  st.currentHandler.isSome = true → st.currentService.isSome = true

theorem flushHandler_actions (nested : st.Nested) (run : flushHandler st lineNo = .ok st') :
    st'.actions = st.actions ∧ st'.currentHandler = none ∧
      st'.currentService.isSome = st.currentService.isSome := by
  unfold flushHandler at run
  cases pending : st.currentHandler with
  | none =>
      rw [pending] at run
      cases run
      exact ⟨rfl, pending, rfl⟩
  | some handler =>
      rw [pending] at run
      dsimp only at run
      obtain ⟨service, current⟩ := Option.isSome_iff_exists.mp (nested (by rw [pending]; rfl))
      split at run
      · cases run
      · split at run
        · cases run
        · cases run
          refine ⟨?_, rfl, Option.isSome_map⟩
          simp [ParserState.actions, ServiceDecl.actions, pending, current]

theorem flushService_actions (st : ParserState) : (flushService st).actions = st.actions := by
  unfold flushService
  cases current : st.currentService with
  | none => rfl
  | some service => simp [ParserState.actions, current]

/-- A line adds its action, or leaves the actions as they are. -/
theorem parseLine_actions {raw : List Char} (nested : st.Nested)
    (run : parseLine st raw lineNo = .ok st') :
    st'.Nested ∧
      if isActionLine raw then
        ∃ action, parseAction (trim raw) lineNo 0 = .ok action ∧
          st'.actions = st.actions ++ [action]
      else st'.actions = st.actions := by
  unfold parseLine at run
  dsimp only at run
  by_cases blank : ((trim raw).isEmpty || startsWith (trim raw) "//" ||
      startsWith (trim raw) "#") = true
  · rw [if_pos blank] at run
    cases run
    simp [isActionLine, blank, nested]
  rw [if_neg blank] at run
  by_cases service : startsWith (trim raw) "service " = true
  · rw [if_pos service] at run
    obtain ⟨flushed, closed, run⟩ := bind_ok.mp run
    obtain ⟨toks, tokens, run⟩ := bind_ok.mp run
    obtain ⟨kept, noHandler, -⟩ := flushHandler_actions nested closed
    split at run
    · cases run
      have opened : (flushService flushed).currentService = none ∧
          (flushService flushed).currentHandler = none := by
        unfold flushService
        cases current : flushed.currentService with
        | none => exact ⟨current, noHandler⟩
        | some service => exact ⟨rfl, noHandler⟩
      have same := flushService_actions flushed
      refine ⟨fun _ => rfl, ?_⟩
      rw [if_neg (by simp [isActionLine, service])]
      rw [← kept, ← same]
      simp [ParserState.actions, ServiceDecl.actions, opened.1]
    · cases run
  rw [if_neg service] at run
  by_cases state : startsWith (trim raw) "state " = true
  · rw [if_pos state] at run
    obtain ⟨found, ensured, run⟩ := bind_ok.mp run
    have current := ensureService_ok ensured
    by_cases late : st.currentHandler.isSome
    · rw [if_pos late] at run
      cases run
    · rw [if_neg late] at run
      obtain ⟨declared, parsed, run⟩ := bind_ok.mp run
      cases run
      refine ⟨fun _ => rfl, ?_⟩
      rw [if_neg (by simp [isActionLine, state])]
      simp [ParserState.actions, ServiceDecl.actions, current]
  rw [if_neg state] at run
  by_cases on : startsWith (trim raw) "on " = true
  · rw [if_pos on] at run
    obtain ⟨found, ensured, run⟩ := bind_ok.mp run
    have current := ensureService_ok ensured
    obtain ⟨flushed, closed, run⟩ := bind_ok.mp run
    obtain ⟨kept, noHandler, same⟩ := flushHandler_actions nested closed
    obtain ⟨toks, tokens, run⟩ := bind_ok.mp run
    split at run
    · cases run
      refine ⟨fun _ => same.trans (by rw [current]; rfl), ?_⟩
      rw [if_neg (by simp [isActionLine, on]), ← kept]
      simp [ParserState.actions, noHandler]
    · cases run
  rw [if_neg on] at run
  obtain ⟨handler, ensured, run⟩ := bind_ok.mp run
  have current := ensureHandler_ok ensured
  have inService : st.currentService.isSome = true := nested (by rw [current]; rfl)
  by_cases effects : startsWith (trim raw) "effects " = true
  · rw [if_pos effects] at run
    unfold parseEffectsLine at run
    by_cases twice : !handler.effects.isEmpty
    · rw [if_pos twice] at run
      cases run
    rw [if_neg twice] at run
    by_cases late : !handler.actions.isEmpty
    · rw [if_pos late] at run
      cases run
    rw [if_neg late] at run
    obtain ⟨declared, parsed, run⟩ := bind_ok.mp run
    cases run
    refine ⟨fun _ => inService, ?_⟩
    rw [if_neg (by simp [isActionLine, effects])]
    simp [ParserState.actions, current]
  rw [if_neg effects] at run
  obtain ⟨action, parsed, run⟩ := bind_ok.mp run
  cases run
  refine ⟨fun _ => inService, ?_⟩
  have isAction : isActionLine raw = true := by
    simp only [Bool.or_eq_true, not_or, Bool.not_eq_true] at blank
    simp [isActionLine, blank, service, state, on, effects]
  rw [if_pos isAction]
  exact ⟨action, parsed, by simp [ParserState.actions, current]⟩

/-- The action of a line. -/
def LineAction (raw : List Char) (action : ActionDecl) : Prop :=
  ∃ lineNo, parseAction (trim raw) lineNo 0 = .ok action

theorem parseLines_lineActions {rawLines : List (List Char)} (nested : st.Nested)
    (run : parseLines st lineNo rawLines = .ok st') :
    st'.Nested ∧ ∃ actions, st'.actions = st.actions ++ actions ∧
      List.Forall₂ LineAction (rawLines.filter isActionLine) actions := by
  induction rawLines generalizing st lineNo with
  | nil =>
      cases run
      exact ⟨nested, [], (List.append_nil _).symm, .nil⟩
  | cons raw rest ih =>
      obtain ⟨next, first, others⟩ := bind_ok.mp run
      obtain ⟨stays, line⟩ := parseLine_actions nested first
      obtain ⟨final, actions, added, later⟩ := ih stays others
      refine ⟨final, ?_⟩
      cases isAction : isActionLine raw with
      | false =>
          rw [isAction, if_neg Bool.false_ne_true] at line
          rw [List.filter_cons_of_neg (by rw [isAction]; exact Bool.false_ne_true)]
          exact ⟨actions, by rw [added, line], later⟩
      | true =>
          rw [isAction, if_pos rfl] at line
          obtain ⟨action, parsed, appended⟩ := line
          rw [List.filter_cons_of_pos isAction]
          refine ⟨action :: actions, ?_, .cons ⟨lineNo, parsed⟩ later⟩
          rw [added, appended, List.append_assoc, List.singleton_append]

/-- The actions of an accepted program are those of its action lines, in order. -/
theorem parseModule_actions {src : String} {module : Module}
    (run : parseModule src = .ok module) :
    List.Forall₂ LineAction ((lines src.toList).filter isActionLine) module.actions := by
  obtain ⟨final, ran, run⟩ := bind_ok.mp run
  obtain ⟨nested, actions, added, related⟩ :=
    parseLines_lineActions (fun pending => by cases pending) ran
  obtain ⟨closed, flushed, run⟩ := bind_ok.mp run
  obtain ⟨kept, noHandler, -⟩ := flushHandler_actions nested flushed
  have same := flushService_actions closed
  by_cases empty : (flushService closed).services.isEmpty
  · rw [if_pos empty] at run
    cases run
  · rw [if_neg empty] at run
    cases run
    have inServices : (⟨(flushService closed).services⟩ : Module).actions =
        (flushService closed).actions := by
      unfold flushService
      cases current : closed.currentService with
      | none => simp [Module.actions, ParserState.actions, current, noHandler]
      | some service => simp [Module.actions, ParserState.actions, noHandler]
    rw [inServices, same, kept, added]
    exact related

end Lines

/-! ## The limit -/

/-- Every action of an accepted program nests as deep as the groups of its line. -/
theorem lineAction_ifDepth {raw : List Char} {action : ActionDecl}
    (parsed : LineAction raw action) {toks : List String} {lineNo : Nat}
    (tokens : tokenize (trim raw) lineNo = .ok toks) : action.ifDepth = ifGroups toks := by
  obtain ⟨other, run⟩ := parsed
  obtain ⟨found, read, depth⟩ := parseAction_ifDepth run
  have again := tokenizeLoop_lineNo other tokens
  have same : (.ok toks : Except ParseError (List String)) = .ok found := again.symm.trans read
  cases same
  exact depth

/-- The limit of eight conditionals holds of an accepted program exactly if the text of
every action line keeps it. -/
theorem nesting_limit_iff {src : String} {module : Module}
    (run : parseModule src = .ok module) :
    (∀ action ∈ module.actions, action.ifDepth ≤ 8) ↔
      ∀ raw ∈ lines src.toList, isActionLine raw = true → ∀ lineNo toks,
        tokenize (trim raw) lineNo = .ok toks → ifGroups toks ≤ 8 := by
  have related := parseModule_actions run
  constructor
  · intro limited raw member isAction lineNo toks tokens
    obtain ⟨action, found, parsed⟩ :=
      (mem_of_forall₂ related).1 raw (List.mem_filter.mpr ⟨member, isAction⟩)
    rw [← lineAction_ifDepth parsed tokens]
    exact limited action found
  · intro limited action member
    obtain ⟨raw, inside, parsed⟩ := (mem_of_forall₂ related).2 action member
    obtain ⟨inLines, isAction⟩ := List.mem_filter.mp inside
    obtain ⟨lineNo, ran⟩ := parsed
    obtain ⟨toks, tokens, -⟩ := parseAction_ifDepth ran
    rw [lineAction_ifDepth ⟨lineNo, ran⟩ tokens]
    exact limited raw inLines isAction lineNo toks tokens

/-! ## Programs at any depth -/

def nestedAction : Nat → ActionDecl
  | 0 => .log "x"
  | depth + 1 => .ifStateEq "n" 0 (nestedAction depth)

/-- A service whose only action stands behind conditionals. -/
def nestedModule (depth : Nat) : Module :=
  ⟨[⟨"Gateway", [⟨"n", 0⟩], [⟨"start", [.log], [nestedAction depth]⟩]⟩]⟩

theorem nestedAction_ifDepth (depth : Nat) : (nestedAction depth).ifDepth = depth := by
  induction depth with
  | zero => rfl
  | succ depth ih => exact congrArg (· + 1) ih

theorem nestedModule_wellFormed (depth : Nat) : (nestedModule depth).WellFormed := by
  have action : (nestedAction depth).WellFormed := by
    induction depth with
    | zero => exact (by decide : Clean "x")
    | succ depth ih => exact ⟨by decide, by decide, ih⟩
  refine ⟨by simp [nestedModule], fun service member => ?_⟩
  rw [List.mem_singleton.mp member]
  have named : Clean "Gateway" := by decide
  have message : Clean "start" := by decide
  have one : [HandlerEffect.log].Nodup := List.nodup_singleton _
  refine ⟨named, fun state inside => ?_, fun handler inside => ?_⟩
  · rw [List.mem_singleton.mp inside]
    exact ⟨by decide, by decide⟩
  · rw [List.mem_singleton.mp inside]
    refine ⟨message, by simp, one, by simp, fun other found => ?_⟩
    rw [List.mem_singleton.mp found]
    exact action

/-- The parser accepts programs of any depth. -/
theorem nesting_unbounded (depth : Nat) :
    ∃ src, parseModule src = .ok (nestedModule depth) ∧
      ∃ action ∈ (nestedModule depth).actions, action.ifDepth = depth :=
  ⟨writeModule (nestedModule depth), parseModule_writeModule (nestedModule_wellFormed depth),
    nestedAction depth, by simp [nestedModule, Module.actions, ServiceDecl.actions],
    nestedAction_ifDepth depth⟩

def nestedSource (depth : Nat) : String :=
  "service Gateway\nstate n = 0\non start\neffects log\n" ++
    String.join (List.replicate depth "if n == 0 ") ++ "log x\n"

/-- Eight conditionals keep the limit. -/
theorem nesting_limit_sample :
    parseModule (nestedSource 8) = .ok (nestedModule 8) ∧
      ∀ raw ∈ lines (nestedSource 8).toList, isActionLine raw = true → ∀ lineNo toks,
        tokenize (trim raw) lineNo = .ok toks → ifGroups toks ≤ 8 := by
  have accepted : parseModule (nestedSource 8) = .ok (nestedModule 8) := by decide +kernel
  have shallow : ∀ action ∈ (nestedModule 8).actions, action.ifDepth ≤ 8 := by decide
  exact ⟨accepted, (nesting_limit_iff accepted).mp shallow⟩

/-- Nine conditionals in one line are accepted. -/
theorem nesting_limit_exceeded :
    parseModule (nestedSource 9) = .ok (nestedModule 9) ∧
      ∃ action ∈ (nestedModule 9).actions, 8 < action.ifDepth :=
  ⟨by decide +kernel, by decide⟩

end UcoStack.Lang
