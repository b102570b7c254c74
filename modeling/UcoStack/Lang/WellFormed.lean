import UcoStack.Lang.Parser
import UcoStack.Library.ExceptRun

/-!
# Well-formed service-language modules

`Module.WellFormed` says which syntax trees are programs, without mentioning
program text.  Every module the parser returns is well-formed.

Integer literals of the source are `i64` values and timer steps are `u64`
values, so the machine ranges are part of the condition.
-/

namespace UcoStack.Lang

open ExceptRun

/-! ## The condition -/

/-- A name, a template or a node target: some text on one line. -/
def Clean (text : String) : Prop := text ≠ "" ∧ '\n' ∉ text.toList

instance (text : String) : Decidable (Clean text) :=
  inferInstanceAs (Decidable (_ ∧ _))

def IsI64 (value : Int) : Prop := -2 ^ 63 ≤ value ∧ value < 2 ^ 63

instance (value : Int) : Decidable (IsI64 value) :=
  inferInstanceAs (Decidable (_ ∧ _))

def RemoteTarget.WellFormed : RemoteTarget → Prop
  | .peers | .sender => True
  | .node raw => Clean raw

instance : (target : RemoteTarget) → Decidable target.WellFormed
  | .peers | .sender => inferInstanceAs (Decidable True)
  | .node raw => inferInstanceAs (Decidable (Clean raw))

/-- The steps of a timer: a positive `u64`. -/
def IsDelay (steps : Nat) : Prop := 1 ≤ steps ∧ steps < 2 ^ 64

instance (steps : Nat) : Decidable (IsDelay steps) :=
  inferInstanceAs (Decidable (_ ∧ _))

def ActionDecl.WellFormed : ActionDecl → Prop
  | .log template => Clean template
  | .setState key value => Clean key ∧ IsI64 value
  | .incState key amount => Clean key ∧ IsI64 amount
  | .timerLocal steps service message template =>
      IsDelay steps ∧ Clean service ∧ Clean message ∧ Clean template
  | .timerRemote steps target service message template =>
      IsDelay steps ∧ target.WellFormed ∧ Clean service ∧ Clean message ∧ Clean template
  | .sendLocal service message template =>
      Clean service ∧ Clean message ∧ Clean template
  | .sendRemote target service message template =>
      target.WellFormed ∧ Clean service ∧ Clean message ∧ Clean template
  | .ifStateEq key value thenAction =>
      Clean key ∧ IsI64 value ∧ thenAction.WellFormed

instance ActionDecl.decidableWellFormed :
    (action : ActionDecl) → Decidable action.WellFormed
  | .log _ => inferInstanceAs (Decidable (Clean _))
  | .setState _ _ => inferInstanceAs (Decidable (_ ∧ _))
  | .incState _ _ => inferInstanceAs (Decidable (_ ∧ _))
  | .timerLocal _ _ _ _ => inferInstanceAs (Decidable (_ ∧ _))
  | .timerRemote _ _ _ _ _ => inferInstanceAs (Decidable (_ ∧ _))
  | .sendLocal _ _ _ => inferInstanceAs (Decidable (_ ∧ _))
  | .sendRemote _ _ _ _ => inferInstanceAs (Decidable (_ ∧ _))
  | .ifStateEq key value thenAction =>
      have := thenAction.decidableWellFormed
      inferInstanceAs (Decidable (Clean key ∧ IsI64 value ∧ thenAction.WellFormed))

def StateDecl.WellFormed (state : StateDecl) : Prop := Clean state.name ∧ IsI64 state.initial

instance (state : StateDecl) : Decidable state.WellFormed :=
  inferInstanceAs (Decidable (_ ∧ _))

structure HandlerDecl.WellFormed (handler : HandlerDecl) : Prop where
  on : Clean handler.on
  effects_nonempty : handler.effects ≠ []
  effects_nodup : handler.effects.Nodup
  actions_nonempty : handler.actions ≠ []
  actions : ∀ action ∈ handler.actions, action.WellFormed

structure ServiceDecl.WellFormed (service : ServiceDecl) : Prop where
  name : Clean service.name
  states : ∀ state ∈ service.states, state.WellFormed
  handlers : ∀ handler ∈ service.handlers, handler.WellFormed

structure Module.WellFormed (module : Module) : Prop where
  services_nonempty : module.services ≠ []
  services : ∀ service ∈ module.services, service.WellFormed

/-! ## Tokens of one line -/

theorem clean_ofList {cs : List Char} (nonempty : cs ≠ []) (oneLine : '\n' ∉ cs) :
    Clean (String.ofList cs) := by
  constructor
  · intro same
    apply nonempty
    have sameChars := congrArg String.toList same
    simpa using sameChars
  · simpa using oneLine

theorem oneLine_shift {cur cs : List Char} {c : Char}
    (current : '\n' ∉ cur) (ahead : '\n' ∉ c :: cs) : '\n' ∉ cur ++ [c] ∧ '\n' ∉ cs := by
  simp only [List.mem_cons, not_or] at ahead
  refine ⟨?_, ahead.2⟩
  simp only [List.mem_append, List.mem_singleton, not_or]
  exact ⟨current, ahead.1⟩

theorem clean_finish {cur : List Char} {out : List String} (current : '\n' ∉ cur)
    (nonempty : ¬ cur.isEmpty) (finished : ∀ tok ∈ out, Clean tok) :
    ∀ tok ∈ out ++ [String.ofList cur], Clean tok := by
  intro tok member
  rcases List.mem_append.mp member with earlier | last
  · exact finished tok earlier
  · rw [List.mem_singleton.mp last]
    exact clean_ofList (by simpa using nonempty) current

/-- The character loop keeps every finished token clean. -/
theorem tokenizeLoop_clean {lineNo : Nat} {quoted : Bool} {cur : List Char}
    {out toks : List String} {cs : List Char}
    (run : tokenizeLoop lineNo quoted cur out cs = .ok toks)
    (current : '\n' ∉ cur) (ahead : '\n' ∉ cs) (finished : ∀ tok ∈ out, Clean tok) :
    ∀ tok ∈ toks, Clean tok := by
  induction quoted, cur, out, cs using tokenizeLoop.induct with
  | case1 =>
    rw [tokenizeLoop] at run
    cases run
  | case2 cur out =>
      rw [tokenizeLoop] at run
      by_cases empty : cur.isEmpty
      · rw [if_pos empty] at run
        cases run
        exact finished
      · rw [if_neg empty] at run
        cases run
        exact clean_finish current empty finished
  | case3 cur out cs ih =>
      rw [tokenizeLoop] at run
      exact ih run current (oneLine_shift current ahead).2 finished
  | case4 =>
    rw [tokenizeLoop] at run
    cases run
  | case5 cur out next cs ih =>
      rw [tokenizeLoop] at run
      obtain ⟨longer, rest⟩ := oneLine_shift current (oneLine_shift current ahead).2
      exact ih run longer rest finished
  | case6 cur out c cs _ _ _ ih =>
      rw [tokenizeLoop] at run
      · obtain ⟨longer, rest⟩ := oneLine_shift current ahead
        exact ih run longer rest finished
      all_goals assumption
  | case7 cur out cs ih =>
      rw [tokenizeLoop] at run
      exact ih run current (oneLine_shift current ahead).2 finished
  | case8 cur out c cs _ space empty ih =>
      rw [tokenizeLoop, if_pos space, if_pos empty] at run
      · exact ih run (by simp) (oneLine_shift current ahead).2 finished
      · assumption
  | case9 cur out c cs _ space empty ih =>
      rw [tokenizeLoop, if_pos space, if_neg empty] at run
      · exact ih run (by simp) (oneLine_shift current ahead).2
          (clean_finish current empty finished)
      · assumption
  | case10 cur out c cs _ space ih =>
      rw [tokenizeLoop, if_neg space] at run
      · obtain ⟨longer, rest⟩ := oneLine_shift current ahead
        exact ih run longer rest finished
      · assumption

theorem tokenize_clean {line : List Char} {lineNo : Nat} {toks : List String}
    (run : tokenize line lineNo = .ok toks) (oneLine : '\n' ∉ line) :
    ∀ tok ∈ toks, Clean tok :=
  tokenizeLoop_clean run (by simp) oneLine (by simp)

theorem joinSpaces_clean {toks : List String} (nonempty : toks ≠ [])
    (clean : ∀ tok ∈ toks, Clean tok) : Clean (joinSpaces toks) := by
  induction toks with
  | nil => exact absurd rfl nonempty
  | cons tok rest ih =>
      have first := clean tok List.mem_cons_self
      cases rest with
      | nil => simpa [joinSpaces] using first
      | cons next rest =>
          obtain ⟨_, others⟩ := ih (by simp) fun other member =>
            clean other (List.mem_cons_of_mem _ member)
          have joined : (joinSpaces (tok :: next :: rest)).toList =
              tok.toList ++ ' ' :: (joinSpaces (next :: rest)).toList := by
            simp [joinSpaces, String.intercalate_cons_cons]
          constructor
          · intro empty
            rw [empty] at joined
            simp at joined
          · rw [joined]
            simp only [List.mem_append, List.mem_cons, not_or]
            exact ⟨first.2, by decide, others⟩

/-! ## Lines -/

theorem trim_subset (cs : List Char) : trim cs ⊆ cs := by
  intro c member
  have fromBack := (List.dropWhile_sublist _).mem (List.mem_reverse.mp member)
  exact (List.dropWhile_sublist _).mem (List.mem_reverse.mp fromBack)

theorem splitOn_oneLine {cs part : List Char} (member : part ∈ cs.splitOn '\n') :
    '\n' ∉ part := by
  induction cs generalizing part with
  | nil =>
      rw [List.splitOn_nil, List.mem_singleton] at member
      simp [member]
  | cons c cs ih =>
      rw [List.splitOn_cons_eq_if_modifyHead] at member
      obtain ⟨first, parts, split⟩ :=
        List.exists_cons_of_ne_nil (List.splitOn_ne_nil '\n' cs)
      rw [split] at member ih
      by_cases lineBreak : c = '\n'
      · rw [if_pos (by simpa using lineBreak)] at member
        rcases List.mem_cons.mp member with rfl | later
        · exact List.not_mem_nil
        · exact ih later
      · rw [if_neg (by simpa using lineBreak), List.modifyHead_cons] at member
        rcases List.mem_cons.mp member with rfl | later
        · rw [List.mem_cons, not_or]
          exact ⟨fun same => lineBreak same.symm, ih List.mem_cons_self⟩
        · exact ih (List.mem_cons_of_mem _ later)

theorem dropCarriageReturn_subset (line : List Char) : dropCarriageReturn line ⊆ line := by
  unfold dropCarriageReturn
  by_cases ending : line.getLast? = some '\r'
  · rw [if_pos ending]
    exact List.dropLast_subset line
  · rw [if_neg ending]
    exact List.Subset.refl line

theorem lines_oneLine {src line : List Char} (member : line ∈ lines src) : '\n' ∉ line := by
  simp only [lines, List.mem_append, List.mem_map, List.mem_filter, Option.mem_toList] at member
  rcases member with ⟨part, inside, rfl⟩ | ⟨last, _⟩
  · exact fun lineBreak =>
      splitOn_oneLine (List.dropLast_subset _ inside) (dropCarriageReturn_subset part lineBreak)
  · exact splitOn_oneLine (List.mem_of_getLast? last)

/-! ## Actions -/

theorem parseI64_range {token : String} {value : Int} (reads : parseI64 token = some value) :
    IsI64 value := by
  unfold parseI64 at reads
  split at reads <;>
  · obtain ⟨n, _, checked⟩ := Option.bind_eq_some_iff.mp reads
    obtain ⟨range, same⟩ := Option.ite_none_right_eq_some.mp checked
    cases same
    exact range

theorem parseU64_range {token : String} {value : Nat} (reads : parseU64 token = some value) :
    value < 2 ^ 64 := by
  obtain ⟨n, _, checked⟩ := Option.bind_eq_some_iff.mp reads
  obtain ⟨range, same⟩ := Option.ite_none_right_eq_some.mp checked
  cases same
  exact range

theorem clean_drop {text : String} {count : Nat} (clean : Clean text)
    (longer : count < text.toList.length) : Clean (String.ofList (text.toList.drop count)) := by
  apply clean_ofList
  · intro empty
    rw [List.drop_eq_nil_iff] at empty
    omega
  · exact fun member => clean.2 (List.mem_of_mem_drop member)

theorem parseRemoteTarget_wellFormed {raw : String} {lineNo : Nat} {target : RemoteTarget}
    (run : parseRemoteTarget raw lineNo = .ok target) (clean : Clean raw) :
    target.WellFormed := by
  unfold parseRemoteTarget at run
  by_cases peers : raw = "peers"
  · rw [if_pos peers] at run
    cases run
    trivial
  rw [if_neg peers] at run
  by_cases sender : raw = "sender"
  · rw [if_pos sender] at run
    cases run
    trivial
  rw [if_neg sender] at run
  by_cases node : (startsWith raw.toList "node:" && 5 < raw.toList.length) = true
  · rw [if_pos node] at run
    cases run
    have longer : 5 < raw.toList.length := by simpa using (Bool.and_eq_true_iff.mp node).2
    exact clean_drop clean longer
  · rw [if_neg node] at run
    cases run

section Actions

variable {toks : List String} {lineNo : Nat} {action : ActionDecl}

theorem parseLog_wellFormed (run : parseLog toks lineNo = .ok action)
    (clean : ∀ tok ∈ toks, Clean tok) : action.WellFormed := by
  unfold parseLog at run
  by_cases short : toks.length < 2
  · rw [if_pos short] at run
    cases run
  · rw [if_neg short] at run
    cases run
    apply joinSpaces_clean
    · intro empty
      rw [List.drop_eq_nil_iff] at empty
      omega
    · exact fun tok member => clean tok (List.mem_of_mem_drop member)

theorem parseSetState_wellFormed (run : parseSetState toks lineNo = .ok action)
    (clean : ∀ tok ∈ toks, Clean tok) : action.WellFormed := by
  unfold parseSetState at run
  split at run
  · rename_i key raw
    cases reads : parseI64 raw with
    | none => simp [reads] at run
    | some value =>
        rw [reads] at run
        cases run
        exact ⟨clean key (by simp), parseI64_range reads⟩
  · cases run

theorem parseIncState_wellFormed (run : parseIncState toks lineNo = .ok action)
    (clean : ∀ tok ∈ toks, Clean tok) : action.WellFormed := by
  unfold parseIncState at run
  split at run
  · rename_i key
    cases run
    exact ⟨clean key (by simp), by decide⟩
  · rename_i key raw
    cases reads : parseI64 raw with
    | none => simp [reads] at run
    | some amount =>
        rw [reads] at run
        cases run
        exact ⟨clean key (by simp), parseI64_range reads⟩
  · cases run

theorem parseTimerLocal_wellFormed (run : parseTimerLocal toks lineNo = .ok action)
    (clean : ∀ tok ∈ toks, Clean tok) : action.WellFormed := by
  unfold parseTimerLocal at run
  split at run
  · rename_i rawSteps scope tok3 tok4 rest
    simp only [List.forall_mem_cons] at clean
    obtain ⟨_, _, scopeClean, clean3, clean4, restClean⟩ := clean
    cases reads : parseU64 rawSteps with
    | none => simp [reads] at run
    | some steps =>
        rw [reads] at run
        cases steps with
        | zero => simp at run
        | succ steps =>
            have delay : IsDelay (steps + 1) := ⟨by omega, parseU64_range reads⟩
            by_cases remote : scope = "remote"
            · simp only [if_pos remote] at run
              cases rest with
              | nil => cases run
              | cons tok5 template =>
                  simp only [List.forall_mem_cons] at restClean
                  dsimp only at run
                  by_cases empty : template.isEmpty
                  · rw [if_pos empty] at run
                    cases run
                  · rw [if_neg empty] at run
                    obtain ⟨target, parsed, run⟩ := bind_ok.mp run
                    cases run
                    exact ⟨delay, parseRemoteTarget_wellFormed parsed clean3, clean4,
                      restClean.1, joinSpaces_clean (by simpa using empty) restClean.2⟩
            · simp only [if_neg remote] at run
              by_cases here : scope = "local"
              · rw [if_pos here] at run
                by_cases empty : rest.isEmpty
                · rw [if_pos empty] at run
                  cases run
                · rw [if_neg empty] at run
                  cases run
                  exact ⟨delay, clean3, clean4,
                    joinSpaces_clean (by simpa using empty) restClean⟩
              · rw [if_neg here] at run
                cases run
                exact ⟨delay, scopeClean, clean3, joinSpaces_clean (by simp)
                  (List.forall_mem_cons.mpr ⟨clean4, restClean⟩)⟩
  · cases run

theorem parseSend_wellFormed (run : parseSend toks lineNo = .ok action)
    (clean : ∀ tok ∈ toks, Clean tok) : action.WellFormed := by
  unfold parseSend at run
  split at run
  · rename_i scope tok2 tok3 tok4 rest
    simp only [List.forall_mem_cons] at clean
    obtain ⟨_, _, clean2, clean3, clean4, restClean⟩ := clean
    by_cases here : scope = "local"
    · rw [if_pos here] at run
      cases run
      exact ⟨clean2, clean3, joinSpaces_clean (by simp)
        (List.forall_mem_cons.mpr ⟨clean4, restClean⟩)⟩
    · rw [if_neg here] at run
      by_cases remote : scope = "remote"
      · rw [if_pos remote] at run
        by_cases empty : rest.isEmpty
        · rw [if_pos empty] at run
          cases run
        · rw [if_neg empty] at run
          obtain ⟨target, parsed, run⟩ := bind_ok.mp run
          cases run
          exact ⟨parseRemoteTarget_wellFormed parsed clean2, clean3, clean4,
            joinSpaces_clean (by simpa using empty) restClean⟩
      · rw [if_neg remote] at run
        cases run
  · cases run

/-- By recursion on the nested action of a conditional. -/
theorem parseActionTokens_wellFormed {depth : Nat}
    (run : parseActionTokens lineNo toks depth = .ok action)
    (clean : ∀ tok ∈ toks, Clean tok) : action.WellFormed := by
  induction toks, depth using parseActionTokens.induct generalizing action with
  | case1 => cases run
  | case2 key op raw nested rest depth wrong =>
      rw [parseActionTokens, if_pos wrong] at run
      cases run
  | case3 key op raw nested rest depth equals reads =>
      rw [parseActionTokens, if_neg equals, reads] at run
      cases run
  | case4 key op raw nested rest depth equals value reads ih =>
      rw [parseActionTokens, if_neg equals, reads] at run
      dsimp only at run
      cases inner : parseActionTokens lineNo (nested :: rest) (depth + 1) with
      | error error =>
          rw [inner] at run
          cases run
      | ok thenAction =>
          rw [inner] at run
          cases run
          simp only [List.forall_mem_cons] at clean
          obtain ⟨_, keyClean, _, _, restClean⟩ := clean
          exact ⟨keyClean, parseI64_range reads,
            ih inner (List.forall_mem_cons.mpr restClean)⟩
  | case5 tail depth =>
      rw [parseActionTokens] at run
      · exact parseLog_wellFormed run clean
      · assumption
  | case6 tail depth =>
      rw [parseActionTokens] at run
      · exact parseSetState_wellFormed run clean
      · assumption
  | case7 tail depth =>
      rw [parseActionTokens] at run
      · exact parseIncState_wellFormed run clean
      · assumption
  | case8 tail depth =>
      rw [parseActionTokens] at run
      · exact parseTimerLocal_wellFormed run clean
      · assumption
  | case9 tail depth =>
      rw [parseActionTokens] at run
      · exact parseSend_wellFormed run clean
      · assumption
  | case10 tail depth =>
      rw [parseActionTokens] at run
      · cases run
      · assumption
  | case11 head tail depth _ log set inc timer send conditional =>
      rw [parseActionTokens, if_neg log, if_neg set, if_neg inc, if_neg timer, if_neg send,
        if_neg conditional] at run
      · cases run
      · assumption

end Actions

/-! ## Declarations -/

theorem parseAction_wellFormed {line : List Char} {lineNo depth : Nat} {action : ActionDecl}
    (run : parseAction line lineNo depth = .ok action) (oneLine : '\n' ∉ line) :
    action.WellFormed := by
  unfold parseAction at run
  by_cases deep : 8 < depth
  · rw [if_pos deep] at run
    cases run
  · rw [if_neg deep] at run
    obtain ⟨toks, tokens, run⟩ := bind_ok.mp run
    exact parseActionTokens_wellFormed run (tokenize_clean tokens oneLine)

theorem parseStateDecl_wellFormed {line : List Char} {lineNo : Nat} {state : StateDecl}
    (run : parseStateDecl line lineNo = .ok state) (oneLine : '\n' ∉ line) :
    state.WellFormed := by
  obtain ⟨toks, tokens, run⟩ := bind_ok.mp run
  have clean := tokenize_clean tokens oneLine
  split at run
  · rename_i name raw
    cases reads : parseI64 raw with
    | none =>
        rw [reads] at run
        cases run
    | some initial =>
        rw [reads] at run
        cases run
        exact ⟨clean name (by simp), parseI64_range reads⟩
  · cases run

theorem parseEffectsLoop_nodup {lineNo : Nat} {parts : List String}
    {out effects : List HandlerEffect} (run : parseEffectsLoop lineNo parts out = .ok effects)
    (distinct : out.Nodup) : effects.Nodup := by
  induction parts generalizing out with
  | nil =>
      cases run
      exact distinct
  | cons part parts ih =>
      obtain ⟨found, _, run⟩ := bind_ok.mp run
      cases found with
      | none => exact ih run distinct
      | some effect =>
          apply ih run
          by_cases known : effect ∈ out
          · rw [if_pos known]
            exact distinct
          · rw [if_neg known]
            apply List.nodup_append.mpr
            refine ⟨distinct, List.nodup_singleton effect, ?_⟩
            intro earlier member last isLast same
            rw [List.mem_singleton.mp isLast] at same
            exact known (same ▸ member)

theorem parseEffectsDecl_wellFormed {line : List Char} {lineNo : Nat}
    {effects : List HandlerEffect} (run : parseEffectsDecl line lineNo = .ok effects) :
    effects ≠ [] ∧ effects.Nodup := by
  obtain ⟨toks, _, run⟩ := bind_ok.mp run
  by_cases short : toks.length < 2
  · rw [if_pos short] at run
    cases run
  · rw [if_neg short] at run
    obtain ⟨out, loop, run⟩ := bind_ok.mp run
    by_cases empty : out.isEmpty
    · rw [if_pos empty] at run
      cases run
    · rw [if_neg empty] at run
      cases run
      exact ⟨by simpa using empty, parseEffectsLoop_nodup loop List.nodup_nil⟩

/-! ## Modules -/

/-- A handler under construction: its lists may still be empty. -/
structure HandlerDecl.Open (handler : HandlerDecl) : Prop where
  on : Clean handler.on
  effects_nodup : handler.effects.Nodup
  actions : ∀ action ∈ handler.actions, action.WellFormed

/-- What holds of the parser's variables between two lines. -/
structure ParserState.WellFormed (st : ParserState) : Prop where
  services : ∀ service ∈ st.services, service.WellFormed
  currentService : ∀ service, st.currentService = some service → service.WellFormed
  currentHandler : ∀ handler, st.currentHandler = some handler → handler.Open

theorem initial_wellFormed : ParserState.initial.WellFormed where
  services := by simp [ParserState.initial]
  currentService := by simp [ParserState.initial]
  currentHandler := by simp [ParserState.initial]

variable {st st' : ParserState} {line : List Char} {lineNo : Nat}

theorem flushHandler_wellFormed (run : flushHandler st lineNo = .ok st')
    (good : st.WellFormed) : st'.WellFormed := by
  unfold flushHandler at run
  cases pending : st.currentHandler with
  | none =>
      rw [pending] at run
      cases run
      exact good
  | some handler =>
      rw [pending] at run
      dsimp only at run
      by_cases noActions : handler.actions.isEmpty
      · rw [if_pos noActions] at run
        cases run
      rw [if_neg noActions] at run
      by_cases noEffects : handler.effects.isEmpty
      · rw [if_pos noEffects] at run
        cases run
      rw [if_neg noEffects] at run
      cases run
      obtain ⟨on, effects_nodup, actions⟩ := good.currentHandler handler pending
      have closed : handler.WellFormed :=
        ⟨on, by simpa using noEffects, effects_nodup, by simpa using noActions, actions⟩
      refine ⟨good.services, ?_, (fun _ absent => by cases absent)⟩
      intro service current
      obtain ⟨before, opened, rfl⟩ := Option.map_eq_some_iff.mp current
      obtain ⟨name, states, handlers⟩ := good.currentService before opened
      refine ⟨name, states, fun other member => ?_⟩
      rcases List.mem_append.mp member with earlier | last
      · exact handlers other earlier
      · rw [List.mem_singleton.mp last]
        exact closed

theorem flushService_wellFormed (good : st.WellFormed) : (flushService st).WellFormed := by
  unfold flushService
  cases current : st.currentService with
  | none => exact good
  | some service =>
      refine ⟨fun other member => ?_, (fun _ absent => by cases absent), good.currentHandler⟩
      rcases List.mem_append.mp member with earlier | last
      · exact good.services other earlier
      · rw [List.mem_singleton.mp last]
        exact good.currentService service current

theorem ensureService_ok {service : ServiceDecl} (run : ensureService st lineNo = .ok service) :
    st.currentService = some service := by
  unfold ensureService at run
  cases current : st.currentService with
  | none =>
      rw [current] at run
      cases run
  | some found =>
      rw [current] at run
      cases run
      rfl

theorem ensureHandler_ok {handler : HandlerDecl} (run : ensureHandler st lineNo = .ok handler) :
    st.currentHandler = some handler := by
  obtain ⟨_, _, run⟩ := bind_ok.mp run
  cases current : st.currentHandler with
  | none =>
      rw [current] at run
      cases run
  | some found =>
      rw [current] at run
      cases run
      rfl

theorem parseServiceLine_wellFormed (run : parseServiceLine st line lineNo = .ok st')
    (good : st.WellFormed) (oneLine : '\n' ∉ line) : st'.WellFormed := by
  obtain ⟨flushed, closed, run⟩ := bind_ok.mp run
  have settled := flushService_wellFormed (flushHandler_wellFormed closed good)
  obtain ⟨toks, tokens, run⟩ := bind_ok.mp run
  have clean := tokenize_clean tokens oneLine
  split at run
  · rename_i name
    cases run
    refine ⟨settled.services, fun service current => ?_, settled.currentHandler⟩
    cases current
    exact ⟨clean name (by simp), by simp, by simp⟩
  · cases run

theorem parseStateLine_wellFormed (run : parseStateLine st line lineNo = .ok st')
    (good : st.WellFormed) (oneLine : '\n' ∉ line) : st'.WellFormed := by
  obtain ⟨service, current, run⟩ := bind_ok.mp run
  obtain ⟨name, states, handlers⟩ := good.currentService service (ensureService_ok current)
  by_cases late : st.currentHandler.isSome
  · rw [if_pos late] at run
    cases run
  · rw [if_neg late] at run
    obtain ⟨state, parsed, run⟩ := bind_ok.mp run
    cases run
    refine ⟨good.services, fun other opened => ?_, good.currentHandler⟩
    cases opened
    refine ⟨name, fun declared member => ?_, handlers⟩
    rcases List.mem_append.mp member with earlier | last
    · exact states declared earlier
    · rw [List.mem_singleton.mp last]
      exact parseStateDecl_wellFormed parsed oneLine

theorem parseOnLine_wellFormed (run : parseOnLine st line lineNo = .ok st')
    (good : st.WellFormed) (oneLine : '\n' ∉ line) : st'.WellFormed := by
  obtain ⟨_, _, run⟩ := bind_ok.mp run
  obtain ⟨flushed, closed, run⟩ := bind_ok.mp run
  have settled := flushHandler_wellFormed closed good
  obtain ⟨toks, tokens, run⟩ := bind_ok.mp run
  have clean := tokenize_clean tokens oneLine
  split at run
  · rename_i on
    cases run
    refine ⟨settled.services, settled.currentService, fun handler current => ?_⟩
    cases current
    exact ⟨clean on (by simp), by simp, by simp⟩
  · cases run

theorem parseEffectsLine_wellFormed {handler : HandlerDecl}
    (run : parseEffectsLine st handler line lineNo = .ok st') (good : st.WellFormed)
    (current : st.currentHandler = some handler) : st'.WellFormed := by
  unfold parseEffectsLine at run
  obtain ⟨on, _, actions⟩ := good.currentHandler handler current
  by_cases twice : !handler.effects.isEmpty
  · rw [if_pos twice] at run
    cases run
  rw [if_neg twice] at run
  by_cases late : !handler.actions.isEmpty
  · rw [if_pos late] at run
    cases run
  rw [if_neg late] at run
  obtain ⟨effects, parsed, run⟩ := bind_ok.mp run
  cases run
  refine ⟨good.services, good.currentService, fun other opened => ?_⟩
  cases opened
  exact ⟨on, (parseEffectsDecl_wellFormed parsed).2, actions⟩

theorem parseLine_wellFormed {raw : List Char} (run : parseLine st raw lineNo = .ok st')
    (good : st.WellFormed) (rawOneLine : '\n' ∉ raw) : st'.WellFormed := by
  have oneLine : '\n' ∉ trim raw := fun inside => rawOneLine (trim_subset raw inside)
  unfold parseLine at run
  dsimp only at run
  by_cases blank : ((trim raw).isEmpty || startsWith (trim raw) "//" ||
      startsWith (trim raw) "#") = true
  · rw [if_pos blank] at run
    cases run
    exact good
  rw [if_neg blank] at run
  by_cases service : startsWith (trim raw) "service " = true
  · rw [if_pos service] at run
    exact parseServiceLine_wellFormed run good oneLine
  rw [if_neg service] at run
  by_cases state : startsWith (trim raw) "state " = true
  · rw [if_pos state] at run
    exact parseStateLine_wellFormed run good oneLine
  rw [if_neg state] at run
  by_cases on : startsWith (trim raw) "on " = true
  · rw [if_pos on] at run
    exact parseOnLine_wellFormed run good oneLine
  rw [if_neg on] at run
  obtain ⟨handler, ensured, run⟩ := bind_ok.mp run
  have current := ensureHandler_ok ensured
  by_cases effects : startsWith (trim raw) "effects " = true
  · rw [if_pos effects] at run
    exact parseEffectsLine_wellFormed run good current
  rw [if_neg effects] at run
  obtain ⟨action, parsed, run⟩ := bind_ok.mp run
  cases run
  obtain ⟨onClean, effects_nodup, actions⟩ := good.currentHandler handler current
  refine ⟨good.services, good.currentService, fun other opened => ?_⟩
  cases opened
  refine ⟨onClean, effects_nodup, fun declared member => ?_⟩
  rcases List.mem_append.mp member with earlier | last
  · exact actions declared earlier
  · rw [List.mem_singleton.mp last]
    exact parseAction_wellFormed parsed oneLine

theorem parseLines_wellFormed {rawLines : List (List Char)}
    (run : parseLines st lineNo rawLines = .ok st') (good : st.WellFormed)
    (oneLine : ∀ raw ∈ rawLines, '\n' ∉ raw) : st'.WellFormed := by
  induction rawLines generalizing st lineNo with
  | nil =>
      cases run
      exact good
  | cons raw rest ih =>
      obtain ⟨next, first, others⟩ := bind_ok.mp run
      obtain ⟨firstLine, restLines⟩ := List.forall_mem_cons.mp oneLine
      exact ih others (parseLine_wellFormed first good firstLine) restLines

/-- Every accepted program text is a well-formed module. -/
theorem parseModule_wellFormed {src : String} {module : Module}
    (run : parseModule src = .ok module) : module.WellFormed := by
  obtain ⟨final, ran, run⟩ := bind_ok.mp run
  have good := parseLines_wellFormed ran initial_wellFormed fun raw => lines_oneLine
  obtain ⟨closed, flushed, run⟩ := bind_ok.mp run
  have settled := flushService_wellFormed (flushHandler_wellFormed flushed good)
  by_cases empty : (flushService closed).services.isEmpty
  · rw [if_pos empty] at run
    cases run
  · rw [if_neg empty] at run
    cases run
    exact ⟨by simpa using empty, settled.services⟩

end UcoStack.Lang
