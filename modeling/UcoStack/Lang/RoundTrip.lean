import UcoStack.Lang.Writer

/-!
# Parsing a written module

The parser reads the written form of a well-formed module back as that module.
Lines are read one at a time: each kind of line has one lemma, and the lemmas
for handlers and services follow by induction on their parts.
-/

namespace UcoStack.Lang

open ExceptRun

/-! ## Actions -/

theorem joinSpaces_singleton (tok : String) : joinSpaces [tok] = tok :=
  String.intercalate_singleton

theorem target_plain {target : RemoteTarget} (good : target.WellFormed) : target.word.Plain := by
  cases target with
  | peers => exact (by decide : (Word.bare "peers").Plain)
  | sender => exact (by decide : (Word.bare "sender").Plain)
  | node raw => exact good

theorem ActionDecl.words_plain {action : ActionDecl} (good : action.WellFormed) :
    ∀ word ∈ action.words, word.Plain := by
  induction action with
  | log template => exact List.forall_mem_cons.mpr ⟨by decide, List.forall_mem_singleton.mpr good⟩
  | setState key value =>
      simp only [words, List.forall_mem_cons]
      exact ⟨by decide, good.1, number_plain value, by simp⟩
  | incState key amount =>
      simp only [words, List.forall_mem_cons]
      exact ⟨by decide, good.1, number_plain amount, by simp⟩
  | timerLocal steps service message template =>
      obtain ⟨_, serviceClean, messageClean, templateClean⟩ := good
      simp only [words, List.forall_mem_cons]
      exact ⟨by decide, number_plain steps, by decide, serviceClean, messageClean,
        templateClean, by simp⟩
  | timerRemote steps target service message template =>
      obtain ⟨_, targetGood, serviceClean, messageClean, templateClean⟩ := good
      simp only [words, List.forall_mem_cons]
      exact ⟨by decide, number_plain steps, by decide, target_plain targetGood, serviceClean,
        messageClean, templateClean, by simp⟩
  | sendLocal service message template =>
      obtain ⟨serviceClean, messageClean, templateClean⟩ := good
      simp only [words, List.forall_mem_cons]
      exact ⟨by decide, by decide, serviceClean, messageClean, templateClean, by simp⟩
  | sendRemote target service message template =>
      obtain ⟨targetGood, serviceClean, messageClean, templateClean⟩ := good
      simp only [words, List.forall_mem_cons]
      exact ⟨by decide, by decide, target_plain targetGood, serviceClean, messageClean,
        templateClean, by simp⟩
  | ifStateEq key value thenAction ih =>
      obtain ⟨keyClean, _, thenGood⟩ := good
      simp only [words, List.forall_mem_cons]
      exact ⟨by decide, keyClean, by decide, number_plain value, ih thenGood⟩

theorem parseRemoteTarget_word {target : RemoteTarget} {lineNo : Nat}
    (good : target.WellFormed) : parseRemoteTarget target.word.token lineNo = .ok target := by
  cases target with
  | peers => rfl
  | sender => rfl
  | node raw =>
      have chars : ("node:" ++ raw).toList = 'n' :: 'o' :: 'd' :: 'e' :: ':' :: raw.toList :=
        String.toList_append
      have other {word : String} (differs : word.toList.head? ≠ some 'n') :
          "node:" ++ raw ≠ word := by
        rintro rfl
        exact differs (by rw [chars]; rfl)
      have longer : 0 < raw.toList.length :=
        List.length_pos_iff.mpr (by simpa using good.1)
      have marked : (startsWith ("node:" ++ raw).toList "node:" &&
          5 < ("node:" ++ raw).toList.length) = true := by
        rw [chars]
        simpa [startsWith] using longer
      change parseRemoteTarget ("node:" ++ raw) lineNo = _
      unfold parseRemoteTarget
      rw [if_neg (other (by decide)), if_neg (other (by decide)), if_pos marked, chars]
      change Except.ok (RemoteTarget.node (String.ofList raw.toList)) = _
      rw [String.ofList_toList]

section Actions

variable {lineNo : Nat}

theorem parseTimerLocal_words {steps : Nat} {service message template : String}
    (delay : IsDelay steps) :
    parseTimerLocal ["timer", toString (Int.ofNat steps), "local", service, message, template]
      lineNo = .ok (.timerLocal steps service message template) := by
  unfold parseTimerLocal
  dsimp only
  rw [parseU64_toString delay.2]
  cases steps with
  | zero => exact absurd delay.1 (by decide)
  | succ steps =>
      simp [joinSpaces_singleton]

theorem parseTimerLocal_remoteWords {steps : Nat} {target : RemoteTarget}
    {service message template : String} (delay : IsDelay steps) (good : target.WellFormed) :
    parseTimerLocal ["timer", toString (Int.ofNat steps), "remote", target.word.token, service,
      message, template] lineNo = .ok (.timerRemote steps target service message template) := by
  unfold parseTimerLocal
  dsimp only
  rw [parseU64_toString delay.2, parseRemoteTarget_word good]
  cases steps with
  | zero => exact absurd delay.1 (by decide)
  | succ steps =>
      simp [joinSpaces_singleton]

theorem parseSetState_words {key : String} {value : Int} (range : IsI64 value) :
    parseSetState ["set", key, toString value] lineNo = .ok (.setState key value) := by
  unfold parseSetState
  dsimp only
  rw [parseI64_toString range]

theorem parseIncState_words {key : String} {amount : Int} (range : IsI64 amount) :
    parseIncState ["inc", key, toString amount] lineNo = .ok (.incState key amount) := by
  unfold parseIncState
  dsimp only
  rw [parseI64_toString range]

variable (lineNo) in
theorem parseSend_words (service message template : String) :
    parseSend ["send", "local", service, message, template] lineNo =
      .ok (.sendLocal service message template) := by
  unfold parseSend
  dsimp only
  rw [if_pos rfl, joinSpaces_singleton]

theorem parseSend_remoteWords {target : RemoteTarget} (good : target.WellFormed)
    (service message template : String) :
    parseSend ["send", "remote", target.word.token, service, message, template] lineNo =
      .ok (.sendRemote target service message template) := by
  unfold parseSend
  dsimp only
  rw [if_neg (by decide), if_pos rfl, joinSpaces_singleton, parseRemoteTarget_word good]
  rfl

/-- A written action is read back, whatever the nesting depth passed along. -/
theorem parseActionTokens_words {action : ActionDecl} (good : action.WellFormed) (depth : Nat) :
    parseActionTokens lineNo (action.words.map Word.token) depth = .ok action := by
  induction action generalizing depth with
  | log template =>
      rw [ActionDecl.words, List.map_cons, Word.token, parseActionTokens]
      · exact congrArg (fun text => Except.ok (ActionDecl.log text)) (joinSpaces_singleton template)
      · simp
  | setState key value =>
      rw [ActionDecl.words, List.map_cons, Word.token, parseActionTokens]
      · exact parseSetState_words good.2
      · simp
  | incState key amount =>
      rw [ActionDecl.words, List.map_cons, Word.token, parseActionTokens]
      · exact parseIncState_words good.2
      · simp
  | timerLocal steps service message template =>
      rw [ActionDecl.words, List.map_cons, Word.token, parseActionTokens]
      · exact parseTimerLocal_words good.1
      · simp
  | timerRemote steps target service message template =>
      rw [ActionDecl.words, List.map_cons, Word.token, parseActionTokens]
      · exact parseTimerLocal_remoteWords good.1 good.2.1
      · simp
  | sendLocal service message template =>
      rw [ActionDecl.words, List.map_cons, Word.token, parseActionTokens]
      · exact parseSend_words lineNo service message template
      · simp
  | sendRemote target service message template =>
      rw [ActionDecl.words, List.map_cons, Word.token, parseActionTokens]
      · exact parseSend_remoteWords good.1 service message template
      · simp
  | ifStateEq key value thenAction ih =>
      obtain ⟨_, range, thenGood⟩ := good
      have nested := ih thenGood (depth + 1)
      change parseActionTokens lineNo ("if" :: key :: "==" :: toString value ::
        thenAction.words.map Word.token) depth = _
      cases words : thenAction.words.map Word.token with
      | nil =>
          rw [words] at nested
          cases nested
      | cons first rest =>
          rw [words] at nested
          rw [parseActionTokens, if_neg (by decide), parseI64_toString range]
          dsimp only
          rw [nested]
          rfl

end Actions

/-! ## Lines of a handler -/

section Lines

variable {lineNo : Nat}

theorem parseAction_writeWords {action : ActionDecl} (good : action.WellFormed) :
    parseAction (writeWords action.words) lineNo 0 = .ok action := by
  unfold parseAction
  rw [if_neg (by decide), tokenize_writeWords (ActionDecl.words_plain good)]
  exact parseActionTokens_words good 0

theorem StateDecl.words_plain {state : StateDecl} (good : state.WellFormed) :
    ∀ word ∈ state.words, word.Plain := by
  simp only [words, List.forall_mem_cons]
  exact ⟨by decide, good.1, by decide, number_plain state.initial, by simp⟩

theorem parseStateDecl_writeWords {state : StateDecl} (good : state.WellFormed) :
    parseStateDecl (writeWords state.words) lineNo = .ok state := by
  apply bind_ok.mpr
  refine ⟨_, tokenize_writeWords (StateDecl.words_plain good), ?_⟩
  simp only [StateDecl.words, List.map_cons, List.map_nil, Word.token, number,
    parseI64_toString good.2]
  rfl

theorem effectsWords_plain (effects : List HandlerEffect) :
    ∀ word ∈ effectsWords effects, word.Plain := by
  intro word member
  rcases List.mem_cons.mp member with rfl | named
  · decide
  · obtain ⟨effect, _, rfl⟩ := List.mem_map.mp named
    cases effect <;> decide

/-- An effect name has no comma and no blank around it. -/
theorem effect_parts (effect : HandlerEffect) :
    (effect.spelling.toList.splitOn ',').map (fun part => String.ofList (trim part)) =
      [effect.spelling] := by
  cases effect <;> decide

theorem parseEffectName_spelling (effect : HandlerEffect) :
    parseEffectName effect.spelling lineNo = .ok (some effect) := by
  cases effect <;> rfl

theorem parseEffectsLoop_spellings {effects out : List HandlerEffect}
    (distinct : (out ++ effects).Nodup) :
    parseEffectsLoop lineNo (effects.map HandlerEffect.spelling) out = .ok (out ++ effects) := by
  induction effects generalizing out with
  | nil => rw [List.append_nil]; rfl
  | cons effect effects ih =>
      have fresh : effect ∉ out := fun member =>
        (List.nodup_append.mp distinct).2.2 effect member effect List.mem_cons_self rfl
      have next : (out ++ [effect] ++ effects).Nodup := by
        rwa [List.append_assoc, List.singleton_append]
      rw [List.map_cons, parseEffectsLoop, parseEffectName_spelling]
      change parseEffectsLoop lineNo _ (if effect ∈ out then out else out ++ [effect]) = _
      rw [if_neg fresh, ih next, List.append_assoc, List.singleton_append]

theorem parseEffectsDecl_writeWords {effects : List HandlerEffect} (nonempty : effects ≠ [])
    (distinct : effects.Nodup) :
    parseEffectsDecl (writeWords (effectsWords effects)) lineNo = .ok effects := by
  have tokens : (effectsWords effects).map Word.token =
      "effects" :: effects.map HandlerEffect.spelling := by
    simp [effectsWords, Word.token]
  have parts : ((effects.map HandlerEffect.spelling).flatMap fun raw =>
      (raw.toList.splitOn ',').map fun part => String.ofList (trim part)) =
      effects.map HandlerEffect.spelling := by
    rw [List.flatMap_map, List.map_eq_flatMap]
    exact List.flatMap_congr fun effect _ => effect_parts effect
  have read : parseEffectsLoop lineNo (effects.map HandlerEffect.spelling) [] = .ok effects :=
    parseEffectsLoop_spellings distinct
  have long : ¬ ("effects" :: effects.map HandlerEffect.spelling).length < 2 := by
    have positive := List.length_pos_iff.mpr nonempty
    simp only [List.length_cons, List.length_map]
    omega
  have kept : ¬ effects.isEmpty := by simpa using nonempty
  unfold parseEffectsDecl
  rw [tokenize_writeWords (effectsWords_plain effects), tokens]
  change (if _ then _ else _) = _
  rw [if_neg long]
  change (parseEffectsLoop lineNo (List.flatMap _ (effects.map HandlerEffect.spelling)) [] >>= _) = _
  rw [parts, read]
  exact if_neg kept

end Lines

/-! ## One line -/

/-- A handler under construction that can be closed. -/
def Complete (pending : Option HandlerDecl) : Prop :=
  ∀ handler, pending = some handler → handler.actions ≠ [] ∧ handler.effects ≠ []

def ServiceDecl.close (service : ServiceDecl) (pending : Option HandlerDecl) : ServiceDecl :=
  { service with handlers := service.handlers ++ pending.toList }

/-- The text may end here, with these services. -/
def Closes (st : ParserState) (services : List ServiceDecl) : Prop :=
  ∀ lineNo, ∃ closed, flushHandler st lineNo = .ok closed ∧
    flushService closed = ⟨services, none, none⟩

section Lines

variable {services : List ServiceDecl} {service : ServiceDecl} {pending : Option HandlerDecl}
  {handler : HandlerDecl} {lineNo : Nat}

theorem flushHandler_complete (complete : Complete pending) :
    flushHandler ⟨services, some service, pending⟩ lineNo =
      .ok ⟨services, some (service.close pending), none⟩ := by
  cases pending with
  | none =>
      rw [ServiceDecl.close, Option.toList_none, List.append_nil]
      rfl
  | some handler =>
      obtain ⟨actions, effects⟩ := complete handler rfl
      unfold flushHandler
      dsimp only
      rw [if_neg (by simpa using actions), if_neg (by simpa using effects)]
      rfl

theorem closes_initial : Closes .initial [] := fun _ => ⟨.initial, rfl, rfl⟩

theorem closes_open (complete : Complete pending) :
    Closes ⟨services, some service, pending⟩ (services ++ [service.close pending]) :=
  fun _ => ⟨_, flushHandler_complete complete, rfl⟩

theorem trim_writeWords {words : List Word} (nonempty : words ≠ [])
    (plain : ∀ word ∈ words, word.Plain) : trim (writeWords words) = writeWords words :=
  (writeWords_lineText nonempty plain).trim_eq

theorem declaration_plain {keyword name : String} (known : (Word.bare keyword).Plain)
    (clean : Clean name) : ∀ word ∈ [Word.bare keyword, Word.quoted name], word.Plain :=
  List.forall_mem_cons.mpr ⟨known, List.forall_mem_singleton.mpr clean⟩

theorem parseLine_service {st : ParserState} {name : String} (closes : Closes st services)
    (clean : Clean name) :
    parseLine st (writeWords [.bare "service", .quoted name]) lineNo =
      .ok ⟨services, some ⟨name, [], []⟩, none⟩ := by
  have plain : ∀ word ∈ [Word.bare "service", Word.quoted name], word.Plain :=
    declaration_plain (by decide) clean
  obtain ⟨closed, flushed, done⟩ := closes lineNo
  unfold parseLine
  rw [trim_writeWords (List.cons_ne_nil _ _) plain]
  change parseServiceLine st _ lineNo = _
  refine bind_ok.mpr ⟨closed, flushed, ?_⟩
  rw [done]
  exact bind_ok.mpr ⟨_, tokenize_writeWords plain, rfl⟩

theorem parseLine_state {state : StateDecl} (good : state.WellFormed) :
    parseLine ⟨services, some service, none⟩ (writeWords state.words) lineNo =
      .ok ⟨services, some { service with states := service.states ++ [state] }, none⟩ := by
  have trimmed : trim (writeWords state.words) = writeWords state.words :=
    trim_writeWords (List.cons_ne_nil _ _) (StateDecl.words_plain good)
  unfold parseLine
  rw [trimmed]
  change parseStateLine ⟨services, some service, none⟩ _ lineNo = _
  refine bind_ok.mpr ⟨service, rfl, ?_⟩
  exact bind_ok.mpr ⟨state, parseStateDecl_writeWords good, rfl⟩

theorem parseLine_on {on : String} (complete : Complete pending) (clean : Clean on) :
    parseLine ⟨services, some service, pending⟩ (writeWords [.bare "on", .quoted on]) lineNo =
      .ok ⟨services, some (service.close pending), some ⟨on, [], []⟩⟩ := by
  have plain : ∀ word ∈ [Word.bare "on", Word.quoted on], word.Plain :=
    declaration_plain (by decide) clean
  unfold parseLine
  rw [trim_writeWords (List.cons_ne_nil _ _) plain]
  change parseOnLine ⟨services, some service, pending⟩ _ lineNo = _
  refine bind_ok.mpr ⟨service, rfl, ?_⟩
  refine bind_ok.mpr ⟨_, flushHandler_complete complete, ?_⟩
  exact bind_ok.mpr ⟨_, tokenize_writeWords plain, rfl⟩

theorem parseLine_effects {on : String} {effects : List HandlerEffect} (nonempty : effects ≠ [])
    (distinct : effects.Nodup) :
    parseLine ⟨services, some service, some ⟨on, [], []⟩⟩ (writeWords (effectsWords effects))
      lineNo = .ok ⟨services, some service, some ⟨on, effects, []⟩⟩ := by
  have trimmed : trim (writeWords (effectsWords effects)) = writeWords (effectsWords effects) :=
    trim_writeWords (List.cons_ne_nil _ _) (effectsWords_plain effects)
  have parsed : parseEffectsLine ⟨services, some service, some ⟨on, [], []⟩⟩ ⟨on, [], []⟩
      (writeWords (effectsWords effects)) lineNo =
      .ok ⟨services, some service, some ⟨on, effects, []⟩⟩ :=
    bind_ok.mpr ⟨effects, parseEffectsDecl_writeWords nonempty distinct, rfl⟩
  obtain ⟨rest, written⟩ : ∃ rest,
      writeWords (effectsWords effects) = "effects".toList ++ ' ' :: rest := by
    cases effects with
    | nil => exact absurd rfl nonempty
    | cons effect effects => exact ⟨_, writeWords_cons _ _ _⟩
  unfold parseLine
  rw [trimmed]
  rw [written] at parsed ⊢
  exact parsed

/-- The words an action can start with. -/
def actionKeywords : List String := ["log", "set", "inc", "timer", "send", "if"]

theorem ActionDecl.words_head (action : ActionDecl) :
    ∃ keyword ∈ actionKeywords, ∃ word words, action.words = .bare keyword :: word :: words := by
  cases action with
  | log => exact ⟨"log", by decide, _, _, rfl⟩
  | setState => exact ⟨"set", by decide, _, _, rfl⟩
  | incState => exact ⟨"inc", by decide, _, _, rfl⟩
  | timerLocal => exact ⟨"timer", by decide, _, _, rfl⟩
  | timerRemote => exact ⟨"timer", by decide, _, _, rfl⟩
  | sendLocal => exact ⟨"send", by decide, _, _, rfl⟩
  | sendRemote => exact ⟨"send", by decide, _, _, rfl⟩
  | ifStateEq => exact ⟨"if", by decide, _, _, rfl⟩

theorem parseLine_action {action : ActionDecl} (good : action.WellFormed) :
    parseLine ⟨services, some service, some handler⟩ (writeWords action.words) lineNo =
      .ok ⟨services, some service,
        some { handler with actions := handler.actions ++ [action] }⟩ := by
  obtain ⟨keyword, known, word, words, split⟩ := action.words_head
  have trimmed : trim (writeWords action.words) = writeWords action.words :=
    trim_writeWords (by simp [split]) (ActionDecl.words_plain good)
  have parsed : parseAction (writeWords action.words) lineNo 0 = .ok action :=
    parseAction_writeWords good
  obtain ⟨rest, written⟩ : ∃ rest, writeWords action.words = keyword.toList ++ ' ' :: rest :=
    ⟨_, split ▸ writeWords_cons _ _ _⟩
  have dispatched : parseLine ⟨services, some service, some handler⟩ (writeWords action.words)
      lineNo = (do
        let action ← parseAction (writeWords action.words) lineNo 0
        pure ⟨services, some service,
          some { handler with actions := handler.actions ++ [action] }⟩) := by
    unfold parseLine
    rw [trimmed, written]
    simp only [actionKeywords, List.mem_cons, List.not_mem_nil, or_false] at known
    rcases known with rfl | rfl | rfl | rfl | rfl | rfl <;> rfl
  rw [dispatched]
  exact bind_ok.mpr ⟨action, parsed, rfl⟩

end Lines

/-! ## Handlers, services and modules -/

theorem parseLines_append {st st' : ParserState} {lineNo : Nat} {first second : List (List Char)}
    (run : parseLines st lineNo first = .ok st') :
    parseLines st lineNo (first ++ second) = parseLines st' (lineNo + first.length) second := by
  induction first generalizing st lineNo with
  | nil =>
      cases run
      rfl
  | cons line rest ih =>
      obtain ⟨next, ran, others⟩ := bind_ok.mp run
      rw [List.cons_append, parseLines, ran, List.length_cons, Nat.add_comm rest.length,
        ← Nat.add_assoc]
      exact ih others

section Blocks

variable {services : List ServiceDecl} {service : ServiceDecl} {pending : Option HandlerDecl}
  {handler : HandlerDecl} {lineNo : Nat}

theorem parseLines_states {states : List StateDecl} (good : ∀ state ∈ states, state.WellFormed) :
    parseLines ⟨services, some service, none⟩ lineNo
        ((states.map StateDecl.words).map writeWords) =
      .ok ⟨services, some { service with states := service.states ++ states }, none⟩ := by
  induction states generalizing service lineNo with
  | nil =>
      rw [List.append_nil]
      rfl
  | cons state states ih =>
      obtain ⟨first, others⟩ := List.forall_mem_cons.mp good
      refine bind_ok.mpr ⟨_, parseLine_state first, ?_⟩
      rw [ih others, List.append_assoc, List.singleton_append]

theorem parseLines_actions {actions : List ActionDecl}
    (good : ∀ action ∈ actions, action.WellFormed) :
    parseLines ⟨services, some service, some handler⟩ lineNo
        ((actions.map ActionDecl.words).map writeWords) =
      .ok ⟨services, some service,
        some { handler with actions := handler.actions ++ actions }⟩ := by
  induction actions generalizing handler lineNo with
  | nil =>
      rw [List.append_nil]
      rfl
  | cons action actions ih =>
      obtain ⟨first, others⟩ := List.forall_mem_cons.mp good
      refine bind_ok.mpr ⟨_, parseLine_action first, ?_⟩
      rw [ih others, List.append_assoc, List.singleton_append]

theorem parseLines_handler (complete : Complete pending) (good : handler.WellFormed) :
    parseLines ⟨services, some service, pending⟩ lineNo (handler.lines.map writeWords) =
      .ok ⟨services, some (service.close pending), some handler⟩ := by
  refine bind_ok.mpr ⟨_, parseLine_on complete good.on, ?_⟩
  refine bind_ok.mpr ⟨_, parseLine_effects good.effects_nonempty good.effects_nodup, ?_⟩
  exact parseLines_actions good.actions

variable (services service lineNo) in
/-- The last handler stays open; closing it gives the service with all of them. -/
theorem parseLines_handlers {handlers : List HandlerDecl} (complete : Complete pending)
    (good : ∀ handler ∈ handlers, handler.WellFormed) :
    ∃ opened last, parseLines ⟨services, some service, pending⟩ lineNo
        ((handlers.flatMap HandlerDecl.lines).map writeWords) =
          .ok ⟨services, some opened, last⟩ ∧ Complete last ∧
      opened.close last = { service.close pending with
        handlers := (service.close pending).handlers ++ handlers } := by
  induction handlers generalizing service pending lineNo with
  | nil =>
      refine ⟨service, pending, rfl, complete, ?_⟩
      rw [List.append_nil]
  | cons handler handlers ih =>
      obtain ⟨first, others⟩ := List.forall_mem_cons.mp good
      have closed : Complete (some handler) := by
        intro other same
        cases same
        exact ⟨first.actions_nonempty, first.effects_nonempty⟩
      obtain ⟨opened, last, ran, lastComplete, same⟩ := ih _ _ closed others
      refine ⟨opened, last, ?_, lastComplete, ?_⟩
      · rw [List.flatMap_cons, List.map_append,
          parseLines_append (parseLines_handler complete first)]
        exact ran
      · rw [same]
        simp [ServiceDecl.close]

variable (lineNo) in
theorem parseLines_service {st : ParserState} (closes : Closes st services)
    (good : service.WellFormed) :
    ∃ st', parseLines st lineNo (service.lines.map writeWords) = .ok st' ∧
      Closes st' (services ++ [service]) := by
  have noHandler : Complete none := fun _ absent => by cases absent
  obtain ⟨opened, last, ran, complete, same⟩ :=
    parseLines_handlers services ⟨service.name, service.states, []⟩
      (lineNo + 1 + service.states.length) noHandler good.handlers
  refine ⟨⟨services, some opened, last⟩, ?_, ?_⟩
  · refine bind_ok.mpr ⟨_, parseLine_service closes good.name, ?_⟩
    rw [List.map_append, parseLines_append (parseLines_states good.states), List.length_map,
      List.length_map]
    exact ran
  · have whole : opened.close last = service := by
      rw [same]
      simp [ServiceDecl.close]
    exact whole ▸ closes_open complete

variable (lineNo) in
theorem parseLines_module {st : ParserState} {declared : List ServiceDecl}
    (closes : Closes st services) (good : ∀ service ∈ declared, service.WellFormed) :
    ∃ st', parseLines st lineNo ((declared.flatMap ServiceDecl.lines).map writeWords) = .ok st' ∧
      Closes st' (services ++ declared) := by
  induction declared generalizing st services lineNo with
  | nil => exact ⟨st, rfl, by rwa [List.append_nil]⟩
  | cons service declared ih =>
      obtain ⟨first, others⟩ := List.forall_mem_cons.mp good
      obtain ⟨middle, ran, middleCloses⟩ := parseLines_service lineNo closes first
      obtain ⟨final, ranOthers, finalCloses⟩ := ih _ middleCloses others
      refine ⟨final, ?_, ?_⟩
      · rw [List.flatMap_cons, List.map_append, parseLines_append ran]
        exact ranOthers
      · rwa [List.append_assoc, List.singleton_append] at finalCloses

end Blocks

theorem HandlerDecl.lines_text {handler : HandlerDecl} (good : handler.WellFormed) :
    ∀ words ∈ handler.lines, LineText (writeWords words) := by
  intro words member
  simp only [lines, List.mem_cons, List.mem_map] at member
  rcases member with rfl | rfl | ⟨action, inside, rfl⟩
  · exact writeWords_lineText (List.cons_ne_nil _ _) (declaration_plain (by decide) good.on)
  · exact writeWords_lineText (List.cons_ne_nil _ _) (effectsWords_plain handler.effects)
  · obtain ⟨_, _, _, _, split⟩ := action.words_head
    exact writeWords_lineText (by simp [split])
      (ActionDecl.words_plain (good.actions action inside))

theorem ServiceDecl.lines_text {service : ServiceDecl} (good : service.WellFormed) :
    ∀ words ∈ service.lines, LineText (writeWords words) := by
  intro words member
  simp only [lines, List.mem_cons, List.mem_append, List.mem_map, List.mem_flatMap] at member
  rcases member with rfl | ⟨state, inside, rfl⟩ | ⟨handler, inside, member⟩
  · exact writeWords_lineText (List.cons_ne_nil _ _) (declaration_plain (by decide) good.name)
  · exact writeWords_lineText (List.cons_ne_nil _ _)
      (StateDecl.words_plain (good.states state inside))
  · exact HandlerDecl.lines_text (good.handlers handler inside) words member

/-- A well-formed module is read back from its written form, however deep its
conditionals are nested. -/
theorem parseModule_writeModule {module : Module} (good : module.WellFormed) :
    parseModule (writeModule module) = .ok module := by
  have texts : ∀ text ∈ module.lines.map writeWords, LineText text := by
    intro text member
    obtain ⟨words, inside, rfl⟩ := List.mem_map.mp member
    obtain ⟨service, declared, member⟩ := List.mem_flatMap.mp inside
    exact ServiceDecl.lines_text (good.services service declared) words member
  have split : lines (writeModule module).toList = module.lines.map writeWords := by
    rw [writeModule, String.toList_ofList, ← lines_written texts, List.flatMap_map]
  obtain ⟨final, ran, closes⟩ := parseLines_module 1 closes_initial good.services
  obtain ⟨closed, flushed, done⟩ := closes ((module.lines.map writeWords).length + 1)
  unfold parseModule
  rw [split]
  refine bind_ok.mpr ⟨final, ran, bind_ok.mpr ⟨closed, flushed, ?_⟩⟩
  rw [done]
  exact if_neg (by simpa using good.services_nonempty)

/-- Accepted texts give well-formed modules, and every well-formed module is
accepted in its written form. -/
theorem parser_image :
    (∀ src module, parseModule src = .ok module → module.WellFormed) ∧
      ∀ module : Module, module.WellFormed → parseModule (writeModule module) = .ok module :=
  ⟨fun _ _ => parseModule_wellFormed, fun _ => parseModule_writeModule⟩

/-- A module whose names look like keywords and whose texts need escapes. -/
def sampleModule : Module :=
  ⟨[⟨"service X", [⟨"state", -3⟩],
    [⟨"on \"start\"", [.timerRemote, .log],
      [.ifStateEq "=" 0 (.ifStateEq "if" 1 (.log "a \\ \"b\"")),
        .timerRemote 2 (.node "local x") "remote" "peers" "# no comment"]⟩]⟩]⟩

theorem sampleModule_wellFormed : sampleModule.WellFormed where
  services_nonempty := List.cons_ne_nil _ _
  services := by
    refine List.forall_mem_singleton.mpr ⟨by decide +kernel, by decide +kernel, ?_⟩
    refine List.forall_mem_singleton.mpr ⟨?_, ?_, ?_, ?_, ?_⟩ <;> decide +kernel

theorem parser_image_sample : parseModule (writeModule sampleModule) = .ok sampleModule :=
  parser_image.2 sampleModule sampleModule_wellFormed

end UcoStack.Lang
