import Mathlib.Data.List.TakeWhile
import UcoStack.Lang.Nesting
import UcoStack.Lang.Writer

/-!
# Layout of program texts

Line numbers only occur in errors, blank lines and comments are skipped, and a
line is trimmed before it is read.  So the result of `parseModule` depends only
on the trimmed lines that are left.
-/

namespace UcoStack.Lang

open UcoStack.ExceptRun

/-! ## Trimming -/

def Blank (cs : List Char) : Prop := ∀ c ∈ cs, isWhitespace c = true

theorem trim_lead {lead cs : List Char} (blank : Blank lead) : trim (lead ++ cs) = trim cs := by
  rw [trim, List.dropWhile_append_of_pos blank, trim]

theorem trim_trail {cs trail : List Char} (blank : Blank trail) :
    trim (cs ++ trail) = trim cs := by
  have backwards : ∀ c ∈ trail.reverse, isWhitespace c = true :=
    fun c member => blank c (List.mem_reverse.mp member)
  rw [trim, List.dropWhile_append]
  split
  · rename_i empty
    have nothing : trail.dropWhile isWhitespace = [] := by
      rw [← List.append_nil trail, List.dropWhile_append_of_pos blank, List.dropWhile_nil]
    rw [nothing, trim, List.isEmpty_iff.mp empty]
  · rw [List.reverse_append, List.dropWhile_append_of_pos backwards, trim]

theorem trim_blank {cs : List Char} (blank : Blank cs) : trim cs = [] := by
  rw [← List.append_nil cs, trim_lead blank]
  rfl

theorem trim_split (cs : List Char) :
    ∃ lead trail, Blank lead ∧ Blank trail ∧ cs = lead ++ trim cs ++ trail := by
  have taken (cs : List Char) : Blank (cs.takeWhile isWhitespace) :=
    fun c member => List.mem_takeWhile_imp member
  have back := List.takeWhile_append_dropWhile (p := isWhitespace)
    (l := (cs.dropWhile isWhitespace).reverse)
  refine ⟨cs.takeWhile isWhitespace,
    ((cs.dropWhile isWhitespace).reverse.takeWhile isWhitespace).reverse, taken cs,
    fun c member => taken _ c (List.mem_reverse.mp member), ?_⟩
  rw [trim, List.append_assoc, ← List.reverse_append, back, List.reverse_reverse,
    List.takeWhile_append_dropWhile]

theorem trim_trim (cs : List Char) : trim (trim cs) = trim cs := by
  obtain ⟨lead, trail, before, after, split⟩ := trim_split cs
  have same := congrArg trim split
  rw [trim_trail after, trim_lead before] at same
  exact same.symm

/-- Trimming keeps what a text starts with, up to its first white space. -/
theorem trim_word {word : List Char} (solid : ∀ c ∈ word, isWhitespace c = false)
    (rest : List Char) : ∃ kept, trim (word ++ rest) = word ++ kept := by
  have stays (cs more : List Char) (solid : ∀ c ∈ cs, isWhitespace c = false) (some : cs ≠ []) :
      (cs ++ more).dropWhile isWhitespace = cs ++ more := by
    obtain ⟨c, others, rfl⟩ := List.exists_cons_of_ne_nil some
    rw [List.cons_append, List.dropWhile_cons_of_neg (by simp [solid c List.mem_cons_self])]
  cases word with
  | nil => exact ⟨trim rest, rfl⟩
  | cons c others =>
      have backwards : ∀ d ∈ (c :: others).reverse, isWhitespace d = false :=
        fun d member => solid d (List.mem_reverse.mp member)
      rw [trim, stays _ rest solid (List.cons_ne_nil _ _), List.reverse_append,
        List.dropWhile_append]
      split
      · refine ⟨[], ?_⟩
        rw [← List.append_nil (c :: others).reverse, stays _ [] backwards (by simp),
          List.append_nil, List.reverse_reverse, List.append_nil]
      · exact ⟨_, by rw [List.reverse_append, List.reverse_reverse]⟩

theorem trim_dropCarriageReturn (line : List Char) : trim (dropCarriageReturn line) = trim line := by
  unfold dropCarriageReturn
  split
  · rename_i ending
    obtain ⟨front, rfl⟩ := List.getLast?_eq_some_iff.mp ending
    have blank : Blank ['\r'] := by
      intro c member
      rw [List.mem_singleton.mp member]
      rfl
    rw [List.dropLast_concat, trim_trail blank]
  · rfl

/-! ## Line numbers -/

section LineNumbers

variable (lineNo other : Nat)

theorem tokenize_lineNo (line : List Char) :
    (tokenize line lineNo).toOption = (tokenize line other).toOption := by
  apply Option.ext
  intro toks
  rw [toOption_eq_some, toOption_eq_some]
  exact ⟨tokenizeLoop_lineNo other, tokenizeLoop_lineNo lineNo⟩

theorem parseRemoteTarget_lineNo (raw : String) :
    (parseRemoteTarget raw lineNo).toOption = (parseRemoteTarget raw other).toOption := by
  unfold parseRemoteTarget
  repeat' split
  all_goals rfl

theorem parseLog_lineNo (toks : List String) :
    (parseLog toks lineNo).toOption = (parseLog toks other).toOption := by
  unfold parseLog
  split <;> rfl

theorem parseSetState_lineNo (toks : List String) :
    (parseSetState toks lineNo).toOption = (parseSetState toks other).toOption := by
  unfold parseSetState
  split
  · split <;> rfl
  · rfl

theorem parseIncState_lineNo (toks : List String) :
    (parseIncState toks lineNo).toOption = (parseIncState toks other).toOption := by
  unfold parseIncState
  split
  · rfl
  · split <;> rfl
  · rfl

theorem parseTimerLocal_lineNo (toks : List String) :
    (parseTimerLocal toks lineNo).toOption = (parseTimerLocal toks other).toOption := by
  unfold parseTimerLocal
  split
  · split
    · rfl
    · rfl
    · split
      · split
        · dsimp only
          split
          · rfl
          · exact toOption_bind_congr (parseRemoteTarget_lineNo lineNo other _) fun _ => rfl
        · rfl
      · split
        · split <;> rfl
        · rfl
  · rfl

theorem parseSend_lineNo (toks : List String) :
    (parseSend toks lineNo).toOption = (parseSend toks other).toOption := by
  unfold parseSend
  split
  · split
    · rfl
    · split
      · dsimp only
        split
        · rfl
        · exact toOption_bind_congr (parseRemoteTarget_lineNo lineNo other _) fun _ => rfl
      · rfl
  · rfl

theorem parseActionTokens_lineNo (toks : List String) (depth : Nat) :
    (parseActionTokens lineNo toks depth).toOption =
      (parseActionTokens other toks depth).toOption := by
  induction toks, depth using parseActionTokens.induct with
  | case1 => rfl
  | case2 key op raw nested rest depth wrong =>
      rw [parseActionTokens, parseActionTokens, if_pos wrong, if_pos wrong]
      rfl
  | case3 key op raw nested rest depth equals reads =>
      rw [parseActionTokens, parseActionTokens, if_neg equals, if_neg equals, reads]
      rfl
  | case4 key op raw nested rest depth equals value reads ih =>
      rw [parseActionTokens, parseActionTokens, if_neg equals, if_neg equals, reads]
      dsimp only
      rw [toOption_map, toOption_map, ih]
  | case5 tail depth short =>
      rw [parseActionTokens, parseActionTokens]
      · exact parseLog_lineNo lineNo other _
      all_goals exact short
  | case6 tail depth short =>
      rw [parseActionTokens, parseActionTokens]
      · exact parseSetState_lineNo lineNo other _
      all_goals exact short
  | case7 tail depth short =>
      rw [parseActionTokens, parseActionTokens]
      · exact parseIncState_lineNo lineNo other _
      all_goals exact short
  | case8 tail depth short =>
      rw [parseActionTokens, parseActionTokens]
      · exact parseTimerLocal_lineNo lineNo other _
      all_goals exact short
  | case9 tail depth short =>
      rw [parseActionTokens, parseActionTokens]
      · exact parseSend_lineNo lineNo other _
      all_goals exact short
  | case10 tail depth short =>
      rw [parseActionTokens, parseActionTokens]
      · rfl
      all_goals exact short
  | case11 head tail depth short log set inc timer send conditional =>
      rw [parseActionTokens, parseActionTokens, if_neg log, if_neg log, if_neg set, if_neg set,
        if_neg inc, if_neg inc, if_neg timer, if_neg timer, if_neg send, if_neg send,
        if_neg conditional, if_neg conditional]
      · rfl
      all_goals exact short

theorem parseAction_lineNo (line : List Char) (depth : Nat) :
    (parseAction line lineNo depth).toOption = (parseAction line other depth).toOption := by
  unfold parseAction
  dsimp only
  split
  · rfl
  · apply toOption_bind_congr (tokenize_lineNo lineNo other line)
    intro toks
    exact parseActionTokens_lineNo lineNo other toks depth

theorem parseStateDecl_lineNo (line : List Char) :
    (parseStateDecl line lineNo).toOption = (parseStateDecl line other).toOption := by
  unfold parseStateDecl
  apply toOption_bind_congr (tokenize_lineNo lineNo other line)
  intro toks
  split
  · split <;> rfl
  · rfl

theorem parseEffectName_lineNo (name : String) :
    (parseEffectName name lineNo).toOption = (parseEffectName name other).toOption := by
  unfold parseEffectName
  split
  · rfl
  · split <;> rfl

theorem parseEffectsLoop_lineNo (parts : List String) (out : List HandlerEffect) :
    (parseEffectsLoop lineNo parts out).toOption =
      (parseEffectsLoop other parts out).toOption := by
  induction parts generalizing out with
  | nil => rfl
  | cons part parts ih =>
      rw [parseEffectsLoop, parseEffectsLoop]
      apply toOption_bind_congr (parseEffectName_lineNo lineNo other part)
      intro found
      cases found with
      | none => exact ih out
      | some effect => exact ih _

theorem parseEffectsDecl_lineNo (line : List Char) :
    (parseEffectsDecl line lineNo).toOption = (parseEffectsDecl line other).toOption := by
  unfold parseEffectsDecl
  apply toOption_bind_congr (tokenize_lineNo lineNo other line)
  intro toks
  dsimp only
  split
  · rfl
  · apply toOption_bind_congr (parseEffectsLoop_lineNo lineNo other _ [])
    intro out
    split <;> rfl

theorem ensureService_lineNo (st : ParserState) :
    (ensureService st lineNo).toOption = (ensureService st other).toOption := by
  unfold ensureService
  split <;> rfl

theorem ensureHandler_lineNo (st : ParserState) :
    (ensureHandler st lineNo).toOption = (ensureHandler st other).toOption := by
  unfold ensureHandler
  apply toOption_bind_congr (ensureService_lineNo lineNo other st)
  intro _
  split <;> rfl

theorem flushHandler_lineNo (st : ParserState) :
    (flushHandler st lineNo).toOption = (flushHandler st other).toOption := by
  unfold flushHandler
  split
  · rfl
  · split
    · rfl
    · split <;> rfl

theorem parseServiceLine_lineNo (st : ParserState) (line : List Char) :
    (parseServiceLine st line lineNo).toOption = (parseServiceLine st line other).toOption := by
  unfold parseServiceLine
  apply toOption_bind_congr (flushHandler_lineNo lineNo other st)
  intro flushed
  dsimp only
  apply toOption_bind_congr (tokenize_lineNo lineNo other line)
  intro toks
  split <;> rfl

theorem parseStateLine_lineNo (st : ParserState) (line : List Char) :
    (parseStateLine st line lineNo).toOption = (parseStateLine st line other).toOption := by
  unfold parseStateLine
  apply toOption_bind_congr (ensureService_lineNo lineNo other st)
  intro service
  dsimp only
  split
  · rfl
  · exact toOption_bind_congr (parseStateDecl_lineNo lineNo other line) fun _ => rfl

theorem parseOnLine_lineNo (st : ParserState) (line : List Char) :
    (parseOnLine st line lineNo).toOption = (parseOnLine st line other).toOption := by
  unfold parseOnLine
  apply toOption_bind_congr (ensureService_lineNo lineNo other st)
  intro _
  apply toOption_bind_congr (flushHandler_lineNo lineNo other st)
  intro flushed
  apply toOption_bind_congr (tokenize_lineNo lineNo other line)
  intro toks
  split <;> rfl

theorem parseEffectsLine_lineNo (st : ParserState) (handler : HandlerDecl) (line : List Char) :
    (parseEffectsLine st handler line lineNo).toOption =
      (parseEffectsLine st handler line other).toOption := by
  unfold parseEffectsLine
  dsimp only
  split
  · rfl
  · split
    · rfl
    · exact toOption_bind_congr (parseEffectsDecl_lineNo lineNo other line) fun _ => rfl

/-- A line is read in the same way wherever it stands. -/
theorem parseLine_lineNo (st : ParserState) (raw : List Char) :
    (parseLine st raw lineNo).toOption = (parseLine st raw other).toOption := by
  unfold parseLine
  dsimp only
  split
  · rfl
  split
  · exact parseServiceLine_lineNo lineNo other st _
  split
  · exact parseStateLine_lineNo lineNo other st _
  split
  · exact parseOnLine_lineNo lineNo other st _
  apply toOption_bind_congr (ensureHandler_lineNo lineNo other st)
  intro handler
  split
  · exact parseEffectsLine_lineNo lineNo other st handler _
  · exact toOption_bind_congr (parseAction_lineNo lineNo other _ 0) fun _ => rfl

end LineNumbers

/-! ## The lines that are read -/

/-- The test of `parse_module` for lines without content. -/
def isSkipped (line : List Char) : Bool :=
  line.isEmpty || startsWith line "//" || startsWith line "#"

/-- The trimmed lines of a text that are read. -/
def content (rawLines : List (List Char)) : List (List Char) :=
  (rawLines.map trim).filter fun line => !isSkipped line

theorem content_append (front back : List (List Char)) :
    content (front ++ back) = content front ++ content back := by
  rw [content, List.map_append, List.filter_append]
  rfl

theorem content_dropCarriageReturn (rawLines : List (List Char)) :
    content (rawLines.map dropCarriageReturn) = content rawLines := by
  rw [content, List.map_map, content]
  congr 1
  exact List.map_congr_left fun line _ => trim_dropCarriageReturn line

/-- The carriage returns and the empty last line that `lines` takes away are not read. -/
theorem content_lines (src : List Char) : content (lines src) = content (src.splitOn '\n') := by
  have nonempty := List.splitOn_ne_nil '\n' src
  have last : content (((src.splitOn '\n').getLast?).toList.filter (· ≠ [])) =
      content [(src.splitOn '\n').getLast nonempty] := by
    rw [List.getLast?_eq_some_getLast nonempty, Option.toList_some]
    by_cases empty : (src.splitOn '\n').getLast nonempty = []
    · rw [empty]
      rfl
    · rw [List.filter_cons_of_pos (by simpa using empty), List.filter_nil]
  unfold lines
  dsimp only
  rw [content_append, content_dropCarriageReturn, last, ← content_append,
    List.dropLast_concat_getLast]

/-! ## Reading content -/

/-- The line loop over the lines that are read. -/
def readContent (st : ParserState) (content : List (List Char)) : Option ParserState :=
  content.foldlM (fun st line => (parseLine st line 1).toOption) st

theorem parseLine_skipped {st : ParserState} {raw : List Char} {lineNo : Nat}
    (skipped : isSkipped (trim raw) = true) : parseLine st raw lineNo = .ok st := by
  unfold parseLine
  dsimp only
  exact if_pos skipped

theorem parseLine_trim (st : ParserState) (raw : List Char) (lineNo : Nat) :
    parseLine st (trim raw) lineNo = parseLine st raw lineNo := by
  unfold parseLine
  rw [trim_trim]

theorem parseLines_content (st : ParserState) (lineNo : Nat) (rawLines : List (List Char)) :
    (parseLines st lineNo rawLines).toOption = readContent st (content rawLines) := by
  induction rawLines generalizing st lineNo with
  | nil => rfl
  | cons raw rest ih =>
      rw [parseLines, toOption_bind]
      by_cases skipped : isSkipped (trim raw) = true
      · have same : content (raw :: rest) = content rest := by
          rw [content, List.map_cons, List.filter_cons_of_neg (by simp [skipped]), content]
        rw [parseLine_skipped skipped, same]
        exact ih st (lineNo + 1)
      · have same : content (raw :: rest) = trim raw :: content rest := by
          rw [content, List.map_cons, List.filter_cons_of_pos (by simp [skipped]), content]
        rw [same, readContent, List.foldlM_cons, parseLine_trim, parseLine_lineNo lineNo 1]
        apply Option.bind_congr
        intro next _
        exact ih next (lineNo + 1)

/-- The services of the text when it ends here. -/
def finish (st : ParserState) : Option (List ServiceDecl) :=
  (flushHandler st 1).toOption.map fun flushed => (flushService flushed).services

/-- The module of a text is a function of its content. -/
theorem parseModule_content (src : String) (module : Module) :
    parseModule src = .ok module ↔
      module.services ≠ [] ∧
        (readContent .initial (content (src.toList.splitOn '\n'))).bind finish =
          some module.services := by
  rw [← toOption_eq_some, ← content_lines, ← parseLines_content .initial 1]
  unfold parseModule
  dsimp only
  rw [toOption_bind]
  cases parseLines ParserState.initial 1 (lines src.toList) with
  | error e => simp [Except.toOption]
  | ok st =>
      change ((flushHandler st _ >>= _).toOption = _) ↔ _ ∧ finish st = _
      rw [toOption_bind, finish, flushHandler_lineNo _ 1]
      cases (flushHandler st 1).toOption with
      | none => simp
      | some flushed =>
          rw [Option.bind_some, Option.map_some]
          by_cases empty : (flushService flushed).services.isEmpty = true
          · rw [if_pos empty]
            constructor
            · intro thrown
              cases thrown
            · rintro ⟨nonempty, same⟩
              rw [← Option.some.inj same] at nonempty
              exact absurd (List.isEmpty_iff.mp empty) nonempty
          · rw [if_neg empty]
            constructor
            · intro returned
              cases returned
              exact ⟨by simpa using empty, rfl⟩
            · rintro ⟨_, same⟩
              obtain ⟨declared⟩ := module
              cases same
              rfl

/-! ## Two texts in a row -/

/-- The same variables, with services finished before. -/
def ParserState.after (services : List ServiceDecl) (st : ParserState) : ParserState :=
  { st with services := services ++ st.services }

section Frame

variable {services : List ServiceDecl} {lineNo : Nat}

theorem flushHandler_after (st : ParserState) :
    flushHandler (st.after services) lineNo = (flushHandler st lineNo).map (·.after services) := by
  obtain ⟨finished, current, pending⟩ := st
  cases pending with
  | none => rfl
  | some handler =>
      unfold flushHandler ParserState.after
      dsimp only
      split
      · rfl
      · split <;> rfl

theorem flushService_after (st : ParserState) :
    flushService (st.after services) = (flushService st).after services := by
  obtain ⟨finished, current, pending⟩ := st
  cases current with
  | none => rfl
  | some service => simp [flushService, ParserState.after]

theorem parseServiceLine_after (st : ParserState) (line : List Char) :
    parseServiceLine (st.after services) line lineNo =
      (parseServiceLine st line lineNo).map (·.after services) := by
  unfold parseServiceLine
  rw [flushHandler_after]
  cases flushHandler st lineNo with
  | error e => rfl
  | ok flushed =>
      cases tokenize line lineNo with
      | error e => rfl
      | ok toks =>
          rcases toks with _ | ⟨keyword, _ | ⟨name, _ | ⟨extra, rest⟩⟩⟩
          · rfl
          · rfl
          · change Except.ok { flushService (flushed.after services) with
              currentService := some ⟨name, [], []⟩ } = _
            rw [flushService_after]
            rfl
          · rfl

theorem parseStateLine_after (st : ParserState) (line : List Char) :
    parseStateLine (st.after services) line lineNo =
      (parseStateLine st line lineNo).map (·.after services) := by
  obtain ⟨finished, current, pending⟩ := st
  cases current with
  | none => rfl
  | some service =>
      cases pending with
      | some handler => rfl
      | none =>
          change (parseStateDecl line lineNo >>= _) = Except.map _ (parseStateDecl line lineNo >>= _)
          cases parseStateDecl line lineNo <;> rfl

theorem parseOnLine_after (st : ParserState) (line : List Char) :
    parseOnLine (st.after services) line lineNo =
      (parseOnLine st line lineNo).map (·.after services) := by
  obtain ⟨finished, current, pending⟩ := st
  cases current with
  | none => rfl
  | some service =>
      change (flushHandler (ParserState.after services ⟨finished, some service, pending⟩) lineNo >>=
          _) = Except.map _ (flushHandler ⟨finished, some service, pending⟩ lineNo >>= _)
      rw [flushHandler_after]
      cases flushHandler ⟨finished, some service, pending⟩ lineNo with
      | error e => rfl
      | ok flushed =>
          cases tokenize line lineNo with
          | error e => rfl
          | ok toks =>
              rcases toks with _ | ⟨keyword, _ | ⟨on, _ | ⟨extra, rest⟩⟩⟩ <;> rfl

theorem parseEffectsLine_after (st : ParserState) (handler : HandlerDecl) (line : List Char) :
    parseEffectsLine (st.after services) handler line lineNo =
      (parseEffectsLine st handler line lineNo).map (·.after services) := by
  unfold parseEffectsLine
  dsimp only
  split
  · rfl
  · split
    · rfl
    · cases parseEffectsDecl line lineNo <;> rfl

theorem ensureHandler_after (st : ParserState) :
    ensureHandler (st.after services) lineNo = ensureHandler st lineNo := rfl

/-- No line reads the services that are finished. -/
theorem parseLine_after (st : ParserState) (raw : List Char) :
    parseLine (st.after services) raw lineNo =
      (parseLine st raw lineNo).map (·.after services) := by
  unfold parseLine
  dsimp only
  split
  · rfl
  split
  · exact parseServiceLine_after st _
  split
  · exact parseStateLine_after st _
  split
  · exact parseOnLine_after st _
  rw [ensureHandler_after]
  cases ensureHandler st lineNo with
  | error e => rfl
  | ok handler =>
      change (if _ then _ else _) = Except.map _ (if _ then _ else _)
      split
      · exact parseEffectsLine_after st handler _
      · cases parseAction (trim raw) lineNo 0 <;> rfl

theorem readContent_after (st : ParserState) (lines : List (List Char)) :
    readContent (st.after services) lines = (readContent st lines).map (·.after services) := by
  induction lines generalizing st with
  | nil => rfl
  | cons line rest ih =>
      rw [readContent, readContent, List.foldlM_cons, List.foldlM_cons, parseLine_after,
        toOption_map]
      cases (parseLine st line 1).toOption with
      | none => rfl
      | some next => exact ih next

theorem finish_after (st : ParserState) :
    finish (st.after services) = (finish st).map (services ++ ·) := by
  rw [finish, finish, flushHandler_after, toOption_map, Option.map_map, Option.map_map]
  congr 1
  funext flushed
  exact congrArg ParserState.services (flushService_after flushed)

/-- The end of a text and the next service line close the same declarations. -/
theorem flush_finish {st : ParserState} {declared : List ServiceDecl}
    (finished : finish st = some declared) :
    ∃ flushed, flushHandler st 1 = .ok flushed ∧
      flushService flushed = ParserState.initial.after declared := by
  obtain ⟨flushed, ran, rfl⟩ := Option.map_eq_some_iff.mp finished
  have ran := toOption_eq_some.mp ran
  refine ⟨flushed, ran, ?_⟩
  have closed : flushed.currentHandler = none := by
    unfold flushHandler at ran
    split at ran
    · cases ran
      assumption
    · split at ran
      · cases ran
      · split at ran
        · cases ran
        · cases ran
          rfl
  obtain ⟨services, current, pending⟩ := flushed
  cases closed
  cases current <;> simp [flushService, ParserState.after, ParserState.initial]

theorem parseServiceLine_finish {st : ParserState} {declared : List ServiceDecl}
    (finished : finish st = some declared) (line : List Char) :
    parseServiceLine st line 1 = (parseServiceLine .initial line 1).map (·.after declared) := by
  obtain ⟨flushed, ran, closed⟩ := flush_finish finished
  rw [← parseServiceLine_after]
  unfold parseServiceLine
  rw [ran]
  change (tokenize line 1 >>= _) = (tokenize line 1 >>= _)
  rw [closed]
  rfl

/-- Outside of services only a service line is read. -/
theorem service_of_initial {line : List Char} {st : ParserState}
    (unskipped : isSkipped (trim line) = false)
    (read : (parseLine .initial line 1).toOption = some st) :
    startsWith (trim line) "service " = true := by
  by_contra other
  have ran := toOption_eq_some.mp read
  unfold parseLine at ran
  dsimp only at ran
  rw [if_neg (by rw [← isSkipped, unskipped]; decide), if_neg other] at ran
  split at ran
  · cases ran
  · split at ran <;> cases ran

theorem parseLine_finish {st next : ParserState} {declared : List ServiceDecl} {line : List Char}
    (finished : finish st = some declared) (unskipped : isSkipped (trim line) = false)
    (read : (parseLine .initial line 1).toOption = some next) :
    (parseLine st line 1).toOption = some (next.after declared) := by
  have service := service_of_initial unskipped read
  have ran := toOption_eq_some.mp read
  have dispatched (st : ParserState) :
      parseLine st line 1 = parseServiceLine st (trim line) 1 := by
    unfold parseLine
    dsimp only
    rw [if_neg (by rw [← isSkipped, unskipped]; decide), if_pos service]
  rw [dispatched] at ran
  rw [toOption_eq_some, dispatched, parseServiceLine_finish finished, ran]
  rfl

end Frame

/-- Content read from the beginning reads the same after a text that may end. -/
theorem readContent_finish {st : ParserState} {declared more : List ServiceDecl}
    {rawLines : List (List Char)} (finished : finish st = some declared) (nonempty : more ≠ [])
    (read : (readContent .initial (content rawLines)).bind finish = some more) :
    (readContent st (content rawLines)).bind finish = some (declared ++ more) := by
  cases lines : content rawLines with
  | nil =>
      rw [lines] at read
      cases read
      exact absurd rfl nonempty
  | cons line rest =>
      have member : line ∈ content rawLines := lines ▸ List.mem_cons_self
      obtain ⟨inside, unskipped⟩ := List.mem_filter.mp member
      obtain ⟨raw, _, rfl⟩ := List.mem_map.mp inside
      rw [lines, readContent, List.foldlM_cons] at read
      cases first : (parseLine .initial (trim raw) 1).toOption with
      | none =>
          rw [first] at read
          cases read
      | some next =>
          rw [first] at read
          have unskipped : isSkipped (trim (trim raw)) = false := by
            rw [trim_trim]
            simpa using unskipped
          have same := parseLine_finish finished unskipped first
          change (readContent next rest).bind finish = some more at read
          rw [readContent, List.foldlM_cons, same]
          change (readContent (next.after declared) rest).bind finish = _
          obtain ⟨last, others, ended⟩ := Option.bind_eq_some_iff.mp read
          rw [readContent_after, others, Option.map_some, Option.bind_some, finish_after, ended]
          rfl

/-! ## Layout -/

/-- A line that is blank, or whose first characters that are not blank start a comment. -/
inductive Comment : List Char → Prop where
  | blank {lead} (space : Blank lead) : Comment lead
  | slashes {lead} (space : Blank lead) (rest : List Char) : Comment (lead ++ '/' :: '/' :: rest)
  | hash {lead} (space : Blank lead) (rest : List Char) : Comment (lead ++ '#' :: rest)

/-- The second list of lines has other leading and trailing white space, and more comments. -/
inductive Relaid : List (List Char) → List (List Char) → Prop where
  | nil : Relaid [] []
  | line {lead trail lead' trail' core rest rest'} (before : Blank lead) (after : Blank trail)
      (before' : Blank lead') (after' : Blank trail') (others : Relaid rest rest') :
      Relaid ((lead ++ core ++ trail) :: rest) ((lead' ++ core ++ trail') :: rest')
  | inserted {raw rest rest'} (comment : Comment raw) (others : Relaid rest rest') :
      Relaid rest (raw :: rest')

theorem isSkipped_word {word : String} (marker : word = "//" ∨ word = "#") (rest : List Char) :
    isSkipped (trim (word.toList ++ rest)) = true := by
  have solid : ∀ c ∈ word.toList, isWhitespace c = false := by
    rcases marker with rfl | rfl
    · exact List.forall_iff_forall_mem.mp (by decide)
    · exact List.forall_iff_forall_mem.mp (by decide)
  obtain ⟨kept, same⟩ := trim_word solid rest
  have starts : startsWith (trim (word.toList ++ rest)) word = true := by
    rw [same]
    exact List.isPrefixOf_iff_prefix.mpr (List.prefix_append _ _)
  rcases marker with rfl | rfl
  · rw [isSkipped, starts, Bool.or_true, Bool.true_or]
  · rw [isSkipped, starts, Bool.or_true]

theorem Comment.skipped {raw : List Char} (comment : Comment raw) :
    isSkipped (trim raw) = true := by
  cases comment with
  | blank space =>
      rw [trim_blank space]
      rfl
  | slashes space rest =>
      rw [trim_lead space]
      exact isSkipped_word (.inl rfl) rest
  | hash space rest =>
      rw [trim_lead space]
      exact isSkipped_word (.inr rfl) rest

theorem Relaid.content_eq {rawLines rawLines' : List (List Char)}
    (relaid : Relaid rawLines rawLines') : content rawLines' = content rawLines := by
  have parts (raw : List Char) (rest : List (List Char)) :
      content (raw :: rest) = content [raw] ++ content rest := content_append [raw] rest
  induction relaid with
  | nil => rfl
  | @line lead trail lead' trail' core rest rest' before after before' after' others ih =>
      have trimmed : trim (lead' ++ core ++ trail') = trim (lead ++ core ++ trail) := by
        rw [trim_trail after', trim_lead before', trim_trail after, trim_lead before]
      have same : content [lead' ++ core ++ trail'] = content [lead ++ core ++ trail] := by
        rw [content, List.map_singleton, trimmed, content, List.map_singleton]
      rw [parts, ih, same, ← parts]
  | inserted comment others ih =>
      rw [parts, ih, content, List.map_singleton,
        List.filter_cons_of_neg (by simp [comment.skipped]), List.filter_nil, List.nil_append]

/-- Texts that are accepted can be joined, and the layout of a text has no influence on
its module. -/
theorem parseModule_compositional :
    (∀ (a b : String) (first second : Module), parseModule a = .ok first →
      parseModule b = .ok second →
        parseModule (a ++ "\n" ++ b) = .ok ⟨first.services ++ second.services⟩) ∧
      ∀ (src src' : String) (module : Module),
        Relaid (src.toList.splitOn '\n') (src'.toList.splitOn '\n') →
          (parseModule src' = .ok module ↔ parseModule src = .ok module) := by
  refine ⟨fun a b first second left right => ?_, fun src src' module relaid => ?_⟩
  · rw [parseModule_content] at left right ⊢
    obtain ⟨nonempty, read⟩ := left
    obtain ⟨nonempty', read'⟩ := right
    obtain ⟨st, ran, finished⟩ := Option.bind_eq_some_iff.mp read
    refine ⟨fun none => nonempty (List.append_eq_nil_iff.mp none).1, ?_⟩
    have joined : (a ++ "\n" ++ b).toList.splitOn '\n' =
        a.toList.splitOn '\n' ++ b.toList.splitOn '\n' := by
      rw [String.toList_append, String.toList_append, List.append_assoc]
      exact List.splitOn_append_cons_self _ _
    rw [joined, content_append, readContent, List.foldlM_append]
    change ((readContent _ _).bind _).bind _ = _
    rw [ran]
    exact readContent_finish finished nonempty' read'
  · rw [parseModule_content, parseModule_content, relaid.content_eq]

/-- A module whose two services stand in two texts, the second with another layout. -/
theorem parseModule_compositional_sample :
    parseModule ("service A" ++ "\n" ++ "service B\nstate n = 1") =
        .ok ⟨[⟨"A", [], []⟩, ⟨"B", [⟨"n", 1⟩], []⟩]⟩ ∧
      parseModule "\tservice A \n # note" = .ok ⟨[⟨"A", [], []⟩]⟩ := by
  have first : parseModule "service A" = .ok ⟨[⟨"A", [], []⟩]⟩ := by decide
  have second : parseModule "service B\nstate n = 1" = .ok ⟨[⟨"B", [⟨"n", 1⟩], []⟩]⟩ := by decide
  have relaid : Relaid ("service A".toList.splitOn '\n')
      ("\tservice A \n # note".toList.splitOn '\n') := by
    have blank (c : Char) (space : isWhitespace c = true) : Blank [c] := fun d member => by
      rw [List.mem_singleton.mp member, space]
    have nothing : Blank [] := fun d member => absurd member List.not_mem_nil
    exact @Relaid.line [] [] ['\t'] [' '] "service A".toList _ _ nothing nothing
      (blank '\t' rfl) (blank ' ' rfl) (.inserted (.hash (blank ' ' rfl) " note".toList) .nil)
  exact ⟨parseModule_compositional.1 _ _ _ _ first second,
    (parseModule_compositional.2 _ _ _ relaid).mpr first⟩

end UcoStack.Lang
