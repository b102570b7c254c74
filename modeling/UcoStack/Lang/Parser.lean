import Mathlib.Algebra.Group.Int.Defs
import Mathlib.Algebra.Group.Nat.Defs
import UcoStack.Lang.Ast

/-!
# The line parser of the service language

`parseModule` reads a program text line by line and threads the service and the
handler under construction.  Text is handled as a list of Unicode scalar
values; tokens and names are turned back into strings.
-/

namespace UcoStack.Lang

structure ParseError where
  line : Nat
  message : String
  deriving DecidableEq, Repr

/-- The text printed for a parse error. -/
def ParseError.text (error : ParseError) : String := s!"line {error.line}: {error.message}"

/-! ## Characters, lines and numbers -/

/-- Rust's `char::is_whitespace`: the Unicode `White_Space` property. -/
def isWhitespace (c : Char) : Bool :=
  (9 ≤ c.toNat && c.toNat ≤ 13) || c.toNat == 0x20 || c.toNat == 0x85 || c.toNat == 0xA0 ||
    c.toNat == 0x1680 || (0x2000 ≤ c.toNat && c.toNat ≤ 0x200A) || c.toNat == 0x2028 ||
    c.toNat == 0x2029 || c.toNat == 0x202F || c.toNat == 0x205F || c.toNat == 0x3000

/-- Rust's `str::trim`. -/
def trim (cs : List Char) : List Char :=
  ((cs.dropWhile isWhitespace).reverse.dropWhile isWhitespace).reverse

/-- Drop the carriage return of a `\r\n` line ending. -/
def dropCarriageReturn (line : List Char) : List Char :=
  if line.getLast? = some '\r' then line.dropLast else line

/-- Rust's `str::lines`: every line break ends a line, and the text after the
last break is a line only when it is not empty. -/
def lines (src : List Char) : List (List Char) :=
  let parts := src.splitOn '\n'
  parts.dropLast.map dropCarriageReturn ++ parts.getLast?.toList.filter (· ≠ [])

def startsWith (line : List Char) (word : String) : Bool := word.toList.isPrefixOf line

def parseDigits : List Char → Option Nat
  | [] => none
  | cs => cs.foldlM (fun n c => if c.isDigit then some (10 * n + (c.toNat - 48)) else none) 0

/-- Rust's `str::parse::<u64>`. -/
def parseU64 (token : String) : Option Nat := do
  let digits := match token.toList with
    | '+' :: rest => rest
    | cs => cs
  let n ← parseDigits digits
  if n < 2 ^ 64 then some n else none

/-- Rust's `str::parse::<i64>`. -/
def parseI64 (token : String) : Option Int := do
  let n : Int ← match token.toList with
    | '-' :: rest => (parseDigits rest).map fun n => -(n : Int)
    | '+' :: rest => (parseDigits rest).map Int.ofNat
    | cs => (parseDigits cs).map Int.ofNat
  if -2 ^ 63 ≤ n ∧ n < 2 ^ 63 then some n else none

/-! ## Tokens -/

/-- The character loop of `tokenize`: quoted mode, current token, finished tokens. -/
def tokenizeLoop (lineNo : Nat) :
    Bool → List Char → List String → List Char → Except ParseError (List String)
  | true, _, _, [] => .error ⟨lineNo, "unterminated quoted string"⟩
  | false, cur, out, [] => .ok (if cur.isEmpty then out else out ++ [String.ofList cur])
  | true, cur, out, '"' :: cs => tokenizeLoop lineNo false cur out cs
  | true, _, _, ['\\'] => .error ⟨lineNo, "unterminated escape sequence"⟩
  | true, cur, out, '\\' :: next :: cs => tokenizeLoop lineNo true (cur ++ [next]) out cs
  | true, cur, out, c :: cs => tokenizeLoop lineNo true (cur ++ [c]) out cs
  | false, cur, out, '"' :: cs => tokenizeLoop lineNo true cur out cs
  | false, cur, out, c :: cs =>
      if isWhitespace c then
        if cur.isEmpty then tokenizeLoop lineNo false [] out cs
        else tokenizeLoop lineNo false [] (out ++ [String.ofList cur]) cs
      else tokenizeLoop lineNo false (cur ++ [c]) out cs

def tokenize (line : List Char) (lineNo : Nat) : Except ParseError (List String) :=
  tokenizeLoop lineNo false [] [] line

/-- Rust's `[String]::join(" ")`. -/
def joinSpaces (toks : List String) : String := " ".intercalate toks

/-! ## Actions -/

def parseRemoteTarget (raw : String) (lineNo : Nat) : Except ParseError RemoteTarget :=
  if raw = "peers" then .ok .peers
  else if raw = "sender" then .ok .sender
  else if startsWith raw.toList "node:" && 5 < raw.toList.length then
    .ok (.node (String.ofList (raw.toList.drop 5)))
  else
    .error ⟨lineNo,
      s!"invalid remote target `{raw}`; expected peers, sender, or node:<uuid>"⟩

def parseLog (toks : List String) (lineNo : Nat) : Except ParseError ActionDecl :=
  if toks.length < 2 then .error ⟨lineNo, "log action must be: log <template>"⟩
  else .ok (.log (joinSpaces (toks.drop 1)))

def parseSetState (toks : List String) (lineNo : Nat) : Except ParseError ActionDecl :=
  match toks with
  | [_, key, raw] =>
      match parseI64 raw with
      | none => .error ⟨lineNo, s!"invalid integer value `{raw}`"⟩
      | some value => .ok (.setState key value)
  | _ => .error ⟨lineNo, "set action must be: set <state> <int>"⟩

def parseIncState (toks : List String) (lineNo : Nat) : Except ParseError ActionDecl :=
  match toks with
  | [_, key] => .ok (.incState key 1)
  | [_, key, raw] =>
      match parseI64 raw with
      | none => .error ⟨lineNo, s!"invalid integer value `{raw}`"⟩
      | some amount => .ok (.incState key amount)
  | _ => .error ⟨lineNo, "inc action must be: inc <state> [by]"⟩

def parseTimerLocal (toks : List String) (lineNo : Nat) : Except ParseError ActionDecl :=
  match toks with
  | _ :: rawSteps :: scope :: tok3 :: tok4 :: rest =>
      match parseU64 rawSteps with
      | none => .error ⟨lineNo, s!"invalid timer step value `{rawSteps}`"⟩
      | some 0 => .error ⟨lineNo, "timer steps must be >= 1"⟩
      | some steps =>
          if scope = "remote" then
            match rest with
            | tok5 :: template => do
                if template.isEmpty then
                  throw ⟨lineNo, "remote timer must be: timer <steps> remote <peers|sender|node:...> <Service> <Message> <template>"⟩
                let target ← parseRemoteTarget tok3 lineNo
                pure (.timerRemote steps target tok4 tok5 (joinSpaces template))
            | [] => .error ⟨lineNo, "remote timer must be: timer <steps> remote <peers|sender|node:...> <Service> <Message> <template>"⟩
          else if scope = "local" then
            if rest.isEmpty then
              .error ⟨lineNo, "local timer must be: timer <steps> local <Service> <Message> <template>"⟩
            else .ok (.timerLocal steps tok3 tok4 (joinSpaces rest))
          else .ok (.timerLocal steps scope tok3 (joinSpaces (tok4 :: rest)))
  | _ => .error ⟨lineNo, "timer action must be: timer <steps> [local|remote ...] <Service> <Message> <template>"⟩

def parseSend (toks : List String) (lineNo : Nat) : Except ParseError ActionDecl :=
  match toks with
  | _ :: scope :: tok2 :: tok3 :: tok4 :: rest =>
      if scope = "local" then .ok (.sendLocal tok2 tok3 (joinSpaces (tok4 :: rest)))
      else if scope = "remote" then do
        if rest.isEmpty then
          throw ⟨lineNo, "remote send must be: send remote <peers|sender|node:...> <Service> <Message> <template>"⟩
        let target ← parseRemoteTarget tok2 lineNo
        pure (.sendRemote target tok3 tok4 (joinSpaces rest))
      else .error ⟨lineNo, s!"unknown send scope `{scope}`; expected `local` or `remote`"⟩
  | _ => .error ⟨lineNo, "send action is incomplete"⟩

/-- `parse_action_tokens`, with the `if` form of `parse_if_state_eq` inlined:
the two functions call each other, and only the nested action is shorter.  The
depth is passed along and tested nowhere below `parseAction`. -/
def parseActionTokens (lineNo : Nat) : List String → Nat → Except ParseError ActionDecl
  | [], _ => .error ⟨lineNo, "empty action"⟩
  | "if" :: key :: op :: raw :: nested :: rest, depth =>
      if op ≠ "==" then .error ⟨lineNo, "if currently supports only `==` comparison"⟩
      else
        match parseI64 raw with
        | none => .error ⟨lineNo, s!"invalid integer value `{raw}`"⟩
        | some value =>
            (parseActionTokens lineNo (nested :: rest) (depth + 1)).map (.ifStateEq key value)
  | head :: tail, _ =>
      if head = "log" then parseLog (head :: tail) lineNo
      else if head = "set" then parseSetState (head :: tail) lineNo
      else if head = "inc" then parseIncState (head :: tail) lineNo
      else if head = "timer" then parseTimerLocal (head :: tail) lineNo
      else if head = "send" then parseSend (head :: tail) lineNo
      else if head = "if" then
        .error ⟨lineNo, "if action must be: if <state> == <int> <action...>"⟩
      else .error ⟨lineNo, s!"unknown action `{head}`"⟩

def parseAction (line : List Char) (lineNo depth : Nat) : Except ParseError ActionDecl := do
  if 8 < depth then throw ⟨lineNo, "nested `if` depth exceeds limit"⟩
  let toks ← tokenize line lineNo
  parseActionTokens lineNo toks depth

/-! ## Declarations -/

def parseStateDecl (line : List Char) (lineNo : Nat) : Except ParseError StateDecl := do
  match ← tokenize line lineNo with
  | [_, name, "=", raw] =>
      match parseI64 raw with
      | none => throw ⟨lineNo, s!"invalid state initial value `{raw}`"⟩
      | some initial => pure ⟨name, initial⟩
  | _ => throw ⟨lineNo, "state declaration must be: state <name> = <int>"⟩

/-- One comma-separated part of an effects declaration; `none` for an empty part. -/
def parseEffectName (name : String) (lineNo : Nat) :
    Except ParseError (Option HandlerEffect) :=
  if name = "" then .ok none
  else
    match HandlerEffect.all.find? (·.spelling = name) with
    | some effect => .ok (some effect)
    | none => .error ⟨lineNo, s!"unknown effect `{name}`; expected log, state_read, state_write, send_local, send_remote, timer_local, timer_remote"⟩

def parseEffectsLoop (lineNo : Nat) :
    List String → List HandlerEffect → Except ParseError (List HandlerEffect)
  | [], out => .ok out
  | part :: parts, out => do
      match ← parseEffectName part lineNo with
      | none => parseEffectsLoop lineNo parts out
      | some effect =>
          parseEffectsLoop lineNo parts (if effect ∈ out then out else out ++ [effect])

def parseEffectsDecl (line : List Char) (lineNo : Nat) :
    Except ParseError (List HandlerEffect) := do
  let toks ← tokenize line lineNo
  if toks.length < 2 then
    throw ⟨lineNo, "effects declaration must be: effects <effect...>"⟩
  let parts := (toks.drop 1).flatMap fun raw =>
    (raw.toList.splitOn ',').map fun part => String.ofList (trim part)
  let out ← parseEffectsLoop lineNo parts []
  if out.isEmpty then
    throw ⟨lineNo, "effects declaration must include at least one effect"⟩
  pure out

/-! ## Modules -/

/-- The variables of `parse_module`: finished services, then the service and
the handler under construction. -/
structure ParserState where
  services : List ServiceDecl
  currentService : Option ServiceDecl
  currentHandler : Option HandlerDecl
  deriving DecidableEq, Repr

def ParserState.initial : ParserState := ⟨[], none, none⟩

def ensureService (st : ParserState) (lineNo : Nat) : Except ParseError ServiceDecl :=
  match st.currentService with
  | none => .error ⟨lineNo, "found handler/action outside of any service"⟩
  | some service => .ok service

def ensureHandler (st : ParserState) (lineNo : Nat) : Except ParseError HandlerDecl := do
  let _ ← ensureService st lineNo
  match st.currentHandler with
  | none => throw ⟨lineNo, "found action outside of any handler"⟩
  | some handler => pure handler

/-- Close the current handler.  A handler without a service cannot be built,
so the source's `expect` on the service never fires. -/
def flushHandler (st : ParserState) (lineNo : Nat) : Except ParseError ParserState :=
  match st.currentHandler with
  | none => .ok st
  | some h =>
      if h.actions.isEmpty then .error ⟨lineNo, s!"handler `on {h.on}` has no actions"⟩
      else if h.effects.isEmpty then
        .error ⟨lineNo, s!"handler `on {h.on}` missing required effects declaration"⟩
      else
        .ok { st with
          currentService := st.currentService.map fun s =>
            { s with handlers := s.handlers ++ [h] }
          currentHandler := none }

def flushService (st : ParserState) : ParserState :=
  match st.currentService with
  | none => st
  | some s => { st with services := st.services ++ [s], currentService := none }

def parseServiceLine (st : ParserState) (line : List Char) (lineNo : Nat) :
    Except ParseError ParserState := do
  let st ← flushHandler st lineNo
  let st := flushService st
  match ← tokenize line lineNo with
  | [_, name] => pure { st with currentService := some ⟨name, [], []⟩ }
  | _ => throw ⟨lineNo, "service declaration must be: service <Name>"⟩

def parseStateLine (st : ParserState) (line : List Char) (lineNo : Nat) :
    Except ParseError ParserState := do
  let service ← ensureService st lineNo
  if st.currentHandler.isSome then
    throw ⟨lineNo, "state declarations must appear before handlers in a service"⟩
  let state ← parseStateDecl line lineNo
  pure { st with currentService := some { service with states := service.states ++ [state] } }

def parseOnLine (st : ParserState) (line : List Char) (lineNo : Nat) :
    Except ParseError ParserState := do
  let _ ← ensureService st lineNo
  let st ← flushHandler st lineNo
  match ← tokenize line lineNo with
  | [_, on] => pure { st with currentHandler := some ⟨on, [], []⟩ }
  | _ => throw ⟨lineNo, "handler declaration must be: on <MessageType>"⟩

def parseEffectsLine (st : ParserState) (handler : HandlerDecl) (line : List Char)
    (lineNo : Nat) : Except ParseError ParserState := do
  if !handler.effects.isEmpty then
    throw ⟨lineNo, "duplicate effects declaration in handler"⟩
  if !handler.actions.isEmpty then
    throw ⟨lineNo, "effects declaration must appear before actions in a handler"⟩
  let effects ← parseEffectsDecl line lineNo
  pure { st with currentHandler := some { handler with effects := effects } }

/-- The body of the line loop of `parse_module`. -/
def parseLine (st : ParserState) (raw : List Char) (lineNo : Nat) :
    Except ParseError ParserState := do
  let line := trim raw
  if line.isEmpty || startsWith line "//" || startsWith line "#" then pure st
  else if startsWith line "service " then parseServiceLine st line lineNo
  else if startsWith line "state " then parseStateLine st line lineNo
  else if startsWith line "on " then parseOnLine st line lineNo
  else
    let handler ← ensureHandler st lineNo
    if startsWith line "effects " then parseEffectsLine st handler line lineNo
    else
      let action ← parseAction line lineNo 0
      pure { st with
        currentHandler := some { handler with actions := handler.actions ++ [action] } }

def parseLines : ParserState → Nat → List (List Char) → Except ParseError ParserState
  | st, _, [] => .ok st
  | st, lineNo, raw :: rest => do
      let st ← parseLine st raw lineNo
      parseLines st (lineNo + 1) rest

def parseModule (src : String) : Except ParseError Module := do
  let rawLines := lines src.toList
  let st ← parseLines .initial 1 rawLines
  let st ← flushHandler st (rawLines.length + 1)
  let st := flushService st
  if st.services.isEmpty then throw ⟨1, "program must declare at least one service"⟩
  pure ⟨st.services⟩

end UcoStack.Lang
