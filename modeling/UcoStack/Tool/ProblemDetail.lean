import Mathlib.Data.List.DropRight
import UcoStack.Lang.Parser
import UcoStack.Library.Search
import UcoStack.Tool.Classify

/-!
# Problem details

`buildProblemDetail` reads the context of a problem back out of its text: it looks for
the UUID after fixed markers and else takes the first and the second UUID of the text.
-/

namespace UcoStack.Tool

open UcoStack.Runtime
open Format

/-! ## The source functions -/

structure ProblemDetail where
  code : ProblemCode
  seq : Option Nat
  node : Option String
  actor : Option String
  msgId : Option String
  message : String
  deriving DecidableEq, Repr

def extractFirstU64After (problem : String) (marker : Pattern) : Option Nat := do
  let rest ← restAfter marker.chars problem.toList
  let digits := rest.takeWhile Char.isDigit
  if digits.isEmpty then none else Lang.parseU64 (String.ofList digits)

/-- Rust's `char::is_ascii_hexdigit`. -/
def isAsciiHexdigit (c : Char) : Bool :=
  c.isDigit || ('a' ≤ c && c ≤ 'f') || ('A' ≤ c && c ≤ 'F')

/-- The characters that are trimmed from both ends of a token. -/
def isTrimmed (c : Char) : Bool := c != '-' && !isAsciiHexdigit c && c != '/' && c != '`'

/-- Rust's `str::trim_matches`. -/
def trimMatches (trims : Char → Bool) (cs : List Char) : List Char :=
  (cs.dropWhile trims).rdropWhile trims

section Extraction

variable {V : Type} (host : Host V)

def parseUuidToken (raw : List Char) : Option String :=
  (((trimMatches isTrimmed raw).splitOn '/').map String.ofList).find?
    fun candidate => (host.uuidParse candidate).isSome

/-- The characters that end the token after a marker. -/
def endsToken (c : Char) : Bool := Lang.isWhitespace c || [',', ')', ']', ';'].elem c

/-- The characters between the tokens of a text. -/
def separatesTokens (c : Char) : Bool :=
  Lang.isWhitespace c || [',', ':', '(', ')', '[', ']', ';'].elem c

def extractUuidAfter (problem : List Char) (marker : Pattern) : Option String := do
  let rest ← restAfter marker.chars problem
  parseUuidToken host (rest.takeWhile fun c => !endsToken c)

def rawUuids (problem : List Char) : List String :=
  (problem.splitOnP separatesTokens).filterMap (parseUuidToken host)

/-- The UUIDs of a text, each once. -/
def extractAllUuids (problem : List Char) : List String :=
  (rawUuids host problem).foldl (fun out uuid => if uuid ∈ out then out else out ++ [uuid]) []

def msgIdMarkers : List Pattern := [pattern "msg_id=", pattern "msg_id ", pattern "msg_id"]

def nodeMarkers : List Pattern := [pattern "node=", pattern "from_node=", pattern "local_node="]

def actorMarkers : List Pattern :=
  [pattern "actor=", pattern "actor ", pattern "to=", pattern "from actor "]

/-- The first marker that a UUID follows. -/
def extractFirst (problem : List Char) (markers : List Pattern) : Option String :=
  markers.findSome? (extractUuidAfter host problem)

def buildProblemDetail (problem : String) : ProblemDetail :=
  let uuids := extractAllUuids host problem.toList
  { code := classifyProblem problem
    seq := extractFirstU64After problem (pattern "seq ")
    node := (extractFirst host problem.toList nodeMarkers).or uuids[0]?
    actor := extractFirst host problem.toList actorMarkers
    msgId := (extractFirst host problem.toList msgIdMarkers).or uuids[1]?
    message := problem }

end Extraction

/-! ## Which texts are UUIDs -/

/-- The characters of the text forms of UUIDs: plain, hyphenated, braced and as a URN. -/
def isUuidFormChar (c : Char) : Bool :=
  isAsciiHexdigit c || ['-', '\x7b', '\x7d', ':', 'u', 'r', 'n', 'i', 'd'].elem c

/-- What the UUID library promises: UUIDs are printed as hexadecimal digits and hyphens,
and a text that is read as a UUID has at least 32 characters, all of its text forms. -/
structure ReadsUuids {V : Type} (tool : ToolHost V) : Prop where
  host : tool.toHost.Lawful
  prints : PrintsHex tool
  long : ∀ text id, tool.uuidParse text = some id → 32 ≤ text.toList.length
  forms : ∀ text id, tool.uuidParse text = some id → ∀ c ∈ text.toList, isUuidFormChar c = true
  hops : ∀ payload message prov, tool.decodePayload payload = .ok message →
    message.provenance = some prov → prov.hops ≤ u64Max

end UcoStack.Tool
