import Mathlib.Data.List.Sort
import UcoStack.Runtime.Program

/-!
# Template rendering

A template is rewritten by one global replacement per token, in the order of
the source: each replacement works on the output of the ones before it.
-/

namespace UcoStack.Runtime

/-- Replace the occurrences of a nonempty pattern from left to right; `skip`
counts the characters of the current occurrence still to be passed over. -/
def replaceLoop (pattern replacement : List Char) : Nat → List Char → List Char
  | _, [] => []
  | skip + 1, _ :: cs => replaceLoop pattern replacement skip cs
  | 0, c :: cs =>
      if pattern.isPrefixOf (c :: cs) then
        replacement ++ replaceLoop pattern replacement (pattern.length - 1) cs
      else c :: replaceLoop pattern replacement 0 cs

/-- Rust's `str::replace` for a nonempty pattern. -/
def replace (text pattern replacement : String) : String :=
  String.ofList (replaceLoop pattern.toList replacement.toList 0 text.toList)

/-- The keys of a state map in the order of `sort_unstable`. -/
def sortedKeys (state : StateMap) : List String :=
  state.keys.insertionSort (· ≤ ·)

def replaceState (state : StateMap) (out key : String) : String :=
  match state.lookup key with
  | some value => replace out ("$state." ++ key) (toString value)
  | none => out

/-- Token and value of every provenance replacement, in source order. -/
def provenanceTokens (incoming : RuntimeMessage) : List (String × String) :=
  let value (field : Provenance → String) := (incoming.provenance.map field).getD ""
  [("$prov.origin_node", value (·.originNode)),
    ("$prov.origin_service", value (·.originService)),
    ("$prov.origin_msg", value (·.originMsgId)),
    ("$prov.parent_node", value (·.parentNode)),
    ("$prov.parent_msg", value (·.parentMsgId)),
    ("$prov.hops", value fun prov => toString prov.hops)]

section Rendering

variable {V : Type} (host : Host V)

/-- Token and value of every replacement before the state tokens, in source order. -/
def messageTokens (selfNode : Uuid) (selfService : String) (incoming : RuntimeMessage) :
    List (String × String) :=
  [("$self_node", host.uuidToString selfNode),
    ("$self_service", selfService),
    ("$from_node", incoming.fromNode),
    ("$from_service", incoming.fromService),
    ("$text", incoming.text),
    ("$type", incoming.msgType)] ++ provenanceTokens incoming

def renderTemplate (template : String) (selfNode : Uuid) (selfService : String)
    (incoming : RuntimeMessage) (state : StateMap) : String :=
  let out := (messageTokens host selfNode selfService incoming).foldl
    (fun out token => replace out token.1 token.2) template
  (sortedKeys state).foldl (replaceState state) out

end Rendering

end UcoStack.Runtime
