import Mathlib.Data.List.Basic

/-!
# Policy documents as the scripts see them

The scripts read a policy with `ConvertFrom-Json` and convert what they find with
the operators of PowerShell.  The conversions of null, booleans and strings are
written out; those of the other values, string comparison, wildcards and regular
expressions are parameters.
-/

namespace UcoStack.Policy

/-- A value of a document; `S` holds the numbers and dates. -/
inductive Value (S : Type) where
  | null
  | bool (b : Bool)
  | string (s : String)
  | scalar (x : S)
  | array (items : List (Value S))
  | object (properties : List (String × Value S))

def Value.isNull {S : Type} : Value S → Bool
  | .null => true
  | _ => false

/-- `@($Value)` -/
def Value.asArray {S : Type} : Value S → List (Value S)
  | .array items => items
  | value => [value]

/-- What the scripts use of PowerShell and .NET. -/
structure Shell (S : Type) where
  /-- `[string]::Equals` with `OrdinalIgnoreCase` -/
  equalsIgnoreCase : String → String → Bool
  /-- `-eq` on strings -/
  eq : String → String → Bool
  isNullOrWhiteSpace : String → Bool
  trim : String → String
  toLowerInvariant : String → String
  /-- `-like`, which throws on a malformed pattern -/
  like : String → String → Except String Bool
  /-- the constructor of `[regex]` -/
  regexNew : String → Except String Unit
  /-- `[regex]::IsMatch` with `IgnoreCase` -/
  regexIsMatch : String → String → Except String Bool
  /-- `[string]` on scalars, arrays and objects -/
  textOf : Value S → String
  /-- `[bool]` on scalars, arrays and objects -/
  truthOf : Value S → Bool
  /-- `[int]`, where it does not throw -/
  toInt : Value S → Option Int
  /-- the properties of what is no object of the document -/
  propertiesOf : Value S → List (String × Value S)
  /-- member access on what is no object of the document -/
  memberOf : Value S → String → Value S
  /-- whether `[DateTimeOffset]::Parse` succeeds -/
  parsesDate : String → Bool

namespace Shell

variable {S : Type} (sh : Shell S)

/-- `[string]$Value` -/
def text : Value S → String
  | .null => ""
  | .bool true => "True"
  | .bool false => "False"
  | .string s => s
  | value => sh.textOf value

/-- `[bool]$Value` -/
def truth : Value S → Bool
  | .null => false
  | .bool b => b
  | .string s => s ≠ ""
  | value => sh.truthOf value

/-- `$Value.PSObject.Properties` -/
def properties : Value S → List (String × Value S)
  | .null => []
  | .object properties => properties
  | value => sh.propertiesOf value

/-- `$Value.name` -/
def member (value : Value S) (name : String) : Value S :=
  match value with
  | .null => .null
  | .object properties =>
      ((properties.find? fun property => sh.equalsIgnoreCase property.1 name).map Prod.snd).getD
        .null
  | value => sh.memberOf value name

/-- `[string]$Value.name` -/
def textMember (value : Value S) (name : String) : String := sh.text (sh.member value name)

/-- `$Text -in $Texts` -/
def isIn (text : String) (texts : List String) : Bool := texts.any fun other => sh.eq other text

/-- `$Value.PSObject.Properties.Name -contains $Name` -/
def hasProperty (value : Value S) (name : String) : Bool :=
  sh.isIn name ((sh.properties value).map Prod.fst)

/-- `Contains` of a hash set with the comparer `OrdinalIgnoreCase` -/
def setContains (texts : List String) (text : String) : Bool :=
  texts.any fun other => sh.equalsIgnoreCase other text

/-- `Get-StringList`, the same in both scripts -/
def getStringList : Value S → List String
  | .null => []
  | .array items => (items.map sh.text).filter fun s => !sh.isNullOrWhiteSpace s
  | value => [sh.text value].filter fun s => !sh.isNullOrWhiteSpace s

/-- The operators behave as documented where the scripts rely on it. -/
structure Lawful : Prop where
  equals_refl : ∀ a, sh.equalsIgnoreCase a a = true
  equals_symm : ∀ a b, sh.equalsIgnoreCase a b = true → sh.equalsIgnoreCase b a = true
  eq_of_equals : ∀ a b, sh.equalsIgnoreCase a b = true → sh.eq a b = true
  trim_empty : sh.trim "" = ""
  toLowerInvariant_empty : sh.toLowerInvariant "" = ""
  eq_empty : ∀ a, (∃ c ∈ a.toList, c.isAlphanum) → sh.eq a "" = false

/-! ## Selectors of a rule -/

/-- Some candidate is the subject, or there is none. -/
def exactSelector (candidates : List String) (subject : String) : Bool :=
  candidates.isEmpty || candidates.any fun candidate => sh.equalsIgnoreCase subject candidate

def anyLike (subject : String) : List String → Except String Bool
  | [] => .ok false
  | pattern :: rest => do
      if ← sh.like subject pattern then .ok true else anyLike subject rest

def globSelector (patterns : List String) (subject : String) : Except String Bool :=
  if patterns.isEmpty then .ok true else sh.anyLike subject patterns

def regexSelector (pattern subject : String) : Except String Bool :=
  if sh.isNullOrWhiteSpace pattern then .ok true else sh.regexIsMatch subject pattern

/-- The selectors for branch and run source, which both scripts test in the same way. -/
def selectorsMatch (rule : Value S) (branch runSource : String) : Except String Bool :=
  if sh.exactSelector (sh.getStringList (sh.member rule "branch_exact")) branch then do
    if ← sh.globSelector (sh.getStringList (sh.member rule "branch_glob")) branch then
      if ← sh.regexSelector (sh.textMember rule "branch_regex") branch then
        .ok (sh.exactSelector (sh.getStringList (sh.member rule "run_source")) runSource)
      else .ok false
    else .ok false
  else .ok false

end Shell

end UcoStack.Policy
