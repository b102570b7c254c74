import UcoStack.Policy.Shell

/-!
# Profile selection of the policy gate

`Resolve-PolicyProfile` of `invariant_trend_policy.ps1`: the first rule that
matches selects its profile, and otherwise the default profile is taken.
-/

namespace UcoStack.Policy

structure RuleReference where
  index : Nat
  name : String
  profile : String
  deriving DecidableEq, Repr

structure PolicySelection where
  profile : String
  source : String
  rule : Option RuleReference
  defaultProfile : String
  deriving DecidableEq, Repr

section Gate

variable {S : Type} (sh : Shell S)

def testProfileSelectionRule (rule : Value S) (resolvedBranch resolvedRunSource : String)
    (resolvedIsPullRequest : Bool) : Except String Bool := do
  if ← sh.selectorsMatch rule resolvedBranch resolvedRunSource then
    if sh.hasProperty rule "is_pull_request" then
      .ok (resolvedIsPullRequest == sh.truth (sh.member rule "is_pull_request"))
    else .ok true
  else .ok false

/-- The names of the profiles, as both scripts collect them. -/
def availableProfiles (policyFile : Value S) : List String :=
  (sh.properties (sh.member policyFile "profiles")).map Prod.fst

/-- The list of rules, as both scripts read it. -/
def selectionRules (policyFile : Value S) : List (Value S) :=
  let rules := sh.member (sh.member policyFile "profile_resolution") "rules"
  if rules.isNull then [] else rules.asArray

def policyDefault (policyFile : Value S) : String :=
  let selectionConfig := sh.member policyFile "profile_resolution"
  if !selectionConfig.isNull &&
      !sh.isNullOrWhiteSpace (sh.textMember selectionConfig "default_profile") then
    sh.textMember selectionConfig "default_profile"
  else sh.textMember policyFile "default_profile"

/-- The loop over the rules; `index` is the position of the first rule of the list. -/
def resolveByRules (available : List String) (defaultProfile resolvedBranch : String)
    (resolvedRunSource : String) (resolvedIsPullRequest : Bool) :
    Nat → List (Value S) → Except String PolicySelection
  | _, [] => .ok ⟨defaultProfile, "default_profile", none, defaultProfile⟩
  | index, rule :: rest =>
      if rule.isNull then
        resolveByRules available defaultProfile resolvedBranch resolvedRunSource
          resolvedIsPullRequest (index + 1) rest
      else
        let ruleProfile := sh.textMember rule "profile"
        if sh.isNullOrWhiteSpace ruleProfile then
          .error s!"profile_resolution.rules[{index}] missing required 'profile'"
        else if !sh.isIn ruleProfile available then
          .error s!"profile_resolution.rules[{index}] references unknown profile '{ruleProfile}'"
        else do
          if ← testProfileSelectionRule sh rule resolvedBranch resolvedRunSource
              resolvedIsPullRequest then
            .ok
              { profile := ruleProfile
                source := "profile_resolution_rule"
                rule := some ⟨index, sh.textMember rule "name", ruleProfile⟩
                defaultProfile := defaultProfile }
          else
            resolveByRules available defaultProfile resolvedBranch resolvedRunSource
              resolvedIsPullRequest (index + 1) rest

def resolvePolicyProfile (policyFile : Value S) (available : List String)
    (resolvedBranch resolvedRunSource : String) (resolvedIsPullRequest : Bool) :
    Except String PolicySelection :=
  let defaultProfile := policyDefault sh policyFile
  if sh.isNullOrWhiteSpace defaultProfile then
    .error "No policy profile provided and no default profile is configured."
  else if !sh.isIn defaultProfile available then
    .error s!"Default trend policy profile {defaultProfile} is not present in profiles."
  else
    resolveByRules sh available defaultProfile resolvedBranch resolvedRunSource
      resolvedIsPullRequest 0 (selectionRules sh policyFile)

end Gate

end UcoStack.Policy
