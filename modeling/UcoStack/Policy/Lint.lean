import UcoStack.Policy.Gate

/-!
# The policy lint

`invariant_trend_policy_lint.ps1`: the findings on a policy document, and its own
copy of the profile selection, which it runs on the test contexts of the document.
-/

namespace UcoStack.Policy

inductive Severity where
  | error
  | warn
  deriving DecidableEq, Repr

structure Finding where
  severity : Severity
  code : String
  message : String
  deriving DecidableEq, Repr

structure LintSelection where
  profile : String
  source : String
  ruleIndex : Int
  ruleName : String
  deriving DecidableEq, Repr

/-- The findings up to the end or to the exception that stopped the script. -/
structure LintRun where
  findings : List Finding
  failure : Option String
  deriving DecidableEq, Repr

def thresholdKeys : List String :=
  ["max_total_issues", "max_local_issues", "max_cluster_issues", "max_total_delta_increase",
    "max_local_delta_increase", "max_cluster_delta_increase", "max_single_code_delta_increase"]

def allowedRunSources : List String := ["local", "github-actions", "unknown"]

section Lint

variable {S : Type} (sh : Shell S)

/-! ## Conversions -/

def testIsBoolLike : Value S → Bool
  | .bool _ => true
  | .string s =>
      sh.isIn (sh.toLowerInvariant (sh.trim s))
        ["true", "false", "1", "0", "yes", "no", "on", "off", "y", "n"]
  | _ => false

def testIsNonNegativeIntLike (value : Value S) : Bool :=
  if value.isNull then false else (sh.toInt value).any fun num => 0 ≤ num

def parseBoolLikeValueOrNull : Value S → Option Bool
  | .bool b => some b
  | .string s =>
      if sh.isIn (sh.toLowerInvariant (sh.trim s)) ["true", "1", "yes", "on", "y"] then some true
      else if sh.isIn (sh.toLowerInvariant (sh.trim s)) ["false", "0", "no", "off", "n"] then
        some false
      else none
  | _ => none

/-! ## Profile selection -/

def testRuleMatchForContext (rule : Value S) (branchName runSource : String)
    (isPullRequest : Bool) : Except String Bool := do
  if ← sh.selectorsMatch rule branchName runSource then
    if sh.hasProperty rule "is_pull_request" then
      match parseBoolLikeValueOrNull sh (sh.member rule "is_pull_request") with
      | none => .ok false
      | some expected => .ok (expected == isPullRequest)
    else .ok true
  else .ok false

/-- The loop over the rules; `index` is the position of the first rule of the list. -/
def resolveProfileFrom (defaultProfile branchName runSource : String) (isPullRequest : Bool) :
    Nat → List (Value S) → Except String LintSelection
  | _, [] => .ok ⟨defaultProfile, "default", -1, ""⟩
  | index, rule :: rest =>
      if rule.isNull then
        resolveProfileFrom defaultProfile branchName runSource isPullRequest (index + 1) rest
      else if sh.isNullOrWhiteSpace (sh.textMember rule "profile") then
        resolveProfileFrom defaultProfile branchName runSource isPullRequest (index + 1) rest
      else do
        if ← testRuleMatchForContext sh rule branchName runSource isPullRequest then
          .ok ⟨sh.textMember rule "profile", "rule", index, sh.textMember rule "name"⟩
        else resolveProfileFrom defaultProfile branchName runSource isPullRequest (index + 1) rest

def resolveProfileForContext (rules : List (Value S)) (defaultProfile branchName : String)
    (runSource : String) (isPullRequest : Bool) : Except String LintSelection :=
  resolveProfileFrom sh defaultProfile branchName runSource isPullRequest 0 rules

/-! ## Findings on the profiles -/

def lintDefault (policy : Value S) : List Finding :=
  let topDefault := sh.textMember policy "default_profile"
  if sh.isNullOrWhiteSpace topDefault then
    [⟨.error, "missing_default_profile", "Top-level default_profile is missing."⟩]
  else if !sh.setContains (availableProfiles sh policy) topDefault then
    [⟨.error, "unknown_default_profile",
      s!"Top-level default_profile {topDefault} is not present in profiles."⟩]
  else []

def lintThreshold (profileName : String) (profile : Value S) (key : String) : List Finding :=
  let value := sh.member profile key
  let shown := sh.text value
  if value.isNull then
    [⟨.error, "missing_threshold_key",
      s!"Profile {profileName} missing required threshold key {key}."⟩]
  else if !testIsNonNegativeIntLike sh value then
    [⟨.error, "invalid_threshold_value",
      s!"Profile {profileName} has invalid non-negative integer for {key}: {shown}."⟩]
  else []

def lintOverride (profileName : String) (override : String × Value S) : List Finding :=
  let key := override.1
  if !sh.isIn key thresholdKeys then
    [⟨.error, "unknown_debt_window_override_key",
      s!"Profile {profileName} debt_window.threshold_overrides contains unknown key {key}."⟩]
  else if !testIsNonNegativeIntLike sh override.2 then
    [⟨.error, "invalid_debt_window_override_value",
      s!"Profile {profileName} debt_window override {key} must be non-negative integer."⟩]
  else []

def lintDebtWindow (profileName : String) (window : Value S) : List Finding :=
  let allowUntil := sh.textMember window "allow_until_utc"
  (if sh.isNullOrWhiteSpace allowUntil then
    [⟨.error, "missing_debt_window_allow_until",
      s!"Profile {profileName} debt_window missing allow_until_utc."⟩]
  else if !sh.parsesDate allowUntil then
    [⟨.error, "invalid_debt_window_allow_until",
      s!"Profile {profileName} debt_window has invalid allow_until_utc {allowUntil}."⟩]
  else []) ++
  (if sh.isNullOrWhiteSpace (sh.textMember window "owner") then
    [⟨.error, "missing_debt_window_owner", s!"Profile {profileName} debt_window requires owner."⟩]
  else []) ++
  (if sh.isNullOrWhiteSpace (sh.textMember window "tracking_issue") then
    [⟨.error, "missing_debt_window_tracking_issue",
      s!"Profile {profileName} debt_window requires tracking_issue."⟩]
  else []) ++
  (sh.properties (sh.member window "threshold_overrides")).flatMap (lintOverride sh profileName)

def lintProfile (policy : Value S) (profileName : String) : List Finding :=
  let profile := sh.member (sh.member policy "profiles") profileName
  let window := sh.member profile "debt_window"
  thresholdKeys.flatMap (lintThreshold sh profileName profile) ++
  (if sh.hasProperty profile "fail_on_missing_previous" &&
      !testIsBoolLike sh (sh.member profile "fail_on_missing_previous") then
    [⟨.error, "invalid_fail_on_missing_previous",
      s!"Profile {profileName} has non-boolean fail_on_missing_previous."⟩]
  else []) ++
  (if window.isNull then [] else lintDebtWindow sh profileName window)

def lintProfiles (policy : Value S) : List Finding :=
  (if (availableProfiles sh policy).isEmpty then
    [⟨.error, "missing_profiles", "No profiles defined in policy file."⟩]
  else []) ++
  lintDefault sh policy ++ (availableProfiles sh policy).flatMap (lintProfile sh policy)

/-! ## Findings on the rules -/

def lintRuleName (index : Nat) (seen : List String) (ruleName : String) : List Finding :=
  if sh.isNullOrWhiteSpace ruleName then
    [⟨.warn, "unnamed_rule", s!"profile_resolution.rules[{index}] has no name."⟩]
  else if sh.setContains seen ruleName then
    [⟨.error, "duplicate_rule_name", s!"Duplicate profile_resolution rule name {ruleName}."⟩]
  else []

def lintRuleProfile (available : List String) (index : Nat) (ruleProfile : String) :
    List Finding :=
  if sh.isNullOrWhiteSpace ruleProfile then
    [⟨.error, "missing_rule_profile",
      s!"profile_resolution.rules[{index}] missing required profile."⟩]
  else if !sh.setContains available ruleProfile then
    [⟨.error, "unknown_rule_profile",
      s!"profile_resolution.rules[{index}] references unknown profile '{ruleProfile}'."⟩]
  else []

def lintSelectors (index : Nat) (rule : Value S) : List Finding :=
  let branchExact := sh.getStringList (sh.member rule "branch_exact")
  let branchGlob := sh.getStringList (sh.member rule "branch_glob")
  let branchRegex := sh.textMember rule "branch_regex"
  let runSources := sh.getStringList (sh.member rule "run_source")
  let hasIsPullRequest := sh.hasProperty rule "is_pull_request"
  branchExact.flatMap (fun value =>
    if sh.isNullOrWhiteSpace value then
      [⟨.error, "invalid_branch_exact_entry",
        s!"profile_resolution.rules[{index}] contains empty branch_exact entry."⟩]
    else []) ++
  branchGlob.flatMap (fun value =>
    if sh.isNullOrWhiteSpace value then
      [⟨.error, "invalid_branch_glob_entry",
        s!"profile_resolution.rules[{index}] contains empty branch_glob entry."⟩]
    else []) ++
  (if !sh.isNullOrWhiteSpace branchRegex && !(sh.regexNew branchRegex).isOk then
    [⟨.error, "invalid_branch_regex",
      s!"profile_resolution.rules[{index}] has invalid branch_regex {branchRegex}."⟩]
  else []) ++
  runSources.flatMap (fun source =>
    if !sh.setContains allowedRunSources source then
      [⟨.warn, "unknown_rule_run_source",
        s!"profile_resolution.rules[{index}] has non-standard run_source {source}."⟩]
    else []) ++
  (if hasIsPullRequest && !testIsBoolLike sh (sh.member rule "is_pull_request") then
    [⟨.error, "invalid_rule_is_pull_request",
      s!"profile_resolution.rules[{index}] has non-boolean is_pull_request."⟩]
  else []) ++
  (if branchExact.isEmpty && branchGlob.isEmpty && sh.isNullOrWhiteSpace branchRegex &&
      runSources.isEmpty && !hasIsPullRequest then
    [⟨.error, "rule_without_selectors", s!"profile_resolution.rules[{index}] has no selectors; " ++
      "this is a broad catch-all and should be explicit."⟩]
  else [])

/-- The loop over the rules, with the names seen so far. -/
def lintRules (available : List String) : Nat → List String → List (Value S) → List Finding
  | _, _, [] => []
  | index, seen, rule :: rest =>
      if rule.isNull then
        ⟨.error, "null_rule", s!"profile_resolution.rules[{index}] is null."⟩ ::
          lintRules available (index + 1) seen rest
      else
        lintRuleName sh index seen (sh.textMember rule "name") ++
        lintRuleProfile sh available index (sh.textMember rule "profile") ++
        lintSelectors sh index rule ++
        lintRules available (index + 1)
          (if sh.isNullOrWhiteSpace (sh.textMember rule "name") then seen
            else sh.textMember rule "name" :: seen) rest

def isBroadCatchAll (rule : Value S) : Bool :=
  !rule.isNull && (sh.getStringList (sh.member rule "branch_exact")).isEmpty &&
    (sh.getStringList (sh.member rule "run_source")).isEmpty &&
    !sh.hasProperty rule "is_pull_request" &&
    sh.isNullOrWhiteSpace (sh.textMember rule "branch_regex") &&
    match sh.getStringList (sh.member rule "branch_glob") with
    | [pattern] => sh.eq pattern "*"
    | _ => false

def lintCatchAlls (rules : List (Value S)) : List Finding :=
  let indexes := (rules.zipIdx.filter fun entry => isBroadCatchAll sh entry.1).map Prod.snd
  let count := indexes.length
  indexes.flatMap (fun index =>
    if index + 1 < rules.length then
      [⟨.warn, "broad_catch_all_not_last",
        s!"profile_resolution.rules[{index}] is a broad catch-all (*) and should be last."⟩]
    else []) ++
  (if 1 < count then
    [⟨.warn, "multiple_broad_catch_all_rules",
      s!"Found {count} broad catch-all rules; only one should normally exist."⟩]
  else [])

def lintResolution (policy : Value S) : List Finding :=
  let profileResolution := sh.member policy "profile_resolution"
  let resolutionDefault := sh.textMember profileResolution "default_profile"
  if profileResolution.isNull then
    [⟨.warn, "missing_profile_resolution", "profile_resolution is not configured; " ++
      "policy auto-selection will use default_profile only."⟩]
  else
    (if !sh.isNullOrWhiteSpace resolutionDefault &&
        !sh.setContains (availableProfiles sh policy) resolutionDefault then
      [⟨.error, "unknown_profile_resolution_default",
        s!"profile_resolution.default_profile '{resolutionDefault}' is not present in profiles."⟩]
    else []) ++
    (if (selectionRules sh policy).isEmpty then
      [⟨.warn, "empty_profile_resolution_rules", "profile_resolution.rules is empty; " ++
        "only default profile selection is possible."⟩]
    else []) ++
    lintRules sh (availableProfiles sh policy) 0 [] (selectionRules sh policy) ++
    lintCatchAlls sh (selectionRules sh policy)

/-- `$effectiveResolutionDefault` -/
def effectiveResolutionDefault (policy : Value S) : String :=
  let profileResolution := sh.member policy "profile_resolution"
  let resolutionDefault := sh.textMember profileResolution "default_profile"
  if !profileResolution.isNull && !sh.isNullOrWhiteSpace resolutionDefault &&
      sh.setContains (availableProfiles sh policy) resolutionDefault then
    resolutionDefault
  else sh.textMember policy "default_profile"

/-! ## Findings on the test contexts -/

/-- The context of a test case; none if its pull request flag is no boolean. -/
def testIsPullRequest (testCase : Value S) : Option Bool :=
  if sh.hasProperty testCase "is_pull_request" then
    parseBoolLikeValueOrNull sh (sh.member testCase "is_pull_request")
  else some false

/-- The findings on one test case that is not null, without those on its name. -/
def lintTest (policy : Value S) (index : Nat) (testName : String) (testCase : Value S) :
    LintRun :=
  let expectedProfile := sh.textMember testCase "expected_profile"
  let branchName := sh.textMember testCase "branch"
  let givenSource := sh.textMember testCase "run_source"
  let runSource := if sh.isNullOrWhiteSpace givenSource then "local" else givenSource
  let label := s!"profile_resolution.tests[{index}] ({testName})"
  let flagErrors : List Finding :=
    if (testIsPullRequest sh testCase).isNone then
      [⟨.error, "invalid_profile_resolution_test_is_pull_request",
        s!"{label} has non-boolean is_pull_request."⟩]
    else []
  let profileErrors : List Finding :=
    if sh.isNullOrWhiteSpace expectedProfile then
      [⟨.error, "missing_profile_resolution_test_expected_profile",
        s!"{label} missing expected_profile."⟩]
    else if !sh.setContains (availableProfiles sh policy) expectedProfile then
      [⟨.error, "unknown_profile_resolution_test_expected_profile",
        s!"{label} references unknown expected_profile {expectedProfile}."⟩]
    else []
  let branchErrors : List Finding :=
    if sh.isNullOrWhiteSpace branchName then
      [⟨.error, "missing_profile_resolution_test_branch", s!"{label} missing branch."⟩]
    else []
  let sourceWarnings : List Finding :=
    if !sh.setContains allowedRunSources runSource then
      [⟨.warn, "unknown_profile_resolution_test_run_source",
        s!"{label} uses non-standard run_source {runSource}."⟩]
    else []
  let findings := flagErrors ++ profileErrors ++ branchErrors ++ sourceWarnings
  match testIsPullRequest sh testCase with
  | none => ⟨findings, none⟩
  | some isPullRequest =>
      if !profileErrors.isEmpty || !branchErrors.isEmpty then ⟨findings, none⟩
      else
        match resolveProfileForContext sh (selectionRules sh policy)
            (effectiveResolutionDefault sh policy) branchName runSource isPullRequest with
        | .error error => ⟨findings, some error⟩
        | .ok resolved =>
            let resolvedProfile := resolved.profile
            if !sh.equalsIgnoreCase resolvedProfile expectedProfile then
              ⟨findings ++ [⟨.error, "profile_resolution_test_mismatch",
                s!"{label} expected {expectedProfile} but resolved {resolvedProfile}."⟩], none⟩
            else ⟨findings, none⟩

/-- The loop over the test cases, with the names seen so far. -/
def lintTests (policy : Value S) : Nat → List String → List (Value S) → LintRun
  | _, _, [] => ⟨[], none⟩
  | index, seen, testCase :: rest =>
      if testCase.isNull then
        let later := lintTests policy (index + 1) seen rest
        ⟨⟨.error, "null_profile_resolution_test",
          s!"profile_resolution.tests[{index}] is null."⟩ :: later.findings, later.failure⟩
      else
        let givenName := sh.textMember testCase "name"
        let unnamed := sh.isNullOrWhiteSpace givenName
        let testName := if unnamed then s!"case-{index}" else givenName
        let nameFindings : List Finding :=
          if unnamed then
            [⟨.warn, "unnamed_profile_resolution_test", s!"profile_resolution.tests[{index}] " ++
              s!"has no name; using {testName} for reporting."⟩]
          else if sh.setContains seen givenName then
            [⟨.warn, "duplicate_profile_resolution_test_name",
              s!"Duplicate profile_resolution test name {testName}."⟩]
          else []
        let here := lintTest sh policy index testName testCase
        match here.failure with
        | some failure => ⟨nameFindings ++ here.findings, some failure⟩
        | none =>
            let later :=
              lintTests policy (index + 1) (if unnamed then seen else givenName :: seen) rest
            ⟨nameFindings ++ here.findings ++ later.findings, later.failure⟩

/-- `$resolutionTests` -/
def resolutionTests (policy : Value S) : List (Value S) :=
  let tests := sh.member (sh.member policy "profile_resolution") "tests"
  if tests.isNull then [] else tests.asArray

/-- All findings of the lint on a document. -/
def lint (policy : Value S) : LintRun :=
  let tests :=
    if (resolutionTests sh policy).isEmpty then
      ⟨[⟨.warn, "empty_profile_resolution_tests", "profile_resolution.tests is empty; " ++
        "rule behavior is not being asserted with deterministic test contexts."⟩], none⟩
    else lintTests sh policy 0 [] (resolutionTests sh policy)
  ⟨lintProfiles sh policy ++ lintResolution sh policy ++ tests.findings, tests.failure⟩

end Lint

end UcoStack.Policy
