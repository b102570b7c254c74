import Mathlib.Data.List.Infix
import UcoStack.Library.ExceptRun
import UcoStack.Library.FirstMatch
import UcoStack.Policy.Lint

/-!
# Lint and gate on one document

Both scripts try the rules in order.  They read every selector in the same way but
one: the gate casts `is_pull_request` to a boolean, so that any nonempty string is
true, and the lint accepts a string such as `"false"` and reads it as false.
-/

namespace UcoStack.Policy

variable {S : Type} {sh : Shell S}

/-! ## Documents without errors -/

/-- None of the findings is an error. -/
def NoErrors (findings : List Finding) : Prop := ∀ finding ∈ findings, finding.severity ≠ .error

theorem noErrors_append {first second : List Finding} :
    NoErrors (first ++ second) ↔ NoErrors first ∧ NoErrors second :=
  List.forall_mem_append

theorem not_noErrors {code message : String} {rest : List Finding} :
    ¬NoErrors (⟨.error, code, message⟩ :: rest) :=
  fun clean => clean _ List.mem_cons_self rfl

/-- A check that found no error was not met. -/
theorem noErrors_check {c : Bool} {code message : String} {rest : List Finding}
    (clean : NoErrors (if c = true then ⟨.error, code, message⟩ :: rest else [])) : c = false := by
  cases c with
  | true => exact absurd clean not_noErrors
  | false => rfl

theorem lintRuleProfile_clean {available : List String} {index : Nat} {ruleProfile : String}
    (clean : NoErrors (lintRuleProfile sh available index ruleProfile)) :
    sh.isNullOrWhiteSpace ruleProfile = false ∧ sh.setContains available ruleProfile = true := by
  unfold lintRuleProfile at clean
  by_cases blank : sh.isNullOrWhiteSpace ruleProfile = true
  · rw [if_pos blank] at clean
    exact absurd clean not_noErrors
  · rw [if_neg blank] at clean
    have known := noErrors_check clean
    rw [Bool.not_eq_false'] at known
    exact ⟨Bool.eq_false_iff.mpr blank, known⟩

theorem lintSelectors_clean {index : Nat} {rule : Value S}
    (clean : NoErrors (lintSelectors sh index rule))
    (flagged : sh.hasProperty rule "is_pull_request" = true) :
    testIsBoolLike sh (sh.member rule "is_pull_request") = true := by
  unfold lintSelectors at clean
  obtain ⟨⟨-, flag⟩, -⟩ := noErrors_append.mp clean |>.imp_left noErrors_append.mp
  have unmet := noErrors_check flag
  rw [flagged, Bool.true_and, Bool.not_eq_false'] at unmet
  exact unmet

/-- What the lint makes sure of for a rule. -/
structure CleanRule (sh : Shell S) (available : List String) (rule : Value S) : Prop where
  present : rule.isNull = false
  named : sh.isNullOrWhiteSpace (sh.textMember rule "profile") = false
  known : sh.setContains available (sh.textMember rule "profile") = true
  boolLike : sh.hasProperty rule "is_pull_request" = true →
    testIsBoolLike sh (sh.member rule "is_pull_request") = true

theorem lintRules_clean {available : List String} {rules : List (Value S)} {index : Nat}
    {seen : List String} (clean : NoErrors (lintRules sh available index seen rules)) :
    ∀ rule ∈ rules, CleanRule sh available rule := by
  induction rules generalizing index seen with
  | nil => exact fun rule member => absurd member List.not_mem_nil
  | cons rule rest ih =>
      rw [lintRules] at clean
      cases present : rule.isNull with
      | true =>
          rw [if_pos present] at clean
          exact absurd clean not_noErrors
      | false =>
          rw [if_neg (by rw [present]; exact Bool.false_ne_true), noErrors_append,
            noErrors_append, noErrors_append] at clean
          obtain ⟨⟨⟨-, profile⟩, selectors⟩, others⟩ := clean
          intro other member
          rcases List.mem_cons.mp member with rfl | later
          · obtain ⟨named, known⟩ := lintRuleProfile_clean profile
            exact ⟨present, named, known, lintSelectors_clean selectors⟩
          · exact ih others other later

/-- What the lint makes sure of for a document. -/
structure CleanPolicy (sh : Shell S) (policy : Value S) : Prop where
  rules : ∀ rule ∈ selectionRules sh policy, CleanRule sh (availableProfiles sh policy) rule
  defaults : effectiveResolutionDefault sh policy = policyDefault sh policy
  named : sh.isNullOrWhiteSpace (policyDefault sh policy) = false
  known : sh.setContains (availableProfiles sh policy) (policyDefault sh policy) = true

theorem lintDefault_clean {policy : Value S} (clean : NoErrors (lintDefault sh policy)) :
    sh.isNullOrWhiteSpace (sh.textMember policy "default_profile") = false ∧
      sh.setContains (availableProfiles sh policy) (sh.textMember policy "default_profile") =
        true := by
  unfold lintDefault at clean
  by_cases blank : sh.isNullOrWhiteSpace (sh.textMember policy "default_profile") = true
  · rw [if_pos blank] at clean
    exact absurd clean not_noErrors
  · rw [if_neg blank] at clean
    have known := noErrors_check clean
    rw [Bool.not_eq_false'] at known
    exact ⟨Bool.eq_false_iff.mpr blank, known⟩

theorem eq_null {value : Value S} (absent : value.isNull = true) : value = .null := by
  cases value with
  | null => rfl
  | _ => cases absent

theorem lint_clean {policy : Value S} (clean : NoErrors (lint sh policy).findings) :
    CleanPolicy sh policy := by
  unfold lint at clean
  obtain ⟨front, -⟩ := noErrors_append.mp clean
  obtain ⟨profiles, resolution⟩ := noErrors_append.mp front
  unfold lintProfiles at profiles
  obtain ⟨defaults, -⟩ := noErrors_append.mp profiles
  obtain ⟨-, topDefault⟩ := noErrors_append.mp defaults
  obtain ⟨topNamed, topKnown⟩ := lintDefault_clean topDefault
  unfold lintResolution at resolution
  by_cases absent : (sh.member policy "profile_resolution").isNull = true
  · have none := eq_null absent
    have top : policyDefault sh policy = sh.textMember policy "default_profile" := by
      unfold policyDefault
      rw [none]
      rfl
    have effective : effectiveResolutionDefault sh policy =
        sh.textMember policy "default_profile" := by
      unfold effectiveResolutionDefault
      rw [none]
      rfl
    have rules : selectionRules sh policy = [] := by
      unfold selectionRules
      rw [none]
      rfl
    refine ⟨?_, effective.trans top.symm, top ▸ topNamed, top ▸ topKnown⟩
    rw [rules]
    exact fun rule member => absurd member List.not_mem_nil
  · dsimp only at resolution
    rw [if_neg absent, noErrors_append, noErrors_append, noErrors_append] at resolution
    obtain ⟨⟨⟨check, -⟩, rules⟩, -⟩ := resolution
    have present := Bool.eq_false_iff.mpr absent
    have known := noErrors_check check
    have cleanRules := lintRules_clean rules
    generalize config : sh.member policy "profile_resolution" = selectionConfig at *
    cases blank : sh.isNullOrWhiteSpace (sh.textMember selectionConfig "default_profile") with
    | true =>
        have top : policyDefault sh policy = sh.textMember policy "default_profile" := by
          unfold policyDefault
          rw [config]
          dsimp only
          rw [blank, Bool.not_true, Bool.and_false, if_neg Bool.false_ne_true]
        have effective : effectiveResolutionDefault sh policy =
            sh.textMember policy "default_profile" := by
          unfold effectiveResolutionDefault
          rw [config]
          dsimp only
          rw [blank, Bool.not_true, Bool.and_false, Bool.false_and, if_neg Bool.false_ne_true]
        exact ⟨cleanRules, effective.trans top.symm, top ▸ topNamed, top ▸ topKnown⟩
    | false =>
        rw [blank, Bool.not_false, Bool.true_and, Bool.not_eq_false'] at known
        have top : policyDefault sh policy = sh.textMember selectionConfig "default_profile" := by
          unfold policyDefault
          rw [config]
          dsimp only
          rw [blank, present, Bool.not_false, Bool.and_self, if_pos rfl]
        have effective : effectiveResolutionDefault sh policy =
            sh.textMember selectionConfig "default_profile" := by
          unfold effectiveResolutionDefault
          rw [config]
          dsimp only
          rw [blank, present, known, Bool.not_false, Bool.and_self, Bool.and_self, if_pos rfl]
        exact ⟨cleanRules, effective.trans top.symm, top ▸ blank, top ▸ known⟩

/-! ## The pull request flag of a rule -/

/-- The rule gives its flag as a string that the lint reads as false. -/
def ReadsFalse (sh : Shell S) (rule : Value S) : Prop :=
  sh.hasProperty rule "is_pull_request" = true ∧
    ∃ s, sh.member rule "is_pull_request" = .string s ∧
      parseBoolLikeValueOrNull sh (.string s) = some false

theorem testIsBoolLike_string (s : String) :
    testIsBoolLike sh (.string s) = sh.isIn (sh.toLowerInvariant (sh.trim s))
      ["true", "false", "1", "0", "yes", "no", "on", "off", "y", "n"] := rfl

theorem boolLike_string (lawful : sh.Lawful) {s : String}
    (boolLike : testIsBoolLike sh (.string s) = true) :
    s ≠ "" ∧ (parseBoolLikeValueOrNull sh (.string s)).isSome = true := by
  constructor
  · rintro rfl
    rw [testIsBoolLike_string, lawful.trim_empty, lawful.toLowerInvariant_empty] at boolLike
    obtain ⟨text, member, same⟩ := List.any_eq_true.mp boolLike
    have letters : ∀ text ∈ ["true", "false", "1", "0", "yes", "no", "on", "off", "y", "n"],
        text.toList.any Char.isAlphanum = true := by decide
    rw [lawful.eq_empty text (List.any_eq_true.mp (letters text member))] at same
    cases same
  · rw [testIsBoolLike_string] at boolLike
    unfold parseBoolLikeValueOrNull
    obtain ⟨text, member, same⟩ := List.any_eq_true.mp boolLike
    have covers : ∀ text ∈ ["true", "false", "1", "0", "yes", "no", "on", "off", "y", "n"],
        text ∈ ["true", "1", "yes", "on", "y"] ∨ text ∈ ["false", "0", "no", "off", "n"] := by
      decide
    dsimp only
    by_cases yes : sh.isIn (sh.toLowerInvariant (sh.trim s)) ["true", "1", "yes", "on", "y"] = true
    · rw [if_pos yes]
      rfl
    · rcases covers text member with truthy | falsy
      · exact absurd (List.any_eq_true.mpr ⟨text, truthy, same⟩) yes
      · have no : sh.isIn (sh.toLowerInvariant (sh.trim s)) ["false", "0", "no", "off", "n"] =
            true := List.any_eq_true.mpr ⟨text, falsy, same⟩
        rw [if_neg yes, if_pos no]
        rfl

section Tests

variable {available : List String} {rule : Value S} {branch runSource : String}
  {isPullRequest : Bool}

/-- Both tests fail if the selectors for branch and run source cannot be tested. -/
theorem tests_error (isPullRequest : Bool) {error : String}
    (failed : sh.selectorsMatch rule branch runSource = .error error) :
    testProfileSelectionRule sh rule branch runSource isPullRequest = .error error ∧
      testRuleMatchForContext sh rule branch runSource isPullRequest = .error error := by
  unfold testProfileSelectionRule testRuleMatchForContext
  rw [failed]
  exact ⟨rfl, rfl⟩

theorem tests_unselected (isPullRequest : Bool)
    (unselected : sh.selectorsMatch rule branch runSource = .ok false) :
    testProfileSelectionRule sh rule branch runSource isPullRequest = .ok false ∧
      testRuleMatchForContext sh rule branch runSource isPullRequest = .ok false := by
  unfold testProfileSelectionRule testRuleMatchForContext
  rw [unselected]
  exact ⟨rfl, rfl⟩

/-- A string read as false: the gate takes the rule for pull requests, the lint for others. -/
theorem tests_readsFalse (isPullRequest : Bool) (lawful : sh.Lawful)
    (clean : CleanRule sh available rule)
    (selected : sh.selectorsMatch rule branch runSource = .ok true)
    (reads : ReadsFalse sh rule) :
    testProfileSelectionRule sh rule branch runSource isPullRequest = .ok isPullRequest ∧
      testRuleMatchForContext sh rule branch runSource isPullRequest = .ok (!isPullRequest) := by
  obtain ⟨flagged, s, given, parsed⟩ := reads
  have boolLike := clean.boolLike flagged
  rw [given] at boolLike
  have nonempty := (boolLike_string lawful boolLike).1
  have truth : sh.truth (.string s) = true := decide_eq_true nonempty
  unfold testProfileSelectionRule testRuleMatchForContext
  rw [selected, flagged, given, parsed, truth]
  cases isPullRequest <;> exact ⟨rfl, rfl⟩

theorem tests_agree (lawful : sh.Lawful) (clean : CleanRule sh available rule)
    (selected : sh.selectorsMatch rule branch runSource = .ok true)
    (reads : ¬ReadsFalse sh rule) :
    testProfileSelectionRule sh rule branch runSource isPullRequest =
      testRuleMatchForContext sh rule branch runSource isPullRequest := by
  unfold testProfileSelectionRule testRuleMatchForContext
  rw [selected]
  cases flagged : sh.hasProperty rule "is_pull_request" with
  | false => rfl
  | true =>
      have boolLike := clean.boolLike flagged
      cases given : sh.member rule "is_pull_request" with
      | bool b => cases b <;> cases isPullRequest <;> rfl
      | string s =>
          rw [given] at boolLike
          obtain ⟨nonempty, parses⟩ := boolLike_string lawful boolLike
          obtain ⟨expected, parsed⟩ := Option.isSome_iff_exists.mp parses
          have truth : sh.truth (.string s) = true := decide_eq_true nonempty
          cases expected with
          | false => exact absurd ⟨flagged, s, given, parsed⟩ reads
          | true =>
              rw [parsed, truth]
              cases isPullRequest <;> rfl
      | _ =>
          rw [given] at boolLike
          cases boolLike

/-- The tests differ on no rule but one that is selected and has a string read as false. -/
theorem tests_eq (lawful : sh.Lawful) (clean : CleanRule sh available rule)
    (plain : sh.selectorsMatch rule branch runSource = .ok true → ¬ReadsFalse sh rule) :
    testProfileSelectionRule sh rule branch runSource isPullRequest =
      testRuleMatchForContext sh rule branch runSource isPullRequest := by
  cases selected : sh.selectorsMatch rule branch runSource with
  | error other =>
      obtain ⟨left, right⟩ := tests_error isPullRequest selected
      exact left.trans right.symm
  | ok selects =>
      cases selects with
      | false =>
          obtain ⟨left, right⟩ := tests_unselected isPullRequest selected
          exact left.trans right.symm
      | true => exact tests_agree lawful clean selected (plain selected)

end Tests

/-! ## The selected profile -/

section Selection

variable {policy : Value S} {available : List String} {branch runSource : String}
  {isPullRequest : Bool} {rules : List (Value S)} {defaultProfile : String} {index : Nat}

theorem isIn_of_setContains (lawful : sh.Lawful) {texts : List String} {text : String}
    (contained : sh.setContains texts text = true) : sh.isIn text texts = true := by
  obtain ⟨other, member, same⟩ := List.any_eq_true.mp contained
  exact List.any_eq_true.mpr ⟨other, member, lawful.eq_of_equals other text same⟩

theorem resolveByRules_firstMatch (lawful : sh.Lawful)
    (clean : ∀ rule ∈ rules, CleanRule sh available rule) :
    FirstMatch (fun rule => testProfileSelectionRule sh rule branch runSource isPullRequest)
      (fun rule => sh.textMember rule "profile") defaultProfile rules
      ((resolveByRules sh available defaultProfile branch runSource isPullRequest index
        rules).map (·.profile)) := by
  induction rules generalizing index with
  | nil => exact .none
  | cons rule rest ih =>
      have here := clean rule List.mem_cons_self
      have others := fun other member => clean other (List.mem_cons_of_mem rule member)
      rw [resolveByRules, here.present, if_neg Bool.false_ne_true]
      dsimp only
      rw [here.named, if_neg Bool.false_ne_true, isIn_of_setContains lawful here.known,
        Bool.not_true, if_neg Bool.false_ne_true]
      cases tested : testProfileSelectionRule sh rule branch runSource isPullRequest with
      | error error => exact .fail tested
      | ok matched =>
          cases matched with
          | true => exact .hit tested
          | false => exact .miss tested (ih others)

theorem resolveProfileFrom_firstMatch
    (clean : ∀ rule ∈ rules, CleanRule sh available rule) :
    FirstMatch (fun rule => testRuleMatchForContext sh rule branch runSource isPullRequest)
      (fun rule => sh.textMember rule "profile") defaultProfile rules
      ((resolveProfileFrom sh defaultProfile branch runSource isPullRequest index rules).map
        (·.profile)) := by
  induction rules generalizing index with
  | nil => exact .none
  | cons rule rest ih =>
      have here := clean rule List.mem_cons_self
      have others := fun other member => clean other (List.mem_cons_of_mem rule member)
      rw [resolveProfileFrom, here.present, if_neg Bool.false_ne_true, here.named,
        if_neg Bool.false_ne_true]
      cases tested : testRuleMatchForContext sh rule branch runSource isPullRequest with
      | error error => exact .fail tested
      | ok matched =>
          cases matched with
          | true => exact .hit tested
          | false => exact .miss tested (ih others)

/-- One profile up to case, as the lint compares them, or one error. -/
def SameProfile (sh : Shell S) : Except String String → Except String String → Prop
  | .ok first, .ok second => sh.equalsIgnoreCase first second = true
  | .error first, .error second => first = second
  | _, _ => False

theorem sameProfile_refl (lawful : sh.Lawful) (selected : Except String String) :
    SameProfile sh selected selected := by
  cases selected with
  | error error => exact rfl
  | ok profile => exact lawful.equals_refl profile

/-- A rule that both scripts reach is selected and has a string read as false. -/
structure PartsAt (sh : Shell S) (branch runSource : String) (isPullRequest : Bool)
    (rules front : List (Value S)) (rule : Value S) (back : List (Value S)) : Prop where
  split : rules = front ++ rule :: back
  missed : ∀ other ∈ front,
    testProfileSelectionRule sh other branch runSource isPullRequest = .ok false ∧
      testRuleMatchForContext sh other branch runSource isPullRequest = .ok false
  readsFalse : ReadsFalse sh rule
  selected : sh.selectorsMatch rule branch runSource = .ok true

/-- The script that does not take the rule finds the profile of a later one, or the default. -/
theorem not_sameProfile (lawful : sh.Lawful) {test : Value S → Except String Bool}
    {profile : Value S → String} {rule : Value S} {back : List (Value S)}
    {out : Except String String} (found : FirstMatch test profile defaultProfile back out)
    (others : ∀ other ∈ back, sh.equalsIgnoreCase (profile other) (profile rule) = false)
    (default : sh.equalsIgnoreCase defaultProfile (profile rule) = false) :
    ¬SameProfile sh (.ok (profile rule)) out ∧ ¬SameProfile sh out (.ok (profile rule)) := by
  cases out with
  | error error => exact ⟨id, id⟩
  | ok other =>
      have different : sh.equalsIgnoreCase other (profile rule) = false := by
        rcases found.mem with rfl | ⟨later, member, rfl⟩
        · exact default
        · exact others later member
      constructor
      · intro same
        exact Bool.false_ne_true (different.symm.trans (lawful.equals_symm _ _ same))
      · intro same
        exact Bool.false_ne_true (different.symm.trans same)

/-- The profile that the gate selects. -/
def profileOfGate (sh : Shell S) (policy : Value S) (branch runSource : String)
    (isPullRequest : Bool) : Except String String :=
  (resolvePolicyProfile sh policy (availableProfiles sh policy) branch runSource
    isPullRequest).map (·.profile)

/-- The profile that the lint selects. -/
def profileOfLint (sh : Shell S) (policy : Value S) (branch runSource : String)
    (isPullRequest : Bool) : Except String String :=
  (resolveProfileForContext sh (selectionRules sh policy) (effectiveResolutionDefault sh policy)
    branch runSource isPullRequest).map (·.profile)

theorem profileOfGate_firstMatch (lawful : sh.Lawful) (accepted : CleanPolicy sh policy) :
    FirstMatch (fun rule => testProfileSelectionRule sh rule branch runSource isPullRequest)
      (fun rule => sh.textMember rule "profile") (policyDefault sh policy)
      (selectionRules sh policy) (profileOfGate sh policy branch runSource isPullRequest) := by
  unfold profileOfGate resolvePolicyProfile
  dsimp only
  rw [accepted.named, if_neg Bool.false_ne_true, isIn_of_setContains lawful accepted.known,
    Bool.not_true, if_neg Bool.false_ne_true]
  exact resolveByRules_firstMatch lawful accepted.rules

theorem profileOfLint_firstMatch (accepted : CleanPolicy sh policy) :
    FirstMatch (fun rule => testRuleMatchForContext sh rule branch runSource isPullRequest)
      (fun rule => sh.textMember rule "profile") (policyDefault sh policy)
      (selectionRules sh policy) (profileOfLint sh policy branch runSource isPullRequest) := by
  unfold profileOfLint resolveProfileForContext
  rw [accepted.defaults]
  exact resolveProfileFrom_firstMatch accepted.rules

/-- On a document without errors, lint and gate select the same profile unless they part at
a rule; where they part they differ, unless a later rule or the default has its profile. -/
theorem lint_and_gate_agree_unless_parted (lawful : sh.Lawful)
    (clean : NoErrors (lint sh policy).findings) :
    ((∀ front rule back,
        ¬PartsAt sh branch runSource isPullRequest (selectionRules sh policy) front rule back) →
      SameProfile sh (profileOfGate sh policy branch runSource isPullRequest)
        (profileOfLint sh policy branch runSource isPullRequest)) ∧
    ∀ front rule back,
      PartsAt sh branch runSource isPullRequest (selectionRules sh policy) front rule back →
      (∀ other ∈ back, sh.equalsIgnoreCase (sh.textMember other "profile")
        (sh.textMember rule "profile") = false) →
      sh.equalsIgnoreCase (policyDefault sh policy) (sh.textMember rule "profile") = false →
      ¬SameProfile sh (profileOfGate sh policy branch runSource isPullRequest)
        (profileOfLint sh policy branch runSource isPullRequest) := by
  have accepted := lint_clean clean
  have gate : FirstMatch _ _ _ _ (profileOfGate sh policy branch runSource isPullRequest) :=
    profileOfGate_firstMatch lawful accepted
  have lints : FirstMatch _ _ _ _ (profileOfLint sh policy branch runSource isPullRequest) :=
    profileOfLint_firstMatch accepted
  constructor
  · intro together
    have same := gate.eq_of_tests (fun front rule back split missed => ?_) lints
    · rw [same]
      exact sameProfile_refl lawful _
    · have member : rule ∈ selectionRules sh policy := by
        rw [split]
        exact List.mem_append_right front List.mem_cons_self
      apply tests_eq lawful (accepted.rules rule member)
      intro selected reads
      exact together front rule back ⟨split, missed, reads, selected⟩
  · intro front rule back parts others default
    have member : rule ∈ selectionRules sh policy := by
      rw [parts.split]
      exact List.mem_append_right front List.mem_cons_self
    obtain ⟨taken, left⟩ := tests_readsFalse isPullRequest lawful (accepted.rules rule member)
      parts.selected parts.readsFalse
    rw [parts.split] at gate lints
    have gateHere := gate.skip fun other inside => (parts.missed other inside).1
    have lintHere := lints.skip fun other inside => (parts.missed other inside).2
    -- The gate takes the rule for pull requests, the lint takes it otherwise.
    cases isPullRequest with
    | true =>
        rw [gateHere.eq_value taken]
        exact (not_sameProfile lawful (lintHere.of_miss left) others default).1
    | false =>
        rw [lintHere.eq_value left]
        exact (not_sameProfile lawful (gateHere.of_miss taken) others default).2

end Selection

/-! ## A document with a string for a flag -/

/-- The operators on ASCII texts; patterns and regular expressions stand for themselves. -/
def asciiShell : Shell Int where
  equalsIgnoreCase a b := a.toList.map Char.toLower == b.toList.map Char.toLower
  eq a b := a.toList.map Char.toLower == b.toList.map Char.toLower
  isNullOrWhiteSpace s := s.toList.all Char.isWhitespace
  trim s := String.ofList
    (((s.toList.dropWhile Char.isWhitespace).reverse.dropWhile Char.isWhitespace).reverse)
  toLowerInvariant s := String.ofList (s.toList.map Char.toLower)
  like subject pattern := .ok (pattern == "*" ||
    subject.toList.map Char.toLower == pattern.toList.map Char.toLower)
  regexNew _ := .ok ()
  regexIsMatch subject pattern := .ok
    (decide (pattern.toList.map Char.toLower <:+: subject.toList.map Char.toLower))
  textOf
    | .scalar n => toString n
    | _ => "System.Object[]"
  truthOf
    | .scalar n => n ≠ 0
    | _ => true
  toInt
    | .scalar n => some n
    | _ => none
  propertiesOf _ := []
  memberOf _ _ := .null
  parsesDate _ := true

theorem asciiShell_lawful : asciiShell.Lawful where
  equals_refl _ := beq_self_eq_true _
  equals_symm _ _ same := beq_iff_eq.mpr (beq_iff_eq.mp same).symm
  eq_of_equals _ _ same := same
  trim_empty := rfl
  toLowerInvariant_empty := rfl
  eq_empty := by
    rintro a ⟨c, member, -⟩
    obtain ⟨first, rest, text⟩ := List.exists_cons_of_ne_nil (List.ne_nil_of_mem member)
    change (a.toList.map Char.toLower == "".toList.map Char.toLower) = false
    rw [text]
    rfl

/-- Thresholds that allow no issue. -/
def strictThresholds : Value Int := .object (thresholdKeys.map fun key => (key, .scalar 0))

/-- A profile for everything but pull requests, with a test of it. -/
def flagPolicy (flag : Value Int) : Value Int :=
  .object
    [("default_profile", .string "strict"),
      ("profile_resolution", .object
        [("rules", .array [.object
            [("name", .string "branches"), ("profile", .string "development"),
              ("is_pull_request", flag)]]),
          ("tests", .array [.object
            [("name", .string "branch"), ("branch", .string "main"),
              ("is_pull_request", .bool false), ("expected_profile", .string "development")]])]),
      ("profiles", .object [("strict", strictThresholds), ("development", strictThresholds)])]

/-- With a boolean for a flag both scripts take one profile, and with a string they part. -/
theorem lint_and_gate_agree_unless_parted_sample :
    SameProfile asciiShell
        (profileOfGate asciiShell (flagPolicy (.bool false)) "main" "local" false)
        (profileOfLint asciiShell (flagPolicy (.bool false)) "main" "local" false) ∧
      ¬SameProfile asciiShell
        (profileOfGate asciiShell (flagPolicy (.string "False")) "main" "local" false)
        (profileOfLint asciiShell (flagPolicy (.string "False")) "main" "local" false) := by
  have clean : NoErrors (lint asciiShell (flagPolicy (.bool false))).findings := by
    unfold NoErrors
    decide +kernel
  have cleanText : NoErrors (lint asciiShell (flagPolicy (.string "False"))).findings := by
    unfold NoErrors
    decide +kernel
  constructor
  · apply (lint_and_gate_agree_unless_parted asciiShell_lawful clean).1
    rintro front rule back ⟨split, -, ⟨-, s, given, -⟩, -⟩
    have member : rule ∈ selectionRules asciiShell (flagPolicy (.bool false)) := by
      rw [split]
      exact List.mem_append_right front List.mem_cons_self
    cases List.mem_singleton.mp member
    cases given
  · apply (lint_and_gate_agree_unless_parted asciiShell_lawful cleanText).2 [] _ []
    · exact ⟨rfl, fun other member => absurd member List.not_mem_nil,
        ⟨by decide +kernel, "False", rfl, by decide +kernel⟩, by decide +kernel⟩
    · exact fun other member => absurd member List.not_mem_nil
    · decide +kernel

/-- The lint tests that a branch gets the profile `development`, and the gate takes `strict`. -/
theorem lint_and_gate_disagree :
    NoErrors (lint asciiShell (flagPolicy (.string "false"))).findings ∧
      profileOfLint asciiShell (flagPolicy (.string "false")) "main" "local" false =
        .ok "development" ∧
      profileOfGate asciiShell (flagPolicy (.string "false")) "main" "local" false =
        .ok "strict" ∧
      asciiShell.equalsIgnoreCase "strict" "development" = false := by
  unfold NoErrors
  decide +kernel

end UcoStack.Policy
