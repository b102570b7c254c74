import Mathlib.Data.String.Basic
import UcoStack.Lang.Writer
import UcoStack.Library.Replacement
import UcoStack.Runtime.Disclosure

/-!
# What templates render to

All tokens of a template begin with a dollar sign.  Since the tokens are replaced
one after another, a value that contains a token is read again; and since a token
for a state variable has no end mark, a variable hides every longer name that
begins with its own.
-/

namespace UcoStack.Runtime

open UcoStack.Lang

/-! ## Replacement in a text -/

theorem replaceLoop_skip (pattern replacement : List Char) (count : Nat) (cs : List Char) :
    replaceLoop pattern replacement count cs =
      replaceLoop pattern replacement 0 (cs.drop count) := by
  induction count generalizing cs with
  | zero => rfl
  | succ count ih =>
      cases cs with
      | nil => rfl
      | cons c cs => exact ih cs

theorem replaceLoop_replaces {pattern : List Char} (nonempty : pattern ≠ [])
    (replacement text : List Char) :
    Replaces pattern replacement text (replaceLoop pattern replacement 0 text) := by
  induction length : text.length using Nat.strong_induction_on generalizing text with
  | _ count ih =>
      cases text with
      | nil => exact .nil
      | cons c cs =>
          by_cases starts : pattern.isPrefixOf (c :: cs)
          · obtain ⟨rest, split⟩ := List.isPrefixOf_iff_prefix.mp starts
            obtain ⟨first, pattern, rfl⟩ := List.exists_cons_of_ne_nil nonempty
            have tail : pattern ++ rest = cs := (List.cons.inj split).2
            have skipped : cs.drop ((first :: pattern).length - 1) = rest := by
              rw [← tail]
              exact List.drop_left
            rw [replaceLoop, if_pos starts, replaceLoop_skip, skipped, ← split]
            refine .found (ih rest.length ?_ rest rfl)
            rw [← length, ← split, List.length_append, List.length_cons]
            omega
          · rw [replaceLoop, if_neg starts]
            refine .keep (fun inside => starts (List.isPrefixOf_iff_prefix.mpr inside)) ?_
            exact ih cs.length (by rw [← length, List.length_cons]; omega) cs rfl

theorem replace_replaces {pattern : String} (nonempty : pattern.toList ≠ [])
    (text replacement : String) :
    Replaces pattern.toList replacement.toList text.toList
      (replace text pattern replacement).toList := by
  unfold replace
  rw [String.toList_ofList]
  exact replaceLoop_replaces nonempty _ _

/-! ## Tokens -/

/-- The tokens that do not stand for a state variable, in the order of the source. -/
def messageTokenNames : List String :=
  ["$self_node", "$self_service", "$from_node", "$from_service", "$text", "$type",
    "$prov.origin_node", "$prov.origin_service", "$prov.origin_msg", "$prov.parent_node",
    "$prov.parent_msg", "$prov.hops"]

/-- What every state token begins with. -/
def stateMark : String := "$state."

theorem messageTokens_names {V : Type} (host : Host V) (selfNode : Uuid) (selfService : String)
    (incoming : RuntimeMessage) :
    (messageTokens host selfNode selfService incoming).map Prod.fst = messageTokenNames :=
  rfl

theorem tokenOf_iff {token : List Char} :
    TokenOf '$' token ↔ token.head? = some '$' ∧ '$' ∉ token.tail := by
  cases token with
  | nil => exact ⟨fun ⟨_, same, _⟩ => (by cases same), fun ⟨same, _⟩ => (by cases same)⟩
  | cons c name =>
      constructor
      · rintro ⟨_, same, free⟩
        cases same
        exact ⟨rfl, free⟩
      · rintro ⟨same, free⟩
        cases Option.some.inj same
        exact ⟨name, rfl, free⟩

theorem messageTokenNames_tokenOf {name : String} (member : name ∈ messageTokenNames) :
    TokenOf '$' name.toList := by
  have all : ∀ name ∈ messageTokenNames, name.toList.head? = some '$' ∧
      '$' ∉ name.toList.tail := by decide
  exact tokenOf_iff.mpr (all name member)

theorem stateMark_tokenOf : TokenOf '$' stateMark.toList := tokenOf_iff.mpr (by decide)

/-- No message token begins with another one or with the beginning of a state token. -/
theorem messageTokenNames_apart {name : String} (member : name ∈ messageTokenNames) :
    (¬name.toList <+: stateMark.toList ∧ ¬stateMark.toList <+: name.toList) ∧
      ∀ other ∈ messageTokenNames, other ≠ name → ¬name.toList <+: other.toList := by
  have all : ∀ name ∈ messageTokenNames,
      (¬name.toList <+: stateMark.toList ∧ ¬stateMark.toList <+: name.toList) ∧
        ∀ other ∈ messageTokenNames, other ≠ name → ¬name.toList <+: other.toList := by
    decide
  exact all name member

theorem stateToken_toList (key : String) :
    ("$state." ++ key).toList = stateMark.toList ++ key.toList :=
  String.toList_append

theorem stateToken_tokenOf {key : String} (plain : '$' ∉ key.toList) :
    TokenOf '$' ("$state." ++ key).toList := by
  obtain ⟨name, same, free⟩ := stateMark_tokenOf
  rw [stateToken_toList, same]
  exact ⟨name ++ key.toList, rfl, fun member =>
    (List.mem_append.mp member).elim free plain⟩

/-! ## State tokens -/

section StateTokens

variable {V : Type} (host : Host V) (selfNode : Uuid) (selfService : String)
  (incoming : RuntimeMessage)

/-- A state token contains no message token. -/
theorem stateToken_message {key name : String} (plain : '$' ∉ key.toList)
    (member : name ∈ messageTokenNames) : ¬name.toList <:+: ("$state." ++ key).toList := by
  intro occurs
  obtain ⟨body, same, free⟩ := stateToken_tokenOf plain
  rw [same, (messageTokenNames_tokenOf member).infix_iff_begins free, ← same,
    stateToken_toList] at occurs
  obtain ⟨⟨longer, shorter⟩, -⟩ := messageTokenNames_apart member
  rcases List.prefix_or_prefix_of_prefix occurs (List.prefix_append _ _) with short | long
  · exact longer short
  · exact shorter long

/-- Replacing tokens that do not occur changes nothing. -/
theorem replaceAll_of_not_infix {text : String} {tokens : List (String × String)}
    (absent : ∀ token ∈ tokens, ¬token.1.toList <:+: text.toList) :
    tokens.foldl (fun out token => replace out token.1 token.2) text = text := by
  induction tokens with
  | nil => rfl
  | cons token rest ih =>
      rw [List.foldl_cons, replace_of_not_infix _ (absent token List.mem_cons_self)]
      exact ih fun other member => absent other (List.mem_cons_of_mem token member)

theorem messageText_stateToken {key : String} (plain : '$' ∉ key.toList) :
    messageText host selfNode selfService incoming ("$state." ++ key) = "$state." ++ key := by
  refine replaceAll_of_not_infix fun token member => ?_
  have named : token.1 ∈ messageTokenNames := by
    rw [← messageTokens_names host selfNode selfService incoming]
    exact List.mem_map_of_mem member
  exact stateToken_message plain named

/-- The token of another variable occurs if its name is the beginning of the name. -/
theorem stateToken_infix_iff {key name : String} (plain : '$' ∉ key.toList)
    (namePlain : '$' ∉ name.toList) :
    ("$state." ++ name).toList <:+: ("$state." ++ key).toList ↔ name.toList <+: key.toList := by
  obtain ⟨body, same, free⟩ := stateToken_tokenOf plain
  rw [same, (stateToken_tokenOf namePlain).infix_iff_begins free, ← same, stateToken_toList,
    stateToken_toList, List.prefix_append_right_inj]

/-- The value of a variable that the name begins with, then the rest of the name. -/
theorem replace_stateToken {key name : String} (plain : '$' ∉ key.toList)
    (namePlain : '$' ∉ name.toList) (starts : name.toList <+: key.toList) (value : String) :
    replace ("$state." ++ key) ("$state." ++ name) value =
      value ++ String.ofList (key.toList.drop name.toList.length) := by
  obtain ⟨rest, split⟩ := starts
  have isToken := stateToken_tokenOf namePlain
  have restPlain : '$' ∉ rest := fun member => plain (split ▸ List.mem_append_right _ member)
  have absent : ¬("$state." ++ name).toList <:+: rest := by
    intro occurs
    obtain ⟨body, same, -⟩ := isToken
    exact restPlain (occurs.subset (same ▸ List.mem_cons_self))
  have text : ("$state." ++ key).toList = ("$state." ++ name).toList ++ rest := by
    rw [stateToken_toList, stateToken_toList, ← split, List.append_assoc]
  have replaced := replace_replaces isToken.ne_nil ("$state." ++ key) value
  rw [text] at replaced
  have expected := Replaces.unique isToken.ne_nil replaced (.found (.of_absent absent))
  rw [← split, List.drop_left]
  apply String.toList_injective
  rw [String.toList_append, String.toList_ofList]
  exact expected.symm

theorem toString_plain (value : Int) : '$' ∉ (toString value).toList := by
  have digits : ∀ n, '$' ∉ Nat.toDigits 10 n := by
    intro n member
    have digit := Nat.isDigit_of_mem_toDigits (by decide) (by decide) member
    cases digit
  cases value with
  | ofNat n =>
      rw [chars_ofNat]
      exact digits n
  | negSucc n =>
      rw [chars_negSucc]
      intro member
      rcases List.mem_cons.mp member with same | inside
      · cases same
      · exact digits (n + 1) inside

end StateTokens

/-! ## The variable that is rendered -/

theorem prefix_le {left right : String} (starts : left.toList <+: right.toList) :
    left ≤ right := by
  rw [← not_lt, String.lt_iff_toList_lt]
  exact starts.le

theorem mem_sortedKeys {state : StateMap} {name : String} :
    name ∈ sortedKeys state ↔ (state.lookup name).isSome := by
  unfold sortedKeys
  rw [List.mem_insertionSort, ← AList.mem_keys, AList.lookup_isSome]

theorem sortedKeys_sorted (state : StateMap) : (sortedKeys state).Pairwise (· ≤ ·) :=
  List.pairwise_insertionSort _ _

/-- The shortest declared name that the name begins with. -/
structure Hides (state : StateMap) (short key : String) : Prop where
  declared : (state.lookup short).isSome
  starts : short.toList <+: key.toList
  shortest : ∀ name, (state.lookup name).isSome → name.toList <+: key.toList →
    short.toList <+: name.toList

theorem Hides.unique {state : StateMap} {short other key : String} (hides : Hides state short key)
    (again : Hides state other key) : other = short := by
  have left := hides.shortest other again.declared again.starts
  have right := again.shortest short hides.declared hides.starts
  exact String.toList_injective (right.eq_of_length_le left.length_le)

/-- The keys in the order of replacement, split at the first that the name begins with. -/
theorem exists_hides {state : StateMap} {key : String} (declared : (state.lookup key).isSome) :
    ∃ short front back, Hides state short key ∧ sortedKeys state = front ++ short :: back ∧
      ∀ name ∈ front, ¬name.toList <+: key.toList := by
  have found : ((sortedKeys state).find? (decide <| ·.toList <+: key.toList)).isSome := by
    rw [List.find?_isSome]
    exact ⟨key, mem_sortedKeys.mpr declared, decide_eq_true (List.prefix_refl _)⟩
  obtain ⟨short, first⟩ := Option.isSome_iff_exists.mp found
  obtain ⟨starts, front, back, split, before⟩ := List.find?_eq_some_iff_append.mp first
  have starts := of_decide_eq_true starts
  have behind : ∀ name ∈ front, ¬name.toList <+: key.toList := fun name member inside =>
    absurd (before name member) (by rw [decide_eq_true inside]; exact Bool.false_ne_true)
  refine ⟨short, front, back, ⟨?_, starts, fun name stored inside => ?_⟩, split, behind⟩
  · rw [← mem_sortedKeys, split]
    exact List.mem_append_right front List.mem_cons_self
  · have sorted := sortedKeys_sorted state
    have member := mem_sortedKeys.mpr stored
    rw [split] at sorted member
    rcases List.mem_append.mp member with earlier | later
    · exact absurd inside (behind name earlier)
    · rcases List.mem_cons.mp later with rfl | later
      · exact List.prefix_refl _
      · have ordered := (List.pairwise_cons.mp (List.pairwise_append.mp sorted).2.1).1 name later
        rcases List.prefix_or_prefix_of_prefix starts inside with shorter | longer
        · exact shorter
        · rw [le_antisymm ordered (prefix_le longer)]

section Rendered

variable {V : Type} (host : Host V) (selfNode : Uuid) (selfService : String)
  (incoming : RuntimeMessage)

/-- What the token of a declared variable is rendered to. -/
theorem render_stateToken {state : StateMap} {short key : String} {other : Int}
    (plain : ∀ name, (state.lookup name).isSome → '$' ∉ name.toList)
    (declared : (state.lookup key).isSome) (hides : Hides state short key)
    (stored : state.lookup short = some other) :
    renderTemplate host ("$state." ++ key) selfNode selfService incoming state =
      toString other ++ String.ofList (key.toList.drop short.toList.length) := by
  obtain ⟨first, front, back, firstHides, split, before⟩ := exists_hides declared
  cases hides.unique firstHides
  have keyPlain := plain key declared
  have shortPlain := plain short hides.declared
  have skipped : front.foldl (replaceState state) ("$state." ++ key) = "$state." ++ key := by
    clear split
    induction front with
    | nil => rfl
    | cons name rest ih =>
        have here : replaceState state ("$state." ++ key) name = "$state." ++ key := by
          unfold replaceState
          cases found : state.lookup name with
          | none => rfl
          | some value =>
              have namePlain := plain name (by rw [found]; rfl)
              apply replace_of_not_infix
              rw [stateToken_infix_iff keyPlain namePlain]
              exact before name List.mem_cons_self
        rw [List.foldl_cons, here]
        exact ih fun name member => before name (List.mem_cons_of_mem _ member)
  have replaced : replaceState state ("$state." ++ key) short =
      toString other ++ String.ofList (key.toList.drop short.toList.length) := by
    unfold replaceState
    rw [stored]
    exact replace_stateToken keyPlain shortPlain hides.starts (toString other)
  have settled : '$' ∉
      (toString other ++ String.ofList (key.toList.drop short.toList.length)).toList := by
    rw [String.toList_append, String.toList_ofList]
    intro member
    rcases List.mem_append.mp member with inside | inside
    · exact toString_plain other inside
    · exact keyPlain (List.mem_of_mem_drop inside)
  have start := messageText_stateToken host selfNode selfService incoming keyPlain
  unfold messageText at start
  unfold renderTemplate
  rw [start, split, List.foldl_append, List.foldl_cons, skipped, replaced]
  refine replaceStates_of_not_infix (fun name found occurs => settled ?_) back
  obtain ⟨body, same, -⟩ := stateToken_tokenOf (plain name found)
  exact occurs.subset (same ▸ List.mem_cons_self)

/-- The token of a declared variable shows its value if the name begins with no other
declared name, and otherwise if the shortest of these happens to give the same digits. -/
theorem stateToken_shows_value_iff {state : StateMap}
    (plain : ∀ name, (state.lookup name).isSome → '$' ∉ name.toList) {key : String}
    {value : Int} (stored : state.lookup key = some value) :
    renderTemplate host ("$state." ++ key) selfNode selfService incoming state =
        toString value ↔
      (∀ name, (state.lookup name).isSome → name.toList <+: key.toList → name = key) ∨
        ∃ short other, Hides state short key ∧ short ≠ key ∧
          state.lookup short = some other ∧
          toString other ++ String.ofList (key.toList.drop short.toList.length) =
            toString value := by
  have declared : (state.lookup key).isSome := by rw [stored]; rfl
  obtain ⟨short, front, back, hides, -⟩ := exists_hides declared
  obtain ⟨other, found⟩ := Option.isSome_iff_exists.mp hides.declared
  rw [render_stateToken host selfNode selfService incoming plain declared hides found]
  constructor
  · intro shows
    by_cases same : short = key
    · refine .inl fun name inside starts => ?_
      have longer := hides.shortest name inside starts
      rw [same] at longer
      exact String.toList_injective (starts.eq_of_length_le longer.length_le)
    · exact .inr ⟨short, other, hides, same, found, shows⟩
  · rintro (alone | ⟨_, _, again, -, stored', shows⟩)
    · cases alone short hides.declared hides.starts
      cases Option.some.inj (stored.symm.trans found)
      rw [List.drop_length, String.append_empty]
    · cases hides.unique again
      cases Option.some.inj (found.symm.trans stored')
      exact shows

end Rendered

/-- Two variables, one name being the beginning of the other. -/
def twoVariables : StateMap := (AList.insert "n" 1 ∅).insert "n1" 5

theorem twoVariables_plain (name : String) (declared : (twoVariables.lookup name).isSome) :
    '$' ∉ name.toList := by
  rw [← mem_sortedKeys] at declared
  have all : ∀ name ∈ sortedKeys twoVariables, '$' ∉ name.toList := by decide +kernel
  exact all name declared

theorem stateToken_shows_value_sample :
    renderTemplate jsonHost ("$state." ++ "n") 7 "Gateway" samplePing twoVariables =
        toString (1 : Int) ↔
      (∀ name, (twoVariables.lookup name).isSome → name.toList <+: "n".toList → name = "n") ∨
        ∃ short other, Hides twoVariables short "n" ∧ short ≠ "n" ∧
          twoVariables.lookup short = some other ∧
          toString other ++ String.ofList ("n".toList.drop short.toList.length) =
            toString (1 : Int) :=
  stateToken_shows_value_iff jsonHost 7 "Gateway" samplePing twoVariables_plain (by decide +kernel)

/-- The value of `n` and then a digit, instead of the value of `n1`. -/
theorem stateToken_hidden :
    twoVariables.lookup "n1" = some 5 ∧
      renderTemplate jsonHost ("$state." ++ "n1") 7 "Gateway" samplePing twoVariables = "11" ∧
      renderTemplate jsonHost ("$state." ++ "n1") 7 "Gateway" samplePing twoVariables ≠
        toString (5 : Int) := by
  decide +kernel

/-! ## Values that are read again -/

/-- The tokens that are replaced after the text of the message. -/
def laterTokenNames : List String := messageTokenNames.drop 5 ++ [stateMark]

/-- The tokens that stand for a string of the sender. -/
def senderTokenNames : List String := (messageTokenNames.drop 2).dropLast

/-- The template with the node and the service of the receiver filled in. -/
def ownText {V : Type} (host : Host V) (selfNode : Uuid) (selfService template : String) : String :=
  replace (replace template "$self_node" (host.uuidToString selfNode)) "$self_service" selfService

/-- A state with one variable, whose token is the beginning of all others. -/
def markState : StateMap := AList.insert "" 0 ∅

/-- A message with one string in all its fields. -/
def uniformMessage (value : String) : RuntimeMessage where
  msgType := value
  fromNode := value
  fromService := value
  text := value
  provenance := some ⟨value, value, value, value, value, 0⟩

/-- A message with a text and nothing else. -/
def bareMessage (text : String) : RuntimeMessage := ⟨"", "", "", text, none⟩

theorem replaceAll_length_le {tokens : List (String × String)}
    (shorter : ∀ token ∈ tokens, token.2.toList.length < token.1.toList.length) (text : String) :
    (tokens.foldl (fun out token => replace out token.1 token.2) text).toList.length ≤
      text.toList.length := by
  induction tokens generalizing text with
  | nil => exact le_refl _
  | cons token rest ih =>
      have short := shorter token List.mem_cons_self
      have nonempty : token.1.toList ≠ [] := List.ne_nil_of_length_pos (by omega)
      have here := (replace_replaces nonempty text token.2).length_le (Nat.le_of_lt short)
      exact (ih (fun other member => shorter other (List.mem_cons_of_mem token member)) _).trans
        here

/-- Replacements by shorter texts that change nothing have found nothing. -/
theorem absent_of_replaceAll_eq {tokens : List (String × String)}
    (shorter : ∀ token ∈ tokens, token.2.toList.length < token.1.toList.length) {text : String}
    (same : tokens.foldl (fun out token => replace out token.1 token.2) text = text) :
    ∀ token ∈ tokens, ¬token.1.toList <:+: text.toList := by
  induction tokens with
  | nil => exact fun token member => absurd member List.not_mem_nil
  | cons token rest ih =>
      have short := shorter token List.mem_cons_self
      have others := fun other member => shorter other (List.mem_cons_of_mem token member)
      have nonempty : token.1.toList ≠ [] := List.ne_nil_of_length_pos (by omega)
      have absent : ¬token.1.toList <:+: text.toList := by
        intro occurs
        have less := (replace_replaces nonempty text token.2).length_lt nonempty short occurs
        have after := replaceAll_length_le others (replace text token.1 token.2)
        rw [List.foldl_cons] at same
        rw [same] at after
        omega
      rw [List.foldl_cons, replace_of_not_infix _ absent] at same
      intro other member
      rcases List.mem_cons.mp member with rfl | later
      · exact absent
      · exact ih others same other later

section Reading

variable {V : Type} (host : Host V) (selfNode : Uuid) (selfService : String)

theorem render_markState (incoming : RuntimeMessage) (template : String) :
    renderTemplate host template selfNode selfService incoming markState =
      replace (messageText host selfNode selfService incoming template) stateMark "0" := by
  have keys : sortedKeys markState = [""] := by decide +kernel
  have value : markState.lookup "" = some 0 := by decide +kernel
  have token : "$state." ++ "" = stateMark := String.append_empty
  have digit : toString (0 : Int) = "0" := by decide
  have last (out : String) : replaceState markState out "" = replace out stateMark "0" := by
    unfold replaceState
    rw [value, token, ← digit]
  unfold renderTemplate messageText
  rw [keys, List.foldl_cons, List.foldl_nil, last]

theorem render_empty (incoming : RuntimeMessage) (template : String) :
    renderTemplate host template selfNode selfService incoming ∅ =
      messageText host selfNode selfService incoming template := by
  have keys : sortedKeys ∅ = [] := rfl
  unfold renderTemplate messageText
  rw [keys, List.foldl_nil]

/-- Without the beginning of a state token the state does not matter. -/
theorem render_of_mark_absent {incoming : RuntimeMessage} {template : String}
    (absent : ¬stateMark.toList <:+:
      (messageText host selfNode selfService incoming template).toList) (state : StateMap) :
    renderTemplate host template selfNode selfService incoming state =
      messageText host selfNode selfService incoming template := by
  refine replaceStates_of_not_infix (fun key _ occurs => absent ?_) (sortedKeys state)
  rw [stateToken_toList] at occurs
  exact (List.prefix_append _ _).isInfix.trans occurs

/-- The text stands alone before the later tokens are replaced in it. -/
theorem messageText_text (incoming : RuntimeMessage) :
    messageText host selfNode selfService incoming "$text" =
      ((messageTokens host selfNode selfService incoming).drop 5).foldl
        (fun out token => replace out token.1 token.2) incoming.text := by
  have tokens : messageTokens host selfNode selfService incoming =
      (messageTokens host selfNode selfService incoming).take 4 ++
        ("$text", incoming.text) :: (messageTokens host selfNode selfService incoming).drop 5 :=
    rfl
  have before : ((messageTokens host selfNode selfService incoming).take 4).foldl
      (fun out token => replace out token.1 token.2) "$text" = "$text" := by
    refine replaceAll_of_not_infix fun token member => ?_
    have named : token.1 ∈ messageTokenNames.take 4 := by
      rw [← messageTokens_names host selfNode selfService incoming, ← List.map_take]
      exact List.mem_map_of_mem member
    have absent : ∀ name ∈ messageTokenNames.take 4, ¬name.toList <:+: "$text".toList := by decide
    exact absent token.1 named
  have here : replace "$text" "$text" incoming.text = incoming.text := by
    have nonempty : "$text".toList ≠ [] := by decide
    have found : Replaces "$text".toList incoming.text.toList _ _ := .found .nil
    rw [List.append_nil, List.append_nil] at found
    exact String.toList_injective (found.unique nonempty (replace_replaces nonempty _ _))
  unfold messageText
  rw [tokens, List.foldl_append, List.foldl_cons, before, here]
  rfl

/-- The text of a message is shown as it is if it contains no later token. -/
theorem text_verbatim_iff (text : String) :
    (∀ selfNode selfService incoming state, incoming.text = text →
        renderTemplate host "$text" selfNode selfService incoming state = text) ↔
      ∀ name ∈ laterTokenNames, ¬name.toList <:+: text.toList := by
  constructor
  · intro verbatim
    have whole : (messageTokenNames.drop 5).map (·, "") =
        (messageTokens host 0 "" (bareMessage text)).drop 5 := rfl
    have shorter : ∀ token ∈ (messageTokenNames.drop 5).map fun name => (name, ""),
        token.2.toList.length < token.1.toList.length := by decide
    have unchanged : messageText host 0 "" (bareMessage text) "$text" = text := by
      rw [← render_empty]
      exact verbatim 0 "" (bareMessage text) ∅ rfl
    have marked := verbatim 0 "" (bareMessage text) markState rfl
    rw [render_markState, unchanged] at marked
    rw [messageText_text, ← whole] at unchanged
    have absent := absent_of_replaceAll_eq shorter unchanged
    intro name member
    rcases List.mem_append.mp member with message | state
    · exact absent (name, "") (List.mem_map_of_mem message)
    · cases List.mem_singleton.mp state
      intro occurs
      have nonempty : stateMark.toList ≠ [] := stateMark_tokenOf.ne_nil
      have less := (replace_replaces nonempty text "0").length_lt nonempty (by decide) occurs
      rw [marked] at less
      exact lt_irrefl _ less
  · rintro absent selfNode selfService incoming state rfl
    have mark := absent stateMark (List.mem_append_right _ List.mem_cons_self)
    have unchanged : messageText host selfNode selfService incoming "$text" = incoming.text := by
      rw [messageText_text]
      refine replaceAll_of_not_infix fun token member => ?_
      apply absent token.1
      apply List.mem_append_left
      rw [← messageTokens_names host selfNode selfService incoming, ← List.map_drop]
      exact List.mem_map_of_mem member
    rw [render_of_mark_absent host selfNode selfService (unchanged.symm ▸ mark), unchanged]

end Reading

/-! ## What a sender can make a template reveal -/

theorem mark_survives {tokens : List (String × String)}
    (named : ∀ token ∈ tokens, token.1 ∈ messageTokenNames) {text : String}
    (occurs : stateMark.toList <:+: text.toList) :
    stateMark.toList <:+:
      (tokens.foldl (fun out token => replace out token.1 token.2) text).toList := by
  induction tokens generalizing text with
  | nil => exact occurs
  | cons token rest ih =>
      have here := named token List.mem_cons_self
      have isToken := messageTokenNames_tokenOf here
      obtain ⟨⟨longer, shorter⟩, -⟩ := messageTokenNames_apart here
      apply ih fun other member => named other (List.mem_cons_of_mem token member)
      exact (replace_replaces isToken.ne_nil text token.2).token_survives isToken
        stateMark_tokenOf longer shorter occurs

/-- The beginning of a state token gets into the text as the value of a token. -/
theorem mark_of_value {tokens : List (String × String)}
    (named : ∀ token ∈ tokens, token.1 ∈ messageTokenNames) {name : String}
    (valued : ∀ token ∈ tokens, token.1 = name → token.2 = stateMark)
    (member : name ∈ tokens.map Prod.fst) {text : String}
    (occurs : name.toList <:+: text.toList) :
    stateMark.toList <:+:
      (tokens.foldl (fun out token => replace out token.1 token.2) text).toList := by
  induction tokens generalizing text with
  | nil => exact absurd member List.not_mem_nil
  | cons token rest ih =>
      have here := named token List.mem_cons_self
      have others := fun other inside => named other (List.mem_cons_of_mem token inside)
      have isToken := messageTokenNames_tokenOf here
      have replaced := replace_replaces isToken.ne_nil text token.2
      rw [List.foldl_cons]
      by_cases same : token.1 = name
      · apply mark_survives others
        rw [← valued token List.mem_cons_self same]
        exact replaced.replacement_infix isToken.ne_nil (same ▸ occurs)
      · have tail : name ∈ rest.map Prod.fst :=
          (List.mem_cons.mp member).resolve_left (Ne.symm same)
        obtain ⟨other, inside, rfl⟩ := List.mem_map.mp tail
        have otherNamed := others other inside
        have longer := (messageTokenNames_apart here).2 other.1 otherNamed (Ne.symm same)
        have shorter := (messageTokenNames_apart otherNamed).2 token.1 here same
        apply ih others (fun token inside => valued token (List.mem_cons_of_mem _ inside)) tail
        exact replaced.token_survives isToken (messageTokenNames_tokenOf otherNamed) longer shorter
          occurs

section Disclosing

variable {V : Type} (host : Host V) (selfNode : Uuid) (selfService : String)

theorem reveals_of_mark {incoming : RuntimeMessage} {template : String}
    (occurs : stateMark.toList <:+:
      (messageText host selfNode selfService incoming template).toList) :
    renderTemplate host template selfNode selfService incoming ∅ ≠
      renderTemplate host template selfNode selfService incoming markState := by
  intro same
  have nonempty : stateMark.toList ≠ [] := stateMark_tokenOf.ne_nil
  have less := (replace_replaces nonempty _ "0").length_lt nonempty (by decide) occurs
  rw [render_empty, render_markState] at same
  rw [← same] at less
  exact lt_irrefl _ less

theorem messageText_ownText (incoming : RuntimeMessage) (template : String) :
    messageText host selfNode selfService incoming template =
      ((messageTokens host selfNode selfService incoming).drop 2).foldl
        (fun out token => replace out token.1 token.2)
        (ownText host selfNode selfService template) := by
  have split : messageTokens host selfNode selfService incoming =
      ("$self_node", host.uuidToString selfNode) :: ("$self_service", selfService) ::
        (messageTokens host selfNode selfService incoming).drop 2 := rfl
  unfold messageText ownText
  conv_lhs => rw [split]
  rw [List.foldl_cons, List.foldl_cons]

/-- If no string of the sender is asked for, only the hop count is filled in. -/
theorem messageText_hops {template : String}
    (absent : ∀ name ∈ senderTokenNames,
      ¬name.toList <:+: (ownText host selfNode selfService template).toList)
    (incoming : RuntimeMessage) :
    messageText host selfNode selfService incoming template =
      replace (ownText host selfNode selfService template) "$prov.hops"
        ((incoming.provenance.map fun prov => toString prov.hops).getD "") := by
  have split : (messageTokens host selfNode selfService incoming).drop 2 =
      ((messageTokens host selfNode selfService incoming).drop 2).dropLast ++
        [("$prov.hops", (incoming.provenance.map fun prov => toString prov.hops).getD "")] := rfl
  have unchanged : (((messageTokens host selfNode selfService incoming).drop 2).dropLast).foldl
      (fun out token => replace out token.1 token.2)
      (ownText host selfNode selfService template) =
        ownText host selfNode selfService template := by
    refine replaceAll_of_not_infix fun token member => absent token.1 ?_
    have names : (((messageTokens host selfNode selfService incoming).drop 2).dropLast).map
        Prod.fst = senderTokenNames := rfl
    rw [← names]
    exact List.mem_map_of_mem member
  rw [messageText_ownText, split, List.foldl_append, unchanged, List.foldl_cons, List.foldl_nil]

/-- A hop count cannot be the missing part of a state token. -/
theorem hops_absent {text : String}
    (absent : ¬stateMark.toList <:+: (replace text "$prov.hops" "").toList) (hops : Nat) :
    ¬stateMark.toList <:+: (replace text "$prov.hops" (toString hops)).toList := by
  have isToken : TokenOf '$' "$prov.hops".toList := messageTokenNames_tokenOf (by decide)
  obtain ⟨⟨longer, shorter⟩, -⟩ := @messageTokenNames_apart "$prov.hops" (by decide)
  have digits : (toString hops).toList = Nat.toDigits 10 hops := Nat.toList_repr
  have foreign : ∀ c ∈ stateMark.toList, c ∉ (toString hops).toList := by
    intro c member digit
    rw [digits] at digit
    have isDigit := Nat.isDigit_of_mem_toDigits (by decide) (by decide) digit
    have none : ∀ c ∈ stateMark.toList, c.isDigit = false :=
      List.forall_iff_forall_mem.mp (by decide)
    rw [none c member] at isDigit
    cases isDigit
  intro occurs
  apply absent
  apply (replace_replaces isToken.ne_nil text "").token_survives isToken stateMark_tokenOf longer
    shorter
  refine (replace_replaces isToken.ne_nil text (toString hops)).infix_original
    stateMark_tokenOf.ne_nil ?_ foreign occurs
  rw [digits]
  exact Nat.toDigits_ne_nil

/-- The state does not matter to a template if, with the names of the receiver filled in,
it asks for no string of the sender and contains no state token, also not one that is
interrupted by the hop count. -/
theorem render_stateless_iff (template : String) :
    (∀ incoming state state',
        renderTemplate host template selfNode selfService incoming state =
          renderTemplate host template selfNode selfService incoming state') ↔
      (∀ name ∈ senderTokenNames,
          ¬name.toList <:+: (ownText host selfNode selfService template).toList) ∧
        ¬stateMark.toList <:+:
          (replace (ownText host selfNode selfService template) "$prov.hops" "").toList := by
  constructor
  · intro stateless
    have absent : ∀ name ∈ senderTokenNames,
        ¬name.toList <:+: (ownText host selfNode selfService template).toList := by
      intro name member occurs
      refine reveals_of_mark host selfNode selfService ?_
        (stateless (uniformMessage stateMark) ∅ markState)
      have tokens : (messageTokens host selfNode selfService (uniformMessage stateMark)).drop 2 =
          senderTokenNames.map (·, stateMark) ++ [("$prov.hops", toString 0)] := rfl
      rw [messageText_ownText, tokens]
      have last : ∀ name ∈ senderTokenNames, name ≠ "$prov.hops" := by decide
      have known : ∀ name ∈ senderTokenNames ++ ["$prov.hops"], name ∈ messageTokenNames := by
        decide
      refine mark_of_value (fun token inside => known token.1 ?_) (fun token inside same => ?_) ?_
        occurs
      · rcases List.mem_append.mp inside with front | back
        · obtain ⟨other, known, rfl⟩ := List.mem_map.mp front
          exact List.mem_append_left _ known
        · cases List.mem_singleton.mp back
          exact List.mem_append_right _ List.mem_cons_self
      · rcases List.mem_append.mp inside with front | back
        · obtain ⟨other, -, rfl⟩ := List.mem_map.mp front
          rfl
        · cases List.mem_singleton.mp back
          exact absurd same.symm (last name member)
      · rw [List.map_append, List.map_map]
        exact List.mem_append_left _ (List.mem_map_of_mem member)
    refine ⟨absent, fun occurs => ?_⟩
    refine reveals_of_mark host selfNode selfService ?_ (stateless (bareMessage "") ∅ markState)
    rw [messageText_hops host selfNode selfService absent]
    exact occurs
  · rintro ⟨absent, hops⟩ incoming state state'
    have mark : ¬stateMark.toList <:+:
        (messageText host selfNode selfService incoming template).toList := by
      rw [messageText_hops host selfNode selfService absent]
      cases incoming.provenance with
      | none => exact hops
      | some prov => exact hops_absent hops prov.hops
    rw [render_of_mark_absent host selfNode selfService mark,
      render_of_mark_absent host selfNode selfService mark]

/-- When substituted values are copied and not read again. -/
theorem substitution_verbatim_iff :
    (∀ text : String,
        (∀ selfNode selfService incoming state, incoming.text = text →
            renderTemplate host "$text" selfNode selfService incoming state = text) ↔
          ∀ name ∈ laterTokenNames, ¬name.toList <:+: text.toList) ∧
      ∀ selfNode selfService template,
        (∀ incoming state state',
            renderTemplate host template selfNode selfService incoming state =
              renderTemplate host template selfNode selfService incoming state') ↔
          (∀ name ∈ senderTokenNames,
              ¬name.toList <:+: (ownText host selfNode selfService template).toList) ∧
            ¬stateMark.toList <:+:
              (replace (ownText host selfNode selfService template) "$prov.hops" "").toList :=
  ⟨text_verbatim_iff host, render_stateless_iff host⟩

end Disclosing

def countingState (value : Int) : StateMap := AList.insert "n" value ∅

/-- The text of a message names a variable, and the answer gives its value. -/
theorem text_discloses_state :
    renderTemplate jsonHost "$text" 7 "Gateway" (bareMessage "$state.n") (countingState 0) ≠
        (bareMessage "$state.n").text ∧
      ¬stateMark.toList <:+: "$text".toList ∧
      renderTemplate jsonHost "$text" 7 "Gateway" (bareMessage "$state.n") (countingState 0) = "0" ∧
      renderTemplate jsonHost "$text" 7 "Gateway" (bareMessage "$state.n") (countingState 1) =
        "1" := by
  decide +kernel

end UcoStack.Runtime
