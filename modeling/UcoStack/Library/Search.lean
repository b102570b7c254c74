import Mathlib.Data.List.Basic
import UcoStack.Library.Formats

/-!
# Search in filled formats

Where the search for a fixed text ends, and which tokens a filled format has between
separators, as far as the format decides it.
-/

namespace UcoStack

/-- What follows the first occurrence of a pattern. -/
def restAfter (pattern : List Char) : List Char → Option (List Char)
  | [] => none
  | c :: text =>
      if pattern <+: c :: text then some ((c :: text).drop pattern.length)
      else restAfter pattern text

theorem restAfter_append {pattern text out : List Char}
    (absent : ∀ part, part <:+ text → part ≠ [] → ¬pattern <+: part ++ out) :
    restAfter pattern (text ++ out) = restAfter pattern out := by
  induction text with
  | nil => rfl
  | cons c text ih =>
      have here : ¬pattern <+: c :: (text ++ out) :=
        absent (c :: text) List.suffix_rfl (List.cons_ne_nil c text)
      rw [List.cons_append, restAfter, if_neg here]
      exact ih fun part suffix => absent part (suffix.trans (List.suffix_cons c text))

namespace Format

variable {cells : Format} {texts : List (List Char)} {out pattern : List Char}

/-! ## The slot behind a pattern -/

/-- Every slot has a text with the property. -/
def Slots (holds : Cell → List Char → Prop) : Format → List (List Char) → Prop
  | [], _ => True
  | .char _ :: cells, texts => Slots holds cells texts
  | cell :: cells, text :: texts => holds cell text ∧ Slots holds cells texts
  | _ :: _, [] => False

/-- Before a character that stops, only characters that are trimmed follow. -/
def closes (stops trims : Char → Bool) : Format → Bool
  | [] => true
  | .char d :: cells => stops d || (trims d && closes stops trims cells)
  | _ => false

theorem trims_of_closes {stops trims : Char → Bool} (filled : Filled cells texts out)
    (closed : closes stops trims cells = true) :
    ∀ c ∈ out.takeWhile (fun c => !stops c), trims c = true := by
  induction filled with
  | nil => exact fun c member => by cases member
  | char d _ ih =>
      rw [closes, Bool.or_eq_true, Bool.and_eq_true] at closed
      intro c member
      rw [List.takeWhile_cons] at member
      split at member
      · rename_i goesOn
        rw [Bool.not_eq_true'] at goesOn
        rcases closed with stop | ⟨trimmed, later⟩
        · cases goesOn.symm.trans stop
        · rcases List.mem_cons.mp member with rfl | inside
          · exact trimmed
          · exact ih later c inside
      · cases member
  | _ => cases closed

/-- The slot in front of which the first occurrence of the pattern ends; no slot if only
a free text at the end can hold it. -/
def seek (accepts : Cell → Bool) (stops trims : Char → Bool) (pattern : List Char) :
    Format → Option (Option Nat)
  | [] => some none
  | .char d :: cells =>
      if mustStart (.char d :: cells) pattern then
        match (.char d :: cells).drop pattern.length with
        | .many cls :: more =>
            if accepts (.many cls) && closes stops trims more then some (some 0) else none
        | _ => none
      else if canStart (.char d :: cells) pattern then none
      else seek accepts stops trims pattern cells
  | .many cls :: cells =>
      if canStart (.many cls :: cells) pattern then none
      else (seek accepts stops trims pattern cells).map (Option.map (· + 1))
  | .led first later :: cells =>
      if canStart (.led first later :: cells) pattern ||
        canStart (.many later :: cells) pattern then none
      else (seek accepts stops trims pattern cells).map (Option.map (· + 1))
  | .free :: cells => if cells.isEmpty then some none else none

theorem filled_drop {holds : Cell → List Char → Prop} (filled : Filled cells texts out)
    (slots : Slots holds cells texts) (starts : mustStart cells pattern = true) :
    Filled (cells.drop pattern.length) texts (out.drop pattern.length) ∧
      Slots holds (cells.drop pattern.length) texts := by
  induction filled generalizing pattern with
  | nil =>
      cases pattern with
      | nil => exact ⟨.nil, slots⟩
      | cons c part => cases starts
  | char d rest ih =>
      cases pattern with
      | nil => exact ⟨.char d rest, slots⟩
      | cons c part =>
          rw [mustStart, Bool.and_eq_true] at starts
          exact ih slots starts.2
  | many within rest =>
      cases pattern with
      | nil => exact ⟨.many within rest, slots⟩
      | cons c part => cases starts
  | led leads within rest =>
      cases pattern with
      | nil => exact ⟨.led leads within rest, slots⟩
      | cons c part => cases starts
  | free text rest =>
      cases pattern with
      | nil => exact ⟨.free text rest, slots⟩
      | cons c part => cases starts

theorem restAfter_many {cls : Char → Bool} {text : List Char} (within : ∀ c ∈ text, cls c = true)
    (rest : Filled cells texts out) (absent : canStart (.many cls :: cells) pattern = false) :
    restAfter pattern (text ++ out) = restAfter pattern out := by
  refine restAfter_append fun part suffix _ starts => ?_
  cases absent.symm.trans (canStart_many_of_suffix within rest suffix starts)

theorem restAfter_led {first later : Char → Bool} {c : Char} {text : List Char}
    (leads : first c = true) (within : ∀ c ∈ text, later c = true) (rest : Filled cells texts out)
    (absent : (canStart (.led first later :: cells) pattern ||
      canStart (.many later :: cells) pattern) = false) :
    restAfter pattern (c :: (text ++ out)) = restAfter pattern out := by
  rw [Bool.or_eq_false_iff] at absent
  have here : ¬pattern <+: c :: (text ++ out) := fun starts =>
    Bool.noConfusion (absent.1.symm.trans (canStart_of_begins (.led leads within rest) starts))
  rw [restAfter, if_neg here]
  exact restAfter_many within rest absent.2

section Seeking

variable {accepts : Cell → Bool} {stops trims : Char → Bool}

/-- A search that ends at no slot goes on in the quoted text. -/
theorem restAfter_of_seek_none (filled : Filled cells texts out)
    (sought : seek accepts stops trims pattern cells = some none) :
    restAfter pattern out = restAfter pattern (quoted cells texts).flatten := by
  induction filled with
  | nil => rfl
  | @char d cells texts out rest ih =>
      rw [seek] at sought
      split at sought
      · split at sought
        · split at sought
          · cases sought
          · cases sought
        · cases sought
      · split at sought
        · cases sought
        · rename_i absent
          have here : ¬pattern <+: d :: out := fun starts =>
            absent (canStart_of_begins (.char d rest) starts)
          rw [restAfter, if_neg here]
          exact ih sought
  | many within rest ih =>
      rw [seek] at sought
      split at sought
      · cases sought
      · rename_i absent
        rw [restAfter_many within rest (Bool.eq_false_iff.mpr absent)]
        obtain ⟨place, later, none⟩ := Option.map_eq_some_iff.mp sought
        rw [Option.map_eq_none_iff.mp none] at later
        exact ih later
  | led leads within rest ih =>
      rw [seek] at sought
      split at sought
      · cases sought
      · rename_i absent
        rw [restAfter_led leads within rest (Bool.eq_false_iff.mpr absent)]
        obtain ⟨place, later, none⟩ := Option.map_eq_some_iff.mp sought
        rw [Option.map_eq_none_iff.mp none] at later
        exact ih later
  | @free text cells texts out rest ih =>
      cases rest with
      | nil =>
          have alone : quoted [.free] [text] = [text] := rfl
          rw [alone, List.flatten_singleton, List.append_nil]
      | _ => cases sought

/-- A search that ends at a slot finds its text. -/
theorem restAfter_of_seek_some {holds : Cell → List Char → Prop} {index : Nat}
    (filled : Filled cells texts out) (slots : Slots holds cells texts)
    (sought : seek accepts stops trims pattern cells = some (some index)) :
    ∃ cell text more, texts[index]? = some text ∧ accepts cell = true ∧ holds cell text ∧
      restAfter pattern out = some (text ++ more) ∧
      ∀ c ∈ more.takeWhile (fun c => !stops c), trims c = true := by
  induction filled generalizing index with
  | nil => cases sought
  | @char d cells texts out rest ih =>
      rw [seek] at sought
      split at sought
      · rename_i starts
        obtain ⟨ahead, room⟩ := @filled_drop _ _ _ _ holds (.char d rest) slots starts
        have here : restAfter pattern (d :: out) = some ((d :: out).drop pattern.length) := by
          rw [restAfter, if_pos (prefix_of_mustStart (.char d rest) starts)]
        split at sought
        · rename_i cls more same
          split at sought
          · rename_i closed
            rw [Bool.and_eq_true] at closed
            cases sought
            rw [same] at ahead room
            generalize (d :: out).drop pattern.length = following at ahead here
            cases ahead with
            | many within behind =>
                exact ⟨.many cls, _, _, rfl, closed.1, room.1, here,
                  trims_of_closes behind closed.2⟩
          · cases sought
        · cases sought
      · split at sought
        · cases sought
        · rename_i absent
          have here : ¬pattern <+: d :: out := fun starts =>
            absent (canStart_of_begins (.char d rest) starts)
          rw [restAfter, if_neg here]
          exact ih slots sought
  | many within rest ih =>
      rw [seek] at sought
      split at sought
      · cases sought
      · rename_i absent
        rw [restAfter_many within rest (Bool.eq_false_iff.mpr absent)]
        obtain ⟨place, later, same⟩ := Option.map_eq_some_iff.mp sought
        obtain ⟨before, rfl, rfl⟩ := Option.map_eq_some_iff.mp same
        exact ih slots.2 later
  | led leads within rest ih =>
      rw [seek] at sought
      split at sought
      · cases sought
      · rename_i absent
        rw [restAfter_led leads within rest (Bool.eq_false_iff.mpr absent)]
        obtain ⟨place, later, same⟩ := Option.map_eq_some_iff.mp sought
        obtain ⟨before, rfl, rfl⟩ := Option.map_eq_some_iff.mp same
        exact ih slots.2 later
  | free text rest =>
      rw [seek] at sought
      split at sought
      · cases sought
      · cases sought

end Seeking

/-! ## Tokens -/

/-- The tokens between the separators of the format. -/
def tokens (separates : Char → Bool) (cells : Format) : List Format :=
  cells.splitOnP fun cell =>
    match cell with
    | .char d => separates d
    | _ => false

/-- No slot can hold a separator. -/
def apart (separators : List Char) : Format → Bool
  | [] => true
  | .char _ :: cells => apart separators cells
  | .many cls :: cells => separators.all (fun c => !cls c) && apart separators cells
  | .led first later :: cells =>
      separators.all (fun c => !first c && !later c) && apart separators cells
  | .free :: _ => false

/-- The tokens of a format are filled in order. -/
inductive TokensFilled (holds : Cell → List Char → Prop) :
    List Format → List (List Char) → List (List Char) → Prop where
  | nil : TokensFilled holds [] [] []
  | cons {token : Format} {own texts : List (List Char)} {piece : List Char}
      {tokens : List Format} {pieces : List (List Char)} (filled : Filled token own piece)
      (slots : Slots holds token own) (rest : TokensFilled holds tokens texts pieces) :
      TokensFilled holds (token :: tokens) (own ++ texts) (piece :: pieces)

/-- The pieces of a list are parts of it and hold no separator. -/
theorem infix_of_mem_splitOnP {separates : Char → Bool} {text piece : List Char}
    (member : piece ∈ text.splitOnP separates) :
    piece <:+: text ∧ ∀ c ∈ piece, separates c = false := by
  have pieces : ∃ first others, text.splitOnP separates = first :: others ∧ first <+: text ∧
      (∀ c ∈ first, separates c = false) ∧
      ∀ piece ∈ others, piece <:+: text ∧ ∀ c ∈ piece, separates c = false := by
    clear member
    induction text with
    | nil => exact ⟨[], [], rfl, List.prefix_rfl, by simp, by simp⟩
    | cons c text ih =>
        obtain ⟨first, others, split, starts, plain, later⟩ := ih
        rw [List.splitOnP_cons_eq_if_modifyHead, split]
        by_cases separated : separates c = true
        · rw [if_pos separated]
          refine ⟨[], _, rfl, List.nil_prefix, by simp, fun piece inside => ?_⟩
          rcases List.mem_cons.mp inside with rfl | behind
          · exact ⟨List.infix_cons starts.isInfix, plain⟩
          · exact ⟨List.infix_cons (later piece behind).1, (later piece behind).2⟩
        · rw [if_neg separated]
          refine ⟨c :: first, others, rfl, List.cons_prefix_cons.mpr ⟨rfl, starts⟩, ?_, ?_⟩
          · intro d inside
            rcases List.mem_cons.mp inside with rfl | behind
            · exact Bool.eq_false_iff.mpr separated
            · exact plain d behind
          · exact fun piece inside => ⟨List.infix_cons (later piece inside).1, (later piece inside).2⟩
  obtain ⟨first, others, split, starts, plain, later⟩ := pieces
  rw [split] at member
  rcases List.mem_cons.mp member with rfl | behind
  · exact ⟨starts.isInfix, plain⟩
  · exact later piece behind

theorem splitOnP_append_of_free {separates : Char → Bool} {text out : List Char}
    (free : ∀ c ∈ text, separates c = false) :
    (text ++ out).splitOnP separates = (out.splitOnP separates).modifyHead (text ++ ·) := by
  induction text with
  | nil => exact (congrFun List.modifyHead_id _).symm
  | cons c text ih =>
      have plain := free c List.mem_cons_self
      rw [List.cons_append, List.splitOnP_cons_eq_if_modifyHead, plain, if_neg Bool.false_ne_true,
        ih fun c member => free c (List.mem_cons_of_mem _ member), List.modifyHead_modifyHead]
      rfl

section Splitting

variable {separates : Char → Bool} {separators : List Char} {holds : Cell → List Char → Prop}

theorem tokens_char (d : Char) : tokens separates (.char d :: cells) =
    if separates d then [] :: tokens separates cells
    else (tokens separates cells).modifyHead (.char d :: ·) :=
  List.splitOnP_cons_eq_if_modifyHead _ _

theorem tokensFilled_nonempty {pieces : List (List Char)}
    (filled : TokensFilled holds (tokens separates cells) texts pieces) :
    ∃ token others own later piece more, tokens separates cells = token :: others ∧
      texts = own ++ later ∧ pieces = piece :: more ∧ Filled token own piece ∧
      Slots holds token own ∧ TokensFilled holds others later more := by
  generalize same : tokens separates cells = all at filled
  cases filled with
  | nil => exact absurd same (List.splitOnP_ne_nil _ _)
  | cons filled slots rest => exact ⟨_, _, _, _, _, _, rfl, rfl, rfl, filled, slots, rest⟩

/-- The pieces of a filled format fill its tokens. -/
theorem tokensFilled (complete : ∀ c, separates c = true → c ∈ separators)
    (filled : Filled cells texts out) (slots : Slots holds cells texts)
    (divided : apart separators cells = true) :
    TokensFilled holds (tokens separates cells) texts (out.splitOnP separates) := by
  induction filled with
  | nil => exact .cons .nil trivial .nil
  | char d _ ih =>
      have rest := ih slots divided
      rw [tokens_char, List.splitOnP_cons_eq_if_modifyHead]
      by_cases separated : separates d = true
      · rw [if_pos separated, if_pos separated]
        exact .cons .nil trivial rest
      · rw [if_neg separated, if_neg separated]
        obtain ⟨token, others, own, later, piece, more, tokenized, rfl, split,
          filled, slots, rest⟩ :=
          tokensFilled_nonempty rest
        rw [tokenized, split]
        exact .cons (.char d filled) slots rest
  | @many cls text cells texts out within _ ih =>
      rw [apart, Bool.and_eq_true] at divided
      have free : ∀ c ∈ text, separates c = false := by
        intro c member
        rw [Bool.eq_false_iff]
        intro separated
        have outside := List.all_eq_true.mp divided.1 c (complete c separated)
        rw [within c member] at outside
        cases outside
      have rest := ih slots.2 divided.2
      rw [splitOnP_append_of_free free]
      obtain ⟨token, others, own, later, piece, more, tokenized, rfl, split,
        filled, own_slots, rest⟩ :=
        tokensFilled_nonempty rest
      have tokenize : tokens separates (.many cls :: cells) =
          (tokens separates cells).modifyHead (.many cls :: ·) :=
        List.splitOnP_cons_eq_if_modifyHead _ _
      rw [tokenize, tokenized, split]
      exact .cons (.many within filled) ⟨slots.1, own_slots⟩ rest
  | @led first later c text cells texts out leads within _ ih =>
      rw [apart, Bool.and_eq_true] at divided
      have free : ∀ d ∈ c :: text, separates d = false := by
        intro d member
        rw [Bool.eq_false_iff]
        intro separated
        have outside := List.all_eq_true.mp divided.1 d (complete d separated)
        rw [Bool.and_eq_true, Bool.not_eq_true', Bool.not_eq_true'] at outside
        rcases List.mem_cons.mp member with rfl | inside
        · cases leads.symm.trans outside.1
        · cases (within d inside).symm.trans outside.2
      have rest := ih slots.2 divided.2
      rw [← List.cons_append, splitOnP_append_of_free free]
      obtain ⟨token, others, own, after, piece, more, tokenized, rfl, split,
        filled, own_slots, rest⟩ :=
        tokensFilled_nonempty rest
      have tokenize : tokens separates (.led first later :: cells) =
          (tokens separates cells).modifyHead (.led first later :: ·) :=
        List.splitOnP_cons_eq_if_modifyHead _ _
      rw [tokenize, tokenized, split]
      exact .cons (.led leads within filled) ⟨slots.1, own_slots⟩ rest
  | free => cases divided

end Splitting

/-! ## Parts of a filled format -/

/-- The number of slots. -/
def slotCount : Format → Nat
  | [] => 0
  | .char _ :: cells => slotCount cells
  | _ :: cells => slotCount cells + 1

theorem length_of_filled (filled : Filled cells texts out) : texts.length = slotCount cells := by
  induction filled with
  | nil => rfl
  | char _ _ ih => exact ih
  | _ => exact congrArg (· + 1) (by assumption)

theorem filled_append {front back : Format} (filled : Filled (front ++ back) texts out) :
    ∃ first later, out = first ++ later ∧ Filled front (texts.take (slotCount front)) first ∧
      Filled back (texts.drop (slotCount front)) later := by
  induction front generalizing texts out with
  | nil => exact ⟨[], out, rfl, .nil, filled⟩
  | cons cell front ih =>
      cases filled with
      | char d rest =>
          obtain ⟨first, later, rfl, begins, ends⟩ := ih rest
          exact ⟨d :: first, later, rfl, .char d begins, ends⟩
      | many within rest =>
          obtain ⟨first, later, rfl, begins, ends⟩ := ih rest
          exact ⟨_, later, (List.append_assoc _ _ _).symm, .many within begins, ends⟩
      | led leads within rest =>
          obtain ⟨first, later, rfl, begins, ends⟩ := ih rest
          refine ⟨_, later, ?_, .led leads within begins, ends⟩
          rw [List.cons_append, List.append_assoc]
      | free text rest =>
          obtain ⟨first, later, rfl, begins, ends⟩ := ih rest
          exact ⟨_, later, (List.append_assoc _ _ _).symm, .free text begins, ends⟩

theorem filled_eq_fill (filled : Filled cells texts out) : out = fill cells texts := by
  induction filled with
  | nil => rfl
  | char d _ ih => exact congrArg (d :: ·) ih
  | @many cls text cells texts out _ _ ih => exact congrArg (text ++ ·) ih
  | @led first later c text cells texts out _ _ _ ih => exact congrArg ((c :: text) ++ ·) ih
  | @free text cells texts out _ ih => exact congrArg (text ++ ·) ih

theorem slots_take {holds : Cell → List Char → Prop} {front back : Format}
    (slots : Slots holds (front ++ back) texts) :
    Slots holds front (texts.take (slotCount front)) := by
  induction front generalizing texts with
  | nil => trivial
  | cons cell front ih =>
      cases cell with
      | char d => exact ih slots
      | _ =>
          cases texts with
          | nil => cases slots
          | cons text texts => exact ⟨slots.1, ih slots.2⟩

theorem hasFree_of_apart {separators : List Char} (divided : apart separators cells = true) :
    hasFree cells = false := by
  induction cells with
  | nil => rfl
  | cons cell cells ih =>
      cases cell with
      | char d => exact ih divided
      | free => cases divided
      | _ =>
          rw [apart, Bool.and_eq_true] at divided
          exact ih divided.2

theorem filled_free (filled : Filled cells texts out) (tail : List Char) :
    Filled (cells ++ [.free]) (texts ++ [tail]) (out ++ tail) := by
  induction filled with
  | nil =>
      have alone : Filled [.free] [tail] (tail ++ []) := .free tail .nil
      rwa [List.append_nil] at alone
  | char d _ ih => exact .char d ih
  | many within _ ih =>
      rw [List.append_assoc]
      exact .many within ih
  | @led first later c text cells texts out leads within _ ih =>
      have same : c :: (text ++ out) ++ tail = c :: (text ++ (out ++ tail)) := by
        rw [List.cons_append, List.append_assoc]
      rw [same]
      exact .led leads within ih
  | free text _ ih =>
      rw [List.append_assoc]
      exact .free text ih

theorem quoted_free (filled : Filled cells texts out) (tail : List Char) :
    quoted (cells ++ [.free]) (texts ++ [tail]) = quoted cells texts ++ [tail] := by
  induction filled with
  | nil => rfl
  | char _ _ ih => exact ih
  | many _ _ ih => exact ih
  | led _ _ _ ih => exact ih
  | free text _ ih => exact congrArg (text :: ·) ih

theorem slots_free {holds : Cell → List Char → Prop} (free : ∀ text, holds .free text)
    (slots : Slots holds cells texts) (tail : List Char) :
    Slots holds (cells ++ [.free]) (texts ++ [tail]) := by
  induction cells generalizing texts with
  | nil =>
      cases texts with
      | nil => exact ⟨free tail, trivial⟩
      | cons text texts => exact ⟨free text, trivial⟩
  | cons cell cells ih =>
      cases cell with
      | char d => exact ih slots
      | _ =>
          cases texts with
          | nil => cases slots
          | cons text texts => exact ⟨slots.1, ih slots.2⟩

/-! ## Reading the tokens -/

/-- The slots that are read from tokens, if each token is read as nothing or as its first
slot. -/
def standing (reads : Format → Option Bool) : List Format → Option (List Nat)
  | [] => some []
  | token :: tokens =>
      match reads token, standing reads tokens with
      | some first, some later =>
          some ((if first then [0] else []) ++ later.map (· + slotCount token))
      | _, _ => none

theorem filterMap_shift {β : Type} (parse : List Char → Option β) (own texts : List (List Char))
    (indices : List Nat) :
    (indices.map (· + own.length)).filterMap (fun index => (own ++ texts)[index]?.bind parse) =
      indices.filterMap fun index => texts[index]?.bind parse := by
  rw [List.filterMap_map]
  refine List.filterMap_congr fun index _ => ?_
  rw [Function.comp_apply, List.getElem?_append_right (Nat.le_add_left _ _), Nat.add_sub_cancel]

/-- What the pieces are read as, if single tokens are read as the format says. -/
theorem filterMap_standing {β : Type} {parse : List Char → Option β}
    {holds : Cell → List Char → Prop} {reads : Format → Option Bool}
    (silent : ∀ token own piece, Filled token own piece → Slots holds token own →
      reads token = some false → parse piece = none)
    (single : ∀ token own piece, Filled token own piece → Slots holds token own →
      reads token = some true → ∃ text more, own = text :: more ∧ parse piece = parse text)
    {tokens : List Format} {pieces : List (List Char)} {indices : List Nat}
    (filled : TokensFilled holds tokens texts pieces)
    (stand : standing reads tokens = some indices) :
    pieces.filterMap parse = indices.filterMap fun index => texts[index]?.bind parse := by
  induction filled generalizing indices with
  | nil =>
      cases stand
      rfl
  | @cons token own texts piece tokens pieces filled slots rest ih =>
      rw [standing] at stand
      split at stand
      · rename_i first later here behind
        cases stand
        rw [← length_of_filled filled, List.filterMap_append, filterMap_shift, ← ih behind]
        cases first with
        | false =>
            rw [List.filterMap_cons_none (silent token own piece filled slots here)]
            rfl
        | true =>
            obtain ⟨text, more, rfl, same⟩ := single token own piece filled slots here
            have alone : [0].filterMap (fun index => (text :: more ++ texts)[index]?.bind parse) =
                (parse text).toList := by
              cases read : parse text <;> simp [read]
            rw [if_pos rfl, alone, List.filterMap_cons, same]
            cases parse text <;> rfl
      · cases stand

end Format

end UcoStack
