import Mathlib.Data.List.Infix

/-!
# Formats

A format is a text with slots that take the characters of a class, or any text.
Where a pattern can stand in a filled format is read off the format: a pattern that
cannot touch the fixed parts and the slots of a class occurs in a free text or not
at all.
-/

namespace UcoStack

/-- One place of a format: a character, a text of a class, a text whose first character is
of a class of its own, or any text. -/
inductive Cell where
  | char (c : Char)
  | many (cls : Char → Bool)
  | led (first rest : Char → Bool)
  | free

abbrev Format := List Cell

namespace Format

/-- A fixed text, kept with its characters, comes first. -/
def lit (text : String) (rest : Format) {chars : List Char}
    (_spells : String.ofList chars = text := by rfl) : Format :=
  chars.map .char ++ rest

/-- A fixed text that is computed comes first. -/
def word (text : String) (rest : Format) : Format := text.toList.map .char ++ rest

/-- The slots take the texts in order. -/
def fill : Format → List (List Char) → List Char
  | [], _ => []
  | .char c :: cells, texts => c :: fill cells texts
  | _ :: cells, text :: texts => text ++ fill cells texts
  | _ :: cells, [] => fill cells []

/-- The texts of the free slots. -/
def quoted : Format → List (List Char) → List (List Char)
  | .free :: cells, text :: texts => text :: quoted cells texts
  | .char _ :: cells, texts => quoted cells texts
  | _ :: cells, _ :: texts => quoted cells texts
  | _, _ => []

def hasFree : Format → Bool
  | [] => false
  | .free :: _ => true
  | _ :: cells => hasFree cells

/-- The texts fit the slots and make up the text. -/
inductive Filled : Format → List (List Char) → List Char → Prop where
  | nil : Filled [] [] []
  | char (c : Char) {cells : Format} {texts : List (List Char)} {out : List Char}
      (rest : Filled cells texts out) : Filled (.char c :: cells) texts (c :: out)
  | many {cls : Char → Bool} {text : List Char} {cells : Format} {texts : List (List Char)}
      {out : List Char} (within : ∀ c ∈ text, cls c = true) (rest : Filled cells texts out) :
      Filled (.many cls :: cells) (text :: texts) (text ++ out)
  | led {first later : Char → Bool} {c : Char} {text : List Char} {cells : Format}
      {texts : List (List Char)} {out : List Char} (starts : first c = true)
      (within : ∀ c ∈ text, later c = true) (rest : Filled cells texts out) :
      Filled (.led first later :: cells) ((c :: text) :: texts) (c :: (text ++ out))
  | free (text : List Char) {cells : Format} {texts : List (List Char)} {out : List Char}
      (rest : Filled cells texts out) : Filled (.free :: cells) (text :: texts) (text ++ out)

/-- The texts fit the slots. -/
def Fits : Format → List (List Char) → Prop
  | [], texts => texts = []
  | .char _ :: cells, texts => Fits cells texts
  | .many cls :: cells, text :: texts => (∀ c ∈ text, cls c = true) ∧ Fits cells texts
  | .led first later :: cells, text :: texts =>
      (∃ c rest, text = c :: rest ∧ first c = true ∧ ∀ d ∈ rest, later d = true) ∧ Fits cells texts
  | .free :: cells, _ :: texts => Fits cells texts
  | _ :: _, [] => False

variable {cells : Format} {texts : List (List Char)} {out pattern : List Char}

theorem Fits.filled (fits : Fits cells texts) : Filled cells texts (fill cells texts) := by
  induction cells generalizing texts with
  | nil =>
      cases fits
      exact .nil
  | cons cell cells ih =>
      cases cell with
      | char c => exact .char c (ih fits)
      | many cls =>
          cases texts with
          | nil => cases fits
          | cons text texts => exact .many fits.1 (ih fits.2)
      | led first later =>
          cases texts with
          | nil => cases fits
          | cons text texts =>
              obtain ⟨⟨c, rest, rfl, starts, within⟩, others⟩ := fits
              exact .led starts within (ih others)
      | free =>
          cases texts with
          | nil => cases fits
          | cons text texts => exact .free text (ih fits)

theorem fits_chars (chars : List Char) :
    Fits (chars.map .char ++ cells) texts ↔ Fits cells texts := by
  induction chars with
  | nil => exact Iff.rfl
  | cons c chars ih => exact ih

theorem fill_chars (chars : List Char) :
    fill (chars.map .char ++ cells) texts = chars ++ fill cells texts := by
  induction chars with
  | nil => rfl
  | cons c chars ih => exact congrArg (c :: ·) ih

theorem fits_lit (text : String) {chars : List Char} (spells : String.ofList chars = text) :
    Fits (lit text cells spells) texts ↔ Fits cells texts :=
  fits_chars chars

theorem fits_word (text : String) : Fits (word text cells) texts ↔ Fits cells texts :=
  fits_chars text.toList

theorem fill_lit (text : String) {chars : List Char} (spells : String.ofList chars = text) :
    fill (lit text cells spells) texts = text.toList ++ fill cells texts := by
  have same : text.toList = chars := by rw [← spells, String.toList_ofList]
  rw [same]
  exact fill_chars chars

theorem fill_word (text : String) :
    fill (word text cells) texts = text.toList ++ fill cells texts :=
  fill_chars text.toList

theorem quoted_chars (chars : List Char) :
    quoted (chars.map .char ++ cells) texts = quoted cells texts := by
  induction chars with
  | nil => rfl
  | cons c chars ih => exact ih

theorem quoted_lit (text : String) {chars : List Char} (spells : String.ofList chars = text) :
    quoted (lit text cells spells) texts = quoted cells texts :=
  quoted_chars chars

theorem quoted_word (text : String) : quoted (word text cells) texts = quoted cells texts :=
  quoted_chars text.toList

/-! ## The fixed text at the start -/

def opening : Format → List Char
  | .char c :: cells => c :: opening cells
  | _ => []

theorem opening_fill (cells : Format) (texts : List (List Char)) :
    opening cells <+: fill cells texts := by
  induction cells with
  | nil => exact List.nil_prefix
  | cons cell cells ih =>
      cases cell with
      | char c => exact List.cons_prefix_cons.mpr ⟨rfl, ih⟩
      | _ => exact List.nil_prefix

/-- A pattern that differs from the fixed text within it does not come first. -/
theorem not_prefix_of_opening (longer : ¬pattern <+: opening cells)
    (shorter : ¬opening cells <+: pattern) : ¬pattern <+: fill cells texts := by
  intro starts
  rcases List.prefix_or_prefix_of_prefix starts (opening_fill cells texts) with inside | beyond
  · exact longer inside
  · exact shorter beyond

/-! ## Where a pattern can start -/

/-- After any number of characters of the class, the rest of the pattern can follow. -/
def manyStart (cls : Char → Bool) (next : List Char → Bool) : List Char → Bool
  | [] => true
  | c :: part => next (c :: part) || (cls c && manyStart cls next part)

/-- The pattern can start at the first place. -/
def canStart : Format → List Char → Bool
  | _, [] => true
  | [], _ :: _ => false
  | .char d :: cells, c :: part => c == d && canStart cells part
  | .many cls :: cells, c :: part => manyStart cls (canStart cells) (c :: part)
  | .led first later :: cells, c :: part => first c && manyStart later (canStart cells) part
  | .free :: _, _ :: _ => true

/-- The pattern can stand at a place that is not a free text, or reach out of one. -/
def canTouch (pattern : List Char) : Format → Bool
  | [] => false
  | .char d :: cells => canStart (.char d :: cells) pattern || canTouch pattern cells
  | .many cls :: cells => canStart (.many cls :: cells) pattern || canTouch pattern cells
  | .led first later :: cells =>
      canStart (.led first later :: cells) pattern ||
        (canStart (.many later :: cells) pattern || canTouch pattern cells)
  | .free :: cells =>
      (pattern.tail.tails.any fun part => !part.isEmpty && canStart cells part) ||
        canTouch pattern cells

/-- The format starts with the characters of the pattern. -/
def mustStart : Format → List Char → Bool
  | _, [] => true
  | .char d :: cells, c :: part => c == d && mustStart cells part
  | _, _ :: _ => false

def mustOccur (pattern : List Char) : Format → Bool
  | [] => pattern.isEmpty
  | cell :: cells => mustStart (cell :: cells) pattern || mustOccur pattern cells

theorem manyStart_of_prefix {cls : Char → Bool} {next : List Char → Bool} {text : List Char}
    (within : ∀ c ∈ text, cls c = true) (after : ∀ part, part <+: out → next part = true)
    (starts : pattern <+: text ++ out) : manyStart cls next pattern = true := by
  induction text generalizing pattern with
  | nil =>
      cases pattern with
      | nil => rfl
      | cons c part =>
          rw [manyStart, after (c :: part) starts]
          rfl
  | cons d text ih =>
      cases pattern with
      | nil => rfl
      | cons c part =>
          obtain ⟨same, later⟩ := List.cons_prefix_cons.mp starts
          rw [manyStart, same, within d List.mem_cons_self,
            ih (fun c member => within c (List.mem_cons_of_mem d member)) later]
          exact Bool.or_true _

theorem canStart_of_begins (filled : Filled cells texts out) (starts : pattern <+: out) :
    canStart cells pattern = true := by
  induction filled generalizing pattern with
  | nil =>
      rw [List.prefix_nil.mp starts]
      rfl
  | char d _ ih =>
      cases pattern with
      | nil => rfl
      | cons c part =>
          obtain ⟨same, later⟩ := List.cons_prefix_cons.mp starts
          rw [canStart, same, ih later, beq_self_eq_true]
          rfl
  | many within _ ih =>
      cases pattern with
      | nil => rfl
      | cons c part => exact manyStart_of_prefix within (fun part => ih) starts
  | led leads within _ ih =>
      cases pattern with
      | nil => rfl
      | cons c part =>
          obtain ⟨same, later⟩ := List.cons_prefix_cons.mp starts
          rw [canStart, same, leads, manyStart_of_prefix within (fun part => ih) later]
          rfl
  | free text _ _ =>
      cases pattern with
      | nil => rfl
      | cons c part => rfl

theorem prefix_of_mustStart (filled : Filled cells texts out)
    (starts : mustStart cells pattern = true) : pattern <+: out := by
  induction filled generalizing pattern with
  | nil =>
      cases pattern with
      | nil => exact List.nil_prefix
      | cons c part => cases starts
  | char d _ ih =>
      cases pattern with
      | nil => exact List.nil_prefix
      | cons c part =>
          rw [mustStart, Bool.and_eq_true, beq_iff_eq] at starts
          obtain ⟨rfl, later⟩ := starts
          exact List.cons_prefix_cons.mpr ⟨rfl, ih later⟩
  | _ =>
      cases pattern with
      | nil => exact List.nil_prefix
      | cons c part => cases starts

/-! ## Where a pattern occurs -/

/-- An occurrence in a joined text starts in the first part or lies in the second. -/
theorem infix_append_cases {left right : List Char} (occurs : pattern <:+: left ++ right) :
    (∃ part, part <:+ left ∧ pattern <+: part ++ right) ∨ pattern <:+: right := by
  induction left with
  | nil => exact .inr occurs
  | cons c left ih =>
      rcases List.infix_cons_iff.mp occurs with here | later
      · exact .inl ⟨c :: left, List.suffix_rfl, here⟩
      · refine (ih later).imp_left ?_
        rintro ⟨part, suffix, starts⟩
        exact ⟨part, suffix.trans (List.suffix_cons c left), starts⟩

theorem canStart_many_of_suffix {cls : Char → Bool} {text part : List Char}
    (within : ∀ c ∈ text, cls c = true) (rest : Filled cells texts out) (suffix : part <:+ text)
    (starts : pattern <+: part ++ out) : canStart (.many cls :: cells) pattern = true :=
  canStart_of_begins (.many (fun c member => within c (suffix.subset member)) rest) starts

/-- A pattern that touches nothing fixed occurs in a quoted text. -/
theorem occurs_quoted (filled : Filled cells texts out) (occurs : pattern <:+: out)
    (proper : pattern ≠ []) (clear : canTouch pattern cells = false) :
    ∃ text ∈ quoted cells texts, pattern <:+: text := by
  induction filled with
  | nil => exact absurd (List.infix_nil.mp occurs) proper
  | char d rest ih =>
      rw [canTouch, Bool.or_eq_false_iff] at clear
      rcases List.infix_cons_iff.mp occurs with here | later
      · cases clear.1.symm.trans (canStart_of_begins (.char d rest) here)
      · exact ih later clear.2
  | many within rest ih =>
      rw [canTouch, Bool.or_eq_false_iff] at clear
      rcases infix_append_cases occurs with ⟨part, suffix, starts⟩ | later
      · cases clear.1.symm.trans (canStart_many_of_suffix within rest suffix starts)
      · exact ih later clear.2
  | led leads within rest ih =>
      rw [canTouch, Bool.or_eq_false_iff, Bool.or_eq_false_iff] at clear
      rcases List.infix_cons_iff.mp occurs with here | inside
      · cases clear.1.symm.trans (canStart_of_begins (.led leads within rest) here)
      · rcases infix_append_cases inside with ⟨part, suffix, starts⟩ | later
        · cases clear.2.1.symm.trans (canStart_many_of_suffix within rest suffix starts)
        · exact ih later clear.2.2
  | free text rest ih =>
      rw [canTouch, Bool.or_eq_false_iff] at clear
      rcases List.infix_append_iff_ne_nil.mp occurs with
        inside | later | ⟨front, back, some, more, split, _, starts⟩
      · exact ⟨text, List.mem_cons_self, inside⟩
      · obtain ⟨found, member, inside⟩ := ih later clear.2
        exact ⟨found, List.mem_cons_of_mem text member, inside⟩
      · -- The pattern would start in the free text and end behind it.
        have suffix : back ∈ pattern.tail.tails := by
          rw [List.mem_tails, split, List.tail_append_of_ne_nil some]
          exact List.suffix_append front.tail back
        have quiet := (List.any_eq_false.mp clear.1) back suffix
        rw [canStart_of_begins rest starts, Bool.and_true, Bool.not_eq_true'] at quiet
        exact absurd (List.isEmpty_eq_false_iff.mpr more) quiet

theorem quoted_eq_nil (closed : hasFree cells = false) : quoted cells texts = [] := by
  induction cells generalizing texts with
  | nil => cases texts <;> rfl
  | cons cell cells ih =>
      cases cell with
      | char c => exact ih closed
      | free => cases closed
      | _ =>
          cases texts with
          | nil => rfl
          | cons text texts => exact ih closed

theorem quoted_occurs (filled : Filled cells texts out) {text : List Char}
    (member : text ∈ quoted cells texts) : text <:+: out := by
  induction filled with
  | nil => cases member
  | char d _ ih => exact List.infix_cons (ih member)
  | many _ _ ih => exact (ih member).trans (List.suffix_append _ _).isInfix
  | led _ _ _ ih => exact List.infix_cons ((ih member).trans (List.suffix_append _ _).isInfix)
  | free free _ ih =>
      rcases List.mem_cons.mp member with rfl | later
      · exact (List.prefix_append _ _).isInfix
      · exact (ih later).trans (List.suffix_append free _).isInfix

theorem occurs_of_mustOccur (filled : Filled cells texts out)
    (must : mustOccur pattern cells = true) : pattern <:+: out := by
  induction filled with
  | nil => exact (List.isEmpty_iff.mp must) ▸ List.nil_infix
  | char d rest ih =>
      rcases Bool.or_eq_true_iff.mp must with starts | later
      · exact (prefix_of_mustStart (.char d rest) starts).isInfix
      · exact List.infix_cons (ih later)
  | many within rest ih =>
      rcases Bool.or_eq_true_iff.mp must with starts | later
      · exact (prefix_of_mustStart (.many within rest) starts).isInfix
      · exact (ih later).trans (List.suffix_append _ _).isInfix
  | led leads within rest ih =>
      rcases Bool.or_eq_true_iff.mp must with starts | later
      · exact (prefix_of_mustStart (.led leads within rest) starts).isInfix
      · exact List.infix_cons ((ih later).trans (List.suffix_append _ _).isInfix)
  | free text rest ih =>
      rcases Bool.or_eq_true_iff.mp must with starts | later
      · exact (prefix_of_mustStart (.free text rest) starts).isInfix
      · exact (ih later).trans (List.suffix_append _ _).isInfix

/-- Where a pattern occurs that the fixed parts do not hold. -/
theorem occurs_iff_quoted (filled : Filled cells texts out) (proper : pattern ≠ [])
    (clear : canTouch pattern cells = false) :
    pattern <:+: out ↔ ∃ text ∈ quoted cells texts, pattern <:+: text := by
  constructor
  · intro occurs
    exact occurs_quoted filled occurs proper clear
  · rintro ⟨text, member, inside⟩
    exact inside.trans (quoted_occurs filled member)

end Format

end UcoStack
