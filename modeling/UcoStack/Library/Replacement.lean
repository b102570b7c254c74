import Mathlib.Data.List.Infix

/-!
# Global replacement of a pattern

`Replaces` relates a list to the result of replacing a pattern from left to
right.  A pattern is a token of a mark if the mark stands at its beginning and
nowhere else in it: occurrences of two tokens do not overlap, so replacing one of
them leaves the other in place.
-/

namespace UcoStack

variable {α : Type}

/-- Scan from left to right and replace every occurrence found. -/
inductive Replaces (pattern replacement : List α) : List α → List α → Prop where
  | nil : Replaces pattern replacement [] []
  | found {rest out : List α} (later : Replaces pattern replacement rest out) :
      Replaces pattern replacement (pattern ++ rest) (replacement ++ out)
  | keep {x : α} {rest out : List α} (absent : ¬pattern <+: x :: rest)
      (later : Replaces pattern replacement rest out) :
      Replaces pattern replacement (x :: rest) (x :: out)

/-- The mark stands at the beginning and nowhere else. -/
def TokenOf (mark : α) (token : List α) : Prop := ∃ name, token = mark :: name ∧ mark ∉ name

theorem TokenOf.ne_nil {mark : α} {token : List α} (isToken : TokenOf mark token) :
    token ≠ [] := by
  obtain ⟨name, rfl, -⟩ := isToken
  exact List.cons_ne_nil mark name

/-- What begins with an element that a part does not have begins behind the part. -/
theorem infix_of_infix_append {x : α} {part front back : List α} (free : x ∉ front)
    (occurs : x :: part <:+: front ++ back) : x :: part <:+: back := by
  induction front with
  | nil => exact occurs
  | cons y front ih =>
      rcases List.infix_cons_iff.mp occurs with starts | inside
      · have same := (List.cons_prefix_cons.mp starts).1
        exact absurd (same ▸ List.mem_cons_self) free
      · exact ih (fun member => free (List.mem_cons_of_mem y member)) inside

/-- In a list with one mark, at its beginning, a token occurs only there. -/
theorem TokenOf.infix_iff_begins {mark : α} {token body : List α} (isToken : TokenOf mark token)
    (free : mark ∉ body) : token <:+: mark :: body ↔ token <+: mark :: body := by
  refine ⟨fun occurs => ?_, List.IsPrefix.isInfix⟩
  rcases List.infix_cons_iff.mp occurs with starts | inside
  · exact starts
  · obtain ⟨name, rfl, -⟩ := isToken
    exact absurd (inside.subset List.mem_cons_self) free

namespace Replaces

variable {pattern replacement text out : List α}

theorem unique {other : List α} (nonempty : pattern ≠ [])
    (replaces : Replaces pattern replacement text out)
    (again : Replaces pattern replacement text other) : other = out := by
  induction replaces generalizing other with
  | nil =>
      generalize empty : ([] : List α) = text at again
      cases again with
      | nil => rfl
      | found later => exact absurd (List.append_eq_nil_iff.mp empty.symm).1 nonempty
      | keep absent later => cases empty
  | @found rest out later ih =>
      generalize same : pattern ++ rest = text at again
      cases again with
      | nil => exact absurd (List.append_eq_nil_iff.mp same).1 nonempty
      | found further =>
          cases List.append_cancel_left same
          rw [ih further]
      | keep absent further => exact absurd ⟨rest, same⟩ absent
  | @keep x rest out absent later ih =>
      generalize same : x :: rest = text at again
      cases again with
      | nil => cases same
      | found further => exact absurd ⟨_, same.symm⟩ absent
      | keep _ further =>
          cases same
          rw [ih further]

/-- Without an occurrence nothing changes. -/
theorem of_absent (absent : ¬pattern <:+: text) : Replaces pattern replacement text text := by
  induction text with
  | nil => exact .nil
  | cons x rest ih =>
      exact .keep (fun starts => absent starts.isInfix)
        (ih fun inside => absent (inside.trans (List.suffix_cons x rest).isInfix))

/-- An occurrence leaves the replacement behind. -/
theorem replacement_infix (nonempty : pattern ≠ [])
    (replaces : Replaces pattern replacement text out) (occurs : pattern <:+: text) :
    replacement <:+: out := by
  induction replaces with
  | nil => exact absurd (List.infix_nil.mp occurs) nonempty
  | found later ih => exact (List.prefix_append _ _).isInfix
  | keep absent later ih =>
      rcases List.infix_cons_iff.mp occurs with starts | inside
      · exact absurd starts absent
      · exact (ih inside).trans (List.suffix_cons _ _).isInfix

/-- The front of a list up to the next mark is not touched. -/
theorem prefix_survives {mark : α} {front : List α} (isToken : TokenOf mark pattern)
    (replaces : Replaces pattern replacement text out) (free : mark ∉ front)
    (starts : front <+: text) : front <+: out := by
  induction replaces generalizing front with
  | nil => exact starts
  | found later ih =>
      obtain ⟨name, rfl, -⟩ := isToken
      cases front with
      | nil => exact List.nil_prefix
      | cons y front =>
          have same := (List.cons_prefix_cons.mp starts).1
          exact absurd (same ▸ List.mem_cons_self) free
  | keep absent later ih =>
      cases front with
      | nil => exact List.nil_prefix
      | cons y front =>
          obtain ⟨same, rest⟩ := List.cons_prefix_cons.mp starts
          have others : mark ∉ front := fun member => free (List.mem_cons_of_mem y member)
          exact List.cons_prefix_cons.mpr ⟨same, ih others rest⟩

/-- Another token of the mark survives, since it cannot overlap with the pattern. -/
theorem token_survives {mark : α} {token : List α} (isPattern : TokenOf mark pattern)
    (isToken : TokenOf mark token) (longer : ¬pattern <+: token) (shorter : ¬token <+: pattern)
    (replaces : Replaces pattern replacement text out) (occurs : token <:+: text) :
    token <:+: out := by
  induction replaces with
  | nil => exact occurs
  | @found rest out later ih =>
      have apart : ¬token <+: pattern ++ rest := by
        intro starts
        rcases List.prefix_or_prefix_of_prefix starts (List.prefix_append pattern rest) with
          short | long
        · exact shorter short
        · exact longer long
      obtain ⟨name, rfl, free⟩ := isPattern
      rcases List.infix_cons_iff.mp occurs with starts | inside
      · exact absurd starts apart
      · obtain ⟨other, rfl, -⟩ := isToken
        exact (ih (infix_of_infix_append free inside)).trans (List.suffix_append _ _).isInfix
  | @keep x rest out absent later ih =>
      rcases List.infix_cons_iff.mp occurs with starts | inside
      · obtain ⟨name, rfl, free⟩ := isToken
        obtain ⟨same, front⟩ := List.cons_prefix_cons.mp starts
        exact (List.cons_prefix_cons.mpr
          ⟨same, prefix_survives isPattern later free front⟩).isInfix
      · exact (ih inside).trans (List.suffix_cons _ _).isInfix

/-! ## Lengths -/

theorem length_le (shorter : replacement.length ≤ pattern.length)
    (replaces : Replaces pattern replacement text out) : out.length ≤ text.length := by
  induction replaces with
  | nil => exact le_refl _
  | found later ih =>
      rw [List.length_append, List.length_append]
      omega
  | keep absent later ih => exact Nat.succ_le_succ ih

theorem length_lt (nonempty : pattern ≠ []) (shorter : replacement.length < pattern.length)
    (replaces : Replaces pattern replacement text out) (occurs : pattern <:+: text) :
    out.length < text.length := by
  induction replaces with
  | nil => exact absurd (List.infix_nil.mp occurs) nonempty
  | found later ih =>
      have rest := later.length_le (Nat.le_of_lt shorter)
      rw [List.length_append, List.length_append]
      omega
  | keep absent later ih =>
      rcases List.infix_cons_iff.mp occurs with starts | inside
      · exact absurd starts absent
      · exact Nat.succ_lt_succ (ih inside)

/-! ## Replacements made of foreign elements -/

/-- What is in the result and has nothing in common with the replacement was there. -/
theorem prefix_original {front : List α} (filled : replacement ≠ [])
    (foreign : ∀ x ∈ front, x ∉ replacement) (replaces : Replaces pattern replacement text out)
    (starts : front <+: out) : front <+: text := by
  induction replaces generalizing front with
  | nil => exact starts
  | found later ih =>
      obtain ⟨y, replacement, rfl⟩ := List.exists_cons_of_ne_nil filled
      cases front with
      | nil => exact List.nil_prefix
      | cons x front =>
          have same := (List.cons_prefix_cons.mp starts).1
          exact absurd (same ▸ List.mem_cons_self) (foreign x List.mem_cons_self)
  | keep absent later ih =>
      cases front with
      | nil => exact List.nil_prefix
      | cons x front =>
          obtain ⟨same, rest⟩ := List.cons_prefix_cons.mp starts
          have others : ∀ z ∈ front, z ∉ replacement := fun z member =>
            foreign z (List.mem_cons_of_mem x member)
          exact List.cons_prefix_cons.mpr ⟨same, ih others rest⟩

theorem infix_original {part : List α} (nonempty : part ≠ []) (filled : replacement ≠ [])
    (foreign : ∀ x ∈ part, x ∉ replacement) (replaces : Replaces pattern replacement text out)
    (occurs : part <:+: out) : part <:+: text := by
  induction replaces with
  | nil => exact occurs
  | found later ih =>
      obtain ⟨x, part, rfl⟩ := List.exists_cons_of_ne_nil nonempty
      have behind := infix_of_infix_append (foreign x List.mem_cons_self) occurs
      exact (ih behind).trans (List.suffix_append _ _).isInfix
  | keep absent later ih =>
      rcases List.infix_cons_iff.mp occurs with starts | inside
      · exact (prefix_original filled foreign (.keep absent later) starts).isInfix
      · exact (ih inside).trans (List.suffix_cons _ _).isInfix

end Replaces

end UcoStack
