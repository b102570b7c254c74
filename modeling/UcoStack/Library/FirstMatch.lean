import Mathlib.Data.List.Basic

/-!
# The first match of a list

A list of rules is tried in order, with a test that may fail, and the first rule
that matches gives the value.  Two tests that agree on every rule which both reach
select the same value.
-/

namespace UcoStack

variable {α β ε : Type}

/-- The value of the first match, the error of a test before it, or the fallback. -/
inductive FirstMatch (test : α → Except ε Bool) (value : α → β) (fallback : β) :
    List α → Except ε β → Prop where
  | none : FirstMatch test value fallback [] (.ok fallback)
  | hit {x : α} {rest : List α} (here : test x = .ok true) :
      FirstMatch test value fallback (x :: rest) (.ok (value x))
  | miss {x : α} {rest : List α} {out : Except ε β} (here : test x = .ok false)
      (later : FirstMatch test value fallback rest out) :
      FirstMatch test value fallback (x :: rest) out
  | fail {x : α} {rest : List α} {error : ε} (here : test x = .error error) :
      FirstMatch test value fallback (x :: rest) (.error error)

variable {value : α → β} {fallback : β}

namespace FirstMatch

variable {test left right : α → Except ε Bool} {rules : List α}

theorem of_miss {x : α} {out : Except ε β}
    (found : FirstMatch test value fallback (x :: rules) out) (here : test x = .ok false) :
    FirstMatch test value fallback rules out := by
  cases found with
  | hit there => cases here.symm.trans there
  | miss _ later => exact later
  | fail there => cases here.symm.trans there

/-- Rules that do not match do not matter. -/
theorem skip {front : List α} {out : Except ε β} (missed : ∀ x ∈ front, test x = .ok false)
    (found : FirstMatch test value fallback (front ++ rules) out) :
    FirstMatch test value fallback rules out := by
  induction front with
  | nil => exact found
  | cons x front ih =>
      have later := found.of_miss (missed x List.mem_cons_self)
      exact ih (fun y member => missed y (List.mem_cons_of_mem x member)) later

/-- A value that is found belongs to a rule, or it is the fallback. -/
theorem mem {b : β} (found : FirstMatch test value fallback rules (.ok b)) :
    b = fallback ∨ ∃ x ∈ rules, b = value x := by
  generalize result : (Except.ok b : Except ε β) = out at found
  induction found with
  | none => exact .inl (Except.ok.inj result)
  | hit here => exact .inr ⟨_, List.mem_cons_self, Except.ok.inj result⟩
  | miss here later ih =>
      refine (ih result).imp_right ?_
      rintro ⟨x, member, same⟩
      exact ⟨x, List.mem_cons_of_mem _ member, same⟩
  | fail here => cases result

/-- Where the rule that is reached matches, its value is found. -/
theorem eq_value {x : α} {out : Except ε β}
    (found : FirstMatch test value fallback (x :: rules) out) (here : test x = .ok true) :
    out = .ok (value x) := by
  cases found with
  | hit _ => rfl
  | miss there _ => cases here.symm.trans there
  | fail there => cases here.symm.trans there

/-- Two tests that agree on every rule which both reach select the same value. -/
theorem eq_of_tests {out out' : Except ε β}
    (agree : ∀ front x back, rules = front ++ x :: back →
      (∀ y ∈ front, left y = .ok false ∧ right y = .ok false) → left x = right x)
    (found : FirstMatch left value fallback rules out)
    (found' : FirstMatch right value fallback rules out') : out = out' := by
  induction rules with
  | nil =>
      cases found
      cases found'
      rfl
  | cons x rest ih =>
      have same := agree [] x rest rfl fun y member => absurd member List.not_mem_nil
      cases found with
      | hit here => exact (found'.eq_value (same.symm.trans here)).symm
      | miss here later =>
          have there := same.symm.trans here
          refine ih (fun front y back split missed => ?_) later (found'.of_miss there)
          refine agree (x :: front) y back (congrArg (x :: ·) split) fun z member => ?_
          rcases List.mem_cons.mp member with rfl | inside
          · exact ⟨here, there⟩
          · exact missed z inside
      | fail here =>
          cases found' with
          | hit there => cases here.symm.trans (same.trans there)
          | miss there _ => cases here.symm.trans (same.trans there)
          | fail there =>
              cases here.symm.trans (same.trans there)
              rfl

end FirstMatch

/-! ## Tests that do not fail -/

/-- The value of the first element that passes the test, or the fallback. -/
def firstHit (test : α → Bool) (value : α → β) (fallback : β) : List α → β
  | [] => fallback
  | x :: rest => if test x = true then value x else firstHit test value fallback rest

theorem firstHit_mem (test : α → Bool) (value : α → β) (fallback : β) (xs : List α) :
    firstHit test value fallback xs ∈ fallback :: xs.map value := by
  induction xs with
  | nil => exact List.mem_cons_self
  | cons x rest ih =>
      rw [firstHit]
      split
      · exact List.mem_cons_of_mem fallback List.mem_cons_self
      · rcases List.mem_cons.mp ih with same | later
        · rw [same]
          exact List.mem_cons_self
        · exact List.mem_cons_of_mem fallback (List.mem_cons_of_mem (value x) later)

/-- Where the values differ, an element gives the result when it passes the test and no
element before it does. -/
theorem firstHit_eq_iff [DecidableEq β] {test : α → Bool} {xs : List α}
    (distinct : (fallback :: xs.map value).Nodup) {x : α} (member : x ∈ xs) :
    firstHit test value fallback xs = value x ↔
      test x = true ∧ ∀ y ∈ xs.takeWhile (fun y => value y ≠ value x), test y = false := by
  induction xs with
  | nil => cases member
  | cons y rest ih =>
      rw [List.map_cons, List.nodup_cons, List.nodup_cons] at distinct
      obtain ⟨proper, fresh, later⟩ := distinct
      have smaller : (fallback :: rest.map value).Nodup :=
        List.nodup_cons.mpr ⟨fun found => proper (List.mem_cons_of_mem _ found), later⟩
      rw [firstHit]
      rcases List.mem_cons.mp member with rfl | inside
      · rw [List.takeWhile_cons_of_neg (by simp)]
        by_cases hit : test x = true
        · simp [hit]
        · have other : firstHit test value fallback rest ≠ value x := fun same => by
            rcases List.mem_cons.mp (same ▸ firstHit_mem test value fallback rest) with
              atEnd | again
            · exact proper (atEnd ▸ List.mem_cons_self)
            · exact fresh again
          simp [hit, other]
      · have differs : value y ≠ value x := fun same =>
          fresh (same ▸ List.mem_map_of_mem inside)
        rw [List.takeWhile_cons_of_pos (by simpa using differs)]
        by_cases hit : test y = true
        · simp [hit, differs]
        · rw [if_neg hit, ih smaller inside, List.forall_mem_cons]
          simp [hit]

end UcoStack
