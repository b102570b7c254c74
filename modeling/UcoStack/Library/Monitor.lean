import Mathlib.Data.List.Induction
import Mathlib.Data.List.Nodup

/-!
# One-pass monitors

A monitor reads a list once and keeps a state.  It is correct when its state
represents the elements read so far and its verdict on the next element is a
condition on that element and the ones before it; then its verdict on the whole
list says that the condition holds at every position.
-/

namespace UcoStack

variable {σ α : Type}

/-- `Ok` holds of every element of the list and the elements before it. -/
def EveryPosition (Ok : List α → α → Prop) (xs : List α) : Prop :=
  ∀ past x later, xs = past ++ x :: later → Ok past x

namespace EveryPosition

variable {Ok : List α → α → Prop}

theorem nil : EveryPosition Ok [] := by
  intro past x later split
  simp at split

theorem snoc {xs : List α} {x : α} :
    EveryPosition Ok (xs ++ [x]) ↔ EveryPosition Ok xs ∧ Ok xs x := by
  constructor
  · intro every
    refine ⟨fun past y later split => every past y (later ++ [x]) ?_, every xs x [] rfl⟩
    rw [split, List.append_assoc, List.cons_append]
  · rintro ⟨every, last⟩ past y later split
    rcases List.eq_nil_or_concat later with rfl | ⟨before, z, rfl⟩
    · obtain ⟨rfl, same⟩ := List.append_inj' split rfl
      cases same
      exact last
    · have longer : xs ++ [x] = (past ++ y :: before) ++ [z] := by
        rw [split, List.append_assoc, List.cons_append, List.concat_eq_append]
      exact every past y before (List.append_inj' longer rfl).1

/-- The elements of the second list come after those of the first. -/
theorem append {xs ys : List α} :
    EveryPosition Ok (xs ++ ys) ↔
      EveryPosition Ok xs ∧ EveryPosition (fun past => Ok (xs ++ past)) ys := by
  induction ys using List.reverseRecOn with
  | nil => simp [nil]
  | append_singleton before last ih => rw [← List.append_assoc, snoc, snoc, ih, and_assoc]

/-- Elements that are in order after anything may follow. -/
theorem append_of_forall {xs ys : List α} (every : EveryPosition Ok xs)
    (always : ∀ y ∈ ys, ∀ past, Ok past y) : EveryPosition Ok (xs ++ ys) := by
  induction ys using List.reverseRecOn with
  | nil => rwa [List.append_nil]
  | append_singleton before last ih =>
      rw [← List.append_assoc, snoc]
      constructor
      · exact ih fun y member => always y (List.mem_append_left _ member)
      · exact always last (List.mem_append_right _ List.mem_cons_self) _

theorem mono {Other : List α → α → Prop} {xs : List α} (every : EveryPosition Ok xs)
    (weaker : ∀ past x later, xs = past ++ x :: later → Ok past x → Other past x) :
    EveryPosition Other xs :=
  fun past x later split => weaker past x later split (every past x later split)

theorem and {Other : List α → α → Prop} {xs : List α} :
    EveryPosition (fun past x => Ok past x ∧ Other past x) xs ↔
      EveryPosition Ok xs ∧ EveryPosition Other xs := by
  constructor
  · intro every
    exact ⟨fun past x later split => (every past x later split).1,
      fun past x later split => (every past x later split).2⟩
  · rintro ⟨every, other⟩ past x later split
    exact ⟨every past x later split, other past x later split⟩

/-- A condition that only sees the images under `f`. -/
theorem map {β : Type} {f : β → α} {xs : List β} :
    EveryPosition (fun past x => Ok (past.map f) (f x)) xs ↔ EveryPosition Ok (xs.map f) := by
  induction xs using List.reverseRecOn with
  | nil => exact ⟨fun _ => .nil, fun _ => .nil⟩
  | append_singleton past x ih =>
      rw [List.map_append, List.map_singleton, snoc, snoc, ih]

theorem iff_getElem? {xs : List α} :
    EveryPosition Ok xs ↔ ∀ (i : Nat) (x : α), xs[i]? = some x → Ok (xs.take i) x := by
  constructor
  · intro every i x found
    obtain ⟨inside, rfl⟩ := List.getElem?_eq_some_iff.mp found
    apply every (xs.take i) xs[i] (xs.drop (i + 1))
    rw [List.getElem_cons_drop, List.take_append_drop]
  · intro every past x later split
    have found : xs[past.length]? = some x := by simp [split]
    have taken : xs.take past.length = past := by simp [split]
    exact taken ▸ every past.length x found

/-- A condition on the elements alone. -/
theorem forall_iff {Each : α → Prop} {xs : List α} :
    EveryPosition (fun _ x => Each x) xs ↔ ∀ x ∈ xs, Each x := by
  constructor
  · intro every x member
    obtain ⟨past, later, split⟩ := List.append_of_mem member
    exact every past x later split
  · intro every past x later split
    apply every x
    rw [split]
    exact List.mem_append_right past List.mem_cons_self

/-- Keys that are new at every position are pairwise distinct. -/
theorem nodup_iff {β : Type} {key : α → Option β} {xs : List α} :
    EveryPosition (fun past x => ∀ k, key x = some k → k ∉ past.filterMap key) xs ↔
      (xs.filterMap key).Nodup := by
  induction xs using List.reverseRecOn with
  | nil => exact ⟨fun _ => List.nodup_nil, fun _ => .nil⟩
  | append_singleton past x ih =>
      rw [snoc, ih, List.filterMap_append]
      cases has : key x with
      | none => simp [has]
      | some k =>
          simp only [List.filterMap_cons, List.filterMap_nil, has, List.nodup_append,
            List.nodup_singleton, true_and, Option.some.injEq, forall_eq', List.mem_singleton]
          refine and_congr_right fun _ => ⟨?_, ?_⟩
          · rintro fresh left member right rfl rfl
            exact fresh member
          · intro apart member
            exact apart k member k rfl rfl

theorem nodup_map_iff {β : Type} {key : α → β} {xs : List α} :
    EveryPosition (fun past x => key x ∉ past.map key) xs ↔ (xs.map key).Nodup := by
  have some := @nodup_iff α β (fun x => some (key x)) xs
  simpa using some

end EveryPosition

/-- The last marked element, and nothing marked behind it. -/
theorem exists_last_mark {β : Type} {mark : α → Option β} {xs : List α} {b : β}
    (last : (xs.filterMap mark).getLast? = some b) :
    ∃ front x back, xs = front ++ x :: back ∧ mark x = some b ∧ ∀ y ∈ back, mark y = none := by
  induction xs using List.reverseRecOn with
  | nil => cases last
  | append_singleton past x ih =>
      rw [List.filterMap_append] at last
      cases marked : mark x with
      | none =>
          rw [List.filterMap_cons_none marked, List.filterMap_nil, List.append_nil] at last
          obtain ⟨front, y, back, split, here, unmarked⟩ := ih last
          refine ⟨front, y, back ++ [x], ?_, here, fun z member => ?_⟩
          · rw [split, List.append_assoc, List.cons_append]
          · rcases List.mem_append.mp member with inside | final
            · exact unmarked z inside
            · rw [List.mem_singleton.mp final]
              exact marked
      | some c =>
          rw [List.filterMap_cons_some marked, List.filterMap_nil, List.getLast?_concat] at last
          exact ⟨past, x, [], rfl, marked.trans last, fun y member => by cases member⟩

/-- The verdict of `step` on the next element is `Ok`, and its state represents
what it read. -/
structure Monitors (step : σ → α → σ) (Clean : σ → Prop) (Rep : List α → σ → Prop)
    (Ok : List α → α → Prop) : Prop where
  keeps : ∀ s x, Clean (step s x) → Clean s
  verdict : ∀ past s x, Clean s → Rep past s → (Clean (step s x) ↔ Ok past x)
  represents : ∀ past s x, Clean (step s x) → Rep past s → Rep (past ++ [x]) (step s x)

theorem Monitors.foldl_keeps {step : σ → α → σ} {Clean : σ → Prop} {Rep : List α → σ → Prop}
    {Ok : List α → α → Prop} (monitors : Monitors step Clean Rep Ok) {start : σ} {xs : List α}
    (clean : Clean (xs.foldl step start)) : Clean start := by
  induction xs generalizing start with
  | nil => exact clean
  | cons x rest ih => exact monitors.keeps start x (ih clean)

/-- The run lemma: the verdict and the state after the whole list. -/
theorem Monitors.foldl_iff {step : σ → α → σ} {Clean : σ → Prop} {Rep : List α → σ → Prop}
    {Ok : List α → α → Prop} (monitors : Monitors step Clean Rep Ok) {start : σ}
    (clean : Clean start) (rep : Rep [] start) (xs : List α) :
    (Clean (xs.foldl step start) ↔ EveryPosition Ok xs) ∧
      (Clean (xs.foldl step start) → Rep xs (xs.foldl step start)) := by
  induction xs using List.reverseRecOn with
  | nil => exact ⟨⟨fun _ => .nil, fun _ => clean⟩, fun _ => rep⟩
  | append_singleton past x ih =>
      obtain ⟨verdict, represents⟩ := ih
      rw [List.foldl_append, EveryPosition.snoc]
      constructor
      · constructor
        · intro after
          have before := monitors.keeps _ _ after
          exact ⟨verdict.mp before, (monitors.verdict past _ x before (represents before)).mp after⟩
        · rintro ⟨every, last⟩
          have before := verdict.mpr every
          exact (monitors.verdict past _ x before (represents before)).mpr last
      · intro after
        exact monitors.represents past _ x after (represents (monitors.keeps _ _ after))

/-! ## Monitors that read in different orders -/

/-- Two states with the same verdict, and the same state when it is good. -/
structure Agree (Clean : σ → Prop) (left right : σ) : Prop where
  verdict : Clean left ↔ Clean right
  same : Clean left → left = right

namespace Agree

variable {Clean : σ → Prop} {left right : σ}

theorem refl (s : σ) : Agree Clean s s := ⟨Iff.rfl, fun _ => rfl⟩

/-- Steps that keep agreement, over one list. -/
theorem foldl {step other : σ → α → σ}
    (keeps : ∀ s x, Clean (step s x) → Clean s) (otherKeeps : ∀ s x, Clean (other s x) → Clean s)
    (agrees : ∀ s x, Agree Clean (step s x) (other s x)) (start : Agree Clean left right)
    (xs : List α) : Agree Clean (xs.foldl step left) (xs.foldl other right) := by
  induction xs generalizing left right with
  | nil => exact start
  | cons x rest ih =>
      apply ih
      constructor
      · constructor
        · intro clean
          rw [← start.same (keeps left x clean)]
          exact (agrees left x).verdict.mp clean
        · intro clean
          have before := start.same (start.verdict.mpr (otherKeeps right x clean))
          rw [← before] at clean
          exact (agrees left x).verdict.mpr clean
      · intro clean
        rw [← start.same (keeps left x clean)]
        exact (agrees left x).same clean

/-- A monitor that judges each element alone, and whose state does not depend on the
order of the elements, may read them in any order. -/
theorem foldl_perm {step : σ → α → σ} {Rep : σ → List α → σ → Prop} {Each : α → Prop}
    (monitors : ∀ start, Monitors step Clean (Rep start) fun _ x => Each x)
    (initial : ∀ start, Rep start [] start)
    (unordered : ∀ {start xs ys s t}, xs.Perm ys → Rep start xs s → Rep start ys t → s = t)
    (start : Agree Clean left right) {xs ys : List α} (perm : xs.Perm ys) :
    Agree Clean (xs.foldl step left) (ys.foldl step right) := by
  by_cases clean : Clean left
  · obtain rfl := start.same clean
    obtain ⟨verdict, rep⟩ := (monitors left).foldl_iff clean (initial left) xs
    obtain ⟨otherVerdict, otherRep⟩ := (monitors left).foldl_iff clean (initial left) ys
    rw [EveryPosition.forall_iff] at verdict otherVerdict
    have verdicts : Clean (xs.foldl step left) ↔ Clean (ys.foldl step left) := by
      rw [verdict, otherVerdict]
      exact forall_congr' fun x => imp_congr_left perm.mem_iff
    exact ⟨verdicts, fun after => unordered perm (rep after) (otherRep (verdicts.mp after))⟩
  · have never : ¬Clean (xs.foldl step left) := fun after =>
      clean ((monitors left).foldl_keeps after)
    have neither : ¬Clean (ys.foldl step right) := fun after =>
      clean (start.verdict.mpr ((monitors right).foldl_keeps after))
    exact ⟨iff_of_false never neither, fun after => absurd after never⟩

end Agree

end UcoStack
