import Mathlib.Data.List.Basic

/-!
# Records on lines

A file or a stream that holds one record a line.  The writer ends every record with a
line end; the reader takes one line after the other, stops at the end of the input and
gives up at a line that is no record.  An input that was cut off anywhere is still read
as far as its records are whole.
-/

namespace UcoStack

/-! ## Lines -/

section Lines

variable {α : Type} [DecidableEq α] (sep : α)

/-- The input up to its first line end, which is part of the line, and the rest. -/
def readLine : List α → List α × List α
  | [] => ([], [])
  | a :: rest =>
      if a = sep then ([a], rest) else (a :: (readLine rest).1, (readLine rest).2)

theorem readLine_line {body : List α} (oneLine : sep ∉ body) (rest : List α) :
    readLine sep (body ++ sep :: rest) = (body ++ [sep], rest) := by
  induction body with
  | nil =>
      rw [List.nil_append, readLine, if_pos rfl]
      rfl
  | cons a body ih =>
      obtain ⟨other, later⟩ := not_or.mp (mt List.mem_cons.mpr oneLine)
      rw [List.cons_append, readLine, if_neg (Ne.symm other), ih later]
      rfl

/-- The last line of an input may lack its line end. -/
theorem readLine_last {body : List α} (oneLine : sep ∉ body) : readLine sep body = (body, []) := by
  induction body with
  | nil => rfl
  | cons a body ih =>
      obtain ⟨other, later⟩ := not_or.mp (mt List.mem_cons.mpr oneLine)
      rw [readLine, if_neg (Ne.symm other), ih later]

theorem readLine_shorter {input : List α} (nonempty : input ≠ []) :
    (readLine sep input).2.length < input.length := by
  induction input with
  | nil => exact absurd rfl nonempty
  | cons a rest ih =>
      rw [readLine]
      split
      · exact Nat.lt_succ_self _
      · cases rest with
        | nil => exact Nat.zero_lt_one
        | cons b rest => exact Nat.lt_succ_of_lt (ih (List.cons_ne_nil b rest))

end Lines

/-! ## Formats -/

/-- How a record is written on a line, without the line end, and how a line is read. -/
structure LineFormat (α X : Type) where
  sep : α
  encode : X → List α
  decode : List α → Option X

namespace LineFormat

variable {α X : Type} (format : LineFormat α X)

/-- The record fits on a line, is read back from it, and from no part of it. -/
structure Safe (x : X) : Prop where
  oneLine : format.sep ∉ format.encode x
  nonempty : format.encode x ≠ []
  line : format.decode (format.encode x ++ [format.sep]) = some x
  bare : format.decode (format.encode x) = some x
  torn : ∀ part, part <+: format.encode x → part ≠ format.encode x → format.decode part = none

def write (x : X) : List α := format.encode x ++ [format.sep]

def writeAll (xs : List X) : List α := xs.flatMap format.write

variable {format} {x : X} {xs : List X}

theorem writeAll_append (xs ys : List X) :
    format.writeAll (xs ++ ys) = format.writeAll xs ++ format.writeAll ys :=
  List.flatMap_append

/-- A part of a file ends in the middle of a record or between two of them. -/
theorem cut_writeAll {part : List α} (cut : part <+: format.writeAll xs) :
    ∃ before after torn, xs = before ++ after ∧ part = format.writeAll before ++ torn ∧
      (torn = [] ∨ ∃ x, after.head? = some x ∧ torn ≠ [] ∧ torn <+: format.encode x) := by
  induction xs generalizing part with
  | nil =>
      cases List.prefix_nil.mp cut
      exact ⟨[], [], [], rfl, rfl, .inl rfl⟩
  | cons x xs ih =>
      obtain ⟨rest, whole⟩ := cut
      rw [writeAll, List.flatMap_cons] at whole
      rcases List.append_eq_append_iff.mp whole with ⟨more, here, -⟩ | ⟨more, rfl, later⟩
      · rcases List.prefix_concat_iff.mp ⟨more, here.symm⟩ with rfl | inside
        · refine ⟨[x], xs, [], rfl, ?_, .inl rfl⟩
          rw [writeAll, List.flatMap_cons, List.flatMap_nil, List.append_nil, List.append_nil]
          rfl
        · by_cases nothing : part = []
          · exact ⟨[], x :: xs, [], rfl, nothing, .inl rfl⟩
          · exact ⟨[], x :: xs, part, rfl, rfl, .inr ⟨x, rfl, nothing, inside⟩⟩
      · obtain ⟨before, after, torn, rfl, rfl, ends⟩ := ih ⟨rest, later.symm⟩
        refine ⟨x :: before, after, torn, rfl, ?_, ends⟩
        rw [writeAll, writeAll, List.flatMap_cons, List.append_assoc]

variable [DecidableEq α]

variable (format) in
/-- The records of the input up to a line that is none, and the input from this line on;
nothing is left of it where every line is a record. -/
def readAll (input : List α) : List X × List α :=
  if _ : input = [] then ([], [])
  else
    match format.decode (readLine format.sep input).1 with
    | none => ([], input)
    | some x =>
        let later := readAll (readLine format.sep input).2
        (x :: later.1, later.2)
termination_by input.length
decreasing_by exact readLine_shorter format.sep ‹_›

@[simp] theorem readAll_nil : format.readAll [] = ([], []) := by
  rw [readAll, dif_pos rfl]

theorem readAll_of_decode {input line rest : List α} (nonempty : input ≠ [])
    (split : readLine format.sep input = (line, rest)) (decoded : format.decode line = some x) :
    format.readAll input = (x :: (format.readAll rest).1, (format.readAll rest).2) := by
  rw [readAll, dif_neg nonempty, split]
  dsimp only
  rw [decoded]

theorem readAll_broken {input line rest : List α} (nonempty : input ≠ [])
    (split : readLine format.sep input = (line, rest)) (failed : format.decode line = none) :
    format.readAll input = ([], input) := by
  rw [readAll, dif_neg nonempty, split]
  dsimp only
  rw [failed]

theorem readAll_write (safe : format.Safe x) (rest : List α) :
    format.readAll (format.write x ++ rest) =
      (x :: (format.readAll rest).1, (format.readAll rest).2) := by
  have whole : format.write x ++ rest = format.encode x ++ format.sep :: rest := by
    rw [write, List.append_assoc]
    rfl
  rw [whole]
  apply readAll_of_decode _ (readLine_line format.sep safe.oneLine rest) safe.line
  exact List.append_ne_nil_of_right_ne_nil _ (List.cons_ne_nil _ _)

theorem readAll_writeAll (safe : ∀ x ∈ xs, format.Safe x) (rest : List α) :
    format.readAll (format.writeAll xs ++ rest) =
      (xs ++ (format.readAll rest).1, (format.readAll rest).2) := by
  induction xs with
  | nil => rfl
  | cons x xs ih =>
      rw [writeAll, List.flatMap_cons, List.append_assoc,
        readAll_write (safe x List.mem_cons_self)]
      have later := ih fun y member => safe y (List.mem_cons_of_mem x member)
      rw [writeAll] at later
      rw [later]
      rfl

/-! ## Inputs that were cut off -/

theorem readAll_bare (safe : format.Safe x) : format.readAll (format.encode x) = ([x], []) := by
  have last := readLine_last format.sep safe.oneLine
  rw [readAll_of_decode safe.nonempty last safe.bare, readAll_nil]

theorem readAll_torn (safe : format.Safe x) {part : List α} (nonempty : part ≠ [])
    (cut : part <+: format.encode x) (short : part ≠ format.encode x) :
    format.readAll part = ([], part) := by
  have oneLine : format.sep ∉ part := fun member => safe.oneLine (cut.subset member)
  exact readAll_broken nonempty (readLine_last format.sep oneLine) (safe.torn part cut short)

/-- The part is whole records and the beginning of the next record, which is torn. -/
structure TornAt (format : LineFormat α X) (xs : List X) (part : List α) (before : List X)
    (torn : List α) : Prop where
  lines : part = format.writeAll before ++ torn
  nonempty : torn ≠ []
  inside : ∃ x, before ++ [x] <+: xs ∧ torn <+: format.encode x ∧ torn ≠ format.encode x

/-- What is read of a part of a file: the records that are whole in it.  Reading fails
exactly when the part ends inside a record, and then at this record. -/
theorem readAll_cut (safe : ∀ x ∈ xs, format.Safe x) {part : List α}
    (cut : part <+: format.writeAll xs) :
    ∃ before, before <+: xs ∧
      ((format.readAll part = (before, []) ∧
          (part = format.writeAll before ∨ part ++ [format.sep] = format.writeAll before)) ∨
        ∃ torn, format.readAll part = (before, torn) ∧
          format.TornAt xs part before torn) := by
  obtain ⟨before, after, torn, rfl, rfl, ends⟩ := cut_writeAll cut
  have earlier : ∀ x ∈ before, format.Safe x := fun x member =>
    safe x (List.mem_append_left after member)
  rw [readAll_writeAll earlier]
  rcases ends with rfl | ⟨x, next, nonempty, inside⟩
  · refine ⟨before, List.prefix_append before after, .inl ⟨?_, .inl (List.append_nil _)⟩⟩
    rw [readAll_nil, List.append_nil]
  · have member : x ∈ after := List.mem_of_head? next
    have here := safe x (List.mem_append_right before member)
    have reaches : before ++ [x] <+: before ++ after := by
      cases after with
      | nil => cases next
      | cons first others =>
          cases next
          exact ⟨others, (List.append_cons before x others).symm⟩
    by_cases whole : torn = format.encode x
    · refine ⟨before ++ [x], reaches, .inl ⟨?_, .inr ?_⟩⟩
      · rw [whole, readAll_bare here]
      · rw [whole, writeAll_append, List.append_assoc, writeAll, writeAll, List.flatMap_singleton]
        rfl
    · refine ⟨before, List.prefix_append before after, .inr ⟨torn, ?_, rfl, nonempty, x, reaches,
        inside, whole⟩⟩
      rw [readAll_torn here nonempty inside whole, List.append_nil]

end LineFormat

end UcoStack
