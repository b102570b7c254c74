import Mathlib.Data.List.Pairwise
import UcoStack.Runtime.JsonHost
import UcoStack.Runtime.TraceFile

/-!
# JSON lines

Strings and objects as the JSON library prints them: the text has no line end, whatever the
strings are.  A codec of finitely many values is given by their lines.
-/

namespace UcoStack.Runtime

/-! ## Texts -/

namespace JsonText

/-- A character inside of a string. -/
def escaped : Char → List Char
  | '"' => ['\\', '"']
  | '\\' => ['\\', '\\']
  | '\x08' => ['\\', 'b']
  | '\t' => ['\\', 't']
  | '\n' => ['\\', 'n']
  | '\x0c' => ['\\', 'f']
  | '\r' => ['\\', 'r']
  | c => if c.toNat < 32 then '\\' :: 'u' :: UuidText.digits 4 c.toNat else [c]

def quoted (text : String) : List Char := '"' :: text.toList.flatMap escaped ++ ['"']

def number (value : Nat) : List Char := Nat.toDigits 10 value

def separated : List (List Char) → List Char
  | [] => []
  | [item] => item
  | item :: items => item ++ ',' :: separated items

def array (items : List (List Char)) : List Char := '[' :: separated items ++ [']']

def object (fields : List (String × List Char)) : List Char :=
  '\x7b' :: separated (fields.map fun field => quoted field.1 ++ ':' :: field.2) ++ ['\x7d']

def bytes (text : List Char) : List UInt8 := text.flatMap String.utf8EncodeChar

theorem escaped_oneLine (c : Char) : '\n' ∉ escaped c := by
  fun_cases escaped c
  case case8 other small =>
    intro member
    rcases List.mem_cons.mp member with same | member
    · cases same
    rcases List.mem_cons.mp member with same | member
    · cases same
    have digit := UuidText.readDigits_chars (UuidText.readDigits_digits 4 0 c.toNat) _ member
    exact absurd digit (by decide)
  case case9 other large =>
    intro member
    cases List.mem_singleton.mp member
    exact large (by decide)
  all_goals decide

theorem enclosed_oneLine {first last : Char} {text : List Char} (apart : '\n' ∉ [first, last])
    (inside : '\n' ∉ text) : '\n' ∉ first :: text ++ [last] := by
  intro member
  rw [List.cons_append, List.mem_cons, List.mem_append, List.mem_singleton] at member
  obtain same | between | same := member
  · exact apart (same ▸ List.mem_cons_self)
  · exact inside between
  · exact apart (same ▸ List.mem_cons_of_mem first List.mem_cons_self)

theorem quoted_oneLine (text : String) : '\n' ∉ quoted text := by
  refine enclosed_oneLine (by decide) fun member => ?_
  obtain ⟨c, _, inside⟩ := List.mem_flatMap.mp member
  exact escaped_oneLine c inside

theorem number_oneLine (value : Nat) : '\n' ∉ number value := fun member =>
  absurd (Nat.isDigit_of_mem_toDigits (by decide) (by decide) member) (by decide)

theorem separated_oneLine {items : List (List Char)} (each : ∀ item ∈ items, '\n' ∉ item) :
    '\n' ∉ separated items := by
  fun_induction separated items with
  | case1 => exact List.not_mem_nil
  | case2 item => exact each item List.mem_cons_self
  | case3 item items _ ih =>
      intro member
      rcases List.mem_append.mp member with member | member
      · exact each item List.mem_cons_self member
      rcases List.mem_cons.mp member with same | member
      · cases same
      · exact ih (fun later inside => each later (List.mem_cons_of_mem item inside)) member

theorem array_oneLine {items : List (List Char)} (each : ∀ item ∈ items, '\n' ∉ item) :
    '\n' ∉ array items :=
  enclosed_oneLine (by decide) (separated_oneLine each)

theorem object_oneLine {fields : List (String × List Char)}
    (each : ∀ field ∈ fields, '\n' ∉ field.2) : '\n' ∉ object fields := by
  refine enclosed_oneLine (by decide) (separated_oneLine fun item made member => ?_)
  obtain ⟨field, inside, rfl⟩ := List.mem_map.mp made
  rcases List.mem_append.mp member with name | member
  · exact quoted_oneLine field.1 name
  rcases List.mem_cons.mp member with same | value
  · cases same
  · exact each field inside value

/-! ## Bytes -/

theorem isUtf8_bytes (text : List Char) : isUtf8 (bytes text) = true :=
  isUtf8_iff.mpr ⟨text, rfl⟩

/-- An ASCII byte is the code of its character. -/
theorem mem_utf8EncodeChar {byte : UInt8} {c : Char} (ascii : byte < 128)
    (member : byte ∈ String.utf8EncodeChar c) : c.toNat = byte.toNat := by
  -- The bytes of any other character have their highest bit set.
  have marked {low high : UInt8} (large : 128 ≤ high) : byte ≠ low ||| high := by
    rintro rfl
    have above : high.toNat ≤ (low ||| high).toNat := by
      rw [UInt8.toNat_or]
      exact Nat.right_le_or
    exact absurd (UInt8.lt_iff_toNat_lt.mp ascii)
      (Nat.not_lt.mpr ((UInt8.le_iff_toNat_le.mp large).trans above))
  rcases c.utf8Size_eq with size | size | size | size
  · rw [String.utf8EncodeChar_eq_singleton size, List.mem_singleton] at member
    have small : c.val.toNat ≤ 127 := Char.utf8Size_eq_one_iff.mp size
    rw [member, UInt32.toNat_toUInt8]
    exact (Nat.mod_eq_of_lt (small.trans_lt (by decide))).symm
  · simp [String.utf8EncodeChar_eq_cons_cons size, marked] at member
  · simp [String.utf8EncodeChar_eq_cons_cons_cons size, marked] at member
  · simp [String.utf8EncodeChar_eq_cons_cons_cons_cons size, marked] at member

theorem bytes_oneLine {text : List Char} (oneLine : '\n' ∉ text) : newline ∉ bytes text := by
  intro member
  obtain ⟨c, inside, here⟩ := List.mem_flatMap.mp member
  have same : c = '\n' := Char.toNat_inj.mp (mem_utf8EncodeChar (by decide) here)
  exact oneLine (same ▸ inside)

theorem bytes_eq_nil {text : List Char} : bytes text = [] ↔ text = [] := by
  simp [bytes, ← List.eq_nil_iff_forall_not_mem]

/-- A text is cut between its characters only. -/
theorem prefix_of_bytes {text other : List Char} (begins : bytes text <+: bytes other) :
    text <+: other := by
  induction text generalizing other with
  | nil => exact List.nil_prefix
  | cons c text ih =>
      obtain ⟨rest, whole⟩ := begins
      rw [bytes, List.flatMap_cons, List.append_assoc] at whole
      cases other with
      | nil => exact absurd (List.append_eq_nil_iff.mp whole).1 String.utf8EncodeChar_ne_nil
      | cons d other =>
          rw [bytes, List.flatMap_cons] at whole
          have first := congrArg (fun line => line.toByteArray.utf8DecodeChar? 0) whole
          simp only [List.toByteArray_append, ByteArray.utf8DecodeChar?_utf8EncodeChar_append,
            Option.some_inj] at first
          cases first
          exact List.cons_prefix_cons.mpr ⟨rfl, ih ⟨rest, List.append_cancel_left whole⟩⟩

end JsonText

/-! ## Finitely many values -/

section Tables

variable {X : Type} [DecidableEq X]

/-- A codec that knows some values and their lines. -/
def JsonCodec.ofTable (table : List (List UInt8 × X)) : JsonCodec X :=
  { toBytes := fun x => ((table.find? fun entry => entry.2 = x).map Prod.fst).getD []
    fromBytes := fun line =>
      (table.find? fun entry => line = entry.1 ∨ line = entry.1 ++ [newline]).map Prod.snd }

/-- The lines are texts, and none is the beginning of another one. -/
structure PrefixFree (table : List (List UInt8 × X)) : Prop where
  text : ∀ entry ∈ table, isUtf8 entry.1 = true
  oneLine : ∀ entry ∈ table, newline ∉ entry.1
  nonempty : ∀ entry ∈ table, entry.1 ≠ []
  pairwise : table.Pairwise fun entry other => ¬entry.1 <+: other.1 ∧ ¬other.1 <+: entry.1

variable {table : List (List UInt8 × X)}

omit [DecidableEq X] in
theorem PrefixFree.apart (free : PrefixFree table) {entry other : List UInt8 × X}
    (member : entry ∈ table) (inTable : other ∈ table) (begins : entry.1 <+: other.1) :
    entry = other := by
  by_contra differ
  have symm : Std.Symm fun entry other : List UInt8 × X =>
      ¬entry.1 <+: other.1 ∧ ¬other.1 <+: entry.1 := ⟨fun _ _ both => both.symm⟩
  exact (free.pairwise.forall member inTable differ).1 begins

theorem JsonCodec.ofTable_toBytes {entry : List UInt8 × X} (member : entry ∈ table) :
    ∃ other ∈ table, other.2 = entry.2 ∧ (JsonCodec.ofTable table).toBytes entry.2 = other.1 := by
  have known : (table.find? fun other => other.2 = entry.2).isSome :=
    List.find?_isSome.mpr ⟨entry, member, decide_eq_true rfl⟩
  obtain ⟨other, found⟩ := Option.isSome_iff_exists.mp known
  refine ⟨other, List.mem_of_find?_eq_some found, of_decide_eq_true (List.find?_some found :), ?_⟩
  rw [JsonCodec.ofTable]
  dsimp only
  rw [found]
  rfl

theorem PrefixFree.fromBytes (free : PrefixFree table) {entry : List UInt8 × X}
    (member : entry ∈ table) {line : List UInt8}
    (same : line = entry.1 ∨ line = entry.1 ++ [newline]) :
    (JsonCodec.ofTable table).fromBytes line = some entry.2 := by
  have known : (table.find? fun other =>
      line = other.1 ∨ line = other.1 ++ [newline]).isSome :=
    List.find?_isSome.mpr ⟨entry, member, decide_eq_true same⟩
  obtain ⟨other, found⟩ := Option.isSome_iff_exists.mp known
  have inTable := List.mem_of_find?_eq_some found
  have fits : line = other.1 ∨ line = other.1 ++ [newline] :=
    of_decide_eq_true (List.find?_some found :)
  have begins : other.1 <+: entry.1 ++ [newline] := by
    rcases same with rfl | rfl
    · rcases fits with fits | fits
      · rw [fits]
        exact List.prefix_append other.1 _
      · rw [fits]
        exact (List.prefix_append _ _).trans (List.prefix_append _ _)
    · rcases fits with fits | fits
      · rw [fits]
      · rw [fits]
        exact List.prefix_append _ _
  have ends : newline ∉ other.1 := free.oneLine other inTable
  have inside : other.1 <+: entry.1 := by
    refine (List.prefix_concat_iff.mp begins).resolve_left fun whole => ends ?_
    rw [whole]
    exact List.mem_append_right _ List.mem_cons_self
  cases free.apart inTable member inside
  rw [JsonCodec.ofTable]
  dsimp only
  rw [found]
  rfl

theorem PrefixFree.fromLine (free : PrefixFree table) {entry : List UInt8 × X}
    (member : entry ∈ table) {line : List UInt8}
    (same : line = entry.1 ∨ line = entry.1 ++ [newline]) :
    (JsonCodec.ofTable table).fromLine line = some entry.2 := by
  have text : isUtf8 line = true := by
    rcases same with rfl | rfl
    · exact free.text entry member
    · exact isUtf8_append (free.text entry member) (by decide)
  rw [JsonCodec.fromLine, if_pos text]
  exact free.fromBytes member same

theorem PrefixFree.safe (free : PrefixFree table) {x : X} (known : x ∈ table.map Prod.snd) :
    (JsonCodec.ofTable table).lines.Safe x := by
  obtain ⟨entry, member, rfl⟩ := List.mem_map.mp known
  obtain ⟨other, inTable, same, writes⟩ := JsonCodec.ofTable_toBytes member
  have encodes : (JsonCodec.ofTable table).lines.encode entry.2 = other.1 := writes
  constructor
  · rw [encodes]
    exact free.oneLine other inTable
  · rw [encodes]
    exact free.nonempty other inTable
  · rw [encodes, ← same]
    exact free.fromLine inTable (.inr rfl)
  · rw [encodes, ← same]
    exact free.fromLine inTable (.inl rfl)
  · rw [encodes]
    intro part cut short
    have nothing : (table.find? fun third =>
        part = third.1 ∨ part = third.1 ++ [newline]) = none := by
      refine List.find?_eq_none.mpr fun third inTable' fits => ?_
      rcases of_decide_eq_true fits with rfl | rfl
      · cases free.apart inTable' inTable cut
        exact short rfl
      · exact free.oneLine other inTable
          (cut.subset (List.mem_append_right _ List.mem_cons_self))
    have unread : (JsonCodec.ofTable table).fromBytes part = none :=
      congrArg (Option.map Prod.snd) nothing
    change (if isUtf8 part then (JsonCodec.ofTable table).fromBytes part else none) = none
    rw [unread, ite_self]

/-- Texts with their values. -/
def JsonText.lineTable (texts : List (List Char × X)) : List (List UInt8 × X) :=
  texts.map fun entry => (JsonText.bytes entry.1, entry.2)

omit [DecidableEq X] in
theorem JsonText.lineTable_free {texts : List (List Char × X)}
    (oneLine : ∀ entry ∈ texts, '\n' ∉ entry.1) (nonempty : ∀ entry ∈ texts, entry.1 ≠ [])
    (apart : texts.Pairwise fun entry other => ¬entry.1 <+: other.1 ∧ ¬other.1 <+: entry.1) :
    PrefixFree (JsonText.lineTable texts) where
  text line member := by
    obtain ⟨entry, _, rfl⟩ := List.mem_map.mp member
    exact JsonText.isUtf8_bytes entry.1
  oneLine line member := by
    obtain ⟨entry, inside, rfl⟩ := List.mem_map.mp member
    exact JsonText.bytes_oneLine (oneLine entry inside)
  nonempty line member := by
    obtain ⟨entry, inside, rfl⟩ := List.mem_map.mp member
    exact fun nothing => nonempty entry inside (JsonText.bytes_eq_nil.mp nothing)
  pairwise := List.pairwise_map.mpr (apart.imp fun ⟨left, right⟩ =>
    ⟨mt JsonText.prefix_of_bytes left, mt JsonText.prefix_of_bytes right⟩)

end Tables

end UcoStack.Runtime
