import UcoStack.Tool.ProblemDetail

/-!
# UUIDs in tokens

What `parseUuidToken` reads from a token: a text too short for a UUID gives nothing, the
printed form of a UUID gives itself, also between characters that are trimmed and in
front of a slash.
-/

namespace UcoStack.Tool

open UcoStack.Runtime
open Format

theorem rdropWhile_append_cons {p : Char → Bool} {c : Char} (kept : p c = false)
    (front back : List Char) :
    (front ++ c :: back).rdropWhile p = front ++ c :: back.rdropWhile p := by
  induction back using List.reverseRecOn with
  | nil => exact List.rdropWhile_concat_neg p front c (by rw [kept]; exact Bool.false_ne_true)
  | append_singleton back last ih =>
      rw [← List.cons_append, ← List.append_assoc, List.rdropWhile_concat, List.rdropWhile_concat]
      split
      · exact ih
      · rw [List.append_assoc, List.cons_append]

theorem trimMatches_append {trims : Char → Bool} {front text back : List Char} {first : Char}
    (leads : ∀ c ∈ front, trims c = true) (starts : trims first = false) :
    trimMatches trims (front ++ first :: (text ++ back)) =
      (first :: (text ++ back)).rdropWhile trims := by
  rw [trimMatches, List.dropWhile_append_of_pos leads, List.dropWhile_cons_of_neg]
  rw [starts]
  exact Bool.false_ne_true

theorem trimMatches_part (trims : Char → Bool) (cs : List Char) : trimMatches trims cs <:+: cs :=
  (List.rdropWhile_prefix trims _).isInfix.trans (List.dropWhile_suffix trims).isInfix

section Parsing

variable {V : Type} {tool : ToolHost V} (reads : ReadsUuids tool)

include reads

/-- A token that is read as a UUID has a part that is one. -/
theorem parseUuidToken_some {raw : List Char} {uuid : String}
    (parsed : parseUuidToken tool.toHost raw = some uuid) :
    uuid.toList ∈ (trimMatches isTrimmed raw).splitOn '/' ∧ 32 ≤ uuid.toList.length ∧
      ∀ c ∈ uuid.toList, isUuidFormChar c = true := by
  have member := List.mem_of_find?_eq_some parsed
  have accepted := List.find?_some parsed
  obtain ⟨piece, inside, rfl⟩ := List.mem_map.mp member
  obtain ⟨id, valid⟩ := Option.isSome_iff_exists.mp accepted
  refine ⟨?_, reads.long _ id valid, reads.forms _ id valid⟩
  rw [String.toList_ofList]
  exact inside

theorem parseUuidToken_short {raw : List Char} (short : raw.length < 32) :
    parseUuidToken tool.toHost raw = none := by
  cases parsed : parseUuidToken tool.toHost raw with
  | none => rfl
  | some uuid =>
      obtain ⟨member, long, -⟩ := parseUuidToken_some reads parsed
      have inside := (infix_of_mem_splitOnP member).1.trans (trimMatches_part isTrimmed raw)
      have bound := inside.length_le
      omega

end Parsing

/-! ## Printed UUIDs -/

/-- A text of hexadecimal digits and hyphens that is read as a UUID. -/
structure Readable {V : Type} (tool : ToolHost V) (text : List Char) : Prop where
  nonempty : text ≠ []
  chars : ∀ c ∈ text, isUuidChar c = true
  accepted : (tool.uuidParse (String.ofList text)).isSome = true

theorem isUuidChar_kept {c : Char} (printed : isUuidChar c = true) :
    isTrimmed c = false ∧ endsToken c = false ∧ c ≠ '/' := by
  have every : ∀ c ∈ '-' :: UuidText.hexDigits,
      isTrimmed c = false ∧ endsToken c = false ∧ c ≠ '/' :=
    List.forall_iff_forall_mem.mp (by decide)
  rw [isUuidChar, Bool.or_eq_true, beq_iff_eq, List.elem_iff] at printed
  exact every c (List.mem_cons.mpr printed)

theorem rdropWhile_append_of_all {p : Char → Bool} (text : List Char) {back : List Char}
    (dropped : ∀ c ∈ back, p c = true) : (text ++ back).rdropWhile p = text.rdropWhile p := by
  rw [List.rdropWhile, List.reverse_append, List.dropWhile_append_of_pos fun c member =>
    dropped c (List.mem_reverse.mp member)]
  rfl

namespace Readable

variable {V : Type} {tool : ToolHost V} {text : List Char}

theorem printed (reads : ReadsUuids tool) (id : Uuid) :
    Readable tool (tool.uuidToString id).toList where
  nonempty := by
    intro empty
    have long := reads.long _ id (reads.host.parse_toString id)
    rw [empty] at long
    cases long
  chars := reads.prints id
  accepted := by
    rw [String.ofList_toList, reads.host.parse_toString]
    rfl

theorem no_slash (readable : Readable tool text) : '/' ∉ text := fun member =>
  (isUuidChar_kept (readable.chars '/' member)).2.2 rfl

theorem rdropWhile_eq (readable : Readable tool text) : text.rdropWhile isTrimmed = text := by
  refine List.rdropWhile_eq_self_iff.mpr fun nonempty => ?_
  rw [(isUuidChar_kept (readable.chars _ (List.getLast_mem nonempty))).1]
  exact Bool.false_ne_true

theorem find_first (readable : Readable tool text) (others : List (List Char)) :
    ((text :: others).map String.ofList).find?
      (fun candidate => (tool.uuidParse candidate).isSome) = some (String.ofList text) :=
  List.find?_cons_of_pos readable.accepted

/-- A readable text is read from between trimmed characters. -/
theorem parseUuidToken_eq (readable : Readable tool text) {front back : List Char}
    (leads : ∀ c ∈ front, isTrimmed c = true) (trails : ∀ c ∈ back, isTrimmed c = true) :
    parseUuidToken tool.toHost (front ++ (text ++ back)) = some (String.ofList text) := by
  have trimmed : trimMatches isTrimmed (front ++ (text ++ back)) = text := by
    obtain ⟨first, later, rfl⟩ := List.exists_cons_of_ne_nil readable.nonempty
    rw [List.cons_append, trimMatches_append leads
      (isUuidChar_kept (readable.chars first List.mem_cons_self)).1, ← List.cons_append,
      rdropWhile_append_of_all _ trails, readable.rdropWhile_eq]
  rw [parseUuidToken, trimmed, List.splitOn_eq_singleton readable.no_slash]
  exact readable.find_first []

/-- A readable text in front of a slash is read. -/
theorem parseUuidToken_slash (readable : Readable tool text) {front : List Char}
    (leads : ∀ c ∈ front, isTrimmed c = true) (back : List Char) :
    parseUuidToken tool.toHost (front ++ (text ++ '/' :: back)) = some (String.ofList text) := by
  have trimmed : trimMatches isTrimmed (front ++ (text ++ '/' :: back)) =
      text ++ '/' :: back.rdropWhile isTrimmed := by
    obtain ⟨first, later, rfl⟩ := List.exists_cons_of_ne_nil readable.nonempty
    rw [List.cons_append, trimMatches_append leads
      (isUuidChar_kept (readable.chars first List.mem_cons_self)).1, ← List.cons_append,
      rdropWhile_append_cons (by decide)]
  rw [parseUuidToken, trimmed, List.splitOn_append_cons_of_beq text _ (beq_self_eq_true '/'),
    List.splitOn_eq_singleton readable.no_slash]
  exact readable.find_first _

theorem parseUuidToken_self (readable : Readable tool text) :
    parseUuidToken tool.toHost text = some (String.ofList text) := by
  have alone := @parseUuidToken_eq V tool text readable [] [] (fun c member => by cases member)
    fun c member => by cases member
  rwa [List.append_nil] at alone

end Readable

/-! ## Tokens of formats -/

/-- A slot for UUIDs: hyphens, but no blanks. -/
def holdsUuid : Cell → Bool
  | .many cls => cls '-' && !cls ' '
  | _ => false

/-- A slot for a number, which has at most 20 digits. -/
def holdsNumber : Cell → Bool
  | .many cls => !cls '-' && !cls ' '
  | .led _ _ => true
  | _ => false

structure SlotText {V : Type} (tool : ToolHost V) (cell : Cell) (text : List Char) : Prop where
  uuid : holdsUuid cell = true → Readable tool text
  number : holdsNumber cell = true → text.length ≤ 20

def cellBound : Cell → Nat
  | .char _ => 1
  | cell => if holdsNumber cell then 20 else 32

/-- The longest text of a format, as far as it is shorter than a UUID. -/
def lengthBound : Format → Nat
  | [] => 0
  | cell :: cells => cellBound cell + lengthBound cells

def skipTrimmed : Format → Format
  | .char d :: cells => if isTrimmed d then skipTrimmed cells else .char d :: cells
  | cells => cells

def holdsNoSlash : Format → Bool
  | [] => true
  | .char d :: cells => d != '/' && holdsNoSlash cells
  | .many cls :: cells => !cls '/' && holdsNoSlash cells
  | .led first later :: cells => !first '/' && !later '/' && holdsNoSlash cells
  | .free :: _ => false

/-- Among the first characters is a fixed one that no UUID text has. -/
def breaksWithin : Nat → Format → Bool
  | count + 1, .char d :: cells => !isUuidFormChar d || breaksWithin count cells
  | _, _ => false

/-- Whether a token is read as its first slot or as nothing. -/
def readToken (token : Format) : Option Bool :=
  if lengthBound token < 32 then some false
  else
    match skipTrimmed token with
    | .char d :: cells =>
        if holdsNoSlash (.char d :: cells) && breaksWithin 32 (.char d :: cells) then some false
        else none
    | [.many cls] => if holdsUuid (.many cls) then some true else none
    | .many cls :: .char d :: _ => if holdsUuid (.many cls) && d == '/' then some true else none
    | _ => none

section Formats

variable {V : Type} {tool : ToolHost V} {token : Format} {own : List (List Char)}
  {piece : List Char}

theorem length_le_bound (filled : Filled token own piece) (slots : Slots (SlotText tool) token own)
    (short : lengthBound token < 32) : piece.length ≤ lengthBound token := by
  induction filled with
  | nil => exact Nat.le_refl 0
  | char d _ ih =>
      rw [lengthBound, cellBound] at short ⊢
      rw [List.length_cons]
      have rest := ih slots (by omega)
      omega
  | @many cls text cells texts out _ _ ih =>
      have bound : cellBound (.many cls) = if holdsNumber (.many cls) then 20 else 32 := rfl
      rw [lengthBound, bound] at short ⊢
      split at short
      · rename_i numeric
        have size := slots.1.number numeric
        have rest := ih slots.2 (by omega)
        rw [if_pos numeric, List.length_append]
        omega
      · omega
  | @led first later c text cells texts out _ _ _ ih =>
      have bound : cellBound (.led first later) = 20 := rfl
      rw [lengthBound, bound] at short ⊢
      have size := slots.1.number rfl
      have rest := ih slots.2 (by omega)
      rw [List.length_cons] at size ⊢
      rw [List.length_append]
      omega
  | free =>
      have bound : cellBound .free = 32 := rfl
      rw [lengthBound, bound] at short
      omega

theorem filled_skipTrimmed (filled : Filled token own piece)
    (slots : Slots (SlotText tool) token own) :
    ∃ front core, piece = front ++ core ∧ (∀ c ∈ front, isTrimmed c = true) ∧
      Filled (skipTrimmed token) own core ∧ Slots (SlotText tool) (skipTrimmed token) own := by
  induction filled with
  | @char d cells texts out rest ih =>
      rw [skipTrimmed]
      split
      · rename_i trimmed
        obtain ⟨front, core, rfl, leads, behind, kept⟩ := ih slots
        refine ⟨d :: front, core, rfl, fun c member => ?_, behind, kept⟩
        rcases List.mem_cons.mp member with rfl | inside
        · exact trimmed
        · exact leads c inside
      · exact ⟨[], _, rfl, (fun c member => by cases member), .char d rest, slots⟩
  | nil => exact ⟨[], _, rfl, (fun c member => by cases member), .nil, slots⟩
  | many within rest =>
      exact ⟨[], _, rfl, (fun c member => by cases member), .many within rest, slots⟩
  | led leads within rest =>
      exact ⟨[], _, rfl, (fun c member => by cases member), .led leads within rest, slots⟩
  | free text rest =>
      exact ⟨[], _, rfl, (fun c member => by cases member), .free text rest, slots⟩

theorem skipTrimmed_starts {d : Char} {cells : Format}
    (skipped : skipTrimmed token = .char d :: cells) : isTrimmed d = false := by
  induction token with
  | nil => cases skipped
  | cons cell token ih =>
      cases cell with
      | char c =>
          rw [skipTrimmed] at skipped
          split at skipped
          · exact ih skipped
          · rename_i kept
            cases skipped
            exact Bool.eq_false_iff.mpr kept
      | _ => cases skipped

theorem no_slash_of_filled (filled : Filled token own piece) (plain : holdsNoSlash token = true) :
    '/' ∉ piece := by
  induction filled with
  | nil => exact List.not_mem_nil
  | char d _ ih =>
      rw [holdsNoSlash, Bool.and_eq_true, bne_iff_ne] at plain
      exact List.not_mem_cons_of_ne_of_not_mem plain.1.symm (ih plain.2)
  | many within _ ih =>
      rw [holdsNoSlash, Bool.and_eq_true, Bool.not_eq_true'] at plain
      intro member
      rcases List.mem_append.mp member with inside | behind
      · cases plain.1.symm.trans (within '/' inside)
      · exact ih plain.2 behind
  | led leads within _ ih =>
      rw [holdsNoSlash, Bool.and_eq_true, Bool.and_eq_true, Bool.not_eq_true',
        Bool.not_eq_true'] at plain
      intro member
      rcases List.mem_cons.mp member with rfl | member
      · cases plain.1.1.symm.trans leads
      · rcases List.mem_append.mp member with inside | behind
        · cases plain.1.2.symm.trans (within '/' inside)
        · exact ih plain.2 behind
  | free => cases plain

theorem breaks_of_prefix {count : Nat} (filled : Filled token own piece)
    (breaks : breaksWithin count token = true) {start : List Char} (starts : start <+: piece)
    (long : count ≤ start.length) : ∃ c ∈ start, isUuidFormChar c = false := by
  induction filled generalizing count start with
  | char d _ ih =>
      cases count with
      | zero => cases breaks
      | succ count =>
          cases start with
          | nil => cases long
          | cons c start =>
              obtain ⟨rfl, later⟩ := List.cons_prefix_cons.mp starts
              rw [breaksWithin, Bool.or_eq_true, Bool.not_eq_true'] at breaks
              rcases breaks with here | behind
              · exact ⟨c, List.mem_cons_self, here⟩
              · obtain ⟨d, member, foreign⟩ := ih behind later (Nat.le_of_succ_le_succ long)
                exact ⟨d, List.mem_cons_of_mem c member, foreign⟩
  | _ =>
      cases count with
      | zero => cases breaks
      | succ count => cases breaks

theorem readToken_silent (reads : ReadsUuids tool) (filled : Filled token own piece)
    (slots : Slots (SlotText tool) token own) (silent : readToken token = some false) :
    parseUuidToken tool.toHost piece = none := by
  rw [readToken] at silent
  split at silent
  · rename_i short
    have bound := length_le_bound filled slots short
    exact parseUuidToken_short reads (by omega)
  · split at silent
    · rename_i d cells skipped
      split at silent
      · rename_i foreign
        rw [Bool.and_eq_true] at foreign
        obtain ⟨front, core, rfl, leads, behind, _⟩ := filled_skipTrimmed filled slots
        rw [skipped] at behind
        have no_slash := no_slash_of_filled behind foreign.1
        have kept := skipTrimmed_starts skipped
        cases behind with
        | @char _ _ _ out rest =>
            have trimmed := @trimMatches_append isTrimmed front out [] d leads kept
            rw [List.append_nil] at trimmed
            have starts := List.rdropWhile_prefix isTrimmed (l := d :: out)
            cases parsed : parseUuidToken tool.toHost (front ++ d :: out) with
            | none => rfl
            | some uuid =>
                obtain ⟨member, long, forms⟩ := parseUuidToken_some reads parsed
                rw [trimmed, List.splitOn_eq_singleton fun inside =>
                  no_slash (starts.subset inside), List.mem_singleton] at member
                obtain ⟨c, inside, broken⟩ := breaks_of_prefix (.char d rest) foreign.2
                  (member ▸ starts) long
                cases broken.symm.trans (forms c inside)
      · cases silent
    · split at silent <;> cases silent
    · split at silent <;> cases silent
    · cases silent

theorem readToken_single (filled : Filled token own piece)
    (slots : Slots (SlotText tool) token own) (single : readToken token = some true) :
    ∃ text more, own = text :: more ∧
      parseUuidToken tool.toHost piece = parseUuidToken tool.toHost text := by
  obtain ⟨front, core, rfl, leads, behind, kept⟩ := filled_skipTrimmed filled slots
  rw [readToken] at single
  split at single
  · cases single
  · split at single
    · split at single <;> cases single
    · rename_i cls skipped
      split at single
      · rename_i identifies
        rw [skipped] at behind kept
        cases behind with
        | @many _ text _ _ _ within rest =>
            have readable : Readable tool text := kept.1.uuid identifies
            cases rest with
            | nil =>
                refine ⟨text, [], rfl, ?_⟩
                rw [readable.parseUuidToken_eq leads (fun c member => by cases member),
                  readable.parseUuidToken_self]
      · cases single
    · rename_i cls d more skipped
      split at single
      · rename_i identifies
        rw [Bool.and_eq_true, beq_iff_eq] at identifies
        obtain ⟨identifies, rfl⟩ := identifies
        rw [skipped] at behind kept
        cases behind with
        | @many _ text _ texts _ within rest =>
            have readable : Readable tool text := kept.1.uuid identifies
            cases rest with
            | char _ _ =>
                refine ⟨text, texts, rfl, ?_⟩
                rw [readable.parseUuidToken_slash leads, readable.parseUuidToken_self]
      · cases single
    · cases single

end Formats

end UcoStack.Tool
