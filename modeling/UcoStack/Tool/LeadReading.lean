import UcoStack.Tool.UuidTokens

/-!
# Reading the lead of a message

The lead is the part of a message in front of its first quoted text.  Which of its UUIDs
`buildProblemDetail` finds is decided by its format; everything else that is found is
found in the quoted tail.
-/

namespace UcoStack.Tool

open UcoStack.Runtime
open Format

/-! ## Markers -/

/-- How many markers only the quoted tail can hold, and the slot behind the next one. -/
def lookFor : List Pattern → Format → Option (Nat × Option Nat)
  | [], _ => some (0, none)
  | marker :: markers, cells =>
      match seek holdsUuid endsToken isTrimmed marker.chars cells with
      | none => none
      | some (some index) => some (0, some index)
      | some none => (lookFor markers cells).map fun place => (place.1 + 1, place.2)

/-- The text of a slot, if there is one. -/
def slotText (texts : List (List Char)) (slot : Option Nat) : Option String :=
  slot.bind fun index => texts[index]?.map String.ofList

section Markers

variable {V : Type} {tool : ToolHost V} {cells : Format} {texts : List (List Char)}
  {out : List Char}

theorem extractUuidAfter_none (filled : Filled cells texts out) {marker : Pattern}
    (sought : seek holdsUuid endsToken isTrimmed marker.chars cells = some none) :
    extractUuidAfter tool.toHost out marker =
      extractUuidAfter tool.toHost (quoted cells texts).flatten marker := by
  rw [extractUuidAfter, extractUuidAfter, restAfter_of_seek_none filled sought]

theorem extractUuidAfter_some (filled : Filled cells texts out)
    (slots : Slots (SlotText tool) cells texts) {marker : Pattern} {index : Nat}
    (sought : seek holdsUuid endsToken isTrimmed marker.chars cells = some (some index)) :
    ∃ text, texts[index]? = some text ∧
      extractUuidAfter tool.toHost out marker = some (String.ofList text) := by
  obtain ⟨cell, text, more, slot, uuid, holds, found, trails⟩ :=
    restAfter_of_seek_some filled slots sought
  have readable := holds.uuid uuid
  have token : (text ++ more).takeWhile (fun c => !endsToken c) =
      text ++ more.takeWhile fun c => !endsToken c :=
    List.takeWhile_append_of_pos fun c member => by
      rw [(isUuidChar_kept (readable.chars c member)).2.1]
      rfl
  have parsed := @Readable.parseUuidToken_eq V tool text readable [] _
    (fun c member => by cases member) trails
  refine ⟨text, slot, ?_⟩
  rw [extractUuidAfter, found, Option.bind_eq_bind, Option.bind_some, token]
  exact parsed

/-- The markers find what the format says. -/
theorem extractFirst_eq (filled : Filled cells texts out)
    (slots : Slots (SlotText tool) cells texts) {markers : List Pattern}
    {place : Nat × Option Nat} (looked : lookFor markers cells = some place) :
    extractFirst tool.toHost out markers =
      (extractFirst tool.toHost (quoted cells texts).flatten (markers.take place.1)).or
        (slotText texts place.2) := by
  induction markers generalizing place with
  | nil =>
      cases looked
      rfl
  | cons marker markers ih =>
      rw [lookFor] at looked
      split at looked
      · cases looked
      · rename_i index sought
        cases looked
        obtain ⟨text, slot, found⟩ := extractUuidAfter_some filled slots sought
        rw [extractFirst, List.findSome?_cons, found]
        exact (congrArg (Option.map String.ofList) slot).symm
      · rename_i sought
        obtain ⟨later, behind, rfl⟩ := Option.map_eq_some_iff.mp looked
        have rest := ih behind
        rw [extractFirst, extractFirst] at rest
        rw [extractFirst, extractFirst, List.take_succ_cons, List.findSome?_cons,
          List.findSome?_cons, extractUuidAfter_none filled sought, rest]
        cases extractUuidAfter tool.toHost (quoted cells texts).flatten marker <;> rfl

end Markers

/-! ## Tokens -/

/-- The separators of tokens. -/
def separators : List Char :=
  [',', ':', '(', ')', '[', ']', ';', '\t', '\n', '\x0b', '\x0c', '\r', ' ', '\u0085', '\u00a0',
    '\u1680', '\u2000', '\u2001', '\u2002', '\u2003', '\u2004', '\u2005', '\u2006', '\u2007',
    '\u2008', '\u2009', '\u200a', '\u2028', '\u2029', '\u202f', '\u205f', '\u3000']

theorem separators_complete {c : Char} (separated : separatesTokens c = true) :
    c ∈ separators := by
  rw [separatesTokens, Bool.or_eq_true, List.elem_iff] at separated
  rcases separated with blank | mark
  · let codes := [9, 10, 11, 12, 13, 0x20, 0x85, 0xA0, 0x1680, 0x2000, 0x2001, 0x2002, 0x2003,
      0x2004, 0x2005, 0x2006, 0x2007, 0x2008, 0x2009, 0x200A, 0x2028, 0x2029, 0x202F, 0x205F,
      0x3000]
    have coded : c.toNat ∈ codes := by
      simp only [Lang.isWhitespace, Bool.or_eq_true, Bool.and_eq_true, decide_eq_true_eq,
        beq_iff_eq] at blank
      simp only [codes, List.mem_cons, List.not_mem_nil, or_false]
      omega
    have every : ∀ code ∈ codes, Char.ofNat code ∈ separators := by decide
    have member := every c.toNat coded
    rwa [Char.ofNat_toNat] at member
  · have every : ∀ c ∈ [',', ':', '(', ')', '[', ']', ';'], c ∈ separators :=
      List.forall_iff_forall_mem.mp (by decide)
    exact every c mark

/-- The lead ends with a separator. -/
def endsApart (cells : Format) : Bool :=
  match cells.getLast? with
  | some (.char d) => separatesTokens d
  | _ => false

section Tokens

variable {V : Type} {tool : ToolHost V} {cells : Format} {texts : List (List Char)}
  {out : List Char}

theorem rawUuids_filled (reads : ReadsUuids tool) (filled : Filled cells texts out)
    (slots : Slots (SlotText tool) cells texts) (divided : apart separators cells = true)
    {indices : List Nat}
    (stand : standing readToken (tokens separatesTokens cells) = some indices) :
    rawUuids tool.toHost out =
      indices.filterMap fun index => texts[index]?.bind (parseUuidToken tool.toHost) :=
  filterMap_standing (fun _ _ _ filled slots => readToken_silent reads filled slots)
    (fun _ _ _ filled slots => readToken_single filled slots)
    (tokensFilled (fun _ => separators_complete) filled slots divided) stand

theorem rawUuids_nil (reads : ReadsUuids tool) : rawUuids tool.toHost [] = [] :=
  List.filterMap_cons_none (parseUuidToken_short reads (by decide))

theorem rawUuids_append (reads : ReadsUuids tool) {front : List Char} {d : Char}
    (separated : separatesTokens d = true) (tail : List Char) :
    rawUuids tool.toHost (front ++ [d] ++ tail) =
      rawUuids tool.toHost (front ++ [d]) ++ rawUuids tool.toHost tail := by
  have alone : rawUuids tool.toHost (front ++ [d]) = rawUuids tool.toHost front := by
    rw [rawUuids, List.splitOnP_append_cons front [] separated, List.filterMap_append]
    exact (congrArg (rawUuids tool.toHost front ++ ·) (rawUuids_nil reads)).trans
      (List.append_nil _)
  rw [alone, List.append_assoc, rawUuids, List.singleton_append,
    List.splitOnP_append_cons front tail separated, List.filterMap_append]
  rfl

theorem getLast_of_filled (filled : Filled cells texts out) {d : Char}
    (ends : cells.getLast? = some (.char d)) : ∃ front, out = front ++ [d] := by
  induction filled with
  | nil => cases ends
  | @char c cells texts out rest ih =>
      cases cells with
      | nil =>
          cases ends
          cases rest
          exact ⟨[], rfl⟩
      | cons cell cells =>
          rw [List.getLast?_cons_cons] at ends
          obtain ⟨front, rfl⟩ := ih ends
          exact ⟨c :: front, rfl⟩
  | @many cls text cells texts out _ rest ih =>
      cases cells with
      | nil => cases ends
      | cons cell cells =>
          rw [List.getLast?_cons_cons] at ends
          obtain ⟨front, rfl⟩ := ih ends
          exact ⟨text ++ front, (List.append_assoc _ _ _).symm⟩
  | @led first later c text cells texts out _ _ rest ih =>
      cases cells with
      | nil => cases ends
      | cons cell cells =>
          rw [List.getLast?_cons_cons] at ends
          obtain ⟨front, rfl⟩ := ih ends
          exact ⟨c :: (text ++ front), by simp⟩
  | @free text cells texts out rest ih =>
      cases cells with
      | nil => cases ends
      | cons cell cells =>
          rw [List.getLast?_cons_cons] at ends
          obtain ⟨front, rfl⟩ := ih ends
          exact ⟨text ++ front, (List.append_assoc _ _ _).symm⟩

end Tokens

/-! ## Leads -/

def isSeparatorCell : Cell → Bool
  | .char d => separatesTokens d
  | _ => false

/-- The format up to the last separator in front of the first slot that can hold one; all
of it if there is no such slot. -/
def lead (cells : Format) : Format :=
  if apart separators cells then cells
  else
    (cells.takeWhile fun cell => apart separators [cell]).rdropWhile fun cell =>
      !isSeparatorCell cell

/-- The text behind the lead. -/
def tailText (cells : Format) (texts : List (List Char)) : List Char :=
  fill (cells.drop (lead cells).length) (texts.drop (slotCount (lead cells)))

/-- What is found in a lead: for each field how many markers only the tail can hold and
the slot behind the next one, and the slots that stand alone. -/
structure Reading where
  node : Nat × Option Nat
  actor : Nat × Option Nat
  msgId : Nat × Option Nat
  alone : List Nat
  deriving DecidableEq, Repr

/-- The format in which the markers are looked for. -/
def searched (cells : Format) : Format :=
  if apart separators cells then cells else lead cells ++ [.free]

def reading (cells : Format) : Option Reading :=
  match lookFor nodeMarkers (searched cells), lookFor actorMarkers (searched cells),
    lookFor msgIdMarkers (searched cells),
    standing readToken (tokens separatesTokens (lead cells)) with
  | some node, some actor, some msgId, some alone =>
      if apart separators (lead cells) && (apart separators cells || endsApart (lead cells)) &&
          ([node, actor, msgId].filterMap Prod.snd ++ alone).all (· < slotCount (lead cells)) then
        some ⟨node, actor, msgId, alone⟩
      else none
  | _, _, _, _ => none

/-- The fields of a problem are those of the lead and of the tail. -/
structure Told {V : Type} (tool : ToolHost V) (texts : List (List Char))
    (problem tail : List Char) (reading : Reading) : Prop where
  node : extractFirst tool.toHost problem nodeMarkers =
    (extractFirst tool.toHost tail (nodeMarkers.take reading.node.1)).or
      (slotText texts reading.node.2)
  actor : extractFirst tool.toHost problem actorMarkers =
    (extractFirst tool.toHost tail (actorMarkers.take reading.actor.1)).or
      (slotText texts reading.actor.2)
  msgId : extractFirst tool.toHost problem msgIdMarkers =
    (extractFirst tool.toHost tail (msgIdMarkers.take reading.msgId.1)).or
      (slotText texts reading.msgId.2)
  uuids : rawUuids tool.toHost problem =
    (reading.alone.filterMap fun index => texts[index]?.bind (parseUuidToken tool.toHost)) ++
      rawUuids tool.toHost tail

section Leads

variable {V : Type} {tool : ToolHost V} {cells : Format} {texts : List (List Char)}
  {out : List Char}

theorem lead_begins (cells : Format) : lead cells <+: cells := by
  unfold lead
  split
  · exact List.prefix_rfl
  · exact (List.rdropWhile_prefix _ _).trans (List.takeWhile_prefix _)

theorem lead_append (cells : Format) : lead cells ++ cells.drop (lead cells).length = cells :=
  List.prefix_iff_eq_append.mp (lead_begins cells)

/-- The message is the filled lead and the tail. -/
theorem filled_lead (filled : Filled cells texts out) :
    ∃ front, out = front ++ tailText cells texts ∧
      Filled (lead cells) (texts.take (slotCount (lead cells))) front := by
  have whole := lead_append cells
  generalize split : cells.drop (lead cells).length = back at whole
  rw [← whole] at filled
  obtain ⟨front, later, rfl, begins, ends⟩ := filled_append filled
  refine ⟨front, ?_, begins⟩
  rw [filled_eq_fill ends, tailText, split]

theorem slots_lead (slots : Slots (SlotText tool) cells texts) :
    Slots (SlotText tool) (lead cells) (texts.take (slotCount (lead cells))) := by
  rw [← lead_append cells] at slots
  exact slots_take slots

theorem lead_of_apart (divided : apart separators cells = true) : lead cells = cells :=
  if_pos divided

theorem tailText_of_apart (divided : apart separators cells = true) :
    tailText cells texts = [] := by
  rw [tailText, lead_of_apart divided, List.drop_length]
  cases texts.drop (slotCount cells) <;> rfl

/-- The message also fills the format in which the markers are looked for. -/
theorem filled_searched (filled : Filled cells texts out) (slots : Slots (SlotText tool) cells texts)
    (divided : apart separators (lead cells) = true) :
    ∃ searchTexts, Filled (searched cells) searchTexts out ∧
      Slots (SlotText tool) (searched cells) searchTexts ∧
      (quoted (searched cells) searchTexts).flatten = tailText cells texts ∧
      ∀ index < slotCount (lead cells), searchTexts[index]? = texts[index]? := by
  unfold searched
  by_cases whole : apart separators cells = true
  · rw [if_pos whole]
    refine ⟨texts, filled, slots, ?_, fun index _ => rfl⟩
    rw [quoted_eq_nil (hasFree_of_apart whole), tailText_of_apart whole]
    rfl
  · rw [if_neg whole]
    obtain ⟨front, split, begins⟩ := filled_lead filled
    have enough := length_of_filled begins
    have holds (text : List Char) : SlotText tool .free text :=
      ⟨(fun uuid => by cases uuid), fun number => by cases number⟩
    refine ⟨_, split ▸ filled_free begins _, slots_free holds (slots_lead slots) _, ?_, ?_⟩
    · rw [quoted_free begins, quoted_eq_nil (hasFree_of_apart divided)]
      exact List.append_nil _
    · intro index early
      rw [List.getElem?_append_left (by omega), List.getElem?_take_of_lt early]

/-- The UUIDs of a message are those of the lead and those of the tail. -/
theorem rawUuids_lead (reads : ReadsUuids tool) (filled : Filled cells texts out)
    (slots : Slots (SlotText tool) cells texts)
    (divided : apart separators (lead cells) = true)
    (ends : apart separators cells = true ∨ endsApart (lead cells) = true) {alone : List Nat}
    (stand : standing readToken (tokens separatesTokens (lead cells)) = some alone)
    (early : ∀ index ∈ alone, index < slotCount (lead cells)) :
    rawUuids tool.toHost out =
      (alone.filterMap fun index => texts[index]?.bind (parseUuidToken tool.toHost)) ++
        rawUuids tool.toHost (tailText cells texts) := by
  obtain ⟨front, rfl, begins⟩ := filled_lead filled
  have here : rawUuids tool.toHost front =
      alone.filterMap fun index => texts[index]?.bind (parseUuidToken tool.toHost) := by
    rw [rawUuids_filled reads begins (slots_lead slots) divided stand]
    refine List.filterMap_congr fun index member => ?_
    rw [List.getElem?_take_of_lt (early index member)]
  rw [← here]
  rcases ends with whole | ends
  · rw [tailText_of_apart whole, List.append_nil, rawUuids_nil reads, List.append_nil]
  · rw [endsApart] at ends
    split at ends
    · rename_i d last
      obtain ⟨before, rfl⟩ := getLast_of_filled begins last
      exact rawUuids_append reads ends _
    · cases ends

theorem told_of_reading (reads : ReadsUuids tool) (filled : Filled cells texts out)
    (slots : Slots (SlotText tool) cells texts) {found : Reading}
    (read : reading cells = some found) :
    Told tool texts out (tailText cells texts) found := by
  rw [reading] at read
  split at read
  · rename_i node actor msgId alone nodeLook actorLook msgIdLook stand
    split at read
    · rename_i checked
      cases read
      rw [Bool.and_eq_true, Bool.and_eq_true, Bool.or_eq_true, List.all_eq_true] at checked
      obtain ⟨⟨divided, ends⟩, early⟩ := checked
      obtain ⟨searchTexts, searches, holds, quotes, same⟩ := filled_searched filled slots divided
      have field (markers : List Pattern) (place : Nat × Option Nat)
          (known : place ∈ [node, actor, msgId])
          (looked : lookFor markers (searched cells) = some place) :
          extractFirst tool.toHost out markers =
            (extractFirst tool.toHost (tailText cells texts) (markers.take place.1)).or
              (slotText texts place.2) := by
        rw [extractFirst_eq searches holds looked, quotes]
        cases slot : place.2 with
        | none => rfl
        | some index =>
            have member : index ∈ [node, actor, msgId].filterMap Prod.snd :=
              List.mem_filterMap.mpr ⟨place, known, slot⟩
            have bound := of_decide_eq_true (early index (List.mem_append_left alone member))
            unfold slotText
            rw [Option.bind_some, Option.bind_some, same index bound]
      exact
        { node := field nodeMarkers node (by simp) nodeLook
          actor := field actorMarkers actor (by simp) actorLook
          msgId := field msgIdMarkers msgId (by simp) msgIdLook
          uuids := rawUuids_lead reads filled slots divided ends stand fun index member =>
            of_decide_eq_true (early index (List.mem_append_right _ member)) }
    · cases read
  · cases read

end Leads

end UcoStack.Tool
