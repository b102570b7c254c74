import UcoStack.Tool.MessageFields

/-!
# UUIDs in quoted texts

A message has fixed text around the texts that it quotes, and no UUID begins in the one
and ends in the other.  Where the quoted texts hold no UUID, nothing is found behind the
lead of the message but the identifiers that the message itself prints.
-/

namespace UcoStack.Tool

open UcoStack.Runtime
open Format

section Holding

variable {V : Type} {tool : ToolHost V}

/-- A part of the text is read as this UUID. -/
def HoldsUuid (tool : ToolHost V) (text : List Char) (id : Uuid) : Prop :=
  ∃ part, part <:+: text ∧ tool.uuidParse (String.ofList part) = some id

theorem HoldsUuid.mono {text whole : List Char} {id : Uuid} (holds : HoldsUuid tool text id)
    (inside : text <:+: whole) : HoldsUuid tool whole id := by
  obtain ⟨part, within, read⟩ := holds
  exact ⟨part, within.trans inside, read⟩

theorem HoldsUuid.long (reads : ReadsUuids tool) {text : List Char} {id : Uuid}
    (holds : HoldsUuid tool text id) : 32 ≤ text.length := by
  obtain ⟨part, within, read⟩ := holds
  have long := reads.long _ id read
  rw [String.toList_ofList] at long
  exact long.trans within.length_le

end Holding

/-! ## Sheltered quotes -/

section Shelter

variable {V : Type} {tool : ToolHost V} {cells : Format} {texts : List (List Char)}
  {out : List Char}

end Shelter

/-! ## The tails of the messages -/

/-- The format behind the lead. -/
def Invariant.tail (invariant : Invariant) : Format :=
  invariant.format.drop (lead invariant.format).length

section Tails

variable {V : Type} {tool : ToolHost V}

end Tails

/-! ## A printed parent between quoted texts -/

section Linked

variable {V : Type} {tool : ToolHost V} {front back : List Char}

end Linked

/-! ## Standing UUIDs -/

section Standing

variable {V : Type} {tool : ToolHost V}

/-- A printed UUID stands between separators. -/
def StandsIn (tool : ToolHost V) (id : Uuid) (text : List Char) : Prop :=
  ∃ before after d e, separatesTokens d = true ∧ separatesTokens e = true ∧
    text = before ++ d :: ((tool.uuidToString id).toList ++ e :: after)

theorem StandsIn.mono {id : Uuid} {text whole : List Char} (stands : StandsIn tool id text)
    (inside : text <:+: whole) : StandsIn tool id whole := by
  obtain ⟨before, after, d, e, opens, closes, rfl⟩ := stands
  obtain ⟨first, last, rfl⟩ := inside
  exact ⟨first ++ before, after ++ last, d, e, opens, closes, by simp⟩

end Standing

end UcoStack.Tool
