import UcoStack.Tool.LeadReading

/-!
# The fields read from a message

For every check the slots of its message that `buildProblemDetail` finds in front of the
quoted texts.  The numbers of a message are `u64` values, too short for a UUID.
-/

namespace UcoStack.Tool

open UcoStack.Runtime
open Format

/-! ## The leads of the checks -/

/-- What is found in the lead of the message, by the slots of its format. -/
def Invariant.reading : Invariant → Reading
  | .timerActor => ⟨(3, none), (1, some 2), (3, none), [2, 3]⟩
  | .spawnOnce => ⟨(3, none), (1, some 1), (3, none), [1]⟩
  | .spawnSame => ⟨(3, none), (1, some 1), (3, none), [1]⟩
  | .known _ => ⟨(3, none), (1, some 1), (3, none), [1]⟩
  | .notDropped => ⟨(0, some 1), (2, some 2), (0, some 3), [2]⟩
  | .sourced => ⟨(3, none), (2, some 1), (0, some 2), [1]⟩
  | .payloadDecodes => ⟨(3, none), (4, none), (0, some 1), []⟩
  | .hasProvenance => ⟨(3, none), (4, none), (0, some 1), []⟩
  | .rootOrigin => ⟨(3, none), (4, none), (0, some 1), []⟩
  | .rootParentMsg => ⟨(3, none), (4, none), (0, some 1), []⟩
  | .rootParentNode => ⟨(0, some 2), (4, none), (0, some 1), []⟩
  | .rootOriginNode => ⟨(3, none), (4, none), (0, some 1), []⟩
  | .rootOriginService => ⟨(3, none), (4, none), (0, some 1), []⟩
  | .parentNotSelf => ⟨(3, none), (4, none), (0, some 1), []⟩
  | .parentHops => ⟨(3, none), (4, none), (0, some 1), [3]⟩
  | .parentOrigin => ⟨(3, none), (4, none), (0, some 1), [3, 5]⟩
  | .parentOriginNode => ⟨(3, none), (4, none), (0, some 1), []⟩
  | .parentOriginService => ⟨(3, none), (4, none), (0, some 1), []⟩
  | .effectMatches => ⟨(0, some 2), (0, some 6), (0, some 4), [3]⟩
  | .keyOnce _ => ⟨(3, none), (4, none), (3, none), [0]⟩
  | .recvSent => ⟨(3, none), (4, none), (3, none), [0]⟩
  | .dropSent => ⟨(3, none), (4, none), (3, none), [0]⟩
  | .samePayload => ⟨(3, none), (4, none), (3, none), [0]⟩
  | .recvOrDrop => ⟨(3, none), (4, none), (3, none), [0]⟩
  | .sendSeen => ⟨(3, none), (4, none), (3, none), [0]⟩
  | .lineageOnce => ⟨(3, none), (4, none), (3, none), [0]⟩
  | .parentReadable => ⟨(3, none), (4, none), (3, none), [0]⟩
  | .globalHops => ⟨(3, none), (4, none), (3, none), [0]⟩
  | .globalOrigin _ => ⟨(3, none), (4, none), (3, none), [0]⟩
  | .parentInCluster => ⟨(3, none), (4, none), (3, none), [0]⟩
  | _ => ⟨(3, none), (4, none), (3, none), []⟩

theorem allInvariants_read :
    (allInvariants.all fun invariant =>
      reading invariant.format = some invariant.reading) = true := by
  decide +kernel

theorem Invariant.reading_eq (invariant : Invariant) :
    Tool.reading invariant.format = some invariant.reading :=
  of_decide_eq_true (List.all_eq_true.mp allInvariants_read invariant (mem_allInvariants invariant))

/-! ## The slots of the messages -/

/-- The numbers in the message. -/
def Violation.numbers : Violation → List Nat
  | .seqNext expected got => [expected, got]
  | .seedSame seq expected got => [seq, expected, got]
  | .effectGap seq _ seenSeq => [seq, seenSeq]
  | .timerActor seq _ _ _ seenSeq => [seq, seenSeq]
  | .timerGap seq _ _ seenSeq => [seq, seenSeq]
  | .spawnOnce seq _ _ => [seq]
  | .spawnSame seq _ _ _ => [seq]
  | .known _ seq _ => [seq]
  | .notDropped seq _ _ _ => [seq]
  | .sourced seq _ _ => [seq]
  | .fieldValid seq _ _ => [seq]
  | .payloadDecodes seq _ _ => [seq]
  | .hasProvenance seq _ => [seq]
  | .rootOrigin seq _ _ => [seq]
  | .rootParentMsg seq _ _ => [seq]
  | .rootParentNode seq _ _ _ => [seq]
  | .rootOriginNode seq _ _ _ => [seq]
  | .rootOriginService seq _ _ _ => [seq]
  | .parentNotSelf seq _ => [seq]
  | .parentHops seq _ hops _ _ previous => [seq, hops, previous]
  | .parentOrigin seq _ _ _ _ => [seq]
  | .parentOriginNode seq _ _ _ _ => [seq]
  | .parentOriginService seq _ _ _ _ => [seq]
  | .effectMatches seq pending _ _ _ => [seq, pending.seq]
  | .effectAfterDeliver seq => [seq]
  | .declaredOnce seq => [seq]
  | .observedOnce seq => [seq]
  | .observedDeclared seq _ _ => [seq]
  | .timerEnd seq _ => [seq]
  | .deliverEnd seq => [seq]
  | .traceHasNode _ => []
  | .traceOneNode _ _ => []
  | .keyOnce _ _ first second => [first.2, second.2]
  | .recvSent _ recv => [recv.2]
  | .dropSent _ drop => [drop.2]
  | .samePayload _ send recv => [send.2, recv.2]
  | .recvOrDrop _ => []
  | .sendSeen _ => []
  | .lineageOnce _ first second => [first.2, second.2]
  | .parentReadable _ item _ => [item.2]
  | .globalHops _ item hops _ _ parentItem previous => [item.2, hops, parentItem.2, previous]
  | .globalOrigin _ item _ _ _ _ => [item.2]
  | .parentInCluster _ item _ => [item.2]

theorem length_toString {n : Nat} (small : n ≤ u64Max) : (toString n).toList.length ≤ 20 := by
  rw [Nat.toString_eq_ofList_toDigits, String.toList_ofList]
  have bound : u64Max < 10 ^ 20 := by decide
  exact (Nat.length_toDigits_le_iff (by decide) (by decide)).mpr (by omega)

section Slots

variable {V : Type} {tool : ToolHost V} {cells : Format} {texts : List (List Char)}

theorem slots_chars (chars : List Char) :
    Slots (SlotText tool) (chars.map .char ++ cells) texts ↔ Slots (SlotText tool) cells texts := by
  induction chars with
  | nil => exact Iff.rfl
  | cons c chars ih => exact ih

theorem slots_lit (fixed : String) {chars : List Char} (spells : String.ofList chars = fixed) :
    Slots (SlotText tool) (lit fixed cells spells) texts ↔ Slots (SlotText tool) cells texts :=
  slots_chars chars

theorem slots_word (fixed : String) :
    Slots (SlotText tool) (word fixed cells) texts ↔ Slots (SlotText tool) cells texts :=
  slots_chars fixed.toList

theorem slots_nil : Slots (SlotText tool) [] [] ↔ True := Iff.rfl

theorem slots_number {n : Nat} (small : n ≤ u64Max) :
    Slots (SlotText tool) (number cells) ((toString n).toList :: texts) ↔
      Slots (SlotText tool) cells texts :=
  and_iff_right ⟨(fun uuid => by cases uuid), fun _ => length_toString small⟩

theorem slots_positive {n : Nat} (small : n ≤ u64Max) :
    Slots (SlotText tool) (positive cells) ((toString n).toList :: texts) ↔
      Slots (SlotText tool) cells texts :=
  and_iff_right ⟨(fun uuid => by cases uuid), fun _ => length_toString small⟩

theorem slots_uuid (reads : ReadsUuids tool) (id : Uuid) :
    Slots (SlotText tool) (uuid cells) ((tool.uuidToString id).toList :: texts) ↔
      Slots (SlotText tool) cells texts :=
  and_iff_right ⟨(fun _ => .printed reads id), fun number => by cases number⟩

theorem slots_effects (value : List Char) :
    Slots (SlotText tool) (effects cells) (value :: texts) ↔ Slots (SlotText tool) cells texts :=
  and_iff_right ⟨(fun uuid => by cases uuid), fun number => by cases number⟩

theorem slots_nodeList (value : List Char) :
    Slots (SlotText tool) (nodeList cells) (value :: texts) ↔ Slots (SlotText tool) cells texts :=
  and_iff_right ⟨(fun uuid => by cases uuid), fun number => by cases number⟩

theorem slots_text (value : List Char) :
    Slots (SlotText tool) (text cells) (value :: texts) ↔ Slots (SlotText tool) cells texts :=
  and_iff_right ⟨(fun uuid => by cases uuid), fun number => by cases number⟩

/-- Every value fits its slot. -/
theorem Violation.slots (reads : ReadsUuids tool) (violation : Violation)
    (small : ∀ n ∈ violation.numbers, n ≤ u64Max) :
    Slots (SlotText tool) violation.invariant.format (violation.slotTexts tool) := by
  unfold Invariant.format
  cases violation <;>
    simp only [Violation.numbers, List.mem_cons, List.not_mem_nil, or_false, forall_eq_or_imp,
      forall_eq] at small <;>
    simp only [small, slotTexts, Violation.texts, keyTexts, lineageTexts, placeTexts, invariant,
      delivered, place, clusterKey, lineageKey, lineageRecordAt, timerFiredAt,
      List.cons_append, List.nil_append, List.map_cons, List.map_nil, slots_lit, slots_word,
      slots_number, slots_positive, slots_uuid reads, slots_effects, slots_nodeList, slots_text,
      slots_nil]

end Slots

/-! ## The fields of a problem -/

section Fields

variable {V : Type} {tool : ToolHost V}

/-- The message from the last separator before its first quoted text on. -/
def Violation.quotedTail (tool : ToolHost V) (violation : Violation) : List Char :=
  tailText violation.invariant.format (violation.slotTexts tool)

theorem Violation.told (reads : ReadsUuids tool) (violation : Violation)
    (small : ∀ n ∈ violation.numbers, n ≤ u64Max) :
    Told tool (violation.slotTexts tool) (violation.message tool).toList
      (violation.quotedTail tool) violation.invariant.reading :=
  told_of_reading reads (violation.filled reads.prints) (violation.slots reads small)
    violation.invariant.reading_eq

theorem distinct_extends (out texts : List String) :
    ∃ more, texts.foldl (fun out uuid => if uuid ∈ out then out else out ++ [uuid]) out =
      out ++ more := by
  induction texts generalizing out with
  | nil => exact ⟨[], (List.append_nil out).symm⟩
  | cons text texts ih =>
      rw [List.foldl_cons]
      split
      · exact ih out
      · obtain ⟨more, same⟩ := ih (out ++ [text])
        exact ⟨text :: more, by rw [same, List.append_assoc, List.singleton_append]⟩

theorem extractAllUuids_first (host : Host V) (problem : List Char) :
    (extractAllUuids host problem)[0]? = (rawUuids host problem).head? := by
  unfold extractAllUuids
  cases rawUuids host problem with
  | nil => rfl
  | cons first rest =>
      obtain ⟨more, same⟩ := distinct_extends [first] rest
      have enter : (first :: rest).foldl
          (fun out uuid => if uuid ∈ out then out else out ++ [uuid]) [] = [first] ++ more := same
      rw [enter]
      rfl

/-- A text behind the lead in which no UUID is found. -/
structure Quiet (tool : ToolHost V) (text : List Char) : Prop where
  markers : ∀ markers, extractFirst tool.toHost text markers = none
  uuids : rawUuids tool.toHost text = []

/-- Every part without a character that ends a token is shorter than a UUID. -/
def Brief (text : List Char) : Prop :=
  ∀ part, part <:+: text → (∀ c ∈ part, endsToken c = false) → part.length < 32

theorem Brief.nil : Brief [] := fun part inside _ => by
  rw [List.infix_nil.mp inside]
  decide

theorem Brief.append {left right : List Char} {d : Char} (ends : endsToken d = true)
    (first : Brief left) (later : Brief right) : Brief (left ++ d :: right) := by
  intro part inside free
  rcases infix_append_cases inside with ⟨start, suffix, starts⟩ | inside
  · have within : part <+: start := by
      by_cases short : part.length ≤ start.length
      · exact List.prefix_of_prefix_length_le starts (List.prefix_append _ _) short
      · -- The separator would be in the part.
        have longer : start ++ [d] <+: part := by
          refine List.prefix_of_prefix_length_le ⟨right, ?_⟩ starts ?_
          · rw [List.append_assoc, List.singleton_append]
          · rw [List.length_append, List.length_singleton]
            omega
        have plain := free d (longer.subset (List.mem_append_right _ List.mem_cons_self))
        cases ends.symm.trans plain
    exact first part (within.isInfix.trans suffix.isInfix) free
  · rcases List.infix_cons_iff.mp inside with starts | behind
    · cases part with
      | nil => decide
      | cons c part =>
          obtain ⟨rfl, -⟩ := List.cons_prefix_cons.mp starts
          cases ends.symm.trans (free c List.mem_cons_self)
    · exact later part behind free

end Fields

end UcoStack.Tool
