import UcoStack.Runtime.Message

/-!
# A concrete host

JSON documents of the two levels that runtime messages need and the hyphenated
hexadecimal text of UUIDs.  `jsonHost` makes the model executable;
`jsonHost_lawful` shows that it has the properties the development asks of a
host.
-/

namespace UcoStack.Runtime

/-! ## UUID texts -/

namespace UuidText

def hexDigits : List Char :=
  ['0', '1', '2', '3', '4', '5', '6', '7', '8', '9', 'a', 'b', 'c', 'd', 'e', 'f']

def hexDigit (value : Nat) : Char := hexDigits.getD value '0'

def hexValue? (c : Char) : Option Nat := hexDigits.idxOf? c

/-- The lowest `width` hexadecimal digits of a number. -/
def digits : (width : Nat) → Nat → List Char
  | 0, _ => []
  | width + 1, value => digits width (value / 16) ++ [hexDigit (value % 16)]

def readDigits (acc : Nat) : List Char → Option Nat
  | [] => some acc
  | c :: rest =>
      match hexValue? c with
      | none => none
      | some value => readDigits (16 * acc + value) rest

/-- Cut a list into groups of the given sizes and a last one, joined by hyphens. -/
def hyphenate : List Nat → List Char → List Char
  | [], cs => cs
  | size :: sizes, cs => cs.take size ++ '-' :: hyphenate sizes (cs.drop size)

def unhyphenate : List Nat → List Char → Option (List Char)
  | [], cs => some cs
  | size :: sizes, cs =>
      match cs.drop size with
      | '-' :: rest => (unhyphenate sizes rest).map (cs.take size ++ ·)
      | _ => none

def groupSizes : List Nat := [8, 4, 4, 4]

def print (id : Uuid) : String := String.ofList (hyphenate groupSizes (digits 32 id.toNat))

def parse (text : String) : Option Uuid :=
  match unhyphenate groupSizes text.toList with
  | none => none
  | some cs => if cs.length = 32 then (readDigits 0 cs).map (BitVec.ofNat 128) else none

theorem hexValue?_hexDigit {value : Nat} (bound : value < 16) :
    hexValue? (hexDigit value) = some value := by
  have every : ∀ digit : Fin 16, hexValue? (hexDigit digit) = some digit.val := by decide
  exact every ⟨value, bound⟩

theorem digits_length (width value : Nat) : (digits width value).length = width := by
  induction width generalizing value with
  | zero => rfl
  | succ width ih => rw [digits, List.length_append, ih, List.length_singleton]

theorem readDigits_append (acc : Nat) (left right : List Char) :
    readDigits acc (left ++ right) = (readDigits acc left).bind fun acc => readDigits acc right := by
  induction left generalizing acc with
  | nil => rfl
  | cons c rest ih =>
      simp only [List.cons_append, readDigits]
      split
      · rfl
      · exact ih _

theorem readDigits_digits (width acc value : Nat) :
    readDigits acc (digits width value) = some (16 ^ width * acc + value % 16 ^ width) := by
  induction width generalizing value with
  | zero => simp [digits, readDigits, Nat.mod_one]
  | succ width ih =>
      have last : readDigits (16 ^ width * acc + value / 16 % 16 ^ width)
          [hexDigit (value % 16)] =
          some (16 * (16 ^ width * acc + value / 16 % 16 ^ width) + value % 16) := by
        rw [readDigits, hexValue?_hexDigit (Nat.mod_lt value (by decide))]
        rfl
      rw [digits, readDigits_append, ih]
      refine last.trans (congrArg some ?_)
      rw [Nat.pow_succ', Nat.mod_mul, Nat.mul_assoc]
      omega

theorem unhyphenate_hyphenate (sizes : List Nat) (cs : List Char)
    (enough : sizes.sum ≤ cs.length) : unhyphenate sizes (hyphenate sizes cs) = some cs := by
  induction sizes generalizing cs with
  | nil => rfl
  | cons size sizes ih =>
      rw [List.sum_cons] at enough
      have taken : (cs.take size).length = size := List.length_take_of_le (by omega)
      have rest := ih (cs.drop size) (by rw [List.length_drop]; omega)
      simp only [hyphenate, unhyphenate]
      rw [List.drop_append_of_le_length (Nat.le_of_eq taken.symm),
        List.drop_of_length_le (Nat.le_of_eq taken), List.nil_append]
      simp only [rest, Option.map_some]
      rw [List.take_append_of_le_length (Nat.le_of_eq taken.symm),
        List.take_of_length_le (Nat.le_of_eq taken), List.take_append_drop]

theorem parse_print (id : Uuid) : parse (print id) = some id := by
  have length := digits_length 32 id.toNat
  unfold parse print
  rw [String.toList_ofList, unhyphenate_hyphenate groupSizes _ (by rw [length]; decide)]
  simp only [length, if_true, readDigits_digits]
  have bound : id.toNat < 16 ^ 32 := id.isLt
  rw [Nat.mul_zero, Nat.zero_add, Nat.mod_eq_of_lt bound]
  simp

theorem unhyphenate_chars {sizes : List Nat} {cs out : List Char}
    (read : unhyphenate sizes cs = some out) :
    out.length ≤ cs.length ∧ ∀ c ∈ cs, c = '-' ∨ c ∈ out := by
  induction sizes generalizing cs out with
  | nil =>
      cases read
      exact ⟨Nat.le_refl _, fun c member => .inr member⟩
  | cons size sizes ih =>
      rw [unhyphenate] at read
      split at read
      · rename_i rest behind
        obtain ⟨later, found, rfl⟩ := Option.map_eq_some_iff.mp read
        obtain ⟨short, chars⟩ := ih found
        have whole := List.take_append_drop size cs
        rw [behind] at whole
        refine ⟨?_, fun c member => ?_⟩
        · have lengths := congrArg List.length whole
          rw [List.length_append, List.length_cons] at lengths
          rw [List.length_append]
          omega
        · rw [← whole] at member
          rcases List.mem_append.mp member with front | back
          · exact .inr (List.mem_append_left _ front)
          · rcases List.mem_cons.mp back with rfl | inside
            · exact .inl rfl
            · exact (chars c inside).imp_right (List.mem_append_right _)
      · cases read

theorem readDigits_chars {acc value : Nat} {cs : List Char}
    (read : readDigits acc cs = some value) : ∀ c ∈ cs, c ∈ hexDigits := by
  induction cs generalizing acc with
  | nil => exact fun c member => by cases member
  | cons c cs ih =>
      rw [readDigits] at read
      split at read
      · cases read
      · rename_i digit found
        intro d member
        rcases List.mem_cons.mp member with rfl | inside
        · by_contra absent
          cases found.symm.trans (List.idxOf?_eq_none_iff.mpr absent)
        · exact ih read d inside

theorem parse_chars {text : String} {id : Uuid} (read : parse text = some id) :
    32 ≤ text.toList.length ∧ ∀ c ∈ text.toList, c = '-' ∨ c ∈ hexDigits := by
  unfold parse at read
  split at read
  · cases read
  · rename_i cs found
    obtain ⟨short, chars⟩ := unhyphenate_chars found
    split at read
    · rename_i length
      obtain ⟨value, digits, _⟩ := Option.map_eq_some_iff.mp read
      exact ⟨length ▸ short, fun c member =>
        (chars c member).imp_right (readDigits_chars digits c)⟩
    · cases read

end UuidText

/-! ## JSON documents -/

inductive JsonScalar where
  | null
  | number (value : Nat)
  | string (value : String)
  deriving DecidableEq, Repr

inductive JsonField where
  | scalar (value : JsonScalar)
  | object (fields : List (String × JsonScalar))
  deriving DecidableEq, Repr

/-- A JSON object as its list of fields. -/
abbrev JsonDoc := List (String × JsonField)

namespace JsonDoc

def ofProvenance (prov : Provenance) : JsonField :=
  .object
    [("origin_node", .string prov.originNode), ("origin_service", .string prov.originService),
      ("origin_msg_id", .string prov.originMsgId), ("parent_node", .string prov.parentNode),
      ("parent_msg_id", .string prov.parentMsgId), ("hops", .number prov.hops)]

def ofMessage (msg : RuntimeMessage) : JsonDoc :=
  [("type", .scalar (.string msg.msgType)), ("from_node", .scalar (.string msg.fromNode)),
    ("from_service", .scalar (.string msg.fromService)), ("text", .scalar (.string msg.text)),
    ("provenance",
      match msg.provenance with
      | none => .scalar .null
      | some prov => ofProvenance prov)]

def stringField (doc : JsonDoc) (key : String) : Option String :=
  match doc.lookup key with
  | some (.scalar (.string value)) => some value
  | _ => none

def stringEntry (fields : List (String × JsonScalar)) (key : String) : Option String :=
  match fields.lookup key with
  | some (.string value) => some value
  | _ => none

def numberEntry (fields : List (String × JsonScalar)) (key : String) : Option Nat :=
  match fields.lookup key with
  | some (.number value) => if value ≤ u64Max then some value else none
  | _ => none

def toProvenance (fields : List (String × JsonScalar)) : Option Provenance := do
  let originNode ← stringEntry fields "origin_node"
  let originService ← stringEntry fields "origin_service"
  let originMsgId ← stringEntry fields "origin_msg_id"
  let parentNode ← stringEntry fields "parent_node"
  let parentMsgId ← stringEntry fields "parent_msg_id"
  let hops ← numberEntry fields "hops"
  pure ⟨originNode, originService, originMsgId, parentNode, parentMsgId, hops⟩

/-- An absent or null provenance is none. -/
def provenanceField (doc : JsonDoc) : Option (Option Provenance) :=
  match doc.lookup "provenance" with
  | none => some none
  | some (.scalar .null) => some none
  | some (.object fields) => (toProvenance fields).map some
  | some _ => none

def toMessage (doc : JsonDoc) : Option RuntimeMessage := do
  let msgType ← doc.stringField "type"
  let fromNode ← doc.stringField "from_node"
  let fromService ← doc.stringField "from_service"
  let text ← doc.stringField "text"
  let provenance ← doc.provenanceField
  pure ⟨msgType, fromNode, fromService, text, provenance⟩

theorem toMessage_ofMessage (msg : RuntimeMessage) (representable : msg.Representable) :
    toMessage (ofMessage msg) = some msg := by
  obtain ⟨msgType, fromNode, fromService, text, provenance⟩ := msg
  cases provenance with
  | none => rfl
  | some prov =>
      have hops : prov.hops ≤ u64Max := representable prov rfl
      have number : numberEntry [("hops", .number prov.hops)] "hops" = some prov.hops := by
        change (if prov.hops ≤ u64Max then some prov.hops else none) = some prov.hops
        rw [if_pos hops]
      change ((numberEntry [("hops", .number prov.hops)] "hops").bind fun hops =>
          some (⟨prov.originNode, prov.originService, prov.originMsgId, prov.parentNode,
            prov.parentMsgId, hops⟩ : Provenance)).map some >>= _ = _
      rw [number]
      rfl

end JsonDoc

/-! ## The host -/

/-- Version 5 identifiers (object-identifier namespace) of some service names. -/
def knownNames : List (String × Uuid) :=
  [("System", 0xf47def1ed6c852a7b6ff347a650e69cf), ("Gateway", 0x965e1b0203eb56feb20e3a4852a7eb2c),
    ("Echo", 0xce6fe1f9b711580dafed86f1624a84da)]

def jsonHost : Host JsonDoc where
  uuidToString := UuidText.print
  uuidParse := UuidText.parse
  uuidV5 := fun name => (knownNames.lookup name).getD 0
  toValue := JsonDoc.ofMessage
  fromValue := JsonDoc.toMessage

theorem jsonHost_lawful : jsonHost.Lawful := by
  have decoding : jsonHost.fromValue = JsonDoc.toMessage := rfl
  have encoding : jsonHost.toValue = JsonDoc.ofMessage := rfl
  have parsing : jsonHost.uuidParse = UuidText.parse := rfl
  have printing : jsonHost.uuidToString = UuidText.print := rfl
  constructor
  · intro id
    rw [parsing, printing]
    exact UuidText.parse_print id
  · rw [parsing]
    rfl
  · intro msg representable
    rw [decoding, encoding]
    exact JsonDoc.toMessage_ofMessage msg representable

end UcoStack.Runtime
