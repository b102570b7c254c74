import UcoStack.Lang.WellFormed

/-!
# Writing service-language modules

The documented concrete syntax: one declaration or action on each line, the
scope of sends and timers spelled out, and every name, template and node target
in double quotes.  The tokenizer reads a written line back as its words.
-/

namespace UcoStack.Lang

/-! ## Words and lines -/

/-- One word of a line, as it is written. -/
inductive Word where
  | bare (text : String)
  | quoted (text : String)
  | node (raw : String)
  deriving DecidableEq, Repr

def escape (c : Char) : List Char := if c = '"' ∨ c = '\\' then ['\\', c] else [c]

def quote (text : String) : List Char := '"' :: (text.toList.flatMap escape ++ ['"'])

namespace Word

def chars : Word → List Char
  | bare text => text.toList
  | quoted text => quote text
  | node raw => "node:".toList ++ quote raw

/-- The token a word is read as. -/
def token : Word → String
  | bare text => text
  | quoted text => text
  | node raw => "node:" ++ raw

/-- Words the tokenizer can tell apart. -/
def Plain : Word → Prop
  | bare text => text ≠ "" ∧ ∀ c ∈ text.toList, isWhitespace c = false ∧ c ≠ '"'
  | quoted text => Clean text
  | node raw => Clean raw

instance : (word : Word) → Decidable word.Plain
  | bare text =>
      @instDecidableAnd (text ≠ "") _ _ (text.toList.decidableBAll _)
  | quoted text => inferInstanceAs (Decidable (Clean text))
  | node raw => inferInstanceAs (Decidable (Clean raw))

end Word

def writeWords (words : List Word) : List Char :=
  [' '].intercalate (words.map Word.chars)

theorem writeWords_cons (word next : Word) (words : List Word) :
    writeWords (word :: next :: words) = word.chars ++ ' ' :: writeWords (next :: words) := by
  simp [writeWords, List.intercalate_cons_cons]

def number (value : Int) : Word := .bare (toString value)

/-! ## Declarations -/

def RemoteTarget.word : RemoteTarget → Word
  | .peers => .bare "peers"
  | .sender => .bare "sender"
  | .node raw => .node raw

def ActionDecl.words : ActionDecl → List Word
  | .log template => [.bare "log", .quoted template]
  | .setState key value => [.bare "set", .quoted key, number value]
  | .incState key amount => [.bare "inc", .quoted key, number amount]
  | .timerLocal steps service message template =>
      [.bare "timer", number steps, .bare "local", .quoted service, .quoted message,
        .quoted template]
  | .timerRemote steps target service message template =>
      [.bare "timer", number steps, .bare "remote", target.word, .quoted service,
        .quoted message, .quoted template]
  | .sendLocal service message template =>
      [.bare "send", .bare "local", .quoted service, .quoted message, .quoted template]
  | .sendRemote target service message template =>
      [.bare "send", .bare "remote", target.word, .quoted service, .quoted message,
        .quoted template]
  | .ifStateEq key value thenAction =>
      .bare "if" :: .quoted key :: .bare "==" :: number value :: thenAction.words

def StateDecl.words (state : StateDecl) : List Word :=
  [.bare "state", .quoted state.name, .bare "=", number state.initial]

def effectsWords (effects : List HandlerEffect) : List Word :=
  .bare "effects" :: effects.map fun effect => .bare effect.spelling

def HandlerDecl.lines (handler : HandlerDecl) : List (List Word) :=
  [.bare "on", .quoted handler.on] :: effectsWords handler.effects ::
    handler.actions.map ActionDecl.words

def ServiceDecl.lines (service : ServiceDecl) : List (List Word) :=
  [.bare "service", .quoted service.name] ::
    (service.states.map StateDecl.words ++ service.handlers.flatMap HandlerDecl.lines)

def Module.lines (module : Module) : List (List Word) :=
  module.services.flatMap ServiceDecl.lines

/-- The text of a module, every line ended by a line break. -/
def writeModule (module : Module) : String :=
  String.ofList (module.lines.flatMap fun words => writeWords words ++ ['\n'])

/-! ## Reading words back -/

section Tokens

variable {lineNo : Nat} {cur rest : List Char} {out : List String}

theorem tokenizeLoop_escaped (cs : List Char) :
    tokenizeLoop lineNo true cur out (cs.flatMap escape ++ '"' :: rest) =
      tokenizeLoop lineNo false (cur ++ cs) out rest := by
  induction cs generalizing cur with
  | nil => simp [tokenizeLoop]
  | cons c cs ih =>
      rw [List.flatMap_cons]
      by_cases special : c = '"' ∨ c = '\\'
      · simp only [escape, if_pos special, List.cons_append, List.nil_append]
        rw [tokenizeLoop, ih, List.append_assoc, List.singleton_append]
      · rw [escape, if_neg special, List.cons_append, List.cons_append, List.nil_append,
          tokenizeLoop, ih, List.append_assoc, List.singleton_append]
        · exact fun same => special (.inl same)
        · exact fun same _ => special (.inr same)
        · exact fun _ _ same _ => special (.inr same)

theorem tokenizeLoop_quote (text : String) :
    tokenizeLoop lineNo false cur out (quote text ++ rest) =
      tokenizeLoop lineNo false (cur ++ text.toList) out rest := by
  rw [quote, List.cons_append, tokenizeLoop, List.append_assoc, List.singleton_append]
  exact tokenizeLoop_escaped text.toList

theorem tokenizeLoop_bare {cs : List Char}
    (plain : ∀ c ∈ cs, isWhitespace c = false ∧ c ≠ '"') :
    tokenizeLoop lineNo false cur out (cs ++ rest) =
      tokenizeLoop lineNo false (cur ++ cs) out rest := by
  induction cs generalizing cur with
  | nil => simp
  | cons c cs ih =>
      obtain ⟨⟨solid, unquoted⟩, others⟩ := List.forall_mem_cons.mp plain
      rw [List.cons_append, tokenizeLoop, if_neg (by simp [solid]), ih others, List.append_assoc,
        List.singleton_append]
      exact unquoted

theorem tokenizeLoop_word {word : Word} (plain : word.Plain) :
    tokenizeLoop lineNo false cur out (word.chars ++ rest) =
      tokenizeLoop lineNo false (cur ++ word.token.toList) out rest := by
  cases word with
  | bare text => exact tokenizeLoop_bare plain.2
  | quoted text => exact tokenizeLoop_quote text
  | node raw =>
      have marker : ∀ c ∈ "node:".toList, isWhitespace c = false ∧ c ≠ '"' :=
        (by decide : (Word.bare "node:").Plain).2
      rw [Word.chars, List.append_assoc, tokenizeLoop_bare marker, tokenizeLoop_quote,
        Word.token, String.toList_append, List.append_assoc]

theorem Word.Plain.token_nonempty {word : Word} (plain : word.Plain) : word.token ≠ "" := by
  cases word with
  | bare text => exact plain.1
  | quoted text => exact plain.1
  | node raw =>
      intro empty
      have sameChars := congrArg String.toList empty
      simp [token] at sameChars

theorem tokenizeLoop_writeWords {words : List Word} (plain : ∀ word ∈ words, word.Plain) :
    tokenizeLoop lineNo false [] out (writeWords words) = .ok (out ++ words.map Word.token) := by
  induction words generalizing out with
  | nil => simp [writeWords, tokenizeLoop]
  | cons word words ih =>
      obtain ⟨first, others⟩ := List.forall_mem_cons.mp plain
      have solid : word.token.toList.isEmpty = false := by
        simpa using first.token_nonempty
      cases words with
      | nil =>
          have read : tokenizeLoop lineNo false [] out (word.chars ++ []) = _ :=
            tokenizeLoop_word first
          rw [writeWords, List.map_singleton, List.intercalate_singleton,
            ← List.append_nil word.chars, read, List.nil_append, tokenizeLoop,
            if_neg (by simp [solid]), String.ofList_toList, List.map_singleton]
      | cons next words =>
          have blank : isWhitespace ' ' = true := by decide
          rw [writeWords_cons, tokenizeLoop_word first, List.nil_append, tokenizeLoop, if_pos blank,
            if_neg (by simp [solid]), ih others, String.ofList_toList, List.append_assoc,
            List.singleton_append]
          · rfl
          · exact fun same => by cases same

/-- A written line is read back as its words. -/
theorem tokenize_writeWords {words : List Word} (plain : ∀ word ∈ words, word.Plain) :
    tokenize (writeWords words) lineNo = .ok (words.map Word.token) :=
  tokenizeLoop_writeWords plain

end Tokens

/-! ## Numbers -/

theorem digits_foldlM {cs : List Char} (digits : ∀ c ∈ cs, c.isDigit = true) (acc : Nat) :
    cs.foldlM (fun n c => if c.isDigit then some (10 * n + (c.toNat - 48)) else none) acc =
      some (Nat.ofDigitChars 10 cs acc) := by
  induction cs generalizing acc with
  | nil => rfl
  | cons c cs ih =>
      obtain ⟨first, others⟩ := List.forall_mem_cons.mp digits
      rw [List.foldlM_cons, if_pos first, Nat.ofDigitChars_cons]
      exact ih others _

theorem parseDigits_toDigits (n : Nat) : parseDigits (Nat.toDigits 10 n) = some n := by
  have digits : ∀ c ∈ Nat.toDigits 10 n, c.isDigit = true := fun c member =>
    Nat.isDigit_of_mem_toDigits (by decide) (by decide) member
  have read := digits_foldlM digits 0
  rw [Nat.ofDigitChars_ten_toDigits] at read
  unfold parseDigits
  split
  · rename_i empty
    exact absurd empty Nat.toDigits_ne_nil
  · exact read

theorem chars_ofNat (n : Nat) : (toString (Int.ofNat n)).toList = Nat.toDigits 10 n :=
  Nat.toList_repr

theorem chars_negSucc (n : Nat) :
    (toString (Int.negSucc n)).toList = '-' :: Nat.toDigits 10 (n + 1) := by
  change ("-" ++ (n + 1).repr).toList = _
  rw [String.toList_append, Nat.toList_repr]
  rfl

theorem toDigits_head (n : Nat) : ∃ c cs, Nat.toDigits 10 n = c :: cs ∧ c.isDigit = true := by
  cases digits : Nat.toDigits 10 n with
  | nil => exact absurd digits Nat.toDigits_ne_nil
  | cons c cs =>
      refine ⟨c, cs, rfl, Nat.isDigit_of_mem_toDigits ?_ ?_ (digits ▸ List.mem_cons_self)⟩ <;>
        decide

theorem parseU64_toString {n : Nat} (range : n < 2 ^ 64) :
    parseU64 (toString (Int.ofNat n)) = some n := by
  obtain ⟨c, cs, digits, isDigit⟩ := toDigits_head n
  have read := parseDigits_toDigits n
  unfold parseU64
  rw [chars_ofNat, digits]
  rw [digits] at read
  split
  · rename_i rest same
    cases same
    cases isDigit
  · exact Option.bind_eq_some_iff.mpr ⟨n, read, if_pos range⟩

theorem parseI64_toString {value : Int} (range : IsI64 value) :
    parseI64 (toString value) = some value := by
  cases value with
  | ofNat n =>
      obtain ⟨c, cs, digits, isDigit⟩ := toDigits_head n
      have read := parseDigits_toDigits n
      unfold parseI64
      rw [chars_ofNat, digits]
      rw [digits] at read
      split
      · rename_i rest same
        cases same
        cases isDigit
      · rename_i rest same
        cases same
        cases isDigit
      · apply Option.bind_eq_some_iff.mpr
        exact ⟨n, Option.map_eq_some_iff.mpr ⟨n, read, rfl⟩, if_pos range⟩
  | negSucc n =>
      have read := parseDigits_toDigits (n + 1)
      unfold parseI64
      rw [chars_negSucc]
      apply Option.bind_eq_some_iff.mpr
      refine ⟨Int.negSucc n, Option.map_eq_some_iff.mpr ⟨Int.ofNat (n + 1), ?_, rfl⟩,
        if_pos range⟩
      exact Option.bind_eq_some_iff.mpr ⟨n + 1, read, rfl⟩

theorem digit_solid {c : Char} (digit : c.isDigit = true) :
    isWhitespace c = false ∧ c ≠ '"' := by
  obtain ⟨low, high⟩ := Char.isDigit_iff_toNat.mp digit
  change 48 ≤ c.toNat at low
  change c.toNat ≤ 57 at high
  constructor
  · simp only [isWhitespace, Bool.or_eq_false_iff, Bool.and_eq_false_iff, decide_eq_false_iff_not,
      beq_eq_false_iff_ne, ne_eq]
    omega
  · rintro rfl
    cases digit

theorem number_plain (value : Int) : (number value).Plain := by
  have digits (n : Nat) : ∀ c ∈ Nat.toDigits 10 n, isWhitespace c = false ∧ c ≠ '"' :=
    fun c member => digit_solid (Nat.isDigit_of_mem_toDigits (by decide) (by decide) member)
  have nonempty {cs : List Char} (chars : (toString value).toList = cs) (some : cs ≠ []) :
      toString value ≠ "" := by
    intro empty
    rw [empty] at chars
    exact some chars.symm
  cases value with
  | ofNat n =>
      refine ⟨nonempty (chars_ofNat n) Nat.toDigits_ne_nil, ?_⟩
      rw [chars_ofNat]
      exact digits n
  | negSucc n =>
      refine ⟨nonempty (chars_negSucc n) (List.cons_ne_nil _ _), ?_⟩
      rw [chars_negSucc]
      exact List.forall_mem_cons.mpr ⟨by decide, digits (n + 1)⟩

/-! ## Written lines -/

/-- Text that neither splitting into lines nor trimming changes. -/
structure LineText (cs : List Char) : Prop where
  oneLine : '\n' ∉ cs
  head : ∃ c rest, cs = c :: rest ∧ isWhitespace c = false
  last : ∃ front c, cs = front ++ [c] ∧ isWhitespace c = false

theorem LineText.append {left right : List Char} (first : LineText left)
    (second : LineText right) : LineText (left ++ ' ' :: right) := by
  obtain ⟨c, rest, rfl, solid⟩ := first.head
  obtain ⟨front, d, rfl, solid'⟩ := second.last
  refine ⟨?_, ⟨c, rest ++ ' ' :: (front ++ [d]), rfl, solid⟩,
    ⟨c :: rest ++ ' ' :: front, d, by simp, solid'⟩⟩
  simp only [List.mem_append, List.mem_cons, not_or]
  have left := first.oneLine
  have right := second.oneLine
  simp only [List.mem_append, List.mem_cons, not_or] at left right
  exact ⟨left, by decide, right⟩

theorem quote_oneLine {text : String} (clean : '\n' ∉ text.toList) : '\n' ∉ quote text := by
  have escaped : ∀ c, '\n' ∈ escape c → c = '\n' := by
    intro c member
    unfold escape at member
    split at member <;> simp at member <;> exact member.symm
  simp only [quote, List.mem_cons, List.mem_append, List.mem_flatMap, not_or]
  refine ⟨by decide, ?_, by decide, List.not_mem_nil⟩
  rintro ⟨c, member, inside⟩
  exact clean (escaped c inside ▸ member)

theorem Word.Plain.lineText {word : Word} (plain : word.Plain) : LineText word.chars := by
  cases word with
  | bare text =>
      obtain ⟨nonempty, solid⟩ := plain
      have chars : text.toList ≠ [] := by simpa using nonempty
      refine ⟨?_, ?_, ?_⟩
      · intro member
        cases (solid '\n' member).1
      · obtain ⟨c, rest, same⟩ := List.exists_cons_of_ne_nil chars
        exact ⟨c, rest, same, (solid c (by simp [same])).1⟩
      · refine ⟨text.toList.dropLast, text.toList.getLast chars,
          (List.dropLast_concat_getLast chars).symm, ?_⟩
        exact (solid _ (List.getLast_mem chars)).1
  | quoted text =>
      exact ⟨quote_oneLine plain.2, ⟨'"', _, rfl, by decide⟩,
        ⟨'"' :: text.toList.flatMap escape, '"', rfl, by decide⟩⟩
  | node raw =>
      refine ⟨?_, ⟨'n', _, rfl, by decide⟩,
        ⟨"node:".toList ++ '"' :: raw.toList.flatMap escape, '"', ?_, by decide⟩⟩
      · rw [chars, List.mem_append, not_or]
        exact ⟨by decide, quote_oneLine plain.2⟩
      · simp [chars, quote]

theorem writeWords_lineText {words : List Word} (nonempty : words ≠ [])
    (plain : ∀ word ∈ words, word.Plain) : LineText (writeWords words) := by
  induction words with
  | nil => exact absurd rfl nonempty
  | cons word words ih =>
      obtain ⟨first, others⟩ := List.forall_mem_cons.mp plain
      cases words with
      | nil => simpa [writeWords] using first.lineText
      | cons next words =>
          rw [writeWords_cons]
          exact first.lineText.append (ih (by simp) others)

theorem LineText.trim_eq {cs : List Char} (text : LineText cs) : trim cs = cs := by
  obtain ⟨c, rest, split, solid⟩ := text.head
  obtain ⟨front, d, split', solid'⟩ := text.last
  have fromFront : cs.dropWhile isWhitespace = cs := by
    rw [split, List.dropWhile_cons_of_neg (by simp [solid])]
  have fromBack : cs.reverse.dropWhile isWhitespace = cs.reverse := by
    rw [split', List.reverse_append, List.reverse_singleton, List.singleton_append,
      List.dropWhile_cons_of_neg (by simp [solid'])]
  rw [trim, fromFront, fromBack, List.reverse_reverse]

theorem LineText.dropCarriageReturn_eq {cs : List Char} (text : LineText cs) :
    dropCarriageReturn cs = cs := by
  obtain ⟨front, c, rfl, solid⟩ := text.last
  apply if_neg
  intro ending
  rw [List.getLast?_concat] at ending
  cases ending
  cases solid

theorem splitOn_written {texts : List (List Char)} (each : ∀ text ∈ texts, LineText text) :
    (texts.flatMap (· ++ ['\n'])).splitOn '\n' = texts ++ [[]] := by
  induction texts with
  | nil => rfl
  | cons text texts ih =>
      obtain ⟨first, others⟩ := List.forall_mem_cons.mp each
      rw [List.flatMap_cons, List.append_assoc, List.singleton_append,
        List.splitOn_append_cons_self_of_not_mem first.oneLine, ih others, List.cons_append]

/-- Splitting a written text into lines gives back its lines. -/
theorem lines_written {texts : List (List Char)} (each : ∀ text ∈ texts, LineText text) :
    lines (texts.flatMap (· ++ ['\n'])) = texts := by
  have kept : texts.map dropCarriageReturn = texts := by
    rw [List.map_congr_left fun text member => (each text member).dropCarriageReturn_eq,
      List.map_id']
  unfold lines
  rw [splitOn_written each]
  dsimp only
  rw [List.dropLast_concat, List.getLast?_concat, kept]
  simp

end UcoStack.Lang
