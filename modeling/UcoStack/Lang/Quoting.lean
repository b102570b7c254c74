import UcoStack.Lang.Writer

/-!
# Lines of quoted words

Every word of the line stands in double quotes, and single spaces separate the
words.  A quote only switches the mode of the tokenizer; the buffer alone
decides at a blank whether a token ends there.
-/

namespace UcoStack.Lang

def writeQuoted (texts : List String) : List Char := [' '].intercalate (texts.map quote)

theorem writeQuoted_cons (text next : String) (texts : List String) :
    writeQuoted (text :: next :: texts) = quote text ++ ' ' :: writeQuoted (next :: texts) := by
  simp [writeQuoted, List.intercalate_cons_cons]

section Tokens

variable {lineNo : Nat} {rest : List Char} {out : List String}

/-- The finished tokens when the buffer is closed. -/
def closeBuffer (cur : List Char) (out : List String) : List String :=
  if cur.isEmpty then out else out ++ [String.ofList cur]

theorem closeBuffer_text (text : String) :
    closeBuffer text.toList out = out ++ [text].filter (· ≠ "") := by
  by_cases empty : text = ""
  · subst empty
    simp [closeBuffer]
  · have filled : text.toList.isEmpty = false := by simpa using empty
    rw [closeBuffer, if_neg (by simp [filled]), String.ofList_toList,
      List.filter_cons_of_pos (by simpa using empty), List.filter_nil]

theorem tokenizeLoop_end (cur : List Char) :
    tokenizeLoop lineNo false cur out [] = .ok (closeBuffer cur out) := by
  rw [tokenizeLoop, closeBuffer]

theorem tokenizeLoop_blank (cur : List Char) :
    tokenizeLoop lineNo false cur out (' ' :: rest) =
      tokenizeLoop lineNo false [] (closeBuffer cur out) rest := by
  have blank : isWhitespace ' ' = true := by decide
  rw [tokenizeLoop, if_pos blank, closeBuffer]
  · split <;> rfl
  · exact fun same => by cases same

theorem tokenizeLoop_writeQuoted (texts : List String) :
    tokenizeLoop lineNo false [] out (writeQuoted texts) =
      .ok (out ++ texts.filter (· ≠ "")) := by
  induction texts generalizing out with
  | nil => simp [writeQuoted, tokenizeLoop]
  | cons text texts ih =>
      have split : (text :: texts).filter (· ≠ "") =
          [text].filter (· ≠ "") ++ texts.filter (· ≠ "") := by
        rw [← List.filter_append, List.singleton_append]
      cases texts with
      | nil =>
          have read : tokenizeLoop lineNo false [] out (quote text ++ []) = _ :=
            tokenizeLoop_quote text
          rw [writeQuoted, List.map_singleton, List.intercalate_singleton,
            ← List.append_nil (quote text), read, List.nil_append, tokenizeLoop_end,
            closeBuffer_text]
      | cons next texts =>
          rw [writeQuoted_cons, tokenizeLoop_quote, List.nil_append, tokenizeLoop_blank,
            closeBuffer_text, ih, split, List.append_assoc]

/-- The tokens of a line of quoted words are the words that are not empty. -/
theorem tokenize_writeQuoted (texts : List String) :
    tokenize (writeQuoted texts) lineNo = .ok (texts.filter (· ≠ "")) :=
  tokenizeLoop_writeQuoted texts

/-- Quoted words are read back as they are exactly if none of them is empty. -/
theorem tokenize_quoted_iff (texts : List String) :
    tokenize (writeQuoted texts) lineNo = .ok texts ↔ "" ∉ texts := by
  rw [tokenize_writeQuoted, Except.ok.injEq, List.filter_eq_self]
  constructor
  · intro kept member
    exact absurd rfl (of_decide_eq_true (kept "" member))
  · intro absent text member
    apply decide_eq_true
    rintro rfl
    exact absent member

/-- An empty argument of an action is not there for the parser. -/
theorem parseAction_writeQuoted (texts : List String) (depth : Nat) :
    parseAction (writeQuoted texts) lineNo depth =
      parseAction (writeQuoted (texts.filter (· ≠ ""))) lineNo depth := by
  rw [parseAction, parseAction, tokenize_writeQuoted, tokenize_writeQuoted, List.filter_filter]
  simp only [Bool.and_self]

end Tokens

/-- The service of a local send is the empty string, and the message type is read as the
service. -/
theorem empty_argument_shifts :
    (∀ text ∈ ["send", "local", "", "Greet", "hi", "there"], '\n' ∉ text.toList) ∧
      tokenize (writeQuoted ["send", "local", "", "Greet", "hi", "there"]) 1 =
        .ok ["send", "local", "Greet", "hi", "there"] ∧
      parseAction (writeQuoted ["send", "local", "", "Greet", "hi", "there"]) 1 0 =
        .ok (.sendLocal "Greet" "hi" "there") ∧
      tokenize (writeQuoted ["send", "local", "", "Greet", "hi", "there"]) 1 ≠
        .ok ["send", "local", "", "Greet", "hi", "there"] := by
  refine ⟨by decide, tokenize_writeQuoted _, ?_, ?_⟩
  · rw [parseAction, tokenize_writeQuoted]
    rfl
  · rw [tokenize_writeQuoted]
    decide

end UcoStack.Lang
