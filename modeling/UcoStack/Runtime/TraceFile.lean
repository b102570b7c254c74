import Mathlib.Data.List.Basic
import UcoStack.Library.LineRecords
import UcoStack.Runtime.Event

/-!
# Trace files and connections

Events are written to the trace file one a line, and an envelope is the one line of a
connection of its own.  A line is read only if it is UTF-8, whatever it says.  How the
values look as JSON is left to the codec.
-/

namespace UcoStack.Runtime

/-- How values are written as JSON, and read from the bytes of a line. -/
structure JsonCodec (X : Type) where
  toBytes : X → List UInt8
  fromBytes : List UInt8 → Option X

def newline : UInt8 := 10

/-- Whether `read_line` can keep the bytes in a string; ASCII needs no decoding. -/
def isUtf8 (line : List UInt8) : Bool :=
  line.all (· < 128) || line.toByteArray.validateUTF8

theorem utf8EncodeChar_ofUInt8 {byte : UInt8} (ascii : byte < 128) :
    String.utf8EncodeChar (Char.ofUInt8 byte) = [byte] := by
  have small : byte.toNat < 128 := ascii
  have size : (Char.ofUInt8 byte).utf8Size = 1 := by
    rw [Char.utf8Size_eq_one_iff]
    change byte.toUInt32 ≤ 127
    rw [UInt32.le_iff_toNat_le, UInt8.toNat_toUInt32]
    exact Nat.le_of_lt_succ small
  rw [String.utf8EncodeChar_eq_singleton size]
  change [byte.toUInt32.toUInt8] = [byte]
  rw [UInt8.toUInt8_toUInt32]

theorem isValidUTF8_of_ascii {line : List UInt8} (ascii : ∀ byte ∈ line, byte < 128) :
    line.toByteArray.IsValidUTF8 := by
  have chars : (line.map Char.ofUInt8).flatMap String.utf8EncodeChar = line := by
    induction line with
    | nil => rfl
    | cons byte line ih =>
        rw [List.map_cons, List.flatMap_cons,
          utf8EncodeChar_ofUInt8 (ascii byte List.mem_cons_self),
          ih fun later member => ascii later (List.mem_cons_of_mem byte member)]
        rfl
  exact ⟨line.map Char.ofUInt8, congrArg List.toByteArray chars.symm⟩

theorem isUtf8_iff {line : List UInt8} : isUtf8 line = true ↔ line.toByteArray.IsValidUTF8 := by
  rw [isUtf8, Bool.or_eq_true, ByteArray.validateUTF8_eq_true_iff, List.all_eq_true]
  refine or_iff_right_of_imp fun ascii => isValidUTF8_of_ascii fun byte member => ?_
  exact of_decide_eq_true (ascii byte member)

theorem isUtf8_append {left right : List UInt8} (first : isUtf8 left = true)
    (second : isUtf8 right = true) : isUtf8 (left ++ right) = true := by
  rw [isUtf8_iff] at first second ⊢
  rw [List.toByteArray_append]
  exact first.append second

/-- What a line is read as: `read_line`, and then `from_str`. -/
def JsonCodec.fromLine {X : Type} (codec : JsonCodec X) (line : List UInt8) : Option X :=
  if isUtf8 line then codec.fromBytes line else none

def JsonCodec.lines {X : Type} (codec : JsonCodec X) : LineFormat UInt8 X :=
  ⟨newline, codec.toBytes, codec.fromLine⟩

/-! ## Trace files -/

section Traces

variable {V : Type} (codec : JsonCodec (TraceEvent V))

/-- The bytes written so far; the file holds a part of them until they are flushed. -/
structure TraceWriter where
  bytes : List UInt8

def TraceWriter.create : TraceWriter := ⟨[]⟩

def TraceWriter.write (writer : TraceWriter) (ev : TraceEvent V) : TraceWriter :=
  ⟨writer.bytes ++ codec.toBytes ev ++ [newline]⟩

/-- The failures of `TraceReader::next` on an opened file. -/
inductive ReadError where
  | readTraceLine
  | parseTraceJson
  deriving DecidableEq, Repr

/-- The failure on a line that is no event. -/
def ReadError.ofLine (line : List UInt8) : ReadError :=
  if isUtf8 line then .parseTraceJson else .readTraceLine

structure TraceReader where
  rest : List UInt8

def TraceReader.next (reader : TraceReader) :
    Except ReadError (Option (TraceEvent V)) × TraceReader :=
  let line := readLine newline reader.rest
  if !isUtf8 line.1 then (.error .readTraceLine, ⟨line.2⟩)
  else if line.1 = [] then (.ok none, ⟨line.2⟩)
  else
    match codec.fromBytes line.1 with
    | none => (.error .parseTraceJson, ⟨line.2⟩)
    | some ev => (.ok (some ev), ⟨line.2⟩)

/-- `read_events` of the tool, on an opened file of at most `fuel` bytes. -/
def readEventsLoop : Nat → TraceReader → List (TraceEvent V) →
    Except ReadError (List (TraceEvent V))
  | 0, _, events => .ok events
  | fuel + 1, reader, events =>
      match reader.next codec with
      | (.error error, _) => .error error
      | (.ok none, _) => .ok events
      | (.ok (some ev), reader) => readEventsLoop fuel reader (events ++ [ev])

def readEvents (file : List UInt8) : Except ReadError (List (TraceEvent V)) :=
  readEventsLoop codec file.length ⟨file⟩ []

variable {codec}

/-- Every event is ended by a line end. -/
theorem traceWriter_bytes (events : List (TraceEvent V)) :
    (events.foldl (TraceWriter.write codec) .create).bytes = codec.lines.writeAll events := by
  have run (writer : TraceWriter) : (events.foldl (TraceWriter.write codec) writer).bytes =
      writer.bytes ++ codec.lines.writeAll events := by
    induction events generalizing writer with
    | nil => exact (List.append_nil _).symm
    | cons ev rest ih =>
        rw [List.foldl_cons, ih, TraceWriter.write, LineFormat.writeAll, LineFormat.writeAll,
          List.flatMap_cons, List.append_assoc, List.append_assoc]
        rw [LineFormat.write, List.append_assoc]
        rfl
  exact run .create

theorem readLine_empty {α : Type} [DecidableEq α] {sep : α} {input : List α} :
    (readLine sep input).1 = [] ↔ input = [] := by
  cases input with
  | nil => exact ⟨fun _ => rfl, fun _ => rfl⟩
  | cons a rest =>
      refine iff_of_false ?_ (List.cons_ne_nil a rest)
      rw [readLine]
      split
      · exact List.cons_ne_nil a []
      · exact List.cons_ne_nil a _

/-- One line of a file that has one. -/
theorem TraceReader.next_eq {rest : List UInt8} (nonempty : rest ≠ []) :
    TraceReader.next codec ⟨rest⟩ = ((codec.fromLine (readLine newline rest).1).elim
      (.error (.ofLine (readLine newline rest).1)) fun ev => .ok (some ev),
        ⟨(readLine newline rest).2⟩) := by
  rw [TraceReader.next, JsonCodec.fromLine, ReadError.ofLine]
  dsimp only
  cases text : isUtf8 (readLine newline rest).1 with
  | false => rfl
  | true =>
      rw [if_neg (by decide), if_neg (mt readLine_empty.mp nonempty), if_pos rfl, if_pos rfl]
      cases codec.fromBytes (readLine newline rest).1 with
      | none => rfl
      | some ev => rfl

/-- The loop of `read_events` reads the lines of the file, or fails at the first line that
is no event. -/
theorem readEvents_eq (file : List UInt8) : readEvents codec file =
    if (codec.lines.readAll file).2 = [] then .ok (codec.lines.readAll file).1
    else .error (.ofLine (readLine newline (codec.lines.readAll file).2).1) := by
  have run (fuel : Nat) (rest : List UInt8) (enough : rest.length ≤ fuel)
      (events : List (TraceEvent V)) : readEventsLoop codec fuel ⟨rest⟩ events =
        if (codec.lines.readAll rest).2 = [] then .ok (events ++ (codec.lines.readAll rest).1)
        else .error (.ofLine (readLine newline (codec.lines.readAll rest).2).1) := by
    induction fuel generalizing rest events with
    | zero =>
        cases List.eq_nil_of_length_eq_zero (Nat.le_zero.mp enough)
        rw [LineFormat.readAll_nil, readEventsLoop, if_pos rfl, List.append_nil]
    | succ fuel ih =>
        rw [readEventsLoop]
        by_cases nothing : rest = []
        · subst nothing
          rw [LineFormat.readAll_nil, if_pos rfl, List.append_nil]
          rfl
        · have shorter : (readLine newline rest).2.length ≤ fuel :=
            Nat.le_of_lt_succ ((readLine_shorter newline nothing).trans_le enough)
          rw [TraceReader.next_eq nothing]
          cases decoded : codec.fromLine (readLine newline rest).1 with
          | none =>
              rw [codec.lines.readAll_broken nothing rfl decoded, if_neg nothing]
              rfl
          | some ev =>
              rw [codec.lines.readAll_of_decode nothing rfl decoded]
              dsimp only [Option.elim]
              rw [ih _ shorter, List.append_assoc]
              rfl
  exact run file.length file (Nat.le_refl _) []

/-- What a writer has written in full is read back. -/
theorem readEvents_written {events : List (TraceEvent V)}
    (safe : ∀ ev ∈ events, codec.lines.Safe ev) :
    readEvents codec (events.foldl (TraceWriter.write codec) .create).bytes = .ok events := by
  have lines := LineFormat.readAll_writeAll safe []
  rw [List.append_nil, LineFormat.readAll_nil, List.append_nil] at lines
  rw [traceWriter_bytes, readEvents_eq, lines]
  rfl

/-- Reading fails at the event that is torn. -/
theorem readEvents_torn {events before : List (TraceEvent V)} {file torn : List UInt8}
    (safe : ∀ ev ∈ events, codec.lines.Safe ev)
    (ends : codec.lines.TornAt events file before torn) :
    readEvents codec file = .error (.ofLine torn) := by
  obtain ⟨ev, reaches, inside, short⟩ := ends.inside
  have next := safe ev (reaches.subset (List.mem_append_right _ List.mem_cons_self))
  have earlier : ∀ ev ∈ before, codec.lines.Safe ev := fun ev member =>
    safe ev (reaches.subset (List.mem_append_left _ member))
  have oneLine : newline ∉ torn := fun here => next.oneLine (inside.subset here)
  rw [ends.lines, readEvents_eq, LineFormat.readAll_writeAll earlier,
    LineFormat.readAll_torn next ends.nonempty inside short]
  dsimp only
  rw [if_neg ends.nonempty, readLine_last newline oneLine]

/-- The events of a trace file that was cut off anywhere, or the failure at its last line:
the line of an event, torn. -/
theorem readEvents_cut {events : List (TraceEvent V)}
    (safe : ∀ ev ∈ events, codec.lines.Safe ev) {file : List UInt8}
    (cut : file <+: (events.foldl (TraceWriter.write codec) .create).bytes) :
    ∃ before, before <+: events ∧
      ((readEvents codec file = .ok before ∧
          (file = codec.lines.writeAll before ∨
            file ++ [newline] = codec.lines.writeAll before)) ∨
        ∃ torn, readEvents codec file = .error (.ofLine torn) ∧
          codec.lines.TornAt events file before torn) := by
  rw [traceWriter_bytes] at cut
  obtain ⟨before, inside, ⟨read, ends⟩ | ⟨torn, -, ends⟩⟩ := LineFormat.readAll_cut safe cut
  · refine ⟨before, inside, .inl ⟨?_, ends⟩⟩
    rw [readEvents_eq, read]
    rfl
  · exact ⟨before, inside, .inr ⟨torn, readEvents_torn safe ends, ends⟩⟩

end Traces

/-! ## Connections -/

section Connections

variable {V : Type} (codec : JsonCodec (WireEnvelope V))

/-- What `send_envelope` writes to a new connection. -/
def envelopeBytes (env : WireEnvelope V) : List UInt8 := codec.toBytes env ++ [newline]

/-- `read_stream`: the envelopes passed on, and whether the connection ended without an
error. -/
def readStream (stream : List UInt8) : List (WireEnvelope V) × Bool :=
  ((codec.lines.readAll stream).1, (codec.lines.readAll stream).2.isEmpty)

variable {codec}

/-- However much of it arrives, a connection passes on its envelope or nothing. -/
theorem readStream_cut {env : WireEnvelope V} (safe : codec.lines.Safe env) {stream : List UInt8}
    (cut : stream <+: envelopeBytes codec env) :
    (readStream codec stream).1 = [] ∨ (readStream codec stream).1 = [env] := by
  have whole : envelopeBytes codec env = codec.lines.writeAll [env] :=
    (List.append_nil _).symm
  rw [whole] at cut
  have safeAll : ∀ other ∈ [env], codec.lines.Safe other := by
    intro other member
    cases List.mem_singleton.mp member
    exact safe
  obtain ⟨before, inside, read⟩ := LineFormat.readAll_cut safeAll cut
  have same : (readStream codec stream).1 = before := by
    rcases read with ⟨read, -⟩ | ⟨_, read, -⟩
    · exact congrArg Prod.fst read
    · exact congrArg Prod.fst read
  rw [same]
  cases before with
  | nil => exact .inl rfl
  | cons first rest =>
      obtain ⟨rfl, others⟩ := List.cons_prefix_cons.mp inside
      cases List.prefix_nil.mp others
      exact .inr rfl

end Connections

end UcoStack.Runtime
