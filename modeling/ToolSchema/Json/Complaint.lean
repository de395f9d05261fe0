import ToolSchema.Json.Reader
import ToolSchema.Text.Lines

/-! What is said of text that is no JSON. A complaint names the first fault, which is found by what
may come next, and where it stands: its line, its column and its place in the text, whose lines end
with line feeds. A string is faulted where it opens if it does not end, and else at the character
that it may not have. -/

namespace ToolSchema.Json

inductive Fault where
  /-- No value where one is expected. -/
  | value
  | memberName
  | colon
  | comma
  /-- More text after the value. -/
  | surplus
  | openString
  | controlCharacter
  | escape
  | unitEscape
  /-- A mark of the order of bytes in front of the text. -/
  | byteOrderMark
  deriving DecidableEq, Repr

def Fault.text : Fault → String
  | .value => "Expecting value"
  | .memberName => "Expecting property name enclosed in double quotes"
  | .colon => "Expecting ':' delimiter"
  | .comma => "Expecting ',' delimiter"
  | .surplus => "Extra data"
  | .openString => "Unterminated string starting at"
  | .controlCharacter => "Invalid control character at"
  | .escape => "Invalid \\escape"
  | .unitEscape => "Invalid \\uXXXX escape"
  | .byteOrderMark => "Unexpected UTF-8 BOM (decode using utf-8-sig)"

structure Complaint where
  fault : Fault
  line : Nat
  column : Nat
  position : Nat
  deriving DecidableEq, Repr

namespace Complaint

def message (complaint : Complaint) : String :=
  s!"{complaint.fault.text}: line {complaint.line} column {complaint.column} " ++
    s!"(char {complaint.position})"

/-- The complaint about a fault at a position of a text. -/
def place (text : List Char) (fault : Fault) (position : Nat) : Complaint :=
  let before := text.take position
  ⟨fault, before.count '\n' + 1, (before.reverse.takeWhile (· ≠ '\n')).length + 1, position⟩

end Complaint

/-- The fault of a string, and its position. The text from `position` on is what follows the opening
quote or some sound part of the string. -/
def Token.stringFault (opening position : Nat) : List Char → Fault × Nat
  | '\\' :: 'u' :: a :: b :: c :: d :: next :: rest =>
    if (hexUnit? a b c d).isSome then stringFault opening (position + 6) (next :: rest)
    else (.unitEscape, position + 1)
  | '\\' :: 'u' :: _ => (.unitEscape, position + 1)
  | '\\' :: e :: rest =>
    if (shortEscape? e).isSome then stringFault opening (position + 2) rest
    else (.escape, position)
  | ['\\'] | [] => (.openString, opening)
  | c :: rest =>
    if c.toNat < 0x20 then (.controlCharacter, position)
    else stringFault opening (position + 1) rest

namespace ReadState

/-- The fault of a text that does not go on from a state. -/
def fault (state : ReadState) (position : Nat) (text : List Char) : Fault × Nat :=
  let orString (other : Fault) : Fault × Nat :=
    if text.head? = some '"' then Token.stringFault position (position + 1) text.tail
    else (other, position)
  match state.expected with
  | .value | .firstItem => orString .value
  | .firstKey | .key _ => orString .memberName
  | .colon _ _ => (.colon, position)
  | .follower _ => (if state.frames.isEmpty then .surplus else .comma, position)

/-- The first fault of a text that stands at a position. -/
def firstFault (state : ReadState) (position : Nat) (text : List Char) : Fault × Nat :=
  match text with
  | [] => state.fault position []
  | c :: rest =>
    if Token.isBlank c then state.firstFault (position + 1) rest
    else
      match h : Token.first? (c :: rest) with
      | none => state.fault position (c :: rest)
      | some (token, tail) =>
        have : tail.length ≤ rest.length := Nat.le_of_lt_succ (Token.length_first? h)
        match state.step token with
        | .error _ => state.fault position (c :: rest)
        | .ok next => next.firstFault (position + (rest.length + 1 - tail.length)) tail
termination_by text.length

end ReadState

/-- What is said of a text that is no JSON. -/
def complaint (text : String) : Complaint :=
  let characters := Text.withLineFeeds text.toList
  let (fault, position) :=
    if characters.head? = some '\uFEFF' then (.byteOrderMark, 0)
    else ReadState.start.firstFault 0 characters
  .place characters fault position

end ToolSchema.Json
