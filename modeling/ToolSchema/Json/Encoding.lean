import ToolSchema.Json.Writer

/-! Encoding of finished documents. An encoding chooses between text on one line and text in
indented lines, and whether the members of objects are put in order; every encoded document ends
with a line feed. Indentation is asked for as a number of blanks, as a text, or not at all; there is
none whose width is no number of 64 bits, and none of so many blanks that they do not fit into the
memory there is. -/

namespace ToolSchema.Json

inductive Indent where
  /-- Everything on one line, with blanks after commas and colons. -/
  | none
  /-- This many blanks per level; no blank at all below one. -/
  | blanks (width : Int)
  | text (unit : String)
  /-- Asked for as something that is neither. -/
  | unusable (kind : Kind)
  deriving DecidableEq, Repr

structure Encoding where
  pretty : Bool := false
  indent : Indent := .blanks 2
  sortKeys : Bool := true
  deriving DecidableEq, Repr

inductive EncodingError where
  /-- The width of the indentation is no number of 64 bits. -/
  | oversizedIndent
  /-- The indentation does not fit into memory. -/
  | exhausted
  | unusableIndent (kind : Kind)
  deriving DecidableEq, Repr

def EncodingError.message : EncodingError → String
  | .oversizedIndent => "cannot fit 'int' into an index-sized integer"
  | .exhausted => ""
  | .unusableIndent kind => s!"can't multiply sequence by non-int of type '{kind.label}'"

namespace Indent

/-- The indentation that a value asks for. -/
def ofJson : Json → Indent
  | .null => .none
  | .bool wide => .blanks (if wide then 1 else 0)
  | .int width => .blanks width
  | .str unit => .text unit
  | other => .unusable other.kind

def layout : Indent → Layout
  | .blanks width => .indented (List.replicate width.toNat ' ')
  | .text unit => .indented unit.toList
  | .none | .unusable _ => .spaced

def widthLimit : Int := Int.ofNat (Nat.pow 2 63)

/-- Why there is no such indentation in a memory that so many blanks do not fit into. -/
def error? (memory : Nat) : Indent → Option EncodingError
  | .blanks width =>
    if width < -widthLimit || widthLimit ≤ width then some .oversizedIndent
    else if memory ≤ width then some .exhausted
    else Option.none
  | .unusable kind => some (.unusableIndent kind)
  | .none | .text _ => Option.none

end Indent

namespace Encoding

def layout (encoding : Encoding) : Layout :=
  if encoding.pretty then encoding.indent.layout else .compact

/-- The document with its members in the order in which they are written. -/
def arrange (encoding : Encoding) (document : Json) : Json :=
  if encoding.sortKeys then document.sorted else document

/-- Why a document is not encoded. A string alone is never indented, so its indentation may be
any. -/
def error? (memory : Nat) (encoding : Encoding) (document : Json) : Option EncodingError :=
  if encoding.pretty && document.kind != .str then encoding.indent.error? memory else none

def encode (memory : Nat) (encoding : Encoding) (document : Json) : Except EncodingError String :=
  match encoding.error? memory document with
  | some error => .error error
  | none => .ok ((encoding.arrange document).write encoding.layout ++ "\n")

end Encoding

end ToolSchema.Json
