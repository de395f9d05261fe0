import ToolSchema.Json.Basic

/-! Asking values for their parts. Members are asked of objects only; what a value lists are the
items of an array, the characters of a string, or the names of the members of an object. Every value
says by its kind why it does not answer. -/

namespace ToolSchema.Json

inductive AccessError where
  | missing (key : String)
  /-- A value that has no members where a member is wanted. -/
  | notKeyed (kind : Kind)
  /-- A value that lists nothing where a list is wanted. -/
  | notIterable (kind : Kind)
  /-- A value that something is asked of which only other kinds of values can do. -/
  | lacks (kind : Kind) (ability : String)
  deriving DecidableEq, Repr

def AccessError.message : AccessError → String
  | .missing key => s!"'{key}'"
  | .notKeyed .arr => "list indices must be integers or slices, not str"
  | .notKeyed .str => "string indices must be integers, not 'str'"
  | .notKeyed kind => s!"'{kind.label}' object is not subscriptable"
  | .notIterable kind => s!"'{kind.label}' object is not iterable"
  | .lacks kind ability => s!"'{kind.label}' object has no attribute '{ability}'"

def member (data : Json) (key : String) : Except AccessError Json :=
  match data with
  | .obj members =>
    match Table.find? members key with
    | some value => .ok value
    | none => .error (.missing key)
  | other => .error (.notKeyed other.kind)

def elements : Json → Except AccessError (List Json)
  | .arr items => .ok items
  | .str text => .ok (text.toList.map fun c => .str (String.singleton c))
  | .obj members => .ok (members.map fun entry => .str entry.1)
  | other => .error (.notIterable other.kind)

/-- What a member lists; an absent member lists nothing. -/
def listMember (data : Json) (key : String) : Except AccessError (List Json) :=
  match data.member? key with
  | none => .ok []
  | some value => value.elements

/-- The members of a value that has to be an object. -/
def members : Json → Except AccessError (List (String × Json))
  | .obj members => .ok members
  | other => .error (.lacks other.kind "items")

end ToolSchema.Json
