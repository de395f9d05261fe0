import ToolSchema.TypeExpr.Shape

/-! The whole of a type expression. Level by level a type expression leads through arrays and maps
to a leaf, the only place where a name has a meaning outside the expression. `descend` names the
levels on the way, outermost first, or the first level that is malformed or keyed by something other
than text. -/

namespace ToolSchema.TypeExpr

inductive Level where
  | array
  | map
  deriving DecidableEq, Repr

/-- Where a type expression ends: its levels, outermost first, and the leaf as it is written and as
a name. -/
structure Leaf where
  levels : List Level
  written : List Char
  name : List Char
  deriving DecidableEq, Repr

/-- Why a type expression has no leaf; the level at fault is given as it is written. -/
inductive Fault where
  | malformed (level : List Char) (why : Malformation)
  | foreignKey (level : List Char)
  deriving DecidableEq, Repr

/-- The only type of the keys of a map. -/
def keyType : List Char := "String".toList

def Leaf.under (level : Level) (leaf : Leaf) : Leaf := { leaf with levels := level :: leaf.levels }

def descend (text : List Char) : Except Fault Leaf :=
  match h : shape text with
  | .error why => .error (.malformed text why)
  | .ok ⟨.named name, _⟩ => .ok ⟨[], text, name⟩
  | .ok ⟨.array element, _⟩ =>
    have := length_lt_of_shape_array h
    (descend element).map (Leaf.under .array)
  | .ok ⟨.map key value, _⟩ =>
    have := length_lt_of_shape_map h
    if key = keyType then (descend value).map (Leaf.under .map) else .error (.foreignKey text)
termination_by text.length

end ToolSchema.TypeExpr
