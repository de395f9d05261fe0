/-! The machine that the program runs on. It has room for so many open containers of a JSON text, for
so many layers of a value that is shown, for so many directories that a search is inside of, for so
wide an indentation, and for so many columns of console text. -/

namespace ToolSchema

structure Machine where
  /-- The most containers of a JSON text that are open at once. -/
  nesting : Nat
  /-- A document of descriptors can be read: its fields are objects in a list of a record in a list. -/
  readsDocuments : 5 ≤ nesting
  /-- The most layers of a value that is shown. -/
  showing : Nat
  /-- A value without parts can be shown. -/
  showsScalars : 1 ≤ showing
  /-- The most directories that a search is inside of at once. -/
  directories : Nat
  /-- An indentation of this many blanks does not fit into memory. -/
  memory : Nat
  /-- The columns of the console. -/
  columns : Nat

namespace Machine

/-- A machine with room for deep documents and deep directories, and a console of usual width. -/
def usual : Machine where
  nesting := 960
  readsDocuments := by decide
  showing := 950
  showsScalars := by decide
  directories := 960
  memory := Nat.pow 2 36
  columns := 80

end Machine

end ToolSchema
