/-! Halves of characters. Text is made of characters, but JSON text can also write a code unit that is
one half of a pair and stands alone. Such a half is compared, counted and quoted like any other part
of a text, only it cannot be encoded, so nothing that holds one is ever written or shown. A half is
kept as two characters: a sign that is set aside for internal use and stands in no text that is
exchanged, and a character of private use that tells the half. -/

namespace ToolSchema.Text

/-- Whether a code unit is one half of a pair. -/
def isHalfUnit (unit : Nat) : Bool := 0xD800 ≤ unit && unit < 0xE000

/-- The sign in front of the character that tells a half. -/
def halfSign : Char := '\uFDD0'

/-- How far the characters that tell halves are from their code units. -/
def halfShift : Nat := 0x800

/-- The characters of a code unit that stands alone. -/
def ofUnit (unit : Nat) : List Char :=
  if isHalfUnit unit then [halfSign, Char.ofNat (unit + halfShift)] else [Char.ofNat unit]

/-- The code unit of the half that two characters keep. -/
def halfUnit? (sign told : Char) : Option Nat :=
  if sign = halfSign ∧ isHalfUnit (told.toNat - halfShift) then some (told.toNat - halfShift)
  else none

/-- Whether there is a half in a text. -/
def holdsHalf : List Char → Bool
  | sign :: told :: rest => (halfUnit? sign told).isSome || holdsHalf (told :: rest)
  | _ => false

end ToolSchema.Text
