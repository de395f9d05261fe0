/-! The fewest decimal digits that name a binary number. A finite positive double is `m * 2 ^ q`;
the reals that round to it form an interval around it, closed when `m` is even. For one digit, two
digits and so on up to seventeen, the neighbours of the number on the grid of that many digits are
compared with the interval in exact integer arithmetic: the first grid with a neighbour inside wins,
of two neighbours inside the nearer one, and of two equally near the even one. -/

namespace ToolSchema.Decimal

/-- A decimal number `digits * 10 ^ exponent`. -/
structure Scaled where
  digits : Nat
  exponent : Int
  deriving DecidableEq, Repr

/-- A positive number `mantissa * 2 ^ exponent`. At the bottom of a binade (`narrowBelow`) the next
smaller number is only half as far away as the next larger one. -/
structure Binary where
  mantissa : Nat
  exponent : Int
  narrowBelow : Bool
  deriving DecidableEq, Repr

namespace Binary

/-- The number times four as a fraction, so that the ends of its interval are whole multiples of the
same unit. -/
def quadrupleNumerator (b : Binary) : Nat := 4 * b.mantissa * Nat.pow 2 b.exponent.toNat

def denominator (b : Binary) : Nat := Nat.pow 2 (-b.exponent).toNat

/-- The lower end of the interval, in quarters of the last binary place. -/
def lowerQuarters (b : Binary) : Nat :=
  if b.narrowBelow then 4 * b.mantissa - 1 else 4 * b.mantissa - 2

def upperQuarters (b : Binary) : Nat := 4 * b.mantissa + 2

/-- Whether `10 ^ e` is at most the number. -/
def tenPowLe (b : Binary) (e : Int) : Bool :=
  decide (Nat.pow 10 e.toNat * (4 * b.denominator) ≤
    b.quadrupleNumerator * Nat.pow 10 (-e).toNat)

/-- The largest `e` with `10 ^ e` at most the number, looked for from an estimate by the number of
binary digits. -/
def decimalExponent (b : Binary) : Int :=
  let estimate := (Int.ofNat (Nat.log2 b.mantissa) + b.exponent) * 30103 / 100000 - 1
  if b.tenPowLe (estimate + 3) then estimate + 3
  else if b.tenPowLe (estimate + 2) then estimate + 2
  else if b.tenPowLe (estimate + 1) then estimate + 1
  else estimate

/-- The factor that turns a count of grid steps `10 ^ k` into the unit of `gridQuarters`. -/
def gridUnit (b : Binary) (k : Int) : Nat :=
  4 * Nat.pow 10 k.toNat * Nat.pow 2 (-b.exponent).toNat

/-- A number of quarters of the last binary place in the unit of `gridUnit`. -/
def gridQuarters (b : Binary) (k : Int) (quarters : Nat) : Nat :=
  quarters * Nat.pow 2 b.exponent.toNat * Nat.pow 10 (-k).toNat

/-- Whether `count * 10 ^ k` rounds to the number. -/
def covers (b : Binary) (k : Int) (count : Nat) : Bool :=
  let point := count * b.gridUnit k
  let low := b.gridQuarters k b.lowerQuarters
  let high := b.gridQuarters k b.upperQuarters
  if b.mantissa % 2 = 0 then decide (low ≤ point ∧ point ≤ high)
  else decide (low < point ∧ point < high)

/-- The nearest multiple of `10 ^ k` that rounds to the number. -/
def onGrid? (b : Binary) (k : Int) : Option Scaled :=
  let unit := b.gridUnit k
  let value := b.gridQuarters k (4 * b.mantissa)
  let below := value / unit
  let remainder := 2 * (value % unit)
  let nearer := if remainder < unit ∨ (remainder = unit ∧ below % 2 = 0) then below else below + 1
  let farther := if nearer = below then below + 1 else below
  if b.covers k nearer then some ⟨nearer, k⟩
  else if b.covers k farther then some ⟨farther, k⟩
  else none

end Binary

namespace Scaled

/-- The same number without trailing zeros in its digits; `fuel` bounds their count. -/
def trim : Nat → Scaled → Scaled
  | 0, d => d
  | fuel + 1, d =>
    if d.digits ≠ 0 ∧ d.digits % 10 = 0 then trim fuel ⟨d.digits / 10, d.exponent + 1⟩ else d

end Scaled

/-- The shortest decimal that rounds to the number, without trailing zeros. -/
def shortest (b : Binary) : Scaled :=
  let top := b.decimalExponent
  let found := (List.range 17).findSome? fun n : Nat => b.onGrid? (top - n)
  (found.getD ⟨b.mantissa, 0⟩).trim 20

/-- What the bits of a double stand for. -/
inductive Reading where
  | nan
  | infinite (negative : Bool)
  | zero (negative : Bool)
  | finite (negative : Bool) (size : Binary)
  deriving DecidableEq, Repr

def fractionSize : Nat := Nat.pow 2 52

def exponentSize : Nat := Nat.pow 2 11

/-- Sign in the top bit, then eleven bits of exponent and fifty-two of fraction. -/
def Reading.ofBits (bits : UInt64) : Reading :=
  let fraction := bits.toNat % fractionSize
  let high := bits.toNat / fractionSize
  let exponent := high % exponentSize
  let negative := decide (exponentSize ≤ high)
  if exponent + 1 = exponentSize then
    if fraction = 0 then .infinite negative else .nan
  else if exponent = 0 then
    if fraction = 0 then .zero negative else .finite negative ⟨fraction, -1074, false⟩
  else
    .finite negative ⟨fractionSize + fraction, Int.ofNat exponent - 1075,
      decide (fraction = 0 ∧ 1 < exponent)⟩

/-- How a decimal is laid out: positional when its first digit stands for a power of ten between
`lowest` and `highest`, and otherwise with an exponent of at least two digits. -/
structure Style where
  lowest : Int
  highest : Int

/-- Powers from `10 ^ -4` to `10 ^ 15` are written positionally. -/
def plain : Style := ⟨-4, 15⟩

def digitChars (n : Nat) : List Char := Nat.toDigits 10 n

/-- The text of a decimal: a whole number keeps `.0`, and an exponent its sign. -/
def Style.render (s : Style) (d : Scaled) : List Char :=
  let digits := digitChars d.digits
  let leading : Int := Int.ofNat digits.length + d.exponent - 1
  if s.lowest ≤ leading ∧ leading ≤ s.highest then
    if 0 ≤ d.exponent then
      digits ++ List.replicate d.exponent.toNat '0' ++ ['.', '0']
    else if 0 ≤ leading then
      let whole := (leading + 1).toNat
      digits.take whole ++ '.' :: digits.drop whole
    else
      '0' :: '.' :: List.replicate (-leading - 1).toNat '0' ++ digits
  else
    let power := digitChars leading.natAbs
    let padded := if power.length < 2 then '0' :: power else power
    let fraction := match digits.drop 1 with
      | [] => []
      | rest => '.' :: rest
    digits.take 1 ++ fraction ++ 'e' :: (if leading < 0 then '-' else '+') :: padded

end ToolSchema.Decimal
