/-! The limit on written numbers. A whole number of more digits than the limit is not read, and
everything that reads numbers says so in the same words. -/

namespace ToolSchema.Decimal

/-- The most digits a whole number may have. -/
def maxDigits : Nat := 4300

/-- What is said of a number of too many digits. -/
def overlongMessage (digits : Nat) : String :=
  s!"Exceeds the limit ({maxDigits} digits) for integer string conversion: " ++
    s!"value has {digits} digits; use sys.set_int_max_str_digits() to increase the limit"

end ToolSchema.Decimal
