import ToolSchema.Expression.Clause

/-! Functions without a name. Of their parameters those with a default come last, a slash ends those
that are given by position only, and a star begins those that are given by name only. -/

namespace ToolSchema.Expression.Grammar

open Reader

variable (rules : Rules)

def parameter : Reader Unit := do _ ← name

/-- A comma, or the colon that ends all parameters. -/
def parameterEnd : Reader Unit := choose [sign ",", ahead (sign ":")]

def default : Reader Unit := choose [
  do
    sign "="
    _ ← rules .expression,
  strictly (complain [
    do
      sign "="
      ahead (choose [sign ")", sign ","])
      return some (.parameters .noDefault)])]

def withoutDefault : Reader Unit := do
  parameter
  parameterEnd

def withDefault : Reader Unit := do
  parameter
  default rules
  parameterEnd

def withOrWithoutDefault : Reader Unit := do
  parameter
  _ ← attempt (default rules)
  parameterEnd

def slash : Reader Unit := do
  sign "/"
  parameterEnd

def slashAfterPlain : Reader Unit := do
  _ ← several withoutDefault
  slash

def slashAfterDefaults : Reader Unit := do
  _ ← many withoutDefault
  _ ← several (withDefault rules)
  slash

/-! ### Stars -/

def mistakenDoubleStar : Reader Unit := complain [
  do
    sign "**"
    parameter
    sign "="
    return some (.parameters .doubleStarDefault),
  do
    sign "**"
    parameter
    sign ","
    parameter
    return some (.parameters .afterDoubleStar),
  do
    sign "**"
    parameter
    sign ","
    choose [sign "*", sign "**", sign "/"]
    return some (.parameters .afterDoubleStar)]

def doubleStar : Reader Unit := choose [
  strictly mistakenDoubleStar,
  do
    sign "**"
    withoutDefault]

def mistakenStar : Reader Unit := complain [
  do
    sign "*"
    choose [
      sign ":",
      do
        sign ","
        choose [sign ":", sign "**"]]
    return some (.parameters .bareStar),
  do
    sign "*"
    parameter
    sign "="
    return some (.parameters .starDefault),
  do
    sign "*"
    choose [withoutDefault, sign ","]
    _ ← many (withOrWithoutDefault rules)
    sign "*"
    choose [withoutDefault, sign ","]
    return some (.parameters .starTwice)]

def star : Reader Unit := choose [
  strictly (mistakenStar rules),
  do
    sign "*"
    withoutDefault
    _ ← many (withOrWithoutDefault rules)
    _ ← attempt doubleStar,
  do
    sign "*"
    sign ","
    _ ← several (withOrWithoutDefault rules)
    _ ← attempt doubleStar,
  doubleStar]

/-! ### All parameters -/

def mistakenParameters : Reader Unit := complain [
  do
    _ ← many withoutDefault
    choose [slashAfterDefaults rules, do _ ← several (withDefault rules)]
    withoutDefault
    return some (.parameters .order),
  do
    _ ← many withoutDefault
    sign "("
    _ ← listed parameter
    sign ")"
    return some (.parameters .parenthesized),
  do
    sign "/"
    sign ","
    return some (.parameters .slashFirst),
  do
    choose [slashAfterPlain, slashAfterDefaults rules]
    _ ← many (withOrWithoutDefault rules)
    sign "/"
    return some (.parameters .slashTwice),
  do
    _ ← attempt (choose [slashAfterPlain, slashAfterDefaults rules])
    _ ← many (withOrWithoutDefault rules)
    sign "*"
    choose [sign ",", withoutDefault]
    _ ← many (withOrWithoutDefault rules)
    sign "/"
    return some (.parameters .slashAfterStar),
  do
    _ ← several (withOrWithoutDefault rules)
    sign "/"
    sign "*"
    return some (.parameters .noCommaAfterSlash)]

def parameters : Reader Unit := choose [
  strictly (mistakenParameters rules),
  do
    slashAfterPlain
    _ ← many withoutDefault
    _ ← many (withDefault rules)
    _ ← attempt (star rules),
  do
    slashAfterDefaults rules
    _ ← many (withDefault rules)
    _ ← attempt (star rules),
  do
    _ ← several withoutDefault
    _ ← many (withDefault rules)
    _ ← attempt (star rules),
  do
    _ ← several (withDefault rules)
    _ ← attempt (star rules),
  star rules]

def lambda : Reader Tree := do
  keyword "lambda"
  _ ← attempt (parameters rules)
  sign ":"
  _ ← rules .expression
  return .lambda

end ToolSchema.Expression.Grammar
