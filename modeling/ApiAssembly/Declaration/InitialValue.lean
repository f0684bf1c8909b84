import ApiAssembly.Scan.Literal
/-! Initial values of parameters, as source text states them: a literal, or a product or quotient
of two numbers, one of which may be the ratio of a circle's circumference to its diameter. -/
namespace ApiAssembly.InitialValue
open Scan Text

def circleRatioName : List Char := "Math.PI".toList

def circleRatio : Decimal := Decimal.ofScientific false 3141592653589793 (-15)

def isNumeral (c : Char) : Bool := c.isDigit || c = '.'

def operandText? (signed : Bool) (cs : List Char) : Option (List Char × List Char) :=
  if circleRatioName.isPrefixOf cs then some (circleRatioName, cs.drop circleRatioName.length)
  else
    let (sign, rest) := match cs with
      | '-' :: rest => if signed then (['-'], rest) else ([], cs)
      | _ => ([], cs)
    let digits := rest.takeWhile isNumeral
    if digits.isEmpty then none else some (sign ++ digits, rest.dropWhile isNumeral)

/-- A number may lie beyond the greatest fraction; only dividing by it leaves a finite value. -/
inductive Operand where
  | finite (value : Decimal)
  | beyond (negative : Bool)

def operand? (cs : List Char) : Option Operand :=
  if cs = circleRatioName then some (.finite circleRatio)
  else
    (Decimal.scientific? cs).map fun (negative, digits, power) =>
      match Decimal.rounded? negative digits power with
      | some value => .finite value
      | none => .beyond negative

def product? : Operand → Operand → Option Decimal
  | .finite left, .finite right => left.mul? right
  | _, _ => none

def quotient? : Operand → Operand → Option Decimal
  | .finite left, .finite right => left.div? right
  | .finite left, .beyond negative => some (.zero (left.negative != negative))
  | _, _ => none

def finite? : Operand → Option Decimal
  | .finite value => some value
  | .beyond _ => none

def expression? (cs : List Char) : Option Decimal := do
  let (text, rest) ← operandText? true (trimStart cs)
  match trimStart rest with
  | [] => finite? (← operand? text)
  | sign :: rest =>
    if sign = '*' || sign = '/' then
      let (second, rest) ← operandText? false (trimStart rest)
      if (trimStart rest).isEmpty then
        let left ← operand? text
        let right ← operand? second
        if sign = '*' then product? left right else quotient? left right
      else none
    else none

def read? (cs : List Char) : Option Json :=
  let text := trim cs
  match literal? text with
  | some value => some value
  | none => (expression? text).map fun value => .num (.real value)

end ApiAssembly.InitialValue
