import ApiAssembly.Decimal.Nearest
/-! Reading numbers. A sign may come first; the point may stand before or behind all digits; a power
of ten may follow. Texts that are not read to their end are no numbers. -/
namespace ApiAssembly.Decimal

def digitsOf (digits : List Char) : Nat :=
  digits.foldl (fun total c => total * 10 + (c.toNat - '0'.toNat)) 0

def sign : List Char → Bool × List Char
  | '-' :: rest => (true, rest)
  | '+' :: rest => (false, rest)
  | rest => (false, rest)

def integer? (cs : List Char) : Option Int :=
  let (negative, digits) := sign cs
  if digits.isEmpty || !digits.all Char.isDigit then none
  else some (if negative then -(digitsOf digits : Int) else digitsOf digits)

def power? : List Char → Option Int
  | [] => some 0
  | c :: rest => if c = 'e' || c = 'E' then integer? rest else none

/-- Sign, digits and power of ten as written. -/
def scientific? (cs : List Char) : Option (Bool × Nat × Int) := do
  let (negative, rest) := sign cs
  let whole := rest.takeWhile Char.isDigit
  let rest := rest.dropWhile Char.isDigit
  let (fraction, rest) := match rest with
    | '.' :: rest => (rest.takeWhile Char.isDigit, rest.dropWhile Char.isDigit)
    | rest => ([], rest)
  if whole.isEmpty && fraction.isEmpty then none
  else
    let power ← power? rest
    pure (negative, digitsOf (whole ++ fraction), power - fraction.length)

def read? (cs : List Char) : Option Decimal := do
  let (negative, digits, power) ← scientific? cs
  rounded? negative digits power

end ApiAssembly.Decimal
