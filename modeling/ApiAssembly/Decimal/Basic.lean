/-! Finite decimal fractions in lowest terms: a sign, digits without trailing zeros and a power of
ten. Each value has one such form apart from zero, which keeps its sign, so equality of values
is equality of forms. -/
namespace ApiAssembly

structure Decimal where
  negative : Bool
  digits : Nat
  exponent : Int
  lowest : digits % 10 ≠ 0 ∨ digits = 0 ∧ exponent = 0
deriving DecidableEq

namespace Decimal

def zero (negative : Bool) : Decimal := ⟨negative, 0, 0, .inr ⟨rfl, rfl⟩⟩

instance : Inhabited Decimal := ⟨zero false⟩

/-- Trailing zeros move into the power of ten. -/
def ofScientific (negative : Bool) (digits : Nat) (exponent : Int) : Decimal :=
  if absent : digits = 0 then zero negative
  else if divides : digits % 10 = 0 then ofScientific negative (digits / 10) (exponent + 1)
  else ⟨negative, digits, exponent, .inl divides⟩
termination_by digits
decreasing_by omega

def isZero (value : Decimal) : Bool := value.digits == 0

def digitCount (value : Nat) : Nat := (Nat.toDigits 10 value).length

/-- A style says where positional writing ends and how the power of ten is written beyond it. -/
structure Style where
  leastPoint : Int
  greatestPoint : Int
  plusSign : Bool

def powerText (style : Style) (power : Int) : List Char :=
  if power < 0 then '-' :: Nat.toDigits 10 power.natAbs
  else if style.plusSign then '+' :: Nat.toDigits 10 power.natAbs
  else Nat.toDigits 10 power.natAbs

def magnitudeText (style : Style) (digits : Nat) (exponent : Int) : List Char :=
  let text := Nat.toDigits 10 digits
  let point : Int := text.length + exponent
  if 0 ≤ exponent ∧ point ≤ style.greatestPoint then
    text ++ List.replicate exponent.toNat '0' ++ ['.', '0']
  else if 0 < point ∧ point ≤ style.greatestPoint then
    text.take point.toNat ++ '.' :: text.drop point.toNat
  else if style.leastPoint < point ∧ point ≤ 0 then
    '0' :: '.' :: List.replicate (-point).toNat '0' ++ text
  else
    text.take 1 ++ (if text.length = 1 then [] else '.' :: text.drop 1) ++
      'e' :: powerText style (point - 1)

def render (style : Style) (value : Decimal) : List Char :=
  let magnitude :=
    if value.isZero then ['0', '.', '0'] else magnitudeText style value.digits value.exponent
  if value.negative then '-' :: magnitude else magnitude

end Decimal
end ApiAssembly
