import ApiAssembly.Decimal.Basic
/-! Binary fractions with 53 significant bits and the decimals that stand for them. A quotient is
rounded to the nearest such fraction, ties to the even one; a fraction is written back with the
fewest decimal digits that round to it again, and among those with the nearest ones. Nothing here
is approximate: every comparison is made between natural numbers. -/
namespace ApiAssembly

structure BinaryFraction where
  significand : Nat
  exponent : Int
deriving DecidableEq

namespace BinaryFraction

def leastExponent : Int := -1074

def greatestExponent : Int := 971

def hiddenBit : Nat := Nat.pow 2 52

/-- The numerator and denominator of num/den · base^(-power). -/
def scaleDown (num den base : Nat) (power : Int) : Nat × Nat :=
  (num * base.pow (-power).toNat, den * base.pow power.toNat)

/-- The power of two that leaves between 53 and 54 bits before the point, no
lower than the least. -/
def unitExponent (num den : Nat) : Int :=
  let guess : Int := (Nat.log2 num : Int) - Nat.log2 den - 52
  let scaled := scaleDown num den 2 guess
  let exponent := if scaled.1 / scaled.2 < hiddenBit then guess - 1 else guess
  max exponent leastExponent

def roundHalfEven (num den : Nat) : Nat :=
  let quotient := num / den
  let rest := 2 * (num % den)
  if rest > den ∨ (rest = den ∧ quotient % 2 = 1) then quotient + 1 else quotient

/-- The nearest fraction to num/den, or none when that lies beyond the greatest. -/
def nearest? (num den : Nat) : Option BinaryFraction :=
  if num = 0 then some ⟨0, leastExponent⟩
  else
    let exponent := unitExponent num den
    let scaled := scaleDown num den 2 exponent
    let significand := roundHalfEven scaled.1 scaled.2
    let carried : BinaryFraction :=
      if significand = 2 * hiddenBit then ⟨hiddenBit, exponent + 1⟩ else ⟨significand, exponent⟩
    if carried.exponent > greatestExponent then none else some carried

/-- Decimals far outside the range are decided by their size, which keeps the powers small. -/
def ofDecimal? (digits : Nat) (exponent : Int) : Option BinaryFraction :=
  let size : Int := Decimal.digitCount digits + exponent
  if digits = 0 ∨ size < -330 then some ⟨0, leastExponent⟩
  else if size > 330 then none
  else nearest? (digits * Nat.pow 10 exponent.toNat) (Nat.pow 10 (-exponent).toNat)

def numerator (value : BinaryFraction) : Nat :=
  value.significand * Nat.pow 2 value.exponent.toNat

def denominator (value : BinaryFraction) : Nat := Nat.pow 2 (-value.exponent).toNat

def mul? (left right : BinaryFraction) : Option BinaryFraction :=
  nearest? (left.numerator * right.numerator) (left.denominator * right.denominator)

def div? (left right : BinaryFraction) : Option BinaryFraction :=
  nearest? (left.numerator * right.denominator) (left.denominator * right.numerator)

/-- Whether candidate · 10^power rounds to the fraction: it lies between the midpoints to both
neighbours, or on one when the significand is even. Below a power of two the lower neighbour is
twice as near. Midpoints are counted in quarters of the last bit. -/
def roundsBack (value : BinaryFraction) (candidate : Nat) (power : Int) : Bool :=
  let low := if value.significand = hiddenBit ∧ value.exponent > leastExponent then
    4 * value.significand - 1 else 4 * value.significand - 2
  let high := 4 * value.significand + 2
  let quarter := value.exponent - 2
  let middle := candidate * Nat.pow 10 power.toNat * Nat.pow 2 (-quarter).toNat
  let scale := Nat.pow 2 quarter.toNat * Nat.pow 10 (-power).toNat
  if value.significand % 2 = 0 then low * scale ≤ middle && middle ≤ high * scale
  else low * scale < middle && middle < high * scale

/-- The greatest power of ten that is not above the fraction. -/
def leadingPower (value : BinaryFraction) : Int :=
  let guess : Int :=
    (Decimal.digitCount value.numerator : Int) - Decimal.digitCount value.denominator
  let scaled := scaleDown value.numerator value.denominator 10 guess
  if scaled.1 < scaled.2 then guess - 1 else guess

/-- On the grid of a given number of digits only the two neighbours of the
fraction can be nearest. -/
def onGrid? (value : BinaryFraction) (power : Int) : Option (Nat × Int) :=
  let scaled := scaleDown value.numerator value.denominator 10 power
  let below := scaled.1 / scaled.2
  let rest := 2 * (scaled.1 % scaled.2)
  let preferred := if rest > scaled.2 ∨ (rest = scaled.2 ∧ below % 2 = 1) then below + 1 else below
  let other := if preferred = below then below + 1 else below
  if roundsBack value preferred power then some (preferred, power)
  else if roundsBack value other power then some (other, power)
  else none

def shortest (value : BinaryFraction) : Nat × Int :=
  if value.significand = 0 then (0, 0)
  else
    let leading := leadingPower value
    ((List.range 17).findSome? fun (count : Nat) => onGrid? value (leading - count)).getD
      (value.significand, 0)

end BinaryFraction

namespace Decimal

def ofFraction (negative : Bool) (value : BinaryFraction) : Decimal :=
  let digits := value.shortest
  ofScientific negative digits.1 digits.2

/-- The decimal that stands for the nearest binary fraction. -/
def rounded? (negative : Bool) (digits : Nat) (exponent : Int) : Option Decimal :=
  (BinaryFraction.ofDecimal? digits exponent).map (ofFraction negative)

def fraction? (value : Decimal) : Option BinaryFraction :=
  BinaryFraction.ofDecimal? value.digits value.exponent

def mul? (left right : Decimal) : Option Decimal := do
  let product ← (← left.fraction?).mul? (← right.fraction?)
  pure (ofFraction (left.negative != right.negative) product)

/-- Division by zero has no finite value. -/
def div? (left right : Decimal) : Option Decimal := do
  if right.isZero then none
  else
    let quotient ← (← left.fraction?).div? (← right.fraction?)
    pure (ofFraction (left.negative != right.negative) quotient)

def ofInt (value : Int) : Decimal :=
  (rounded? (value < 0) value.natAbs 0).getD (ofScientific (value < 0) value.natAbs 0)

end Decimal
end ApiAssembly
