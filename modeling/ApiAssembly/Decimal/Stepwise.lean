import ApiAssembly.Decimal.Nearest
/-! Decimals of any length read in steps of bounded size. The leading digits that fit a word of 64
bits are kept, the place of the point and the power of ten are kept as one power, and each step
rounds on its own: the digits to the nearest fraction, then the product with the power of ten or
the quotient by it. The result can differ from the nearest fraction in its last digits. -/
namespace ApiAssembly

/-- The leading digits of a number and the power of ten to be multiplied with. -/
structure LeadingDigits where
  significand : Nat
  power : Int

namespace LeadingDigits

/-- A further digit, unless it does not fit. -/
def push? (significand : Nat) (c : Char) : Option Nat :=
  let longer := significand * 10 + (c.toNat - '0'.toNat)
  if longer < 0x10000000000000000 then some longer else none

/-- Whole digits that do not fit count as powers of ten. -/
def ofWhole (significand : Nat) : List Char → LeadingDigits
  | [] => ⟨significand, 0⟩
  | c :: rest =>
    match push? significand c with
    | some longer => ofWhole longer rest
    | none => ⟨significand, rest.length + 1⟩

/-- Digits behind the point that do not fit are left out. -/
def withFraction (leading : LeadingDigits) : List Char → LeadingDigits
  | [] => leading
  | c :: rest =>
    match push? leading.significand c with
    | some longer => withFraction ⟨longer, leading.power - 1⟩ rest
    | none => leading

end LeadingDigits

namespace BinaryFraction

def greatestPower : Nat := 308

/-- Quotient by the greatest power of ten, as often as is asked for or until nothing is left. -/
def overGreatest? (value : BinaryFraction) : Nat → Option BinaryFraction
  | 0 => some value
  | steps + 1 =>
    if value.significand = 0 then some value
    else do (← value.div? (← ofDecimal? 1 greatestPower)).overGreatest? steps

/-- Great negative powers are divided by in several steps. -/
def timesPower? (value : BinaryFraction) (power : Int) : Option BinaryFraction :=
  if value.significand = 0 then some value
  else if 0 ≤ power then
    if greatestPower < power then none else do value.mul? (← ofDecimal? 1 power)
  else do
    let steps := (power.natAbs - 1) / greatestPower
    (← value.overGreatest? steps).div? (← ofDecimal? 1 (power.natAbs - greatestPower * steps))

end BinaryFraction

namespace Decimal

def ofLeading? (negative : Bool) (leading : LeadingDigits) : Option Decimal := do
  let start ← BinaryFraction.ofDecimal? leading.significand 0
  let value ← start.timesPower? leading.power
  pure (ofFraction negative value)

end Decimal
end ApiAssembly
