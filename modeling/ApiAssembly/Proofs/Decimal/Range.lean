import ApiAssembly.Decimal.Nearest
import Mathlib.Algebra.Order.Field.Power
import Mathlib.Data.Rat.Cast.Order
import Mathlib.Tactic.FieldSimp
import Mathlib.Tactic.Positivity
import Mathlib.Tactic.Ring
/-! The range of rounded decimals. Rounding gives a fraction of 53 bits whose power of two is within the
range, or none at all, so a decimal that stands for a rounded one is finite. Whole numbers of a word
are far from the end of the range and are always rounded to such a decimal. -/
namespace ApiAssembly

namespace BinaryFraction

/-- A finite floating point number of 64 bits, its sign apart. -/
structure InRange (value : BinaryFraction) : Prop where
  significand : value.significand < 2 * hiddenBit
  least : leastExponent ≤ value.exponent
  greatest : value.exponent ≤ greatestExponent

theorem hiddenBit_lt : hiddenBit < 2 * hiddenBit := by decide

theorem inRange_zero : InRange ⟨0, leastExponent⟩ := ⟨by decide, by decide, by decide⟩

/-! Scaling. Comparisons of the scaled numbers are comparisons of the quotient with a power of two. -/

theorem scaled_positive (num den : Nat) (power : Int) (positive : 0 < den) :
    0 < (scaleDown num den 2 power).2 :=
  Nat.mul_pos positive (Nat.pow_pos (by decide))

theorem scaled_lt_iff (num den bound : Nat) (power : Int) :
    (scaleDown num den 2 power).1 < bound * (scaleDown num den 2 power).2 ↔
      (num : ℚ) < bound * den * 2 ^ power := by
  obtain ⟨size, rfl | rfl⟩ := power.eq_nat_or_neg
  · have shifted : scaleDown num den 2 size = (num, den * 2 ^ size) := by simp [scaleDown]
    rw [shifted, zpow_natCast, mul_assoc]
    exact_mod_cast Iff.rfl
  · have shifted : scaleDown num den 2 (-size) = (num * 2 ^ size, den) := by simp [scaleDown]
    rw [shifted, zpow_neg, zpow_natCast, ← div_eq_mul_inv, lt_div_iff₀ (by positivity)]
    exact_mod_cast Iff.rfl

/-- The difference of the binary lengths, less 52. -/
def guessedExponent (num den : Nat) : Int := (Nat.log2 num : Int) - Nat.log2 den - 52

theorem lt_guessed (num den : Nat) (positive : 0 < den) :
    (num : ℚ) < (2 * hiddenBit : Nat) * den * 2 ^ guessedExponent num den := by
  have above : (num : ℚ) < 2 ^ (Nat.log2 num + 1) := by exact_mod_cast Nat.lt_log2_self
  have below : (2 : ℚ) ^ Nat.log2 den ≤ den := by
    exact_mod_cast Nat.log2_self_le (Nat.pos_iff_ne_zero.mp positive)
  have powers : (2 : ℚ) ^ (Nat.log2 num + 1) =
      (2 * hiddenBit : Nat) * 2 ^ Nat.log2 den * 2 ^ guessedExponent num den := by
    have bits : ((2 * hiddenBit : Nat) : ℚ) = 2 ^ (53 : Int) := by norm_num [hiddenBit]
    rw [bits, guessedExponent, ← zpow_natCast, ← zpow_natCast, ← zpow_add₀ two_ne_zero,
      ← zpow_add₀ two_ne_zero]
    congr 1
    push_cast
    ring
  calc (num : ℚ) < (2 * hiddenBit : Nat) * 2 ^ Nat.log2 den * 2 ^ guessedExponent num den :=
        powers ▸ above
    _ ≤ (2 * hiddenBit : Nat) * den * 2 ^ guessedExponent num den := by gcongr

theorem unitExponent_eq (num den : Nat) :
    unitExponent num den = max (if (scaleDown num den 2 (guessedExponent num den)).1 /
      (scaleDown num den 2 (guessedExponent num den)).2 < hiddenBit
      then guessedExponent num den - 1 else guessedExponent num den) leastExponent := rfl

/-- At the exponent that is chosen there are at most 53 bits before the point. -/
theorem lt_unit (num den : Nat) (positive : 0 < den) :
    (num : ℚ) < (2 * hiddenBit : Nat) * den * 2 ^ unitExponent num den := by
  have raise (lower : Int) (within : (num : ℚ) < (2 * hiddenBit : Nat) * den * 2 ^ lower) :
      (num : ℚ) < (2 * hiddenBit : Nat) * den * 2 ^ max lower leastExponent :=
    within.trans_le (by gcongr; exacts [one_le_two, le_max_left _ _])
  rw [unitExponent_eq]
  apply raise
  split
  · rename_i small
    rw [Nat.div_lt_iff_lt_mul (scaled_positive num den _ positive), scaled_lt_iff] at small
    have halved : (2 : ℚ) ^ guessedExponent num den = 2 * 2 ^ (guessedExponent num den - 1) := by
      rw [zpow_sub_one₀ two_ne_zero]
      field_simp
    rw [halved] at small
    refine small.trans_eq ?_
    push_cast
    ring
  · exact lt_guessed num den positive

/-! Rounding. -/

theorem roundHalfEven_le (num den bound : Nat) (below : num / den < bound) :
    roundHalfEven num den ≤ bound := by
  unfold roundHalfEven
  dsimp only
  split <;> omega

theorem nearest?_inRange (num den : Nat) (positive : 0 < den) (value : BinaryFraction)
    (found : nearest? num den = some value) : value.InRange := by
  have bits : (scaleDown num den 2 (unitExponent num den)).1 /
      (scaleDown num den 2 (unitExponent num den)).2 < 2 * hiddenBit := by
    rw [Nat.div_lt_iff_lt_mul (scaled_positive num den _ positive), scaled_lt_iff]
    exact lt_unit num den positive
  have rounded := roundHalfEven_le _ _ _ bits
  have least : leastExponent ≤ unitExponent num den := le_max_right _ _
  unfold nearest? at found
  split at found
  · cases found
    exact inRange_zero
  · -- Rounding up to 54 bits halves the significand, and the power grows by one.
    by_cases carry : roundHalfEven (scaleDown num den 2 (unitExponent num den)).1
        (scaleDown num den 2 (unitExponent num den)).2 = 2 * hiddenBit
    · simp only [if_pos carry] at found
      split at found
      · cases found
      · rename_i within
        cases found
        exact ⟨hiddenBit_lt, Int.le_add_one least, Int.not_lt.mp within⟩
    · simp only [if_neg carry] at found
      split at found
      · cases found
      · rename_i within
        cases found
        exact ⟨Nat.lt_of_le_of_ne rounded carry, least, Int.not_lt.mp within⟩

theorem ofDecimal?_inRange (digits : Nat) (exponent : Int) (value : BinaryFraction)
    (found : ofDecimal? digits exponent = some value) : value.InRange := by
  unfold ofDecimal? at found
  dsimp only at found
  split at found
  · cases found
    exact inRange_zero
  · split at found
    · cases found
    · exact nearest?_inRange _ _ (Nat.pow_pos (by decide)) value found

/-! Whole numbers of a word. -/

theorem unitExponent_le (num den : Nat) :
    unitExponent num den ≤ max (guessedExponent num den) leastExponent := by
  rw [unitExponent_eq]
  split <;> omega

theorem nearest?_isSome (num den : Nat) (small : unitExponent num den < greatestExponent) :
    (nearest? num den).isSome := by
  unfold nearest?
  split
  · rfl
  · by_cases carry : roundHalfEven (scaleDown num den 2 (unitExponent num den)).1
        (scaleDown num den 2 (unitExponent num den)).2 = 2 * hiddenBit
    · simp only [if_pos carry]
      rw [if_neg (Int.not_lt.mpr small)]
      rfl
    · simp only [if_neg carry]
      rw [if_neg (Int.not_lt.mpr (Int.le_of_lt small))]
      rfl

theorem ofDecimal?_word (value : Nat) (word : value < 2 ^ 64) : (ofDecimal? value 0).isSome := by
  have digits : Decimal.digitCount value ≤ 20 :=
    (Nat.length_toDigits_le_iff (by decide) (by decide)).mpr (word.trans (by decide))
  have short : value ≠ 0 → Nat.log2 value < 64 := fun filled => (Nat.log2_lt filled).mpr word
  unfold ofDecimal?
  dsimp only
  split
  · rfl
  · rename_i filled
    rw [if_neg (by omega)]
    apply nearest?_isSome
    refine (unitExponent_le _ _).trans_lt ?_
    have bits : Nat.log2 value < 64 := short fun zero => filled (.inl zero)
    simp [guessedExponent, leastExponent, greatestExponent]
    omega

end BinaryFraction

namespace Decimal

/-- A finite floating point number of 64 bits, in decimal. -/
def IsFinite (value : Decimal) : Prop :=
  ∃ negative fraction, BinaryFraction.InRange fraction ∧ value = ofFraction negative fraction

theorem IsFinite.of_rounded {negative : Bool} {digits : Nat} {exponent : Int} {value : Decimal}
    (rounded : rounded? negative digits exponent = some value) : value.IsFinite := by
  obtain ⟨fraction, found, rfl⟩ := Option.map_eq_some_iff.mp rounded
  exact ⟨negative, fraction, BinaryFraction.ofDecimal?_inRange digits exponent fraction found, rfl⟩

theorem isFinite_ofInt (value : Int) (word : value.natAbs < 2 ^ 64) : (ofInt value).IsFinite := by
  obtain ⟨fraction, found⟩ := Option.isSome_iff_exists.mp (BinaryFraction.ofDecimal?_word _ word)
  have rounded : rounded? (value < 0) value.natAbs 0 = some (ofFraction (value < 0) fraction) := by
    rw [rounded?, found, Option.map_some]
  rw [ofInt, rounded, Option.getD_some]
  exact .of_rounded rounded

end Decimal
end ApiAssembly
