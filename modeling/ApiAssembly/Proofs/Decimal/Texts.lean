import ApiAssembly.Json.Printer
import ApiAssembly.Proofs.Scan.Token
import Mathlib.Tactic.Positivity
import Mathlib.Tactic.Ring
/-! Texts of numbers, read back. Whichever way of writing a style asks for, the digits and the power of
ten that are read from the text of a decimal stand for that decimal. A decimal shows a point or an
exponent and a whole number shows neither, so numbers that differ are written differently. -/
namespace ApiAssembly

namespace Decimal

/-! Digits. -/

def IsDigits (digits : List Char) : Prop := ∀ c ∈ digits, c.isDigit = true

theorem isDigits_zeros (count : Nat) : IsDigits (List.replicate count '0') := by
  intro c member
  rw [List.eq_of_mem_replicate member]
  rfl

theorem IsDigits.append {left right : List Char} (first : IsDigits left) (second : IsDigits right) :
    IsDigits (left ++ right) :=
  List.forall_mem_append.mpr ⟨first, second⟩

theorem foldl_digits (digits : List Char) (total : Nat) :
    digits.foldl (fun total c => total * 10 + (c.toNat - '0'.toNat)) total =
      total * 10 ^ digits.length + digitsOf digits := by
  unfold digitsOf
  induction digits generalizing total with
  | nil => simp
  | cons c rest ih =>
    rw [List.foldl_cons, List.foldl_cons, ih, ih (0 * 10 + _), List.length_cons, Nat.pow_succ]
    grind

theorem digitsOf_append (left right : List Char) :
    digitsOf (left ++ right) = digitsOf left * 10 ^ right.length + digitsOf right := by
  rw [digitsOf, List.foldl_append, foldl_digits, ← digitsOf]

theorem digitsOf_zeros (count : Nat) : digitsOf (List.replicate count '0') = 0 := by
  induction count with
  | zero => rfl
  | succ count ih =>
    rw [List.replicate_succ, ← List.singleton_append, digitsOf_append, ih]
    simp [digitsOf]

/-! Reading. -/

def signed (negative : Bool) (text : List Char) : List Char := if negative then '-' :: text else text

theorem sign_signed (negative : Bool) {text : List Char} {c : Char} {rest : List Char}
    (shape : text = c :: rest) (digit : c.isDigit = true) :
    sign (signed negative text) = (negative, text) := by
  cases negative with
  | true => rfl
  | false =>
    subst shape
    unfold sign signed
    simp only [Bool.false_eq_true, if_false]
    split
    · rename_i same
      cases same
      cases digit
    · rename_i same
      cases same
      cases digit
    · rfl

theorem takeWhile_digits {digits behind : List Char} (each : IsDigits digits)
    (ends : behind.head?.all (! ·.isDigit) = true) :
    (digits ++ behind).takeWhile Char.isDigit = digits ∧
      (digits ++ behind).dropWhile Char.isDigit = behind := by
  rw [List.takeWhile_append_of_pos each, List.dropWhile_append_of_pos each]
  cases behind with
  | nil => simp
  | cons c rest =>
    have other : ¬ c.isDigit = true := by simpa using ends
    rw [List.takeWhile_cons_of_neg other, List.dropWhile_cons_of_neg other, List.append_nil]
    exact ⟨rfl, rfl⟩

section Parts
variable (negative : Bool) {whole : List Char} (wholeDigits : IsDigits whole) (filled : whole ≠ [])
include wholeDigits filled

theorem sign_whole (behind : List Char) :
    sign (signed negative (whole ++ behind)) = (negative, whole ++ behind) := by
  obtain ⟨c, rest, rfl⟩ := List.exists_cons_of_ne_nil filled
  exact sign_signed negative (List.cons_append ..) (wholeDigits c List.mem_cons_self)

/-- Digits, a point and digits, and a power of ten behind them. -/
theorem scientific?_point {fraction tail : List Char} (fractionDigits : IsDigits fraction)
    {power : Int} (ends : tail.head?.all (! ·.isDigit) = true) (read : power? tail = some power) :
    scientific? (signed negative (whole ++ '.' :: (fraction ++ tail))) =
      some (negative, digitsOf (whole ++ fraction), power - fraction.length) := by
  obtain ⟨taken, left⟩ := takeWhile_digits wholeDigits
    (show ('.' :: (fraction ++ tail)).head?.all (! ·.isDigit) = true from rfl)
  obtain ⟨fractionTaken, tailLeft⟩ := takeWhile_digits fractionDigits ends
  have some : whole.isEmpty = false := by simpa using filled
  simp only [scientific?, sign_whole negative wholeDigits filled, taken, left, fractionTaken, tailLeft,
    some, Bool.false_and, Bool.false_eq_true, if_false, read, bind, Option.bind_some, pure]

/-- Digits without a point, and a power of ten behind them. -/
theorem scientific?_whole {tail : List Char} {power : Int}
    (ends : tail.head?.all (! ·.isDigit) = true) (pointless : tail.head? ≠ some '.')
    (read : power? tail = some power) :
    scientific? (signed negative (whole ++ tail)) = some (negative, digitsOf whole, power) := by
  obtain ⟨taken, left⟩ := takeWhile_digits wholeDigits ends
  have some : whole.isEmpty = false := by simpa using filled
  simp only [scientific?, sign_whole negative wholeDigits filled, taken, left]
  split
  · exact absurd rfl pointless
  · simp [some, read]

end Parts

/-! Powers of ten. -/

theorem integer?_powerText (style : Style) (power : Int) :
    integer? (powerText style power) = some power := by
  have whole := Scan.integer?_wholeText power
  unfold powerText
  unfold Scan.wholeText at whole
  split
  · rename_i negative
    rwa [if_pos negative] at whole
  · rename_i positive
    rw [if_neg positive] at whole
    split
    · -- A plus sign is passed over, and a digit never is one.
      rw [integer?, Scan.sign_toDigits] at whole
      exact whole
    · exact whole

theorem power?_powerText (style : Style) (power : Int) :
    power? ('e' :: powerText style power) = some power := by
  simp [power?, integer?_powerText]

/-! Decimals. -/

theorem ofScientific_lowest (value : Decimal) :
    ofScientific value.negative value.digits value.exponent = value := by
  obtain ⟨negative, digits, exponent, lowest⟩ := value
  rw [ofScientific]
  rcases lowest with divides | ⟨rfl, rfl⟩
  · have filled : digits ≠ 0 := by
      rintro rfl
      exact divides rfl
    rw [dif_neg filled, dif_neg divides]
  · rfl

theorem ofScientific_zero (negative : Bool) (exponent : Int) :
    ofScientific negative 0 exponent = zero negative := by
  rw [ofScientific, dif_pos rfl]

/-- Zeros that are written behind the digits are taken away again. -/
theorem ofScientific_scaled (value : Decimal) (count : Nat) :
    ofScientific value.negative (value.digits * 10 ^ count) (value.exponent - count) = value := by
  induction count with
  | zero => simpa using ofScientific_lowest value
  | succ count ih =>
    by_cases none : value.digits = 0
    · rw [none, Nat.zero_mul, ofScientific_zero] at ih ⊢
      exact ih
    · have filled : value.digits * 10 ^ (count + 1) ≠ 0 := by positivity
      have shifted : value.digits * 10 ^ (count + 1) = value.digits * 10 ^ count * 10 := by
        rw [Nat.pow_succ, Nat.mul_assoc]
      rw [ofScientific, dif_neg filled, dif_pos (by rw [shifted, Nat.mul_mod_left]), shifted,
        Nat.mul_div_cancel _ (by decide)]
      convert ih using 2
      push_cast
      ring

/-- The decimal that a text stands for, exactly as it is written. -/
def denoted? (text : List Char) : Option Decimal :=
  (scientific? text).map fun found => ofScientific found.1 found.2.1 found.2.2

theorem denoted?_point (value : Decimal) {whole fraction : List Char} (tail : List Char)
    (wholeDigits : IsDigits whole) (filled : whole ≠ []) (fractionDigits : IsDigits fraction)
    {power : Int} (ends : tail.head?.all (! ·.isDigit) = true) (read : power? tail = some power)
    (zeros : Nat) (digits : digitsOf (whole ++ fraction) = value.digits * 10 ^ zeros)
    (place : power - fraction.length = value.exponent - zeros) :
    denoted? (signed value.negative (whole ++ '.' :: (fraction ++ tail))) = some value := by
  rw [denoted?, scientific?_point value.negative wholeDigits filled fractionDigits ends read,
    Option.map_some, digits, place, ofScientific_scaled]

theorem denoted?_magnitudeText (style : Style) (value : Decimal) :
    denoted? (signed value.negative (magnitudeText style value.digits value.exponent)) =
      some value := by
  have text : IsDigits (Nat.toDigits 10 value.digits) := Scan.isDigit_toDigits value.digits
  have filled : Nat.toDigits 10 value.digits ≠ [] := Nat.toDigits_ne_nil
  have read := Scan.digitsOf_toDigits value.digits
  unfold magnitudeText
  generalize Nat.toDigits 10 value.digits = digits at text filled read ⊢
  have count : 0 < digits.length := List.length_pos_iff.mpr filled
  have taken (place : Nat) : IsDigits (digits.take place) := fun c member =>
    text c (List.mem_of_mem_take member)
  have dropped (place : Nat) : IsDigits (digits.drop place) := fun c member =>
    text c (List.mem_of_mem_drop member)
  have parted (place : Nat) : digitsOf (digits.take place ++ digits.drop place) =
      value.digits * 10 ^ 0 := by
    rw [List.take_append_drop, read, pow_zero, Nat.mul_one]
  simp only
  split
  · -- Zeros up to the point, and one behind it.
    refine denoted?_point value [] (text.append (isDigits_zeros value.exponent.toNat)) (by simp [filled])
      (isDigits_zeros 1) rfl rfl (value.exponent.toNat + 1) ?_ ?_
    · rw [digitsOf_append, digitsOf_append, digitsOf_zeros, digitsOf_zeros, read,
        List.length_replicate, List.length_replicate, Nat.pow_succ]
      ring
    · simp only [List.length_replicate]
      omega
  split
  · -- The point stands among the digits.
    rename_i inside
    obtain ⟨place, point⟩ := Int.eq_ofNat_of_zero_le (Int.le_of_lt inside.1)
    rw [point, Int.toNat_natCast]
    have written := denoted?_point value [] (taken place) (by simp [filled]; omega) (dropped place)
      rfl rfl 0 (parted place) (by rw [List.length_drop]; omega)
    rwa [List.append_nil] at written
  split
  · -- Zeros behind the point come before the digits.
    have written := denoted?_point value [] (isDigits_zeros 1) (List.cons_ne_nil _ _)
      ((isDigits_zeros (-((digits.length : Int) + value.exponent)).toNat).append text)
      rfl rfl 0
      (by rw [digitsOf_append, digitsOf_append, digitsOf_zeros, digitsOf_zeros, read]; simp)
      (by rw [List.length_append, List.length_replicate]; omega)
    rwa [List.append_nil] at written
  · have power := power?_powerText style ((digits.length : Int) + value.exponent - 1)
    split
    · rename_i single
      have all : digits.take 1 = digits := List.take_of_length_le (by omega)
      have place : (digits.length : Int) + value.exponent - 1 = value.exponent := by omega
      rw [List.append_nil, all, denoted?,
        scientific?_whole value.negative text filled rfl (by simp) power, Option.map_some, read, place,
        ofScientific_lowest]
    · have written := denoted?_point value _ (taken 1) (by simp [filled]) (dropped 1) rfl power 0
        (parted 1) (by rw [List.length_drop]; omega)
      simpa using written

/-- The text of a decimal stands for the decimal, in every style. -/
theorem denoted?_render (style : Style) (value : Decimal) :
    denoted? (value.render style) = some value := by
  unfold render
  simp only
  by_cases none : value.isZero = true
  · have zero : value.digits = 0 := by simpa [isZero] using none
    have place : value.exponent = 0 := (value.lowest.resolve_left (by simp [zero])).2
    rw [if_pos none]
    exact denoted?_point value [] (isDigits_zeros 1) (List.cons_ne_nil _ _) (isDigits_zeros 1)
      rfl rfl 1 (by rw [zero]; rfl) (by rw [place]; rfl)
  · rw [if_neg none]
    exact denoted?_magnitudeText style value

theorem render_inj {style : Style} {left right : Decimal}
    (same : left.render style = right.render style) : left = right := by
  have read := denoted?_render style left
  rw [same, denoted?_render] at read
  exact (Option.some.inj read).symm

theorem numerals_render (style : Style) (value : Decimal) :
    ∀ c ∈ value.render style, Scan.isNumeral c = true := by
  obtain ⟨found, read, _⟩ := Option.map_eq_some_iff.mp (denoted?_render style value)
  exact Scan.numerals_of_scientific _ found read

theorem mark_mem_magnitudeText (style : Style) (digits : Nat) (exponent : Int) :
    '.' ∈ magnitudeText style digits exponent ∨ 'e' ∈ magnitudeText style digits exponent := by
  unfold magnitudeText
  simp only
  split
  · simp
  split
  · simp
  split
  · simp
  · simp

/-- A decimal is told from a whole number by a point or an exponent. -/
theorem mark_mem_render (style : Style) (value : Decimal) :
    '.' ∈ value.render style ∨ 'e' ∈ value.render style := by
  have magnitude : '.' ∈ (if value.isZero then ['0', '.', '0']
      else magnitudeText style value.digits value.exponent) ∨
      'e' ∈ (if value.isZero then ['0', '.', '0']
        else magnitudeText style value.digits value.exponent) := by
    split
    · simp
    · exact mark_mem_magnitudeText style _ _
  unfold render
  simp only
  split
  · exact magnitude.imp (List.mem_cons_of_mem _) (List.mem_cons_of_mem _)
  · exact magnitude

end Decimal

namespace Number

theorem render_int (value : Int) : (int value).render = Scan.wholeText value := by
  have natural (number : Nat) : (toString number).toList = Nat.toDigits 10 number := by
    rw [Nat.toString_eq_ofList_toDigits, String.toList_ofList]
  cases value with
  | ofNat number => exact natural number
  | negSucc number =>
    rw [Scan.wholeText, if_pos (Int.negSucc_lt_zero number)]
    change ("-" ++ toString (number + 1)).toList = '-' :: Nat.toDigits 10 (number + 1)
    rw [String.toList_append, natural]
    rfl

theorem mark_not_mem_whole (value : Int) (mark : Char) (other : mark ≠ '-')
    (plain : mark.isDigit = false) : mark ∉ Scan.wholeText value := by
  have digits : mark ∉ Nat.toDigits 10 value.natAbs := by
    intro member
    rw [Scan.isDigit_toDigits _ mark member] at plain
    cases plain
  unfold Scan.wholeText
  split
  · exact List.not_mem_cons_of_ne_of_not_mem other digits
  · exact digits

/-- Numbers that differ are written differently. -/
theorem render_inj {left right : Number} (same : left.render = right.render) : left = right := by
  have apart (whole : Int) (value : Decimal) : (int whole).render ≠ (real value).render := by
    intro same
    have marks := Decimal.mark_mem_render style value
    change (int whole).render = value.render style at same
    rw [← same, render_int] at marks
    exact marks.elim (mark_not_mem_whole whole '.' (by decide) rfl)
      (mark_not_mem_whole whole 'e' (by decide) rfl)
  cases left with
  | int left =>
    cases right with
    | int right =>
      rw [render_int, render_int] at same
      have read := Scan.integer?_wholeText left
      rw [same, Scan.integer?_wholeText] at read
      exact congrArg int (Option.some.inj read).symm
    | real right => exact absurd same (apart left right)
  | real left =>
    cases right with
    | int right => exact absurd same.symm (apart right left)
    | real right => exact congrArg real (Decimal.render_inj same)

theorem numerals_render (number : Number) : ∀ c ∈ number.render, Scan.isNumeral c = true := by
  cases number with
  | int value =>
    rw [render_int]
    exact Scan.numerals_of_integer _ value (Scan.integer?_wholeText value)
  | real value => exact Decimal.numerals_render style value

theorem render_filled (number : Number) : number.render ≠ [] := by
  cases number with
  | int value =>
    rw [render_int]
    exact (Scan.isWord_wholeText value).filled
  | real value =>
    intro empty
    have marks := Decimal.mark_mem_render style value
    change value.render style = [] at empty
    simp [empty] at marks

end Number
end ApiAssembly
