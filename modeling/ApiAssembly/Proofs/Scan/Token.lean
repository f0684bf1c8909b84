import ApiAssembly.Proofs.Scan.Balance
import ApiAssembly.Proofs.Scan.Reading
/-! Texts that stand for themselves: the scanner passes over them as a whole and trimming leaves them as
they are. The smallest of them are words, made of the characters of names; whole numbers are words,
and reading one gives the number back. -/
namespace ApiAssembly.Scan
open Text

/-! Characters without a meaning for the scanner. -/

/-- The characters at which something may start or end. -/
def marks : List Char := [',', '/', '\'', '"', '\x60', '\x7b', '\x7d', '(', ')', '[', ']']

theorem isPlain_of_not_mark (c : Char) (other : c ∉ marks) : isPlain c = true ∧ c ≠ ',' := by
  simp only [marks, List.mem_cons, List.not_mem_nil, or_false, not_or] at other
  simp [isPlain, isQuote, closer?, isCloser, other]

/-- Whatever holds of none of the marks makes a character plain. -/
theorem isPlain_of (holds : Char → Bool) (free : marks.any holds = false) (c : Char)
    (held : holds c = true) : isPlain c = true ∧ c ≠ ',' :=
  isPlain_of_not_mark c fun mark => List.any_eq_false.mp free c mark held

theorem isPlain_blank (c : Char) (blank : isBlank c = true) : isPlain c = true ∧ c ≠ ',' :=
  isPlain_of isBlank (by decide) c blank

theorem isPlain_key (c : Char) (key : isKeyChar c = true) : isPlain c = true ∧ c ≠ ',' :=
  isPlain_of isKeyChar (by decide) c key

theorem blankRuns_apart :
    ∀ blank ∈ blankRuns, ∀ run ∈ alphanumericRuns, blank.2.1 < run.1 ∨ run.2.1 < blank.1 := by
  decide +kernel

theorem ascii_blank_apart :
    ∀ code < 128, isBlank (Char.ofNat code) = true → isKeyChar (Char.ofNat code) = false := by
  decide

theorem covers_blank (runs : List CharRun)
    (apart : ∀ blank ∈ blankRuns, ∀ run ∈ runs, blank.2.1 < run.1 ∨ run.2.1 < blank.1) (c : Char)
    (beyond : ¬ c.toNat < 128) (blank : isBlank c = true) :
    (runs.any fun run => run.covers c) = false := by
  rw [isBlank, if_neg beyond] at blank
  obtain ⟨run, blanks, covered⟩ := List.any_eq_true.mp blank
  rw [List.any_eq_false]
  intro other letters also
  simp only [CharRun.covers, Bool.and_eq_true, decide_eq_true_eq] at covered also
  have apart := apart run blanks other letters
  omega

theorem isAlphanumeric_blank (c : Char) (beyond : ¬ c.toNat < 128) (blank : isBlank c = true) :
    isAlphanumeric c = false := by
  rw [isAlphanumeric, if_neg beyond]
  exact covers_blank _ blankRuns_apart c beyond blank

/-- No blank of any script is part of a name. -/
theorem isKeyChar_blank (c : Char) (blank : isBlank c = true) : isKeyChar c = false := by
  by_cases ascii : c.toNat < 128
  · rw [← Char.ofNat_toNat c] at blank ⊢
    exact ascii_blank_apart c.toNat ascii blank
  · have other (mark : Char) (within : mark.toNat < 128) : c ≠ mark := by
      rintro rfl
      exact ascii within
    simp [isKeyChar, isAlphanumeric_blank c ascii blank, other '_' (by decide),
      other '$' (by decide), other '-' (by decide)]

theorem isBlank_key (c : Char) (key : isKeyChar c = true) : isBlank c = false := by
  rw [← Bool.not_eq_true]
  intro blank
  rw [isKeyChar_blank c blank] at key
  cases key

theorem isKeyChar_digit (c : Char) (digit : c.isDigit = true) : isKeyChar c = true := by
  have ascii : c.toNat < 128 := by
    rw [Char.isDigit_iff_toNat] at digit
    simp at digit
    omega
  simp [isKeyChar, isAlphanumeric, ascii, Char.isAlphanum, digit]

/-! A text that stands for itself. -/

/-- The scanner passes over it, trimming leaves it, and it does not start like a comment. -/
structure IsWhole (cs : List Char) : Prop where
  balanced : Balanced false cs
  trimmed : IsTrim cs
  start : cs.head? ≠ some '/'

namespace IsWhole
variable {cs others : List Char}

theorem bare_surrounded (whole : IsWhole cs) (before after : List Char) (blankBefore : IsGap before)
    (blankAfter : IsGap after) : bare (before ++ cs ++ after) = cs :=
  bare_of_trim _ _ (whole.trimmed.trim_surrounded _ _ blankBefore blankAfter) whole.start

theorem bare (whole : IsWhole cs) : Scan.bare cs = cs :=
  bare_of_trim _ _ whole.trimmed.trim whole.start

theorem filled (whole : IsWhole cs) : cs ≠ [] := by
  obtain ⟨c, rest, shape, _⟩ := whole.trimmed.first
  rw [shape]
  exact List.cons_ne_nil c rest

theorem append (left : IsWhole cs) (right : IsWhole others) (between : List Char)
    (joined : Balanced false between) : IsWhole (cs ++ between ++ others) where
  balanced := (left.balanced.append joined).append right.balanced
  trimmed := left.trimmed.append right.trimmed between
  start := by
    obtain ⟨c, rest, shape, _⟩ := left.trimmed.first
    have start := left.start
    rw [shape] at start ⊢
    exact start

theorem block {opening closing : Char} (opens : closer? opening = some closing)
    (inner : Balanced true cs) : IsWhole (opening :: (cs ++ [closing])) := by
  have around : isBlank opening = false ∧ isBlank closing = false ∧ opening ≠ '/' := by
    rcases closer?_cases _ _ opens with ⟨rfl, rfl⟩ | ⟨rfl, rfl⟩ | ⟨rfl, rfl⟩ <;> decide
  exact ⟨.of_block opens inner, ⟨⟨_, _, rfl, around.1⟩, ⟨opening :: cs, closing, rfl, around.2.1⟩⟩,
    fun slash => around.2.2 (Option.some.inj slash)⟩

end IsWhole

theorem Balanced.of_gap (gap : List Char) (blank : IsGap gap) : Balanced false gap :=
  .of_plain fun c member => isPlain_blank c (blank c member)

/-- A text of the characters that names are made of. -/
structure IsWord (cs : List Char) : Prop where
  filled : cs ≠ []
  each : ∀ c ∈ cs, isKeyChar c = true

theorem IsWord.whole {cs : List Char} (word : IsWord cs) : IsWhole cs := by
  obtain ⟨c, rest, shape⟩ := List.exists_cons_of_ne_nil word.filled
  have ends := (List.dropLast_append_getLast word.filled).symm
  have start : isKeyChar c = true := word.each c (shape ▸ List.mem_cons_self)
  refine ⟨.of_plain fun d member => isPlain_key d (word.each d member), ⟨⟨c, rest, shape, ?_⟩,
    ⟨_, _, ends, ?_⟩⟩, ?_⟩
  · exact isBlank_key c start
  · exact isBlank_key _ (word.each _ (List.getLast_mem word.filled))
  · rw [shape]
    rintro slash
    cases slash
    cases start

theorem IsWord.head?_ne {cs : List Char} (word : IsWord cs) (c : Char)
    (other : isKeyChar c = false) : cs.head? ≠ some c := by
  intro head
  rw [word.each c (List.mem_of_head? head)] at other
  cases other

theorem IsWord.unquote?_none {cs : List Char} (word : IsWord cs) : unquote? cs = none := by
  obtain ⟨c, rest, shape⟩ := List.exists_cons_of_ne_nil word.filled
  have plain := (isPlain_key c (word.each c (shape ▸ List.mem_cons_self))).1
  have unquoted := ((isPlain_iff c).mp plain).1
  simp [shape, unquote?, unquoted]

/-! Whole numbers. -/

theorem digitChar_value : ∀ digit < 10, (Nat.digitChar digit).toNat - '0'.toNat = digit := by
  decide

theorem digitsOf_toDigits (number : Nat) : Decimal.digitsOf (Nat.toDigits 10 number) = number := by
  induction number using Nat.strongRecOn with
  | ind number ih =>
    rw [Nat.toDigits_eq_if (by decide)]
    split
    · rename_i small
      simpa [Decimal.digitsOf] using digitChar_value number small
    · have earlier := ih (number / 10) (by omega)
      unfold Decimal.digitsOf at earlier ⊢
      rw [List.foldl_append, earlier, List.foldl_cons, List.foldl_nil,
        digitChar_value (number % 10) (by omega)]
      omega

def wholeText (value : Int) : List Char :=
  if value < 0 then '-' :: Nat.toDigits 10 value.natAbs else Nat.toDigits 10 value.natAbs

theorem isDigit_toDigits (number : Nat) (c : Char) (member : c ∈ Nat.toDigits 10 number) :
    c.isDigit = true :=
  Nat.isDigit_of_mem_toDigits (by decide) (by decide) member

theorem isWord_wholeText (value : Int) : IsWord (wholeText value) := by
  have digits : ∀ c ∈ Nat.toDigits 10 value.natAbs, isKeyChar c = true :=
    fun c member => isKeyChar_digit c (isDigit_toDigits _ c member)
  unfold wholeText
  split
  · exact ⟨List.cons_ne_nil _ _, List.forall_mem_cons.mpr ⟨by decide, digits⟩⟩
  · exact ⟨Nat.toDigits_ne_nil, digits⟩

theorem sign_toDigits (number : Nat) :
    Decimal.sign (Nat.toDigits 10 number) = (false, Nat.toDigits 10 number) := by
  unfold Decimal.sign
  split
  · rename_i rest shape
    have := isDigit_toDigits number '-' (shape ▸ List.mem_cons_self)
    cases this
  · rename_i rest shape
    have := isDigit_toDigits number '+' (shape ▸ List.mem_cons_self)
    cases this
  · rfl

theorem integer?_wholeText (value : Int) : Decimal.integer? (wholeText value) = some value := by
  have digits : (Nat.toDigits 10 value.natAbs).all Char.isDigit = true :=
    List.all_eq_true.mpr (isDigit_toDigits value.natAbs)
  have filled : (Nat.toDigits 10 value.natAbs).isEmpty = false := by
    simp [Nat.toDigits_ne_nil]
  unfold wholeText
  split
  · rename_i negative
    simp only [Decimal.integer?, Decimal.sign, digits, filled, digitsOf_toDigits, Bool.not_true,
      Bool.or_self, Bool.false_eq_true, if_false, if_true]
    exact congrArg some (by omega)
  · rename_i positive
    simp only [Decimal.integer?, sign_toDigits, digits, filled, digitsOf_toDigits, Bool.not_true,
      Bool.or_self, Bool.false_eq_true, if_false]
    exact congrArg some (by omega)

theorem wholeText_read (value : Int)
    (fits : -0x8000000000000000 ≤ value ∧ value < 0x8000000000000000) :
    scalar? (wholeText value) = some (.num (.int value)) := by
  have unnamed : wholeText value ∉ names := by
    intro named
    have none : ∀ name ∈ names, Decimal.integer? name = none := by decide
    have read := integer?_wholeText value
    rw [none _ named] at read
    cases read
  rw [scalar?_unnamed _ unnamed, (isWord_wholeText value).unquote?_none, number?,
    integer?_wholeText]
  simp only [fits, and_self, if_true, Option.map_some, Option.map_none, Option.none_or]

end ApiAssembly.Scan
