import ApiAssembly.Text.Quoted
/-! Quoted texts read back. Whichever characters the writer chose to number, the reader of the quoted
part stops at the closing quote and nowhere before, what it took has no line break in it, and
unescaping gives the text again. -/
namespace ApiAssembly.Text.Quoted
open Json.Reader

/-! A number in braces holds hexadecimal digits only, and these add up to the number. -/
section Number

theorem hexValue?_digitChar : ∀ digit < 16, hexValue? (Nat.digitChar digit) = some digit := by
  decide

theorem hexValue?_of_mem (number : Nat) (c : Char) (member : c ∈ Nat.toDigits 16 number) :
    ∃ digit, hexValue? c = some digit := by
  induction number using Nat.strongRecOn with
  | ind number ih =>
    rw [Nat.toDigits_eq_if (by decide)] at member
    split at member
    · rename_i small
      rw [List.mem_singleton.mp member]
      exact ⟨number, hexValue?_digitChar number small⟩
    · rcases List.mem_append.mp member with earlier | last
      · exact ih (number / 16) (by omega) earlier
      · rw [List.mem_singleton.mp last]
        exact ⟨number % 16, hexValue?_digitChar (number % 16) (by omega)⟩

theorem not_mem_digits (number : Nat) (c : Char) (other : hexValue? c = none) :
    c ∉ Nat.toDigits 16 number := by
  intro member
  obtain ⟨digit, value⟩ := hexValue?_of_mem number c member
  rw [other] at value
  cases value

theorem digits_foldl (number : Nat) :
    (Nat.toDigits 16 number).foldl (fun total c => do
      pure ((← total) * 16 + (← hexValue? c))) (some 0) = some number := by
  induction number using Nat.strongRecOn with
  | ind number ih =>
    rw [Nat.toDigits_eq_if (by decide)]
    split
    · rename_i small
      simp [hexValue?_digitChar number small]
    · rw [List.foldl_append, ih (number / 16) (by omega)]
      simp [hexValue?_digitChar (number % 16) (by omega)]
      omega

theorem hexNumber?_digits (number : Nat) : hexNumber? (Nat.toDigits 16 number) = some number := by
  have unsigned : ∀ rest, Nat.toDigits 16 number ≠ '+' :: rest := by
    intro rest same
    exact not_mem_digits number '+' (by decide) (same ▸ List.mem_cons_self)
  unfold hexNumber?
  split
  · rename_i rest same
    exact absurd same (unsigned rest)
  · rw [if_neg (by simp [Nat.toDigits_ne_nil])]
    exact digits_foldl number

theorem skipBraces_digits (number : Nat) (rest : List Char) :
    skipBraces ('\x7b' :: Nat.toDigits 16 number ++ '\x7d' :: rest) =
      Nat.toDigits 16 number ++ '\x7d' :: rest := by
  cases digits : Nat.toDigits 16 number with
  | nil => exact absurd digits Nat.toDigits_ne_nil
  | cons c more =>
    have plain : c ≠ '\x7b' := by
      intro same
      exact not_mem_digits number '\x7b' (by decide) (by rw [digits, same]; exact List.mem_cons_self)
    simp [skipBraces, plain]

theorem digits_inside (number : Nat) :
    ∀ c ∈ Nat.toDigits 16 number, decide (c ≠ '\x7d') = true := by
  intro c member
  refine decide_eq_true ?_
  rintro rfl
  exact not_mem_digits number '\x7d' (by decide) member

theorem numberText_digits (number : Nat) (rest : List Char) :
    numberText ('\x7b' :: Nat.toDigits 16 number ++ '\x7d' :: rest) = Nat.toDigits 16 number := by
  rw [numberText, skipBraces_digits, List.takeWhile_append_of_pos (digits_inside number)]
  simp

theorem afterNumber_digits (number : Nat) (rest : List Char) :
    afterNumber ('\x7b' :: Nat.toDigits 16 number ++ '\x7d' :: rest) = rest := by
  rw [afterNumber, skipBraces_digits, List.dropWhile_append_of_pos (digits_inside number)]
  simp

end Number

theorem characterOf?_toNat (c : Char) : characterOf? c.toNat = some c := by
  have valid : c.toNat.isValidChar := c.valid
  rw [characterOf?, if_pos valid, Char.ofNat_toNat]

/-! Three forms of an escape, and what the two readers do at each of them. -/

/-- The letter that stands for a character behind a backslash. -/
def Names (letter c : Char) : Prop :=
  letter ≠ '\n' ∧ ∀ rest, unescape ('\\' :: letter :: rest) = c :: unescape rest

theorem escapeChar_cases (shown : Char → Bool) (c : Char) :
    (∃ letter, Names letter c ∧ escapeChar shown c = ['\\', letter]) ∨
      (c ≠ '"' ∧ c ≠ '\\' ∧ c ≠ '\n' ∧ escapeChar shown c = [c]) ∨
      escapeChar shown c = numbered c := by
  unfold escapeChar
  split
  · subst c
    exact Or.inl ⟨'"', ⟨by decide, by simp [unescape]⟩, rfl⟩
  split
  · subst c
    exact Or.inl ⟨'\\', ⟨by decide, by simp [unescape]⟩, rfl⟩
  split
  · subst c
    exact Or.inl ⟨'n', ⟨by decide, by simp [unescape]⟩, rfl⟩
  split
  · subst c
    exact Or.inl ⟨'t', ⟨by decide, by simp [unescape]⟩, rfl⟩
  split
  · subst c
    exact Or.inl ⟨'r', ⟨by decide, by simp [unescape]⟩, rfl⟩
  split
  · subst c
    exact Or.inl ⟨'0', ⟨by decide, by simp [unescape]⟩, rfl⟩
  split
  · rename_i quote backslash newline _ _ _ _
    exact Or.inr (Or.inl ⟨quote, backslash, newline, rfl⟩)
  · exact Or.inr (Or.inr rfl)

theorem unescape_plain (c : Char) (rest : List Char) (plain : c ≠ '\\') :
    unescape (c :: rest) = c :: unescape rest := by
  rw [unescape] <;> simp_all

theorem unescape_numbered (c : Char) (rest : List Char) :
    unescape (numbered c ++ rest) = c :: unescape rest := by
  have shape : numbered c ++ rest =
      '\\' :: 'u' :: ('\x7b' :: Nat.toDigits 16 c.toNat ++ '\x7d' :: rest) := by
    simp [numbered]
  rw [shape, unescape, numberText_digits, afterNumber_digits, hexNumber?_digits, Option.bind_some,
    characterOf?_toNat]
  rfl

theorem unescape_escapeChar (shown : Char → Bool) (c : Char) (rest : List Char) :
    unescape (escapeChar shown c ++ rest) = c :: unescape rest := by
  rcases escapeChar_cases shown c with ⟨letter, names, form⟩ | ⟨_, plain, _, form⟩ | form
  · rw [form]
    exact names.2 rest
  · rw [form]
    exact unescape_plain c rest plain
  · rw [form]
    exact unescape_numbered c rest

/-- An escaped text whose writer chooses at every character anew whether to show it. -/
def escapeAt : (Nat → Bool) → List Char → List Char
  | _, [] => []
  | shown, c :: rest =>
    escapeChar (fun _ => shown 0) c ++ escapeAt (fun place => shown (place + 1)) rest

/-- A writer that goes by the character alone is one of them. -/
theorem escapeWith_eq (shown : Char → Bool) (cs : List Char) :
    escapeWith shown cs = escapeAt (fun place => cs[place]?.any shown) cs := by
  induction cs with
  | nil => rfl
  | cons c rest ih =>
    have later : (fun place => (c :: rest)[place + 1]?.any shown) =
        fun place => rest[place]?.any shown := rfl
    rw [escapeAt, later, ← ih, escapeWith, List.flatMap_cons]
    rfl

theorem unescape_escapeAt (shown : Nat → Bool) (cs : List Char) :
    unescape (escapeAt shown cs) = cs := by
  induction cs generalizing shown with
  | nil => simp [escapeAt, unescape]
  | cons c rest ih => rw [escapeAt, unescape_escapeChar, ih]

theorem unescape_escapeWith (shown : Char → Bool) (cs : List Char) :
    unescape (escapeWith shown cs) = cs := by
  rw [escapeWith_eq, unescape_escapeAt]

/-! What can stand between two quotes. The reader takes all of it, and nothing else: a text is split
in one way only. -/

/-- Characters other than quotes and backslashes, and backslashes that take along the character
behind them, which does not end the line. -/
inductive IsBody : List Char → Prop
  | nil : IsBody []
  | plain (c : Char) (rest : List Char) (quote : c ≠ '"') (backslash : c ≠ '\\')
    (more : IsBody rest) : IsBody (c :: rest)
  | pair (c : Char) (rest : List Char) (inLine : c ≠ '\n') (more : IsBody rest) :
    IsBody ('\\' :: c :: rest)

namespace IsBody

theorem append {first second : List Char} (front : IsBody first) (back : IsBody second) :
    IsBody (first ++ second) := by
  induction front with
  | nil => exact back
  | plain c rest quote backslash _ ih => exact .plain c _ quote backslash ih
  | pair c rest inLine _ ih => exact .pair c _ inLine ih

theorem ofPlain (text : List Char) (plain : ∀ c ∈ text, c ≠ '"' ∧ c ≠ '\\') : IsBody text := by
  induction text with
  | nil => exact .nil
  | cons c rest ih =>
    obtain ⟨quote, backslash⟩ := plain c List.mem_cons_self
    exact .plain c rest quote backslash (ih fun d member => plain d (List.mem_cons_of_mem c member))

theorem numbered (c : Char) : IsBody (numbered c) := by
  apply IsBody.pair 'u' _ (by decide)
  apply IsBody.ofPlain
  intro d member
  refine ⟨?_, ?_⟩
  · rintro rfl
    simp [not_mem_digits c.toNat '"' (by decide)] at member
  · rintro rfl
    simp [not_mem_digits c.toNat '\\' (by decide)] at member

theorem escapeChar (shown : Char → Bool) (c : Char) : IsBody (escapeChar shown c) := by
  rcases escapeChar_cases shown c with ⟨letter, names, form⟩ | ⟨quote, backslash, _, form⟩ | form
  · rw [form]
    exact .pair letter [] names.1 .nil
  · rw [form]
    exact .plain c [] quote backslash .nil
  · rw [form]
    exact .numbered c

theorem escapeAt (shown : Nat → Bool) (cs : List Char) : IsBody (escapeAt shown cs) := by
  induction cs generalizing shown with
  | nil => exact .nil
  | cons c rest ih => exact (IsBody.escapeChar _ c).append (ih _)

/-- The reader takes what can stand between quotes, up to the closing quote. -/
theorem read {text : List Char} (body : IsBody text) (rest : List Char) :
    body? (text ++ '"' :: rest) = some (text, rest) := by
  induction body with
  | nil => rfl
  | plain c more quote backslash _ ih =>
    rw [List.cons_append, body?, ih]
    · rfl
    · simp_all
    · simp_all
    · simp_all
  | pair c more inLine _ ih =>
    rw [List.cons_append, List.cons_append, body?, if_neg inLine, ih]
    rfl

theorem ofRead (cs text rest : List Char) (found : body? cs = some (text, rest)) :
    IsBody text ∧ cs = text ++ '"' :: rest := by
  fun_induction body? cs generalizing text rest with
  | case1 => cases found
  | case2 tail =>
    cases found
    exact ⟨.nil, rfl⟩
  | case3 => cases found
  | case4 c tail inLine ih =>
    obtain ⟨pair, inner, same⟩ := Option.map_eq_some_iff.mp found
    obtain ⟨body, split⟩ := ih pair.1 pair.2 inner
    cases same
    exact ⟨.pair c _ inLine body, by rw [split]; rfl⟩
  | case5 => cases found
  | case6 c tail quote leads alone ih =>
    obtain ⟨pair, inner, same⟩ := Option.map_eq_some_iff.mp found
    obtain ⟨body, split⟩ := ih pair.1 pair.2 inner
    cases same
    have backslash : c ≠ '\\' := by
      intro equal
      cases tail with
      | nil => exact alone equal rfl
      | cons d more => exact leads d more equal rfl
    exact ⟨.plain c _ quote backslash body, by rw [split]; rfl⟩

end IsBody

theorem body?_eq_some_iff (cs text rest : List Char) :
    body? cs = some (text, rest) ↔ IsBody text ∧ cs = text ++ '"' :: rest := by
  constructor
  · exact IsBody.ofRead cs text rest
  · rintro ⟨body, rfl⟩
    exact body.read rest

/-- What stands between the quotes of a text. -/
def escaped (text : String) : List Char := escapeWith isPrintable text.toList

theorem toList_quote (text : String) : (quote text).toList = '"' :: escaped text ++ ['"'] := by
  rw [quote, String.toList_ofList]
  rfl

/-- The reader takes an escaped text and the closing quote behind it. -/
theorem body?_escapeWith (shown : Char → Bool) (cs rest : List Char) :
    body? (escapeWith shown cs ++ '"' :: rest) = some (escapeWith shown cs, rest) := by
  rw [escapeWith_eq]
  exact (IsBody.escapeAt _ cs).read rest

end ApiAssembly.Text.Quoted
