import ApiAssembly.Json.Printer
import ApiAssembly.Json.Reader
/-! Quoted texts, read back. The reader of JSON takes a quoted text for the text that was quoted, and
goes on behind the closing quote. So no quoted text is the start of another one. -/
namespace ApiAssembly.Json

/-- The number of a control character is written with two digits that count. -/
theorem hexValue?_hexDigit : ∀ value < 16, Reader.hexValue? (hexDigit value) = some value := by
  decide

theorem escaped?_control (c : Char) (rest : List Char) (control : c.toNat < 32) :
    Reader.escaped? ('u' :: '0' :: '0' :: hexDigit (c.toNat / 16) :: hexDigit (c.toNat % 16) :: rest) =
      some (c, rest) := by
  have zero : Reader.hexValue? '0' = some 0 := by decide
  have high := hexValue?_hexDigit (c.toNat / 16) (by omega)
  have low := hexValue?_hexDigit (c.toNat % 16) (by omega)
  have whole : ((0 * 16 + 0) * 16 + c.toNat / 16) * 16 + c.toNat % 16 = c.toNat := by omega
  have quad : Reader.hexQuad?
      ('0' :: '0' :: hexDigit (c.toNat / 16) :: hexDigit (c.toNat % 16) :: rest) =
      some (c.toNat, rest) := by
    simp only [Reader.hexQuad?, zero, high, low, bind, Option.bind_some, whole]
    rfl
  have below : ¬ (0xD800 ≤ c.toNat ∧ c.toNat < 0xDC00) := by omega
  have above : ¬ (0xDC00 ≤ c.toNat ∧ c.toNat < 0xE000) := by omega
  have same : Char.ofNat c.toNat = c := Char.ofNat_toNat c
  simp only [Reader.escaped?, Reader.escapedUnit?, quad, bind, Option.bind_some, below, above,
    if_false, same]
  rfl

/-- One character of the text is read from what was written for it. -/
theorem string?_escapeChar (fuel : Nat) (kept rest : List Char) (c : Char) :
    Reader.string? (fuel + 1) kept (escapeChar c ++ rest) =
      Reader.string? fuel (c :: kept) rest := by
  by_cases quote : c = '"'
  · subst quote
    rfl
  by_cases backslash : c = '\\'
  · subst backslash
    rfl
  by_cases newline : c = '\n'
  · subst newline
    rfl
  by_cases carriage : c = '\r'
  · subst carriage
    rfl
  by_cases tab : c = '\t'
  · subst tab
    rfl
  by_cases back : c = '\x08'
  · subst back
    rfl
  by_cases feed : c = '\x0c'
  · subst feed
    rfl
  by_cases control : c.toNat < 32
  · have read := escaped?_control c rest control
    simp only [escapeChar, quote, backslash, newline, carriage, tab, back, feed, control, if_false,
      if_true, List.cons_append, List.nil_append, Reader.string?, read]
    rfl
  · simp [escapeChar, quote, backslash, newline, carriage, tab, back, feed, control, Reader.string?]

/-- The fuel has to last for the characters of the text and the closing quote. -/
theorem string?_escaped (text : List Char) (fuel : Nat) (kept rest : List Char)
    (enough : text.length < fuel) :
    Reader.string? fuel kept (text.flatMap escapeChar ++ '"' :: rest) =
      some (String.ofList (kept.reverse ++ text), rest) := by
  induction text generalizing fuel kept with
  | nil =>
    obtain ⟨fuel, rfl⟩ := Nat.exists_eq_add_of_lt enough
    rw [List.flatMap_nil, List.nil_append, List.append_nil]
    rfl
  | cons c more ih =>
    obtain ⟨fuel, rfl⟩ : ∃ left, fuel = left + 1 := ⟨fuel - 1, by omega⟩
    rw [List.flatMap_cons, List.append_assoc, string?_escapeChar,
      ih fuel (c :: kept) (by simpa using enough)]
    simp

theorem quote_append_inj {left right : String} {leftRest rightRest : List Char}
    (same : quote left ++ leftRest = quote right ++ rightRest) :
    left = right ∧ leftRest = rightRest := by
  have read (text : String) (rest : List Char) (fuel : Nat) (enough : text.toList.length < fuel) :
      Reader.string? fuel [] ((quote text ++ rest).drop 1) = some (text, rest) := by
    have shape : (quote text ++ rest).drop 1 =
        text.toList.flatMap escapeChar ++ '"' :: rest := by
      simp [quote]
    rw [shape, string?_escaped _ _ _ _ enough]
    simp
  have leftRead := read left leftRest (left.toList.length + right.toList.length + 1) (by omega)
  have rightRead := read right rightRest (left.toList.length + right.toList.length + 1) (by omega)
  rw [same, rightRead] at leftRead
  cases leftRead
  exact ⟨rfl, rfl⟩

end ApiAssembly.Json
