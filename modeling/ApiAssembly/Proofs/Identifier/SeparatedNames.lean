import ApiAssembly.Proofs.Identifier.AsciiWords
/-! Names whose words stand behind each other with a separator between them. No word has a separator
in it, so each such name tells the words that it was made of. Words of small letters and digits are
found again when the name is split like any other text, whatever separates them. -/
namespace ApiAssembly.Identifier
open Text

/-- Small letters and digits go on with the current word, whatever stands before them. -/
theorem wordsFrom_small (previous : Option Char) (current run rest : List Char)
    (small : ∀ c ∈ run, c.isLower = true ∨ c.isDigit = true) :
    wordsFrom previous current (run ++ rest) =
      wordsFrom (run.getLast?.or previous) (run.reverse ++ current) rest := by
  induction run generalizing previous current with
  | nil => simp
  | cons c run ih =>
    have first := small c List.mem_cons_self
    have later := ih (some c) (c :: current) fun d member => small d (List.mem_cons_of_mem c member)
    simp [wordsFrom, isAlphanumeric_of_small c first, startsWord, isUppercase_of_small c first,
      lower_of_small c first, later, List.getLast?_cons]

theorem wordsFrom_intercalate (separator : Char) (apart : isAlphanumeric separator = false)
    (words : List (List Char)) (plain : ∀ word ∈ words, IsAsciiWord word) (previous : Option Char) :
    wordsFrom previous [] ([separator].intercalate words) = words := by
  induction words generalizing previous with
  | nil => simp [wordsFrom, flush]
  | cons word rest ih =>
    have first := plain word List.mem_cons_self
    have ended : flush word.reverse = [word] := by simp [flush, first.nonempty]
    cases rest with
    | nil =>
      have single := wordsFrom_small previous [] word [] first.small
      simpa [wordsFrom, ended] using single
    | cons next more =>
      have later := ih (fun other member => plain other (List.mem_cons_of_mem word member))
      rw [List.intercalate_cons_cons, List.append_assoc, wordsFrom_small _ _ _ _ first.small]
      simp [wordsFrom, apart, ended, later]

theorem wordsOf_intercalate (separator : Char) (apart : isAlphanumeric separator = false)
    (words : List (List Char)) (plain : ∀ word ∈ words, IsAsciiWord word) :
    wordsOf ([separator].intercalate words) = words :=
  wordsFrom_intercalate separator apart words plain none

/-- The words are the pieces between separators. Only the empty name has an empty piece. -/
theorem pieces_intercalate (separator : Char) (words : List (List Char))
    (full : ∀ word ∈ words, word ≠ []) (free : ∀ word ∈ words, separator ∉ word) :
    (([separator].intercalate words).splitOn separator).filter (fun piece => !piece.isEmpty) =
      words := by
  cases words with
  | nil => simp
  | cons word rest =>
    rw [List.splitOn_intercalate separator free (List.cons_ne_nil word rest), List.filter_eq_self]
    intro piece member
    simpa using full piece member

/-- Names of separated words are equal only when their words are, in all scripts. -/
theorem separated_eq_iff (separator : Char) (ascii : separator.toNat < 128)
    (apart : separator.isAlphanum = false) (first second : String) :
    String.ofList ([separator].intercalate (wordsOf first.toList)) =
        String.ofList ([separator].intercalate (wordsOf second.toList)) ↔
      wordsOf first.toList = wordsOf second.toList := by
  have told (text : String) := pieces_intercalate separator (wordsOf text.toList)
    (wordsOf_ne_nil text.toList) (separator_not_mem_word separator ascii apart text.toList)
  constructor
  · intro same
    have joined := congrArg String.toList same
    simp only [String.toList_ofList] at joined
    rw [← told first, ← told second, joined]
  · intro same
    rw [same]

theorem kebab_eq_iff (first second : String) :
    kebab first = kebab second ↔ wordsOf first.toList = wordsOf second.toList :=
  separated_eq_iff '-' (by decide) (by decide) first second

theorem snake_eq_iff (first second : String) :
    snake first = snake second ↔ wordsOf first.toList = wordsOf second.toList :=
  separated_eq_iff '_' (by decide) (by decide) first second

theorem words_eq_iff (first second : String) :
    words first = words second ↔ wordsOf first.toList = wordsOf second.toList := by
  have spelled : Function.Injective String.ofList := fun _ _ => String.ofList_inj.mp
  simp [words, List.map_inj_right spelled]

/-- A separated name of an ASCII text has the words of the text. So each kind of name is its own
normal form, and is told by the other. -/
theorem separated_words_kept (text : String) (ascii : IsAscii text) :
    words (kebab text) = words text ∧ words (snake text) = words text ∧
    kebab (kebab text) = kebab text ∧ snake (snake text) = snake text ∧
    snake (kebab text) = snake text ∧ kebab (snake text) = kebab text := by
  have ofKebab : wordsOf (kebab text).toList = wordsOf text.toList := by
    rw [kebab, String.toList_ofList]
    exact wordsOf_intercalate '-' (by decide) _ (isAsciiWord_of_mem ascii)
  have ofSnake : wordsOf (snake text).toList = wordsOf text.toList := by
    rw [snake, String.toList_ofList]
    exact wordsOf_intercalate '_' (by decide) _ (isAsciiWord_of_mem ascii)
  simp [words_eq_iff, kebab_eq_iff, snake_eq_iff, ofKebab, ofSnake]

/-- Separators of other kinds, rows of capitals and digits in one text. -/
theorem separated_words_kept_mixed :
    let text := "get_HTTPServer--2nd v2Items/"
    IsAscii text ∧ words text = ["get", "http", "server", "2nd", "v2", "items"] ∧
    words (kebab text) = words text ∧ words (snake text) = words text ∧
    kebab (kebab text) = kebab text ∧ snake (snake text) = snake text ∧
    snake (kebab text) = snake text ∧ kebab (snake text) = kebab text := by
  intro text
  have ascii : IsAscii text := by decide
  exact ⟨ascii, by decide, separated_words_kept text ascii⟩

end ApiAssembly.Identifier
