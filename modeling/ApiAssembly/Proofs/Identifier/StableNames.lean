import ApiAssembly.Proofs.Identifier.CapitalizedNames
/-! Which joined names stay as they are when they are split and joined again. A row of capitals is read
as one word, so words of one letter behind each other do not come back. What comes back in their place
does: words that are found in a name without separators do not run together any more. -/
namespace ApiAssembly.Identifier
open Text

theorem wordsFrom_extends (previous : Option Char) (current text : List Char)
    (filled : current ≠ []) :
    ∃ more rest, wordsFrom previous current text = (current.reverse ++ more) :: rest := by
  induction text generalizing previous current with
  | nil => exact ⟨[], [], by simp [wordsFrom, flush, filled]⟩
  | cons c rest ih =>
    by_cases alphanumeric : isAlphanumeric c = true
    · by_cases starts : startsWord previous c rest.head? = true
      · refine ⟨[], wordsFrom (some c) (lower c).reverse rest, ?_⟩
        simp [wordsFrom, flush, filled, alphanumeric, starts]
      · obtain ⟨more, others, found⟩ := ih (some c) ((lower c).reverse ++ current) (by simp [filled])
        exact ⟨lower c ++ more, others, by simp [wordsFrom, alphanumeric, starts, found]⟩
    · refine ⟨[], wordsFrom (some c) [] rest, ?_⟩
      simp [wordsFrom, flush, filled, alphanumeric]

/-- The current word is no single letter, or its letter was a capital in the text. -/
def Raised (previous : Char) (current : List Char) : Prop :=
  ∀ letter, current = [letter] → letter.isLower = true →
    isLowercase previous = false ∧ previous.isDigit = false

/-- A single letter that was a capital is followed by a word that shows a small letter. -/
theorem apart_of_starts (previous c : Char) (current rest : List Char)
    (raised : Raised previous current) (plain : ∀ d ∈ rest, d.isAlphanum = true)
    (starts : startsWord (some previous) c rest.head? = true) :
    ∀ word ∈ (wordsFrom (some c) [c.toLower] rest).head?,
      runsTogether current.reverse word = false := by
  intro word inFront
  rw [Bool.eq_false_iff]
  intro together
  obtain ⟨letter, capital, more, single, rfl, isLetter, -, bare⟩ :=
    (runsTogether_iff _ _).mp together
  rw [List.reverse_eq_iff, List.reverse_singleton] at single
  obtain ⟨notLow, notDigit⟩ := raised letter single isLetter
  -- Nothing but a small letter behind the capital can have told it apart.
  simp only [startsWord, notLow, notDigit, Bool.false_or, Bool.and_eq_true] at starts
  obtain ⟨-, -, followed⟩ := starts
  cases rest with
  | nil => cases followed
  | cons d others =>
    have alphanumeric := plain d List.mem_cons_self
    have ascii := ascii_of_alphanumeric d alphanumeric
    have low : d.isLower = true := by simpa [isLowercase, ascii] using followed
    have small : d.isLower = true ∨ d.isDigit = true := Or.inl low
    have within : ¬ startsWord (some c) d others.head? = true := by
      simp [startsWord, isUppercase_of_small d small]
    obtain ⟨behind, later, found⟩ :=
      wordsFrom_extends (some d) [d.toLower, c.toLower] others (List.cons_ne_nil _ _)
    rw [wordsFrom_alphanumeric _ _ d others alphanumeric, if_neg within, found, List.head?_cons,
      Option.mem_some, toLower_of_small d small] at inFront
    obtain ⟨-, rfl⟩ := List.cons.inj inFront
    simp [low] at bare

theorem raised_of_large (c : Char) (large : c.isUpper = true ∨ c.isDigit = true) :
    Raised c [c.toLower] := by
  intro letter single isLetter
  obtain rfl := List.singleton_inj.mp single
  have ascii := ascii_of_alphanumeric c
    (large.elim (fun capital => isAlphanum_of_letter c (Or.inl capital)) (isAlphanum_of_digit c))
  exact of_table (fun c => c.isUpper = true ∨ c.isDigit = true → c.toLower.isLower = true →
    isLowercase c = false ∧ c.isDigit = false) (by decide) c ascii large isLetter

/-- No words run together. In front of them may be a single letter that was small in the text. -/
theorem chain_wordsFrom (previous : Char) (current text : List Char) (filled : current ≠ [])
    (plain : ∀ c ∈ text, c.isAlphanum = true) :
    StandApart (wordsFrom (some previous) current text).tail ∧
    (Raised previous current → StandApart (wordsFrom (some previous) current text)) := by
  induction text generalizing previous current with
  | nil => simp [wordsFrom, flush, filled]
  | cons c rest ih =>
    have alphanumeric := plain c List.mem_cons_self
    have others := fun d member => plain d (List.mem_cons_of_mem c member)
    have step := wordsFrom_alphanumeric (some previous) current c rest alphanumeric
    by_cases starts : startsWord (some previous) c rest.head? = true
    · have capital := isUpper_of_startsWord (some previous) _ c alphanumeric starts
      have later := (ih c [c.toLower] (List.cons_ne_nil _ _) others).2
        (raised_of_large c (Or.inl capital))
      simp only [starts, if_true, flush, filled, List.isEmpty_iff, if_false, List.singleton_append]
        at step
      rw [step]
      refine ⟨later, fun raised => (standApart_cons _ _).mpr ⟨?_, later⟩⟩
      exact apart_of_starts previous c current rest raised others starts
    · have longer : Raised c (c.toLower :: current) := by
        intro letter single _
        simp [filled] at single
      obtain ⟨behind, whole⟩ := ih c (c.toLower :: current) (List.cons_ne_nil _ _) others
      rw [if_neg starts] at step
      rw [step]
      exact ⟨behind, fun _ => whole longer⟩

theorem chain_wordsOf (text : List Char) (plain : ∀ c ∈ text, c.isAlphanum = true) :
    StandApart (wordsOf text).tail ∧
    ((∀ c ∈ text.head?, c.isUpper = true ∨ c.isDigit = true) → StandApart (wordsOf text)) := by
  cases text with
  | nil => simp [wordsOf, wordsFrom, flush]
  | cons c rest =>
    obtain ⟨behind, whole⟩ := chain_wordsFrom c [c.toLower] rest (List.cons_ne_nil _ _)
      fun d member => plain d (List.mem_cons_of_mem c member)
    rw [wordsOf_alphanumeric c rest (plain c List.mem_cons_self)]
    exact ⟨behind, fun large => whole (raised_of_large c (large c rfl))⟩

/-- Splitting and joining a joined name again leaves it as it is exactly when no word of a single
letter runs together with the word behind it. In a name that starts with a small letter the first word
does not count, as it has no capital. What comes out of the second time never changes any more. -/
theorem joined_names_stable_iff (text : String) (ascii : IsAscii text) :
    (camel (camel text) = camel text ↔ StandApart (wordsOf text.toList).tail) ∧
    (pascal (pascal text) = pascal text ↔ StandApart (wordsOf text.toList)) ∧
    camel (camel (camel text)) = camel (camel text) ∧
    pascal (pascal (pascal text)) = pascal (pascal text) := by
  refine ⟨camel_camel_iff ascii, pascal_pascal_iff ascii, ?_, ?_⟩
  · have plain := isAlphanum_camel ascii
    have again : IsAscii (camel text) := fun c member => ascii_of_alphanumeric c (plain c member)
    exact (camel_camel_iff again).mpr (chain_wordsOf _ plain).1
  · have plain := isAlphanum_pascal ascii
    have again : IsAscii (pascal text) := fun c member => ascii_of_alphanumeric c (plain c member)
    refine (pascal_pascal_iff again).mpr ((chain_wordsOf _ plain).2 fun c inFront => ?_)
    obtain ⟨rest, shape⟩ := List.head?_eq_some_iff.mp inFront
    exact pascal_head ascii c rest shape

/-- Words of one letter in front and behind, and a word that starts with a digit. -/
theorem joined_names_stable_apart :
    let text := "x list_HTTPServer-2nd by y"
    IsAscii text ∧ camel text = "xListHttpServer2ndByY" ∧ camel (camel text) = camel text ∧
    pascal (pascal text) = pascal text := by
  intro text
  have ascii : IsAscii text := by decide
  have apart : StandApart (wordsOf text.toList) := by decide
  obtain ⟨ofCamel, ofPascal, -, -⟩ := joined_names_stable_iff text ascii
  exact ⟨ascii, by decide, ofCamel.mpr (by decide), ofPascal.mpr apart⟩

/-- Words of one letter behind each other are read back as one word. -/
theorem joined_names_unstable :
    (IsAscii "a b c" ∧ camel "a b c" = "aBC" ∧ camel (camel "a b c") = "aBc" ∧
      camel (camel "a b c") ≠ camel "a b c") ∧
    IsAscii "a b" ∧ pascal "a b" = "AB" ∧ pascal (pascal "a b") = "Ab" ∧
      pascal (pascal "a b") ≠ pascal "a b" := by
  decide

end ApiAssembly.Identifier
