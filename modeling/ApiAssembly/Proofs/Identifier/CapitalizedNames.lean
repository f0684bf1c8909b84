import ApiAssembly.Proofs.Identifier.SeparatedNames
import Mathlib.Data.List.Chain
/-! Names whose words are joined without a separator, each with a capital in front. Splitting such a
name again finds a word at each capital that stands behind a small letter or a digit, and at the last
one of a row of capitals when a small letter follows. So a capital is lost where a word of a single
letter runs together with the next one, and nowhere else. -/
namespace ApiAssembly.Identifier
open Text

/-- What a text of letters and digits becomes when it is split and joined again: the capitals that
start a word are kept and all others are lost. -/
def recased (previous : Option Char) : List Char → List Char
  | [] => []
  | c :: rest =>
    (if startsWord previous c rest.head? then c else c.toLower) :: recased (some c) rest

def joinCamel : List (List Char) → List Char
  | [] => []
  | first :: rest => first ++ joinCapitalized rest

theorem joinCapitalized_cons (word : List Char) (rest : List (List Char)) :
    joinCapitalized (word :: rest) = capitalize word ++ joinCapitalized rest := rfl

theorem toList_camel (text : String) : (camel text).toList = joinCamel (wordsOf text.toList) := by
  unfold camel
  cases wordsOf text.toList with
  | nil => rfl
  | cons first rest => simp [joinCamel]

theorem toList_pascal (text : String) :
    (pascal text).toList = joinCapitalized (wordsOf text.toList) := by
  simp [pascal]

/-- The two ways to join words differ in the first letter only. -/
theorem joinCapitalized_eq (words : List (List Char)) (full : ∀ word ∈ words, word ≠ []) :
    joinCapitalized words = capitalize (joinCamel words) := by
  cases words with
  | nil => rfl
  | cons word rest =>
    obtain ⟨c, more, rfl⟩ := List.exists_cons_of_ne_nil (full word List.mem_cons_self)
    simp [joinCapitalized, joinCamel, capitalize]

/-- One step over an ASCII letter or digit. -/
theorem wordsFrom_alphanumeric (previous : Option Char) (current : List Char) (c : Char)
    (rest : List Char) (alphanumeric : c.isAlphanum = true) :
    wordsFrom previous current (c :: rest) =
      if startsWord previous c rest.head? then flush current ++ wordsFrom (some c) [c.toLower] rest
      else wordsFrom (some c) (c.toLower :: current) rest := by
  have ascii := ascii_of_alphanumeric c alphanumeric
  simp [wordsFrom, isAlphanumeric, lower, ascii, alphanumeric]

theorem wordsOf_alphanumeric (c : Char) (rest : List Char) (alphanumeric : c.isAlphanum = true) :
    wordsOf (c :: rest) = wordsFrom (some c) [c.toLower] rest := by
  simp [wordsOf, wordsFrom_alphanumeric none [] c rest alphanumeric, startsWord]

theorem isUpper_of_startsWord (previous next : Option Char) (c : Char)
    (alphanumeric : c.isAlphanum = true) (starts : startsWord previous c next = true) :
    c.isUpper = true := by
  simp only [startsWord, isUppercase, ascii_of_alphanumeric c alphanumeric, if_true,
    Bool.and_eq_true] at starts
  exact starts.1

theorem joinCamel_wordsFrom (previous : Option Char) (current text : List Char)
    (filled : current ≠ []) (plain : ∀ c ∈ text, c.isAlphanum = true) :
    joinCamel (wordsFrom previous current text) = current.reverse ++ recased previous text := by
  induction text generalizing previous current with
  | nil => simp [wordsFrom, flush, filled, joinCamel, joinCapitalized, recased]
  | cons c rest ih =>
    have alphanumeric := plain c List.mem_cons_self
    have others : ∀ d ∈ rest, d.isAlphanum = true :=
      fun d member => plain d (List.mem_cons_of_mem c member)
    rw [wordsFrom_alphanumeric _ _ c rest alphanumeric, recased]
    by_cases starts : startsWord previous c rest.head? = true
    · -- The word before is finished. Its own capitals are settled, so only the new one is in question.
      have capital := isUpper_of_startsWord previous _ c alphanumeric starts
      have later := ih (some c) [c.toLower] (List.cons_ne_nil _ _) others
      have joined : joinCapitalized (wordsFrom (some c) [c.toLower] rest) =
          c :: recased (some c) rest := by
        rw [joinCapitalized_eq _ (wordsFrom_ne_nil (some c) [c.toLower] rest), later]
        simp [capitalize, upper_toLower c capital]
      simp [starts, flush, filled, joinCamel, joined]
    · have later := ih (some c) (c.toLower :: current) (List.cons_ne_nil _ _) others
      simp [starts, later]

theorem joinCamel_wordsOf (text : List Char) (plain : ∀ c ∈ text, c.isAlphanum = true) :
    joinCamel (wordsOf text) = recased none text := by
  cases text with
  | nil => rfl
  | cons c rest =>
    have later := joinCamel_wordsFrom (some c) [c.toLower] rest (List.cons_ne_nil _ _)
      fun d member => plain d (List.mem_cons_of_mem c member)
    simp [wordsOf_alphanumeric c rest (plain c List.mem_cons_self), later, recased, startsWord]

theorem recased_small (previous : Option Char) (run rest : List Char)
    (small : ∀ c ∈ run, c.isLower = true ∨ c.isDigit = true) :
    recased previous (run ++ rest) = run ++ recased (run.getLast?.or previous) rest := by
  induction run generalizing previous with
  | nil => simp
  | cons c run ih =>
    have first := small c List.mem_cons_self
    have later := ih (some c) fun d member => small d (List.mem_cons_of_mem c member)
    simp [recased, startsWord, isUppercase_of_small c first, toLower_of_small c first, later,
      List.getLast?_cons]

/-- A word of a single letter and the next word are read as one, when no small letter tells the
capital of the next word from a row of capitals. -/
def runsTogether : List Char → List Char → Bool
  | [letter], capital :: rest => letter.isLower && capital.isLower && !rest.head?.any Char.isLower
  | _, _ => false

theorem runsTogether_iff (word next : List Char) :
    runsTogether word next = true ↔ ∃ letter capital rest, word = [letter] ∧ next = capital :: rest ∧
      letter.isLower = true ∧ capital.isLower = true ∧ rest.head?.any Char.isLower = false := by
  unfold runsTogether
  split
  · simp [and_assoc]
  · rename_i other
    simp only [Bool.false_eq_true, false_iff, not_exists]
    rintro letter capital rest ⟨rfl, rfl, -⟩
    exact other letter capital rest rfl rfl

/-- No word runs together with the word behind it. -/
def StandApart (words : List (List Char)) : Prop :=
  words.IsChain fun word next => runsTogether word next = false

instance (words : List (List Char)) : Decidable (StandApart words) :=
  inferInstanceAs (Decidable (List.IsChain _ words))

@[simp] theorem standApart_nil : StandApart [] := List.IsChain.nil

@[simp] theorem standApart_singleton (word : List Char) : StandApart [word] :=
  List.IsChain.singleton word

theorem standApart_cons (word : List Char) (rest : List (List Char)) :
    StandApart (word :: rest) ↔
      (∀ next ∈ rest.head?, runsTogether word next = false) ∧ StandApart rest :=
  List.isChain_cons

/-- The capital behind a word is seen as the start of the next word, but for words that run together. -/
theorem startsWord_behind (word : List Char) (plain : IsAsciiWord word) (c : Char)
    (letter : c.isLower = true) (rest : List Char) (following : Option Char)
    (follows : following.any isLowercase = rest.head?.any Char.isLower) :
    startsWord (capitalize word).getLast? c.toUpper following = !runsTogether word (c :: rest) := by
  obtain ⟨capital, -, -⟩ := toUpper_of_letter c letter
  match word, plain with
  | [], plain => exact absurd rfl plain.nonempty
  | [single], plain =>
    have small := plain.small single List.mem_cons_self
    rw [capitalize, upper_of_small single small]
    rcases small with isLetter | isDigit
    · obtain ⟨up, notLow, notDigit⟩ := toUpper_of_letter single isLetter
      simp [startsWord, runsTogether, capital, up, notLow, notDigit, isLetter, letter, follows]
    · simp [startsWord, runsTogether, capital, toUpper_of_digit single isDigit, isDigit,
        isLower_of_digit single isDigit]
  | first :: second :: more, plain =>
    have last := List.getLast_mem (List.cons_ne_nil second more)
    have small := plain.small _ (List.mem_cons_of_mem first last)
    have ends : (capitalize (first :: second :: more)).getLast? =
        some ((second :: more).getLast (List.cons_ne_nil second more)) := by
      rw [capitalize, List.getLast?_append, List.getLast?_eq_some_getLast (List.cons_ne_nil _ _),
        Option.some_or]
    rw [ends, startsWord, capital, isLowercase_of_small _ small]
    rcases small with isLetter | isDigit
    · simp [runsTogether, isLetter]
    · simp [runsTogether, isDigit]

/-- A word in front is kept when its capital starts it, and the words behind it when they are kept. -/
theorem recased_capitalize_iff (previous : Option Char) (c : Char) (run rest : List Char)
    (small : ∀ d ∈ c :: run, d.isLower = true ∨ d.isDigit = true) :
    recased previous (capitalize (c :: run) ++ rest) = capitalize (c :: run) ++ rest ↔
      (c.isLower = true → startsWord previous c.toUpper (run ++ rest).head? = true) ∧
      recased (capitalize (c :: run)).getLast? rest = rest := by
  have first := small c List.mem_cons_self
  have passed := recased_small (some c.toUpper) run rest
    fun d member => small d (List.mem_cons_of_mem c member)
  have kept : (if startsWord previous c.toUpper (run ++ rest).head? then c.toUpper
      else c.toUpper.toLower) = c.toUpper ↔
      (c.isLower = true → startsWord previous c.toUpper (run ++ rest).head? = true) := by
    rw [toLower_toUpper c first]
    rcases first with letter | digit
    · have differ : c ≠ c.toUpper := by
        intro same
        have capital := (toUpper_of_letter c letter).1
        rw [← same, isUppercase_of_small c (Or.inl letter)] at capital
        cases capital
      simp [letter, differ]
    · simp [isLower_of_digit c digit, toUpper_of_digit c digit]
  have ends : (c.toUpper :: run).getLast? = run.getLast?.or (some c.toUpper) := by
    simp [List.getLast?_cons]
  rw [capitalize, upper_of_small c first, List.singleton_append, List.cons_append, recased, passed,
    ends, List.cons.injEq, kept, List.append_right_inj]

theorem head?_joinCapitalized (words : List (List Char)) (plain : ∀ word ∈ words, IsAsciiWord word) :
    (joinCapitalized words).head?.any isLowercase = false := by
  cases words with
  | nil => rfl
  | cons word rest =>
    have first := plain word List.mem_cons_self
    obtain ⟨c, run, rfl⟩ := List.exists_cons_of_ne_nil first.nonempty
    have small := first.small c List.mem_cons_self
    rcases small with letter | digit
    · simp [joinCapitalized, capitalize, upper_of_small c (Or.inl letter), toUpper_of_letter c letter]
    · simp [joinCapitalized, capitalize, upper_of_small c (Or.inr digit), toUpper_of_digit c digit,
        isLowercase_of_small c (Or.inr digit), isLower_of_digit c digit]

/-- The next word shows its capital exactly when the two do not run together. -/
theorem next_starts_iff (word : List Char) (plain : IsAsciiWord word) (c : Char) (run : List Char)
    (small : ∀ d ∈ c :: run, d.isLower = true ∨ d.isDigit = true) (rest : List (List Char))
    (others : ∀ other ∈ rest, IsAsciiWord other) :
    (c.isLower = true → startsWord (capitalize word).getLast? c.toUpper
      (run ++ joinCapitalized rest).head? = true) ↔ runsTogether word (c :: run) = false := by
  by_cases letter : c.isLower = true
  · have follows : ((run ++ joinCapitalized rest).head?).any isLowercase =
        run.head?.any Char.isLower := by
      cases run with
      | nil => exact head?_joinCapitalized rest others
      | cons d more =>
        exact isLowercase_of_small d (small d (List.mem_cons_of_mem c List.mem_cons_self))
    rw [startsWord_behind word plain c letter run _ follows]
    simp [letter]
  · have apart : runsTogether word (c :: run) = false := by
      rw [Bool.eq_false_iff]
      intro together
      obtain ⟨_, capital, _, _, same, _, isLetter, _⟩ := (runsTogether_iff _ _).mp together
      obtain ⟨rfl, rfl⟩ := List.cons.inj same
      exact letter isLetter
    simp [letter, apart]

/-- Behind a word with a capital in front all capitals are kept when no words run together. -/
theorem recased_joined_iff (word : List Char) (words : List (List Char))
    (plain : ∀ other ∈ word :: words, IsAsciiWord other) :
    recased (capitalize word).getLast? (joinCapitalized words) = joinCapitalized words ↔
      StandApart (word :: words) := by
  induction words generalizing word with
  | nil => simp [joinCapitalized, recased]
  | cons next rest ih =>
    have behind := fun other member => plain other (List.mem_cons_of_mem word member)
    have second := behind next List.mem_cons_self
    obtain ⟨c, run, rfl⟩ := List.exists_cons_of_ne_nil second.nonempty
    have start := next_starts_iff word (plain word List.mem_cons_self) c run second.small rest
      fun other member => behind other (List.mem_cons_of_mem _ member)
    rw [joinCapitalized_cons, recased_capitalize_iff _ c run _ second.small, start,
      ih (c :: run) behind, standApart_cons word]
    simp

/-- A word behind a small letter or a digit always keeps its capital. -/
theorem recased_behind_small (before : Char) (small : before.isLower = true ∨ before.isDigit = true)
    (words : List (List Char)) (plain : ∀ word ∈ words, IsAsciiWord word) :
    recased (some before) (joinCapitalized words) = joinCapitalized words ↔ StandApart words := by
  cases words with
  | nil => simp [joinCapitalized, recased]
  | cons word rest =>
    have first := plain word List.mem_cons_self
    obtain ⟨c, run, rfl⟩ := List.exists_cons_of_ne_nil first.nonempty
    rw [joinCapitalized_cons, recased_capitalize_iff _ c run _ first.small,
      recased_joined_iff (c :: run) rest plain]
    refine and_iff_right fun letter => ?_
    obtain ⟨capital, -, -⟩ := toUpper_of_letter c letter
    simpa [startsWord, capital, isLowercase_of_small before small] using Or.inl small

section Ascii
variable {text : String} (ascii : IsAscii text)
include ascii

theorem isAlphanum_camel (c : Char) (member : c ∈ (camel text).toList) : c.isAlphanum = true := by
  have plain := isAsciiWord_of_mem ascii
  rw [toList_camel] at member
  cases found : wordsOf text.toList with
  | nil => simp [found, joinCamel] at member
  | cons word rest =>
    rw [found] at member plain
    rcases List.mem_append.mp member with inWord | behind
    · exact isAlphanum_of_small c ((plain word List.mem_cons_self).small c inWord)
    · rcases mem_joinCapitalized_ascii rest
        (fun other inside => plain other (List.mem_cons_of_mem word inside)) c behind
        with small | capital
      · exact isAlphanum_of_small c small
      · exact isAlphanum_of_letter c (Or.inl capital)

theorem isAlphanum_pascal (c : Char) (member : c ∈ (pascal text).toList) : c.isAlphanum = true :=
  (mem_pascal ascii c member).elim (isAlphanum_of_small c)
    fun capital => isAlphanum_of_letter c (Or.inl capital)

theorem camel_camel_iff :
    camel (camel text) = camel text ↔ StandApart (wordsOf text.toList).tail := by
  have again : (camel (camel text)).toList = recased none (camel text).toList := by
    rw [toList_camel (camel text), joinCamel_wordsOf _ (isAlphanum_camel ascii)]
  rw [← String.toList_inj, again, toList_camel]
  have plain := isAsciiWord_of_mem ascii
  cases found : wordsOf text.toList with
  | nil => simp [joinCamel, recased]
  | cons word rest =>
    rw [found] at plain
    have first := plain word List.mem_cons_self
    have ends := List.getLast?_eq_some_getLast first.nonempty
    have small := first.small _ (List.getLast_mem first.nonempty)
    rw [joinCamel, recased_small none word _ first.small, ends, Option.some_or,
      List.append_right_inj]
    exact recased_behind_small _ small rest fun other member =>
      plain other (List.mem_cons_of_mem word member)

theorem pascal_pascal_iff :
    pascal (pascal text) = pascal text ↔ StandApart (wordsOf text.toList) := by
  have again : (pascal (pascal text)).toList = capitalize (recased none (pascal text).toList) := by
    rw [toList_pascal (pascal text), joinCapitalized_eq _ (wordsOf_ne_nil _),
      joinCamel_wordsOf _ (isAlphanum_pascal ascii)]
  rw [← String.toList_inj, again, toList_pascal]
  have plain := isAsciiWord_of_mem ascii
  cases found : wordsOf text.toList with
  | nil => simp [joinCapitalized, recased, capitalize]
  | cons word rest =>
    rw [found] at plain
    have first := plain word List.mem_cons_self
    rw [← recased_joined_iff word rest plain]
    obtain ⟨c, run, rfl⟩ := List.exists_cons_of_ne_nil first.nonempty
    have small := first.small c List.mem_cons_self
    have passed := recased_small (some c.toUpper) run (joinCapitalized rest)
      fun d member => first.small d (List.mem_cons_of_mem c member)
    simp [joinCapitalized_cons, capitalize, upper_of_small c small, recased, startsWord, passed,
      toLower_toUpper c small, List.getLast?_cons]

end Ascii

end ApiAssembly.Identifier
