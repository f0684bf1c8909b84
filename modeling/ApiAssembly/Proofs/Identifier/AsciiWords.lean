import ApiAssembly.Proofs.Identifier.Words
import ApiAssembly.Proofs.Text.Lines
/-! The words of an ASCII text are made of small letters and digits. A name of such words is empty
exactly when the text has no letter and no digit, and a name without separators starts with a
capital or a digit. -/
namespace ApiAssembly

namespace Text

def IsAscii (text : String) : Prop := ∀ c ∈ text.toList, c.toNat < 128

instance (text : String) : Decidable (IsAscii text) :=
  List.decidableBAll (fun c : Char => c.toNat < 128) text.toList

theorem of_table (holds : Char → Prop) (table : ∀ code < 128, holds (Char.ofNat code)) (c : Char)
    (ascii : c.toNat < 128) : holds c := by
  rw [← Char.ofNat_toNat c]
  exact table c.toNat ascii

theorem toLower_small (c : Char) (ascii : c.toNat < 128) (alphanumeric : c.isAlphanum = true) :
    c.toLower.isLower = true ∨ c.toLower.isDigit = true :=
  of_table (fun c => c.isAlphanum = true → c.toLower.isLower = true ∨ c.toLower.isDigit = true)
    (by decide) c ascii alphanumeric

theorem ascii_of_small (c : Char) (small : c.isLower = true ∨ c.isDigit = true) : c.toNat < 128 := by
  rcases small with letter | digit
  · have last : c.val ≤ 'z'.val := of_decide_eq_true (Bool.and_eq_true_iff.mp letter).2
    exact Nat.lt_of_le_of_lt (UInt32.le_iff_toNat_le.mp last) (by decide)
  · have last : c.val ≤ '9'.val := of_decide_eq_true (Bool.and_eq_true_iff.mp digit).2
    exact Nat.lt_of_le_of_lt (UInt32.le_iff_toNat_le.mp last) (by decide)

theorem isAlphanum_of_letter (c : Char) (letter : c.isUpper = true ∨ c.isLower = true) :
    c.isAlphanum = true :=
  Bool.or_eq_true_iff.mpr (Or.inl (Bool.or_eq_true_iff.mpr letter))

theorem isAlphanum_of_digit (c : Char) (digit : c.isDigit = true) : c.isAlphanum = true :=
  Bool.or_eq_true_iff.mpr (Or.inr digit)

theorem isAlphanum_of_small (c : Char) (small : c.isLower = true ∨ c.isDigit = true) :
    c.isAlphanum = true :=
  small.elim (fun letter => isAlphanum_of_letter c (Or.inr letter)) (isAlphanum_of_digit c)

theorem toUpper_large (c : Char) (small : c.isLower = true ∨ c.isDigit = true) :
    c.toUpper.isUpper = true ∨ c.toUpper.isDigit = true :=
  of_table (fun c => c.isLower = true ∨ c.isDigit = true →
    c.toUpper.isUpper = true ∨ c.toUpper.isDigit = true) (by decide) c (ascii_of_small c small) small

theorem upper_of_small (c : Char) (small : c.isLower = true ∨ c.isDigit = true) :
    upper c = [c.toUpper] := by
  rw [upper, if_pos (ascii_of_small c small)]

theorem toLower_of_small (c : Char) (small : c.isLower = true ∨ c.isDigit = true) : c.toLower = c :=
  of_table (fun c => c.isLower = true ∨ c.isDigit = true → c.toLower = c) (by decide) c
    (ascii_of_small c small) small

theorem lower_of_small (c : Char) (small : c.isLower = true ∨ c.isDigit = true) : lower c = [c] := by
  simp [lower, ascii_of_small c small, toLower_of_small c small]

theorem isAlphanumeric_of_small (c : Char) (small : c.isLower = true ∨ c.isDigit = true) :
    isAlphanumeric c = true := by
  simp [isAlphanumeric, ascii_of_small c small, isAlphanum_of_small c small]

theorem isUppercase_of_small (c : Char) (small : c.isLower = true ∨ c.isDigit = true) :
    isUppercase c = false := by
  have table := of_table (fun c => c.isLower = true ∨ c.isDigit = true → c.isUpper = false)
    (by decide) c (ascii_of_small c small) small
  simp [isUppercase, ascii_of_small c small, table]

theorem ascii_of_alphanumeric (c : Char) (alphanumeric : c.isAlphanum = true) : c.toNat < 128 := by
  rcases Bool.or_eq_true_iff.mp alphanumeric with letter | digit
  · rcases Bool.or_eq_true_iff.mp letter with capital | low
    · have last : c.val ≤ 'Z'.val := (of_decide_eq_true capital).2
      exact Nat.lt_of_le_of_lt (UInt32.le_iff_toNat_le.mp last) (by decide)
    · exact ascii_of_small c (Or.inl low)
  · exact ascii_of_small c (Or.inr digit)

theorem isLower_of_digit (c : Char) (digit : c.isDigit = true) : c.isLower = false :=
  of_table (fun c => c.isDigit = true → c.isLower = false) (by decide) c
    (ascii_of_small c (Or.inr digit)) digit

theorem isLowercase_of_small (c : Char) (small : c.isLower = true ∨ c.isDigit = true) :
    isLowercase c = c.isLower := by
  simp [isLowercase, ascii_of_small c small]

theorem toUpper_of_digit (c : Char) (digit : c.isDigit = true) : c.toUpper = c :=
  of_table (fun c => c.isDigit = true → c.toUpper = c) (by decide) c
    (ascii_of_small c (Or.inr digit)) digit

theorem toLower_toUpper (c : Char) (small : c.isLower = true ∨ c.isDigit = true) :
    c.toUpper.toLower = c :=
  of_table (fun c => c.isLower = true ∨ c.isDigit = true → c.toUpper.toLower = c) (by decide) c
    (ascii_of_small c small) small

/-- The capital of a small letter is a capital and nothing else. -/
theorem toUpper_of_letter (c : Char) (letter : c.isLower = true) :
    isUppercase c.toUpper = true ∧ isLowercase c.toUpper = false ∧ c.toUpper.isDigit = false :=
  of_table (fun c => c.isLower = true →
    isUppercase c.toUpper = true ∧ isLowercase c.toUpper = false ∧ c.toUpper.isDigit = false)
    (by decide) c (ascii_of_small c (Or.inl letter)) letter

theorem upper_toLower (c : Char) (capital : c.isUpper = true) : upper c.toLower = [c] :=
  of_table (fun c => c.isUpper = true → upper c.toLower = [c]) (by decide) c
    (ascii_of_alphanumeric c (isAlphanum_of_letter c (Or.inl capital))) capital

theorem otherCase_ne_nil (long : List (Nat × List Nat)) (runs : List (Nat × Nat × Nat × Int))
    (filled : ∀ entry ∈ long, entry.2 ≠ []) (c : Char) : otherCase long runs c ≠ [] := by
  unfold otherCase
  split
  · rename_i entry found
    rw [ne_eq, List.map_eq_nil_iff]
    exact filled entry (List.mem_of_find?_eq_some found)
  · exact List.cons_ne_nil _ _

theorem lower_ne_nil (c : Char) : lower c ≠ [] := by
  unfold lower
  split
  · exact List.cons_ne_nil _ _
  · exact otherCase_ne_nil longLowerings loweringRuns (by decide) c

theorem upper_ne_nil (c : Char) : upper c ≠ [] := by
  unfold upper
  split
  · exact List.cons_ne_nil _ _
  · exact otherCase_ne_nil longRaisings raisingRuns (by decide) c

end Text

namespace Identifier
open Text

theorem wordsOf_eq_nil_iff (text : List Char) :
    wordsOf text = [] ↔ ∀ c ∈ text, isAlphanumeric c = false := by
  have joined := wordsOf_flatten text
  constructor
  · intro none c member
    rw [none, List.flatten_nil, eq_comm, List.flatMap_eq_nil_iff] at joined
    cases alphanumeric : isAlphanumeric c with
    | false => rfl
    | true =>
      exact absurd (joined c (List.mem_filter.mpr ⟨member, alphanumeric⟩)) (lower_ne_nil c)
  · intro plain
    have none : text.filter isAlphanumeric = [] :=
      List.filter_eq_nil_iff.mpr fun c member => Bool.eq_false_iff.mp (plain c member)
    rw [none, List.flatMap_nil, List.flatten_eq_nil_iff] at joined
    refine List.eq_nil_iff_forall_not_mem.mpr fun word member => ?_
    exact wordsOf_ne_nil text word member (joined word member)

theorem head?_intercalate (separator : Char) (words : List (List Char))
    (full : ∀ word ∈ words, word ≠ []) :
    ([separator].intercalate words).head? = words.head?.bind List.head? := by
  cases words with
  | nil => rfl
  | cons word rest =>
    obtain ⟨first, others, shape⟩ := List.exists_cons_of_ne_nil (full word List.mem_cons_self)
    cases rest with
    | nil => simp
    | cons next more => simp [List.intercalate_cons_cons, shape]

theorem snake_head? (text : String) :
    (snake text).toList.head? = (wordsOf text.toList).head?.bind List.head? := by
  rw [snake, String.toList_ofList, head?_intercalate '_' _ (wordsOf_ne_nil text.toList)]

theorem eq_nil_of_head? (words : List (List Char)) (full : ∀ word ∈ words, word ≠ [])
    (none : words.head?.bind List.head? = none) : words = [] := by
  cases words with
  | nil => rfl
  | cons word rest =>
    rw [List.head?_cons, Option.bind_some, List.head?_eq_none_iff] at none
    exact absurd none (full word List.mem_cons_self)

theorem snake_eq_empty_iff (text : String) : snake text = "" ↔ wordsOf text.toList = [] := by
  constructor
  · intro empty
    apply eq_nil_of_head? _ (wordsOf_ne_nil text.toList)
    rw [← snake_head?, empty]
    rfl
  · intro none
    rw [snake, none]
    rfl

theorem capitalize_eq_nil_iff (word : List Char) : capitalize word = [] ↔ word = [] := by
  cases word with
  | nil => rfl
  | cons c rest => simp [capitalize, upper_ne_nil]

theorem pascal_eq_empty_iff (text : String) : pascal text = "" ↔ wordsOf text.toList = [] := by
  constructor
  · intro empty
    have none : joinCapitalized (wordsOf text.toList) = [] := by
      have shown := congrArg String.toList empty
      rwa [pascal, String.toList_ofList] at shown
    refine List.eq_nil_iff_forall_not_mem.mpr fun word member => ?_
    have blank := List.flatMap_eq_nil_iff.mp none word member
    exact wordsOf_ne_nil text.toList word member ((capitalize_eq_nil_iff word).mp blank)
  · intro none
    rw [pascal, none]
    rfl

/-- What the words of an ASCII text look like. -/
structure IsAsciiWord (word : List Char) : Prop where
  nonempty : word ≠ []
  small : ∀ c ∈ word, c.isLower = true ∨ c.isDigit = true

theorem mem_joinCapitalized_ascii (words : List (List Char))
    (plain : ∀ word ∈ words, IsAsciiWord word) (c : Char) (member : c ∈ joinCapitalized words) :
    (c.isLower = true ∨ c.isDigit = true) ∨ c.isUpper = true := by
  obtain ⟨word, inside, kept | ⟨first, held, raised⟩⟩ := mem_joinCapitalized words c member
  · exact Or.inl ((plain word inside).small c kept)
  · have small := (plain word inside).small first held
    rw [upper_of_small first small, List.mem_singleton] at raised
    rw [raised]
    exact (toUpper_large first small).elim Or.inr fun digit => Or.inl (Or.inr digit)

section Ascii
variable {text : String} (ascii : IsAscii text)
include ascii

theorem isAlphanumeric_ascii (c : Char) (member : c ∈ text.toList) :
    isAlphanumeric c = c.isAlphanum := by
  rw [isAlphanumeric, if_pos (ascii c member)]

theorem words_nonempty_iff :
    wordsOf text.toList ≠ [] ↔ ∃ c ∈ text.toList, c.isAlphanum = true := by
  rw [ne_eq, wordsOf_eq_nil_iff]
  simp only [Classical.not_forall, Bool.not_eq_false, exists_prop]
  refine exists_congr fun c => and_congr_right fun member => ?_
  rw [isAlphanumeric_ascii ascii c member]

theorem mem_word_small (word : List Char) (inside : word ∈ wordsOf text.toList) (c : Char)
    (member : c ∈ word) : c.isLower = true ∨ c.isDigit = true := by
  have joined : c ∈ (wordsOf text.toList).flatten := List.mem_flatten_of_mem inside member
  rw [wordsOf_flatten] at joined
  obtain ⟨d, kept, lowered⟩ := List.mem_flatMap.mp joined
  obtain ⟨present, alphanumeric⟩ := List.mem_filter.mp kept
  rw [isAlphanumeric_ascii ascii d present] at alphanumeric
  rw [lower, if_pos (ascii d present), List.mem_singleton] at lowered
  rw [lowered]
  exact toLower_small d (ascii d present) alphanumeric

theorem isAsciiWord_of_mem (word : List Char) (inside : word ∈ wordsOf text.toList) :
    IsAsciiWord word :=
  ⟨wordsOf_ne_nil text.toList word inside, mem_word_small ascii word inside⟩

theorem mem_snake (c : Char) (member : c ∈ (snake text).toList) :
    (c.isLower = true ∨ c.isDigit = true) ∨ c = '_' := by
  rw [snake, String.toList_ofList] at member
  rcases mem_intercalate _ _ c member with mark | ⟨word, inside, held⟩
  · exact Or.inr (List.mem_singleton.mp mark)
  · exact Or.inl (mem_word_small ascii word inside c held)

theorem mem_pascal (c : Char) (member : c ∈ (pascal text).toList) :
    (c.isLower = true ∨ c.isDigit = true) ∨ c.isUpper = true := by
  rw [pascal, String.toList_ofList] at member
  exact mem_joinCapitalized_ascii _ (isAsciiWord_of_mem ascii) c member

/-- No small letter stands in front. -/
theorem pascal_head (c : Char) (rest : List Char) (shape : (pascal text).toList = c :: rest) :
    c.isUpper = true ∨ c.isDigit = true := by
  rw [pascal, String.toList_ofList] at shape
  cases listed : wordsOf text.toList with
  | nil =>
    rw [listed] at shape
    cases shape
  | cons word words =>
    have inside : word ∈ wordsOf text.toList := listed ▸ List.mem_cons_self
    obtain ⟨first, others, spelled⟩ :=
      List.exists_cons_of_ne_nil (wordsOf_ne_nil text.toList word inside)
    have small := mem_word_small ascii word inside first (spelled ▸ List.mem_cons_self)
    rw [listed, joinCapitalized, List.flatMap_cons, spelled, capitalize, upper_of_small first small,
      List.append_assoc, List.singleton_append, List.cons.injEq] at shape
    rw [← shape.1]
    exact toUpper_large first small

/-- Words that start with a small letter are out of reach. -/
theorem pascal_not_mem (taken : List String)
    (low : ∀ word ∈ taken, (word.toList.head?.all fun c => c.isUpper || c.isDigit) = false) :
    pascal text ∉ taken := by
  intro member
  have small := low _ member
  cases shape : (pascal text).toList with
  | nil => simp [shape] at small
  | cons c rest =>
    have large := pascal_head ascii c rest shape
    simp only [shape, List.head?_cons, Option.all_some, Bool.or_eq_false_iff] at small
    simp [small] at large

end Ascii

end Identifier
end ApiAssembly
