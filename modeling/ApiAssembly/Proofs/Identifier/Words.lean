import ApiAssembly.Identifier.Words
/-! The words of an identifier are the letters and numbers of its text in lower case and nothing else.
The small letter of a letter may be an ASCII character, and then it is a letter or a digit: no
separator and no line break comes up in a word. -/
namespace ApiAssembly

namespace Text

/-- What a character becomes is ASCII only as a letter or a digit. -/
def PlainAscii (cs : List Char) : Prop := ∀ c ∈ cs, c.toNat < 128 → c.isAlphanum = true

-- Decided member by member. There are too many characters to go through them all.
instance (cs : List Char) : Decidable (PlainAscii cs) :=
  List.decidableBAll (fun c : Char => c.toNat < 128 → c.isAlphanum = true) cs

/-- A shifted run stays above ASCII and clear of the surrogates, or is a single character. -/
def ShiftsClear (run : Nat × Nat × Nat × Int) : Prop :=
  (128 ≤ run.1 + run.2.2.2 ∧ (run.2.1 + run.2.2.2 < 0xd800 ∨
    0xdfff < run.1 + run.2.2.2 ∧ run.2.1 + run.2.2.2 < 0x110000)) ∨
  run.1 = run.2.1 ∧ (Char.ofNat (run.1 + run.2.2.2).toNat).isAlphanum = true

instance (run : Nat × Nat × Nat × Int) : Decidable (ShiftsClear run) :=
  inferInstanceAs (Decidable (_ ∨ _))

theorem longLowerings_plain : ∀ entry ∈ longLowerings, PlainAscii (entry.2.map Char.ofNat) := by
  decide

theorem longRaisings_plain : ∀ entry ∈ longRaisings, PlainAscii (entry.2.map Char.ofNat) := by
  decide +kernel

theorem loweringRuns_clear : ∀ run ∈ loweringRuns, ShiftsClear run := by decide +kernel

theorem raisingRuns_clear : ∀ run ∈ raisingRuns, ShiftsClear run := by decide +kernel

theorem ascii_of_table (change : Char → Char)
    (table : ∀ code < 128, (Char.ofNat code).isAlphanum = true →
      (change (Char.ofNat code)).isAlphanum = true)
    (c : Char) (small : c.toNat < 128) (alphanumeric : c.isAlphanum = true) :
    (change c).isAlphanum = true := by
  rw [← Char.ofNat_toNat c] at alphanumeric ⊢
  exact table c.toNat small alphanumeric

theorem toLower_ascii (c : Char) (small : c.toNat < 128) (alphanumeric : c.isAlphanum = true) :
    c.toLower.isAlphanum = true :=
  ascii_of_table Char.toLower (by decide) c small alphanumeric

theorem toUpper_ascii (c : Char) (small : c.toNat < 128) (alphanumeric : c.isAlphanum = true) :
    c.toUpper.isAlphanum = true :=
  ascii_of_table Char.toUpper (by decide) c small alphanumeric

theorem ofNat_ascii (code : Nat) (valid : code.isValidChar) (ascii : (Char.ofNat code).toNat < 128) :
    code < 128 := by
  rw [Char.ofNat, dif_pos valid] at ascii
  exact ascii

section OtherCase
variable {long : List (Nat × List Nat)} {runs : List (Nat × Nat × Nat × Int)}

theorem shifted_ascii (clear : ∀ run ∈ runs, ShiftsClear run) (c : Char) (large : 128 ≤ c.toNat)
    (ascii : (shifted runs c).toNat < 128) : (shifted runs c).isAlphanum = true := by
  unfold shifted at ascii ⊢
  split at ascii
  · rename_i run found
    have member := List.mem_of_find?_eq_some found
    have covers := List.find?_some found
    simp only [CharRun.covers, Bool.and_eq_true, decide_eq_true_eq] at covers
    obtain ⟨⟨first, last⟩, -⟩ := covers
    rcases clear run member with ⟨above, apart⟩ | ⟨single, alphanumeric⟩
    · have below := ofNat_ascii _ (by unfold Nat.isValidChar; omega) ascii
      omega
    · have same : c.toNat = run.1 := by omega
      rw [same]
      exact alphanumeric
  · omega

theorem otherCase_plain (plain : ∀ entry ∈ long, PlainAscii (entry.2.map Char.ofNat))
    (clear : ∀ run ∈ runs, ShiftsClear run) (c : Char) (large : 128 ≤ c.toNat) :
    PlainAscii (otherCase long runs c) := by
  unfold otherCase
  split
  · rename_i entry found
    exact plain entry (List.mem_of_find?_eq_some found)
  · intro d member ascii
    rw [List.mem_singleton.mp member] at ascii ⊢
    exact shifted_ascii clear c large ascii

end OtherCase

/-- What a letter or a number becomes in lower case is again one, as far as ASCII goes. -/
theorem mem_lower_ascii (c d : Char) (alphanumeric : isAlphanumeric c = true) (member : d ∈ lower c)
    (ascii : d.toNat < 128) : d.isAlphanum = true := by
  unfold lower at member
  unfold isAlphanumeric at alphanumeric
  by_cases small : c.toNat < 128
  · rw [if_pos small] at member alphanumeric
    rw [List.mem_singleton.mp member]
    exact toLower_ascii c small alphanumeric
  · rw [if_neg small] at member
    exact otherCase_plain longLowerings_plain loweringRuns_clear c (by omega) d member ascii

/-- The same in upper case, for what may stand in a word. -/
theorem mem_upper_ascii (c d : Char) (plain : c.toNat < 128 → c.isAlphanum = true)
    (member : d ∈ upper c) (ascii : d.toNat < 128) : d.isAlphanum = true := by
  unfold upper at member
  by_cases small : c.toNat < 128
  · rw [if_pos small] at member
    rw [List.mem_singleton.mp member]
    exact toUpper_ascii c small (plain small)
  · rw [if_neg small] at member
    exact otherCase_plain longRaisings_plain raisingRuns_clear c (by omega) d member ascii

end Text

namespace Identifier
open Text

theorem flush_flatten (current : List Char) : (flush current).flatten = current.reverse := by
  unfold flush
  cases current with
  | nil => rfl
  | cons c rest => simp

theorem wordsFrom_flatten (previous : Option Char) (current text : List Char) :
    (wordsFrom previous current text).flatten =
      current.reverse ++ (text.filter isAlphanumeric).flatMap lower := by
  induction text generalizing previous current with
  | nil => rw [wordsFrom, flush_flatten, List.filter_nil, List.flatMap_nil, List.append_nil]
  | cons c rest ih =>
    rw [wordsFrom]
    by_cases alphanumeric : isAlphanumeric c = true
    · rw [if_pos alphanumeric, List.filter_cons_of_pos alphanumeric, List.flatMap_cons]
      split
      · rw [List.flatten_append, flush_flatten, ih, List.reverse_reverse]
      · rw [ih, List.reverse_append, List.reverse_reverse, List.append_assoc]
    · rw [if_neg alphanumeric, List.filter_cons_of_neg alphanumeric, List.flatten_append,
        flush_flatten, ih, List.reverse_nil, List.nil_append]

theorem wordsOf_flatten (text : List Char) :
    (wordsOf text).flatten = (text.filter isAlphanumeric).flatMap lower :=
  wordsFrom_flatten none [] text

theorem mem_word_ascii (text word : List Char) (c : Char) (inside : word ∈ wordsOf text)
    (member : c ∈ word) (ascii : c.toNat < 128) : c.isAlphanum = true := by
  have joined : c ∈ (wordsOf text).flatten := List.mem_flatten_of_mem inside member
  rw [wordsOf_flatten] at joined
  obtain ⟨d, kept, lowered⟩ := List.mem_flatMap.mp joined
  exact mem_lower_ascii d c (List.mem_filter.mp kept).2 lowered ascii

/-- An ASCII character that separates words comes up in none. -/
theorem separator_not_mem_word (separator : Char) (ascii : separator.toNat < 128)
    (apart : separator.isAlphanum = false) (text word : List Char) (inside : word ∈ wordsOf text) :
    separator ∉ word := by
  intro member
  have alphanumeric := mem_word_ascii text word separator inside member ascii
  simp [apart] at alphanumeric

theorem underscore_not_mem_word (text word : List Char) (inside : word ∈ wordsOf text) :
    '_' ∉ word :=
  separator_not_mem_word '_' (by decide) (by decide) text word inside

theorem flush_ne_nil (current word : List Char) (member : word ∈ flush current) : word ≠ [] := by
  unfold flush at member
  split at member
  · cases member
  · rename_i some
    rw [List.mem_singleton.mp member]
    simpa using some

theorem wordsFrom_ne_nil (previous : Option Char) (current text word : List Char)
    (member : word ∈ wordsFrom previous current text) : word ≠ [] := by
  induction text generalizing previous current with
  | nil => exact flush_ne_nil current word member
  | cons c rest ih =>
    rw [wordsFrom] at member
    split at member
    · split at member
      · rcases List.mem_append.mp member with flushed | later
        · exact flush_ne_nil current word flushed
        · exact ih _ _ later
      · exact ih _ _ member
    · rcases List.mem_append.mp member with flushed | later
      · exact flush_ne_nil current word flushed
      · exact ih _ _ later

theorem wordsOf_ne_nil (text word : List Char) (member : word ∈ wordsOf text) : word ≠ [] :=
  wordsFrom_ne_nil none [] text word member

/-- The words of a text are never empty, and together they are its letters and numbers in lower case:
none is lost and none made up. -/
theorem words_keep_letters (text : String) :
    String.join (words text) =
        String.ofList ((text.toList.filter isAlphanumeric).flatMap lower) ∧
      ∀ word ∈ words text, word ≠ "" := by
  constructor
  · apply String.toList_injective
    rw [String.toList_join, String.toList_ofList, words, List.flatMap_map, ← wordsOf_flatten]
    simp only [String.toList_ofList, List.flatMap_id']
  · intro word member empty
    obtain ⟨cs, inside, rfl⟩ := List.mem_map.mp member
    exact wordsOf_ne_nil text.toList cs inside (String.ofList_eq_empty_iff.mp empty)

theorem mem_joinCapitalized (words : List (List Char)) (c : Char)
    (member : c ∈ joinCapitalized words) :
    ∃ word ∈ words, c ∈ word ∨ ∃ first ∈ word, c ∈ upper first := by
  obtain ⟨word, inside, capital⟩ := List.mem_flatMap.mp member
  refine ⟨word, inside, ?_⟩
  cases word with
  | nil => cases capital
  | cons first rest =>
    rcases List.mem_append.mp capital with raised | kept
    · exact Or.inr ⟨first, List.mem_cons_self, raised⟩
    · exact Or.inl (List.mem_cons_of_mem first kept)

/-- No capitals bring a separator into a name that is written in one piece. -/
theorem mem_camel_ascii (text : String) (c : Char) (member : c ∈ (camel text).toList)
    (ascii : c.toNat < 128) : c.isAlphanum = true := by
  have fromWords : ∃ word ∈ wordsOf text.toList, c ∈ word ∨ ∃ first ∈ word, c ∈ upper first := by
    unfold camel at member
    split at member
    · cases member
    · rename_i first rest split
      rw [String.toList_ofList] at member
      rcases List.mem_append.mp member with inFirst | inRest
      · exact ⟨first, split ▸ List.mem_cons_self, Or.inl inFirst⟩
      · obtain ⟨word, inside, held⟩ := mem_joinCapitalized rest c inRest
        exact ⟨word, split ▸ List.mem_cons_of_mem first inside, held⟩
  obtain ⟨word, inside, kept | ⟨first, held, raised⟩⟩ := fromWords
  · exact mem_word_ascii text.toList word c inside kept ascii
  · exact mem_upper_ascii first c (mem_word_ascii text.toList word first inside held) raised ascii

theorem underscore_not_mem_camel (text : String) : '_' ∉ (camel text).toList := by
  intro member
  have alphanumeric := mem_camel_ascii text '_' member (by decide)
  revert alphanumeric
  decide

theorem getLast?_intercalate (separator : Char) (words : List (List Char))
    (full : ∀ word ∈ words, word ≠ []) :
    ([separator].intercalate words).getLast? = words.getLast?.bind List.getLast? := by
  induction words with
  | nil => rfl
  | cons word rest ih =>
    cases rest with
    | nil => simp
    | cons next more =>
      have later := ih fun other member => full other (List.mem_cons_of_mem word member)
      have some : ([separator].intercalate (next :: more)).getLast? ≠ none := by
        rw [later, List.getLast?_eq_some_getLast (List.cons_ne_nil next more), Option.bind_some]
        have last := full _ (List.mem_cons_of_mem word (List.getLast_mem (List.cons_ne_nil next more)))
        rwa [ne_eq, List.getLast?_eq_none_iff]
      rw [List.intercalate_cons_cons, List.getLast?_append, List.getLast?_append, later,
        List.getLast?_cons_cons]
      rw [later] at some
      cases held : (next :: more).getLast?.bind List.getLast? with
      | none => exact absurd held some
      | some c => rfl

/-- A name of words does not end with the mark that sets a name apart. -/
theorem snake_getLast? (text : String) : (snake text).toList.getLast? ≠ some '_' := by
  rw [snake, String.toList_ofList, getLast?_intercalate '_' _ (wordsOf_ne_nil text.toList)]
  intro ends
  obtain ⟨word, last, inside⟩ := Option.bind_eq_some_iff.mp ends
  exact underscore_not_mem_word text.toList word (List.mem_of_getLast? last)
    (List.mem_of_getLast? inside)

end Identifier
end ApiAssembly
