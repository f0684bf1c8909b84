import ApiAssembly.Proofs.Scan.QuotedText
/-! Quoted keys. The key of an entry is what stands between its quotes, as it stands there; the same text
read as a value has its escapes undone. An escape is longer than what it stands for, so the two
differ wherever anything is escaped. -/
namespace ApiAssembly.Scan
open Text

theorem unescape?_unescaped (cs : List Char) (unescaped : '\\' ∉ cs) : unescape? cs = some cs := by
  induction cs with
  | nil => rfl
  | cons c rest ih =>
    obtain ⟨plain, plainRest⟩ := not_or.mp (mt List.mem_cons.mpr unescaped)
    rw [unescape?_plain c rest (Ne.symm plain), ih plainRest]
    rfl

theorem unescape?_shorter (cs text : List Char) (read : unescape? cs = some text) :
    text.length ≤ cs.length ∧ ('\\' ∈ cs → text.length < cs.length) := by
  fun_induction unescape? cs generalizing text with
  | case1 =>
    cases read
    exact ⟨Nat.le_refl _, fun escaped => absurd escaped List.not_mem_nil⟩
  | case2 => cases read
  | case3 c rest ih =>
    obtain ⟨inner, found, rfl⟩ := Option.map_eq_some_iff.mp read
    have shorter := (ih inner found).1
    simp only [List.length_cons]
    omega
  | case4 c rest lone escape ih =>
    obtain ⟨inner, found, rfl⟩ := Option.map_eq_some_iff.mp read
    obtain ⟨shorter, strictly⟩ := ih inner found
    have plain := ne_backslash c rest lone escape
    simp only [List.length_cons, List.mem_cons, Ne.symm plain, false_or]
    exact ⟨by omega, fun inside => by have := strictly inside; omega⟩

theorem eq_of_unescape?_iff (cs text : List Char) (read : unescape? cs = some text) :
    cs = text ↔ '\\' ∉ cs := by
  constructor
  · rintro rfl escaped
    exact Nat.lt_irrefl _ ((unescape?_shorter cs cs read).2 escaped)
  · intro unescaped
    exact Option.some.inj ((unescape?_unescaped cs unescaped).symm.trans read)

/-- The key of an entry is all that stands between its quotes. -/
theorem keyValue?_quoted (quote : Char) (inside gap value : List Char) (quotes : isQuote quote = true)
    (closes : Closes quote inside) (blank : IsGap gap) :
    keyValue? (quoted quote inside ++ (gap ++ ':' :: value)) = some (inside, trim value) := by
  apply keyValue?_of_key value (closes.whole quotes).trimmed.first blank
  intro rest
  rw [quoted, List.cons_append, entryKey?, if_pos quotes, List.append_assoc, List.singleton_append,
    closes]
  simp

/-- A quoted text is read as a key and as a value in the same way exactly when nothing in it is escaped:
the key is all that stands between the quotes, the value what that says. -/
theorem quoted_key_iff (text value : List Char) (complete : IsQuotedText text) :
    ∃ quote key content, text = quoted quote key ∧
      keyValue? (text ++ [':', ' '] ++ value) = some (key, trim value) ∧
      literal? text = some (.str content) ∧ (String.ofList key = content ↔ '\\' ∉ text) := by
  obtain ⟨quote, inside, quotes, rfl, closes⟩ := (isQuotedText_iff_closes text).mp complete
  obtain ⟨content, read⟩ := Option.isSome_iff_exists.mp ((closes_iff quote inside quotes).mp closes).1
  have entry := keyValue?_quoted quote inside [] (' ' :: value) quotes closes nofun
  have blank : trim (' ' :: value) = trim value := trim_gap_append [' '] value (by simp [IsGap, isBlank])
  have marks : '\\' ∈ quoted quote inside ↔ '\\' ∈ inside := by
    simp [quoted, Ne.symm (ne_backslash_of_isQuote quote quotes)]
  refine ⟨quote, inside, String.ofList content, rfl, ?_, ?_, ?_⟩
  · rw [List.nil_append, blank] at entry
    rwa [List.append_assoc]
  · rw [literal?_string_iff, String.toList_ofList]
    exact ⟨quote, inside, quotes, (closes.whole quotes).bare, read⟩
  · rw [String.ofList_inj, marks, eq_of_unescape?_iff inside content read]

/-- A quote of another kind stands for itself in both places. -/
theorem quoted_key_other_quote :
    IsQuotedText "'a\"b'".toList ∧
    ∃ quote key content, "'a\"b'".toList = quoted quote key ∧
      keyValue? ("'a\"b'".toList ++ [':', ' '] ++ "5".toList) = some (key, trim "5".toList) ∧
      literal? "'a\"b'".toList = some (.str content) ∧
      (String.ofList key = content ↔ '\\' ∉ "'a\"b'".toList) := by
  have complete : IsQuotedText "'a\"b'".toList := ⟨'\'', "a\"b'".toList, rfl, rfl, rfl⟩
  exact ⟨complete, quoted_key_iff _ "5".toList complete⟩

/-- The quote that belongs to the text is escaped in both places and undone in one. -/
theorem quoted_key_kept :
    IsQuotedText "'it\\'s'".toList ∧ (literal? "5".toList).isSome ∧
    keyValue? ("'it\\'s'".toList ++ [':', ' '] ++ "5".toList) = some ("it\\'s".toList, "5".toList) ∧
    literal? "'it\\'s'".toList = some (.str "it's") ∧ "it\\'s" ≠ "it's" := by
  exact ⟨⟨'\'', "it\\'s'".toList, rfl, rfl, rfl⟩, by decide +kernel, by decide +kernel,
    by decide +kernel, by decide⟩

end ApiAssembly.Scan
