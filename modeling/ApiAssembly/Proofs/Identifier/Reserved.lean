import ApiAssembly.Identifier.Names
import ApiAssembly.Proofs.Identifier.Words
/-! Names that are set apart. A name becomes one that a program can use by a mark before or behind it,
and the names that generated programs use themselves carry their marks in other places. -/
namespace ApiAssembly.Identifier

theorem python_cases (name : String) :
    lacksHead name = true ∧ python name = "_" ++ name ∨
      name ∈ pythonKeywords ∧ python name = name ++ "_" ∨
      name ∉ pythonKeywords ∧ python name = name := by
  unfold python
  by_cases headless : lacksHead name = true
  · exact Or.inl ⟨headless, if_pos headless⟩
  · rw [if_neg headless]
    by_cases keyword : name ∈ pythonKeywords
    · exact Or.inr (Or.inl ⟨keyword, if_pos (List.contains_iff_mem.mpr keyword)⟩)
    · refine Or.inr (Or.inr ⟨keyword, if_neg ?_⟩)
      rwa [List.contains_iff_mem]

theorem rust_cases (name : String) :
    lacksHead name = true ∧ rust name = "_" ++ name ∨
      name ∈ rustPathWords ∧ rust name = name ++ "_" ∨
      name ∈ rustKeywords ∧ rust name = "r#" ++ name ∨
      (lacksHead name = false ∧ name ∉ rustPathWords ∧ name ∉ rustKeywords) ∧ rust name = name := by
  unfold rust
  by_cases headless : lacksHead name = true
  · exact Or.inl ⟨headless, if_pos headless⟩
  · rw [if_neg headless]
    by_cases path : name ∈ rustPathWords
    · exact Or.inr (Or.inl ⟨path, if_pos (List.contains_iff_mem.mpr path)⟩)
    · rw [if_neg (by rwa [List.contains_iff_mem])]
      by_cases keyword : name ∈ rustKeywords
      · exact Or.inr (Or.inr (Or.inl ⟨keyword, if_pos (List.contains_iff_mem.mpr keyword)⟩))
      · exact Or.inr (Or.inr (Or.inr ⟨⟨Bool.eq_false_iff.mpr headless, path, keyword⟩,
          if_neg (by rwa [List.contains_iff_mem])⟩))

theorem toList_of_marked {name taken : String} (same : "_" ++ name = taken) :
    taken.toList = '_' :: name.toList := by
  rw [← same, String.toList_append]
  rfl

/-- A name without marks of its own is set apart from all names that have theirs in other places. -/
theorem python_not_mem (taken : List String) (name : String) (plain : '_' ∉ name.toList)
    (marked : ∀ other ∈ taken, '_' ∈ other.toList)
    (before : ∀ other ∈ taken, other.toList.head? = some '_' →
      '_' ∈ other.toList.tail ∨ lacksHead (String.ofList other.toList.tail) = false)
    (behind : ∀ keyword ∈ pythonKeywords, keyword ++ "_" ∉ taken) : python name ∉ taken := by
  intro member
  rcases python_cases name with ⟨headless, same⟩ | ⟨keyword, same⟩ | ⟨_, same⟩
  · have spelled := toList_of_marked same.symm
    rcases before _ member (by rw [spelled]; rfl) with again | headed
    · rw [spelled] at again
      exact plain again
    · rw [spelled, List.tail_cons, String.ofList_toList, headless] at headed
      cases headed
  · exact behind name keyword (same ▸ member)
  · exact plain (same ▸ marked _ member)

/-- An argument is neither the receiver of a method nor its request body. -/
theorem clientArgument_not_mem (parameter : String) :
    clientArgument parameter ∉ ["self", "payload"] := by
  unfold clientArgument
  by_cases payload : python (snake parameter) = "payload"
  · simp only [payload, if_true]
    decide
  · simp only [payload, if_false, List.mem_cons, List.not_mem_nil, or_false]
    intro receiver
    rcases python_cases (snake parameter) with ⟨_, same⟩ | ⟨keyword, same⟩ | ⟨free, same⟩
    · have first := congrArg List.head? (toList_of_marked (same.symm.trans receiver))
      rw [List.head?_cons] at first
      exact absurd first (by decide)
    · have table : ∀ keyword ∈ pythonKeywords, keyword ++ "_" ≠ "self" := by decide
      exact table _ keyword (same.symm.trans receiver)
    · rw [← same, receiver] at free
      exact free (by decide)

/-- No path parameter takes the last name that is left for a request body. -/
theorem commandField_ne_bodyName (parameter : String) :
    commandField parameter ≠ "request_body_" := by
  unfold commandField
  by_cases help : rust (snake parameter) = "help"
  · simp only [help, if_true]
    decide
  · simp only [help, if_false]
    intro taken
    rcases rust_cases (snake parameter) with
      ⟨_, same⟩ | ⟨word, same⟩ | ⟨keyword, same⟩ | ⟨_, same⟩
    · have first := congrArg List.head? (toList_of_marked (same.symm.trans taken))
      rw [List.head?_cons] at first
      exact absurd first (by decide)
    · have table : ∀ word ∈ rustPathWords, word ++ "_" ≠ "request_body_" := by decide
      exact table _ word (same.symm.trans taken)
    · have table : ∀ keyword ∈ rustKeywords, "r#" ++ keyword ≠ "request_body_" := by decide
      exact table _ keyword (same.symm.trans taken)
    · -- A name of words does not end like this.
      apply snake_getLast? parameter
      rw [← same, taken]
      decide

end ApiAssembly.Identifier
