import ApiAssembly.Fragment.Directory
/-! Fragment files that cannot be read. Each one is an error of the whole directory, and a file whose
text starts with a slash is one of them when it is taken for JSON. -/
namespace ApiAssembly

/-- No JSON starts with a slash. -/
theorem Json.parse?_slash (depth : Nat) (text : String) (rest : List Char)
    (opens : text.toList = '/' :: rest) : parse? depth text = none := by
  have blanks : Reader.skipBlanks ('/' :: rest) = '/' :: rest := by
    simp [Reader.skipBlanks, Reader.isBlank]
  have number : Reader.number? ('/' :: rest) = none := by
    simp [Reader.number?]
  simp [parse?, content?, opens, Reader.value?, blanks, number]

namespace Fragment

theorem ofFile_slash (path : FilePath) (text : String) (rest : List Char)
    (json : path.extension? = some "json") (opens : text.toList = '/' :: rest) :
    ofFile ⟨path, text.toUTF8⟩ = .error (.fragment path (.malformed Content.malformed)) := by
  have readable : String.fromUTF8? text.toUTF8 = some text := by
    unfold String.fromUTF8?
    exact dif_pos text.isValidUTF8
  simp only [ofFile, readable, parse, document?, json, if_true, Json.parse?_slash _ _ rest opens]

theorem mem_foldr_errors (outcomes : List (Except BuildError Fragment)) (error : BuildError)
    (failed : Except.error error ∈ outcomes) : error ∈ (outcomes.foldr Loaded.add {}).errors := by
  induction outcomes with
  | nil => cases failed
  | cons first rest ih =>
    rw [List.foldr_cons]
    rcases List.mem_cons.mp failed with here | later
    · rw [← here]
      exact List.mem_cons_self
    · cases first with
      | ok fragment => exact ih later
      | error other => exact List.mem_cons_of_mem _ (ih later)

/-- No file that fails is passed over. -/
theorem mem_loadFiles_errors (files : List FragmentFile) (file : FragmentFile)
    (error : BuildError) (member : file ∈ files) (fits : isFragmentPath file.path = true)
    (failed : ofFile file = .error error) : error ∈ (loadFiles files).errors := by
  apply mem_foldr_errors
  refine List.mem_map.mpr ⟨file, ?_, failed⟩
  exact (List.mergeSort_perm _ _).symm.subset (List.mem_filter.mpr ⟨member, fits⟩)

end Fragment
end ApiAssembly
