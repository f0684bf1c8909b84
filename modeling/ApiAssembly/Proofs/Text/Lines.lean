import ApiAssembly.Proofs.Text.Blanks
import ApiAssembly.Text.Basic
/-! Texts by lines. A text made of lines ends each of them, blanks in front are cut off across lines, and
a text put on one line has no blank left but the spaces between its words. -/
namespace ApiAssembly.Text

theorem toList_unlines (lines : List String) :
    (unlines lines).toList = lines.flatMap fun line => line.toList ++ ['\n'] := by
  rw [unlines, String.toList_join, List.flatMap_map]
  congr 1
  funext line
  exact String.toList_append

theorem toList_unlines_append (first second : List String) :
    (unlines (first ++ second)).toList = (unlines first).toList ++ (unlines second).toList := by
  rw [toList_unlines, toList_unlines, toList_unlines, List.flatMap_append]

theorem unlines_opens (start line : String) (rest : List String) (c : Char) (more : List Char)
    (opens : start.toList = c :: more) :
    ∃ behind, (unlines ((start ++ line) :: rest)).toList = c :: behind := by
  rw [toList_unlines, List.flatMap_cons, String.toList_append, opens]
  exact ⟨_, rfl⟩

theorem mem_intercalate (separator : List Char) (pieces : List (List Char)) (c : Char)
    (member : c ∈ separator.intercalate pieces) : c ∈ separator ∨ ∃ piece ∈ pieces, c ∈ piece := by
  induction pieces with
  | nil => cases member
  | cons piece rest ih =>
    cases rest with
    | nil =>
      rw [List.intercalate_singleton] at member
      exact Or.inr ⟨piece, List.mem_cons_self, member⟩
    | cons next more =>
      rw [List.intercalate_cons_cons, List.mem_append, List.mem_append] at member
      rcases member with (inside | between) | behind
      · exact Or.inr ⟨piece, List.mem_cons_self, inside⟩
      · exact Or.inl between
      · rcases ih behind with between | ⟨found, listed, inside⟩
        · exact Or.inl between
        · exact Or.inr ⟨found, List.mem_cons_of_mem piece listed, inside⟩

/-- No run holds a separator. -/
theorem plain_of_mem_run (separates : Char → Bool) (current text run : List Char)
    (plain : ∀ c ∈ current, separates c = false) (member : run ∈ runsFrom separates current text) :
    ∀ c ∈ run, separates c = false := by
  have turned : ∀ held : List Char, (∀ c ∈ held, separates c = false) →
      ∀ c ∈ held.reverse, separates c = false :=
    fun held free c inside => free c (List.mem_reverse.mp inside)
  induction text generalizing current with
  | nil =>
    rw [runsFrom] at member
    split at member
    · cases member
    · rw [List.mem_singleton.mp member]
      exact turned current plain
  | cons c rest ih =>
    have fresh : ∀ d ∈ ([] : List Char), separates d = false := by simp
    rw [runsFrom] at member
    by_cases separator : separates c = true
    · rw [if_pos separator] at member
      split at member
      · exact ih [] fresh member
      · rcases List.mem_cons.mp member with rfl | later
        · exact turned current plain
        · exact ih [] fresh later
    · rw [if_neg separator] at member
      refine ih (c :: current) ?_ member
      intro d inside
      rcases List.mem_cons.mp inside with rfl | earlier
      · exact Bool.eq_false_iff.mpr separator
      · exact plain d earlier

theorem blank_of_mem_oneLine (text : String) (c : Char) (member : c ∈ (oneLine text).toList)
    (blank : isBlank c = true) : c = ' ' := by
  rw [oneLine, String.toList_intercalate] at member
  rcases mem_intercalate _ _ c member with between | ⟨piece, listed, inside⟩
  · exact List.mem_singleton.mp between
  · obtain ⟨word, split, rfl⟩ := List.mem_map.mp listed
    obtain ⟨run, isRun, rfl⟩ := List.mem_map.mp split
    rw [String.toList_ofList] at inside
    have free := plain_of_mem_run isBlank [] text.toList run (by simp) isRun c inside
    rw [blank] at free
    cases free

theorem not_mem_toList_append {c : Char} (first second : String) (left : c ∉ first.toList)
    (right : c ∉ second.toList) : c ∉ (first ++ second).toList := by
  rw [String.toList_append, List.mem_append, not_or]
  exact ⟨left, right⟩

end ApiAssembly.Text
