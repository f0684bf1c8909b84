import ApiAssembly.Fragment.Reference
import Mathlib.Logic.Function.Basic
/-! Qualified names. Source and name are joined by an underscore, and both can hold underscores
themselves, so one qualified name can be read in more than one way. The readings differ in the
underscore that they take for the joint. -/
namespace ApiAssembly

namespace Reference

theorem qualifiedName_toList (source name : String) :
    (qualifiedName source name).toList = source.toList ++ '_' :: name.toList := by
  rw [qualifiedName, String.toList_append, String.toList_append, List.append_assoc]
  rfl

theorem qualifiedName_injective (source : String) : Function.Injective (qualifiedName source) := by
  intro name title same
  exact (String.append_right_inj (source ++ "_")).mp same

theorem ne_qualifiedName (source middle : String) : source ≠ qualifiedName source middle := by
  intro same
  have lengths := congrArg (fun text : String => text.toList.length) same
  simp only [qualifiedName_toList, List.length_append, List.length_cons] at lengths
  omega

theorem qualifiedName_assoc (source middle title : String) :
    qualifiedName source (qualifiedName middle title) =
      qualifiedName (qualifiedName source middle) title := by
  simp only [qualifiedName, String.append_assoc]

-- The joint of the second reading lies in what is left over behind the first source.
theorem joint_behind (source other name title : String) (more : List Char)
    (longer : other.toList = source.toList ++ more)
    (left : '_' :: name.toList = more ++ '_' :: title.toList) :
    (source = other ∧ name = title) ∨
      ∃ middle, other = qualifiedName source middle ∧ name = qualifiedName middle title := by
  cases more with
  | nil =>
    rw [List.append_nil] at longer
    obtain ⟨_, names⟩ := List.cons.inj left
    exact Or.inl ⟨String.toList_inj.mp longer.symm, String.toList_inj.mp names⟩
  | cons c middle =>
    obtain ⟨joint, names⟩ := List.cons.inj left
    subst joint
    refine Or.inr ⟨String.ofList middle, String.toList_inj.mp ?_, String.toList_inj.mp ?_⟩
    · rw [qualifiedName_toList, String.toList_ofList]
      exact longer
    · rw [qualifiedName_toList, String.toList_ofList]
      exact names

/-- Two readings of one qualified name differ in the underscore that they take for the joint. -/
theorem qualifiedName_eq_iff (source other name title : String) :
    qualifiedName source name = qualifiedName other title ↔
      (source = other ∧ name = title) ∨
      (∃ middle, other = qualifiedName source middle ∧ name = qualifiedName middle title) ∨
      ∃ middle, source = qualifiedName other middle ∧ title = qualifiedName middle name := by
  constructor
  · intro same
    have lists := congrArg String.toList same
    rw [qualifiedName_toList, qualifiedName_toList] at lists
    rcases List.append_eq_append_iff.mp lists with ⟨more, longer, left⟩ | ⟨more, longer, left⟩
    · rcases joint_behind source other name title more longer left with equal | behind
      · exact Or.inl equal
      · exact Or.inr (Or.inl behind)
    · rcases joint_behind other source title name more longer left with equal | behind
      · exact Or.inl ⟨equal.1.symm, equal.2.symm⟩
      · exact Or.inr (Or.inr behind)
  · rintro (⟨rfl, rfl⟩ | ⟨middle, rfl, rfl⟩ | ⟨middle, rfl, rfl⟩)
    · rfl
    · exact qualifiedName_assoc source middle title
    · exact (qualifiedName_assoc other middle name).symm

end Reference

end ApiAssembly
