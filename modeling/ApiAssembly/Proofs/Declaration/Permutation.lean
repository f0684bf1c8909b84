import ApiAssembly.Proofs.Declaration.Groups
/-! The order of declarations. Where their names differ each declaration is a type of its own, so the
types, the groups and all that is said about them come from the names alone. -/
namespace ApiAssembly.TypeUnion

theorem mem_types_of_nodup {declarations : List TypeDeclaration}
    (named : (declarations.map TypeDeclaration.name).Nodup) (type : TypeDeclaration) :
    type ∈ types declarations ↔ type ∈ declarations := by
  rw [mem_types_iff]
  constructor
  · exact List.mem_of_find?_eq_some
  · intro member
    cases found : declarations.find? fun declaration => declaration.name = type.name with
    | none => exact absurd (List.find?_eq_none.mp found type member) (by simp)
    | some other =>
      have same : other.name = type.name := by simpa using List.find?_some found
      have one := List.inj_on_of_nodup_map named (List.mem_of_find?_eq_some found) member same
      rw [one]

theorem types_of_perm {left right : List TypeDeclaration} (permuted : left.Perm right)
    (named : (left.map TypeDeclaration.name).Nodup) : types left = types right := by
  have renamed : (right.map TypeDeclaration.name).Nodup :=
    (permuted.map TypeDeclaration.name).nodup_iff.mp named
  apply @Sorting.eq_of_mem_iff _ (compareOn TypeDeclaration.name)
  · exact (types_pairwise left).imp (compare_eq_lt _ _).mpr
  · exact (types_pairwise right).imp (compare_eq_lt _ _).mpr
  · intro type
    rw [mem_types_of_nodup named, mem_types_of_nodup renamed, permuted.mem_iff]

theorem groups_of_types (options : Options) {left right : List TypeDeclaration}
    (same : types left = types right) : groups options left = groups options right := by
  unfold groups
  rw [← types, ← types, same]

theorem repeatedWarnings_of_nodup (seen : List String) (declarations : List TypeDeclaration)
    (named : (declarations.map TypeDeclaration.name).Nodup)
    (fresh : ∀ declaration ∈ declarations, declaration.name ∉ seen) :
    repeatedWarnings seen declarations = [] := by
  induction declarations generalizing seen with
  | nil => rfl
  | cons declaration rest ih =>
    obtain ⟨alone, others⟩ := List.nodup_cons.mp named
    obtain ⟨unseen, later⟩ := List.forall_mem_cons.mp fresh
    rw [repeatedWarnings, if_neg (by simpa using unseen)]
    apply ih _ others
    intro other member
    rw [List.mem_cons, not_or]
    refine ⟨?_, later other member⟩
    intro same
    exact alone (same ▸ List.mem_map_of_mem member)

/-- With distinct names the order of the declarations shows nowhere, also where their discriminators
meet: which type is kept and in which order the rest is reported is told by the names. -/
theorem union_of_perm (options : Options) (source : FilePath) (left right : List TypeDeclaration)
    (named : (left.map TypeDeclaration.name).Nodup) (permuted : left.Perm right) :
    fragment options source left = fragment options source right ∧
    warnings options source left = warnings options source right ∧
    errors options left = errors options right := by
  have renamed : (right.map TypeDeclaration.name).Nodup :=
    (permuted.map TypeDeclaration.name).nodup_iff.mp named
  have grouped := groups_of_types options (types_of_perm permuted named)
  refine ⟨?_, ?_, ?_⟩
  · rw [fragment, fragment, grouped]
  · rw [warnings, warnings, grouped, repeatedWarnings_of_nodup [] left named (by simp),
      repeatedWarnings_of_nodup [] right renamed (by simp)]
  · rw [errors, errors, grouped]

/-- Two types meet at one discriminator, and the one that is kept has a parameter that is passed over. -/
theorem union_of_perm_conflict :
    let options : Options := { endings := ["geometry"] }
    let box : TypeDeclaration := ⟨"Box", [⟨"type", none, none, none⟩]⟩
    let boxGeometry : TypeDeclaration := ⟨"BoxGeometry", []⟩
    let sphere : TypeDeclaration := ⟨"Sphere", []⟩
    let declared := [boxGeometry, sphere, box]
    let sorted := [box, boxGeometry, sphere]
    (declared.map TypeDeclaration.name).Nodup ∧ declared.Perm sorted ∧
    Discriminator.ofTypeName options.endings boxGeometry.name =
      Discriminator.ofTypeName options.endings box.name ∧
    fragment options ⟨"types"⟩ declared = fragment options ⟨"types"⟩ sorted ∧
    warnings options ⟨"types"⟩ declared = warnings options ⟨"types"⟩ sorted ∧
    errors options declared = errors options sorted := by
  intro options box boxGeometry sphere declared sorted
  have named : (declared.map TypeDeclaration.name).Nodup := by decide
  have permuted : declared.Perm sorted := by decide
  have meet : Discriminator.ofTypeName options.endings boxGeometry.name =
      Discriminator.ofTypeName options.endings box.name := by
    rw [Discriminator.ofTypeName, Discriminator.ofTypeName, List.mergeSort_singleton]
    decide +kernel
  exact ⟨named, permuted, meet, union_of_perm options ⟨"types"⟩ declared sorted named permuted⟩
end ApiAssembly.TypeUnion
