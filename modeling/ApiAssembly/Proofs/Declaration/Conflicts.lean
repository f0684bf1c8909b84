import ApiAssembly.Proofs.Declaration.Groups
/-! Conflicts of discriminators. A group of more than one type is a conflict, so a name is in at most
one, and a name that does not stand for its group is in exactly one. -/
namespace ApiAssembly.TypeUnion

/-- The names that an error sets against each other. -/
def rivals : BuildError → List String
  | .discriminatorConflict _ names => names
  | _ => []

/-- Errors are conflicts, each with all the declared names of one discriminator in order. A declared
name is kept, as the least one of its discriminator, or in one conflict. -/
structure Accounts (options : Options) (declarations : List TypeDeclaration) (kept : List String)
    (errors : List BuildError) : Prop where
  conflict : ∀ error ∈ errors, ∃ discriminator names,
    error = .discriminatorConflict discriminator names ∧ 1 < names.length ∧
    names.Pairwise (· < ·) ∧
    ∀ name, name ∈ names ↔ name ∈ declarations.map TypeDeclaration.name ∧
      Discriminator.ofTypeName options.endings name = discriminator
  least : ∀ name, name ∈ kept ↔ name ∈ declarations.map TypeDeclaration.name ∧
    ∀ other ∈ declarations.map TypeDeclaration.name,
      Discriminator.ofTypeName options.endings other =
        Discriminator.ofTypeName options.endings name → name ≤ other
  listed : ∀ name ∈ declarations.map TypeDeclaration.name, name ∈ kept ∨
    (errors.countP fun error => name ∈ rivals error) = 1
  once : ∀ name, (errors.countP fun error => name ∈ rivals error) ≤ 1

section
variable (options : Options) (declarations : List TypeDeclaration)

theorem mem_allNames_iff (group : Group)
    (member : group ∈ groups options declarations) (name : String) :
    name ∈ group.all.map TypeDeclaration.name ↔
      name ∈ declarations.map TypeDeclaration.name ∧
      Discriminator.ofTypeName options.endings name = group.discriminator := by
  constructor
  · intro listed
    obtain ⟨type, present, rfl⟩ := List.mem_map.mp listed
    obtain ⟨typed, same⟩ := (mem_all_iff options declarations group member type).mp present
    exact ⟨(mem_names_iff declarations _).mp (List.mem_map_of_mem typed), same⟩
  · rintro ⟨declared, same⟩
    obtain ⟨type, typed, rfl⟩ := List.mem_map.mp ((mem_names_iff declarations name).mpr declared)
    exact List.mem_map_of_mem ((mem_all_iff options declarations group member type).mpr
      ⟨typed, same⟩)

theorem mem_errors_iff (error : BuildError) :
    error ∈ errors options declarations ↔ ∃ group ∈ groups options declarations,
      group.others ≠ [] ∧
      error = .discriminatorConflict group.discriminator (group.all.map TypeDeclaration.name) := by
  rw [errors, conflicts, List.mem_map]
  constructor
  · rintro ⟨group, kept, rfl⟩
    obtain ⟨member, many⟩ := List.mem_filter.mp kept
    exact ⟨group, member, by simpa using many, rfl⟩
  · rintro ⟨group, member, many, rfl⟩
    exact ⟨group, List.mem_filter.mpr ⟨member, by simpa using many⟩, rfl⟩

/-- The groups whose conflict has a name. -/
theorem listings_eq (name : String) :
    ((errors options declarations).countP fun error => name ∈ rivals error) =
      (groups options declarations).countP fun group =>
        (name ∈ group.all.map TypeDeclaration.name) && !group.others.isEmpty := by
  rw [errors, conflicts, List.countP_map, List.countP_filter]
  rfl

theorem listings_le (name : String) :
    ((errors options declarations).countP fun error => name ∈ rivals error) ≤ 1 := by
  rw [listings_eq]
  have once : (groups options declarations).Nodup :=
    (groups_pairwise options declarations).imp fun before same =>
      Std.ne_of_lt before (congrArg Group.discriminator same)
  by_cases found : ∃ group ∈ groups options declarations,
      name ∈ group.all.map TypeDeclaration.name
  · obtain ⟨group, member, inside⟩ := found
    -- The discriminator of the name tells its group.
    have only : ∀ other ∈ groups options declarations,
        ((name ∈ other.all.map TypeDeclaration.name) && !other.others.isEmpty) = true →
          (other == group) = true := by
      intro other present listed
      have shared := of_decide_eq_true (Bool.and_eq_true_iff.mp listed).1
      rw [beq_iff_eq]
      apply eq_of_discriminator options declarations other group present member
      exact ((mem_allNames_iff options declarations other present name).mp shared).2.symm.trans
        ((mem_allNames_iff options declarations group member name).mp inside).2
    exact Nat.le_trans (List.countP_mono_left only) (List.nodup_iff_count_le_one.mp once group)
  · have unlisted : ((groups options declarations).countP fun group =>
        (name ∈ group.all.map TypeDeclaration.name) && !group.others.isEmpty) = 0 := by
      rw [List.countP_eq_zero]
      intro group member listed
      exact found ⟨group, member, of_decide_eq_true (Bool.and_eq_true_iff.mp listed).1⟩
    omega

theorem listed_of_dropped (name : String) (declared : name ∈ declarations.map TypeDeclaration.name)
    (dropped : name ∉ keptNames options declarations) :
    0 < (errors options declarations).countP fun error => name ∈ rivals error := by
  obtain ⟨type, typed, rfl⟩ := List.mem_map.mp ((mem_names_iff declarations name).mpr declared)
  obtain ⟨group, member, inside⟩ := exists_group options declarations type typed
  -- A type that is alone in its group would have been kept.
  have many : group.others ≠ [] := by
    intro alone
    rw [Group.all, alone, List.mem_singleton] at inside
    exact dropped (List.mem_map.mpr ⟨group, member, by rw [inside]⟩)
  apply List.countP_pos_iff.mpr
  refine ⟨.discriminatorConflict group.discriminator (group.all.map TypeDeclaration.name), ?_, ?_⟩
  · exact (mem_errors_iff options declarations _).mpr ⟨group, member, many, rfl⟩
  · exact decide_eq_true (List.mem_map_of_mem inside)

theorem errors_account :
    Accounts options declarations (keptNames options declarations)
      (errors options declarations) where
  conflict := by
    intro error reported
    obtain ⟨group, member, many, rfl⟩ := (mem_errors_iff options declarations error).mp reported
    refine ⟨group.discriminator, group.all.map TypeDeclaration.name, rfl, ?_, ?_,
      mem_allNames_iff options declarations group member⟩
    · rw [List.length_map, Group.all, List.length_cons]
      have := List.length_pos_iff.mpr many
      omega
    · exact List.pairwise_map.mpr (all_pairwise options declarations group member)
  least := mem_keptNames_iff options declarations
  listed := by
    intro name declared
    by_cases kept : name ∈ keptNames options declarations
    · exact .inl kept
    · have positive := listed_of_dropped options declarations name declared kept
      have atMost := listings_le options declarations name
      exact .inr (by omega)
  once := listings_le options declarations

end
end ApiAssembly.TypeUnion
