import ApiAssembly.Declaration.Union
import ApiAssembly.Proofs.Dict.Lookup
import ApiAssembly.Proofs.Identifier.Collision
/-! The two groupings behind a union. By name, where the first declaration stands for all of its name;
then by discriminator, where the least name stands for its group. A group is the list of all the
types with its discriminator, and there is one for each discriminator. -/
namespace ApiAssembly.TypeUnion
open Identifier

theorem compare_eq_lt (left right : String) : compare left right = .lt ↔ left < right :=
  compareOfLessAndEq_eq_lt

theorem find?_distinct (declarations : List TypeDeclaration) (name : String) :
    (distinct declarations).find? name =
      declarations.find? fun declaration => declaration.name = name := by
  induction declarations with
  | nil => rfl
  | cons declaration rest ih =>
    -- The first declaration goes in last, over any later one of its name.
    rw [distinct, Dict.find?_insert, List.find?_cons, ih]
    by_cases same : name = declaration.name
    · simp [same]
    · simp [same, Ne.symm same]

theorem name_of_mem_distinct (declarations : List TypeDeclaration) (entry : String × TypeDeclaration)
    (member : entry ∈ (distinct declarations).entries) : entry.1 = entry.2.name := by
  induction declarations with
  | nil => exact absurd member List.not_mem_nil
  | cons declaration rest ih =>
    rcases Entries.mem_insert _ _ _ _ member with new | old
    · rw [new]
    · exact ih old

/-- The types of a list of declarations, in the order of their names. -/
def types (declarations : List TypeDeclaration) : List TypeDeclaration :=
  (distinct declarations).values

theorem types_names (declarations : List TypeDeclaration) :
    (types declarations).map TypeDeclaration.name = (distinct declarations).keys := by
  rw [types, Dict.values, Dict.keys, List.map_map]
  apply List.map_congr_left
  intro entry member
  exact (name_of_mem_distinct declarations entry member).symm

theorem types_pairwise (declarations : List TypeDeclaration) :
    (types declarations).Pairwise fun left right => left.name < right.name := by
  have sorted : ((types declarations).map TypeDeclaration.name).Pairwise (· < ·) := by
    rw [types_names, Dict.keys, List.pairwise_map]
    exact (distinct declarations).sorted.imp (compare_eq_lt _ _).mp
  exact List.pairwise_map.mp sorted

theorem mem_types_iff (declarations : List TypeDeclaration) (type : TypeDeclaration) :
    type ∈ types declarations ↔
      declarations.find? (fun declaration => declaration.name = type.name) = some type := by
  rw [← find?_distinct]
  constructor
  · intro member
    obtain ⟨entry, present, rfl⟩ := List.mem_map.mp member
    rw [← name_of_mem_distinct declarations entry present]
    exact (Entries.mem_iff_find? _ (distinct declarations).sorted entry).mp present
  · intro found
    exact List.mem_map.mpr ⟨_, Entries.mem_of_find? _ _ _ found, rfl⟩

/-- A name is declared when some declaration has it, whichever comes first. -/
theorem mem_names_iff (declarations : List TypeDeclaration) (name : String) :
    name ∈ (types declarations).map TypeDeclaration.name ↔
      name ∈ declarations.map TypeDeclaration.name := by
  rw [types_names, Dict.mem_keys_iff, find?_distinct]
  simp

section Groups
variable (options : Options) (declarations : List TypeDeclaration)

/-- The types with one discriminator. -/
def sharing (discriminator : String) : List TypeDeclaration :=
  (types declarations).filter fun type =>
    Discriminator.ofTypeName options.endings type.name = discriminator

def discriminators : List String :=
  distinctTexts ((types declarations).map fun type =>
    Discriminator.ofTypeName options.endings type.name)

theorem sharing_ne_nil (discriminator : String)
    (member : discriminator ∈ discriminators options declarations) :
    sharing options declarations discriminator ≠ [] := by
  obtain ⟨type, present, same⟩ := List.mem_map.mp ((mem_distinctTexts _ _).mp member)
  apply List.ne_nil_of_mem
  exact List.mem_filter.mpr ⟨present, decide_eq_true same⟩

theorem groups_eq :
    groups options declarations = (discriminators options declarations).filterMap
      fun discriminator =>
        match sharing options declarations discriminator with
        | first :: others => some ⟨discriminator, first, others⟩
        | [] => none := rfl

theorem groups_discriminators :
    (groups options declarations).map Group.discriminator =
      discriminators options declarations := by
  rw [groups_eq, List.map_filterMap]
  -- No discriminator comes without a type, so none is dropped.
  have kept : ∀ discriminator ∈ discriminators options declarations,
      Option.map Group.discriminator
        (match sharing options declarations discriminator with
          | first :: others => some ⟨discriminator, first, others⟩
          | [] => none) = some discriminator := by
    intro discriminator member
    cases shape : sharing options declarations discriminator with
    | nil => exact absurd shape (sharing_ne_nil options declarations discriminator member)
    | cons first others => rfl
  rw [List.filterMap_congr kept]
  exact List.filterMap_some

theorem groups_pairwise :
    (groups options declarations).Pairwise fun left right =>
      left.discriminator < right.discriminator := by
  apply List.pairwise_map.mp
  rw [groups_discriminators]
  exact distinctTexts_pairwise _

theorem mem_groups_iff (group : Group) :
    group ∈ groups options declarations ↔
      sharing options declarations group.discriminator = group.first :: group.others := by
  rw [groups_eq, List.mem_filterMap]
  constructor
  · rintro ⟨discriminator, _, built⟩
    split at built
    · rename_i first others shape
      cases built
      exact shape
    · cases built
  · intro shape
    refine ⟨group.discriminator, ?_, by rw [shape]⟩
    -- The first type vouches for the discriminator.
    have member : group.first ∈ sharing options declarations group.discriminator := by
      rw [shape]
      exact List.mem_cons_self
    obtain ⟨present, same⟩ := List.mem_filter.mp member
    apply (mem_distinctTexts _ _).mpr
    exact List.mem_map.mpr ⟨group.first, present, of_decide_eq_true same⟩

/-- All the types of a group, the one that stands for it in front. -/
def Group.all (group : Group) : List TypeDeclaration := group.first :: group.others

theorem mem_all_iff (group : Group) (member : group ∈ groups options declarations)
    (type : TypeDeclaration) :
    type ∈ group.all ↔ type ∈ types declarations ∧
      Discriminator.ofTypeName options.endings type.name = group.discriminator := by
  rw [Group.all, ← (mem_groups_iff options declarations group).mp member, sharing, List.mem_filter,
    decide_eq_true_iff]

theorem all_pairwise (group : Group) (member : group ∈ groups options declarations) :
    group.all.Pairwise fun left right => left.name < right.name := by
  rw [Group.all, ← (mem_groups_iff options declarations group).mp member]
  exact (types_pairwise declarations).filter _

theorem first_mem_types (group : Group) (member : group ∈ groups options declarations) :
    group.first ∈ types declarations ∧
      Discriminator.ofTypeName options.endings group.first.name = group.discriminator :=
  (mem_all_iff options declarations group member group.first).mp List.mem_cons_self

/-- Every type is in the group of its discriminator. -/
theorem exists_group (type : TypeDeclaration) (declared : type ∈ types declarations) :
    ∃ group ∈ groups options declarations, type ∈ group.all := by
  have listed : Discriminator.ofTypeName options.endings type.name ∈
      (groups options declarations).map Group.discriminator := by
    rw [groups_discriminators]
    exact (mem_distinctTexts _ _).mpr (List.mem_map_of_mem declared)
  obtain ⟨group, member, same⟩ := List.mem_map.mp listed
  exact ⟨group, member, (mem_all_iff options declarations group member type).mpr
    ⟨declared, same.symm⟩⟩

theorem eq_of_discriminator (left right : Group) (leftMember : left ∈ groups options declarations)
    (rightMember : right ∈ groups options declarations)
    (same : left.discriminator = right.discriminator) : left = right := by
  have leftShape := (mem_groups_iff options declarations left).mp leftMember
  have rightShape := (mem_groups_iff options declarations right).mp rightMember
  rw [same, rightShape] at leftShape
  cases left
  cases right
  simp_all

/-- The names that stand for the groups. -/
def keptNames : List String := (groups options declarations).map fun group => group.first.name

theorem keptNames_nodup : (keptNames options declarations).Nodup := by
  -- A name tells its discriminator, and no two groups have one discriminator.
  refine List.Nodup.of_map (Discriminator.ofTypeName options.endings) ?_
  have same : (keptNames options declarations).map (Discriminator.ofTypeName options.endings) =
      discriminators options declarations := by
    rw [← groups_discriminators, keptNames, List.map_map]
    apply List.map_congr_left
    intro group member
    exact (first_mem_types options declarations group member).2
  rw [same]
  exact (distinctTexts_pairwise _).imp fun before => Std.ne_of_lt before

/-- A name is kept when no smaller name has its discriminator. -/
theorem mem_keptNames_iff (name : String) :
    name ∈ keptNames options declarations ↔
      name ∈ declarations.map TypeDeclaration.name ∧
      ∀ other ∈ declarations.map TypeDeclaration.name,
        Discriminator.ofTypeName options.endings other =
          Discriminator.ofTypeName options.endings name → name ≤ other := by
  constructor
  · intro kept
    obtain ⟨group, member, rfl⟩ := List.mem_map.mp kept
    obtain ⟨declared, same⟩ := first_mem_types options declarations group member
    refine ⟨(mem_names_iff declarations _).mp (List.mem_map_of_mem declared), ?_⟩
    intro other present equal
    obtain ⟨type, typed, rfl⟩ := List.mem_map.mp ((mem_names_iff declarations other).mpr present)
    have inside := (mem_all_iff options declarations group member type).mpr
      ⟨typed, equal.trans same⟩
    -- Another name with the discriminator is in the same group, behind the first one.
    rcases List.mem_cons.mp inside with first | later
    · exact first ▸ Std.le_refl _
    · exact Std.le_of_lt ((List.pairwise_cons.mp
        (all_pairwise options declarations group member)).1 type later)
  · rintro ⟨declared, least⟩
    obtain ⟨type, typed, rfl⟩ := List.mem_map.mp ((mem_names_iff declarations name).mpr declared)
    obtain ⟨group, member, inside⟩ := exists_group options declarations type typed
    obtain ⟨firstTyped, firstSame⟩ := first_mem_types options declarations group member
    have same := ((mem_all_iff options declarations group member type).mp inside).2
    have below := least group.first.name
      ((mem_names_iff declarations _).mp (List.mem_map_of_mem firstTyped))
      (firstSame.trans same.symm)
    rcases List.mem_cons.mp inside with first | later
    · exact List.mem_map.mpr ⟨group, member, by rw [first]⟩
    · have above := (List.pairwise_cons.mp
        (all_pairwise options declarations group member)).1 type later
      exact absurd above (Std.not_lt.mpr below)

theorem groups_eq_nil_iff : groups options declarations = [] ↔ declarations = [] := by
  constructor
  · intro empty
    cases declarations with
    | nil => rfl
    | cons declaration rest =>
      have named : declaration.name ∈ (types (declaration :: rest)).map TypeDeclaration.name :=
        (mem_names_iff _ _).mpr List.mem_cons_self
      obtain ⟨type, typed, _⟩ := List.mem_map.mp named
      obtain ⟨group, member, _⟩ := exists_group options _ type typed
      rw [empty] at member
      exact absurd member List.not_mem_nil
  · rintro rfl
    apply List.eq_nil_iff_forall_not_mem.mpr
    intro group member
    exact absurd (first_mem_types options [] group member).1 List.not_mem_nil

end Groups
end ApiAssembly.TypeUnion
