import ApiAssembly.Proofs.Identifier.Collision
import Mathlib.Data.List.Nodup
import Mathlib.Data.List.Sort
/-! The groups of sources that share a generated name. Which names they share makes no difference to
the groups: two ways to name sources that tell the same sources apart have the same groups, and a way
that tells fewer of them apart has larger ones. -/
namespace ApiAssembly.Identifier

/-- The sources of each collision that is reported for one place. -/
def reportedGroups (artifact : String) (errors : List BuildError) : List (List String) :=
  errors.filterMap fun
    | .nameCollision place _ sources => if place = artifact then some sources else none
    | _ => none

/-- The sources that share a name with another one, name by name. -/
def sharedGroups (name : String → String) (ids : List String) : List (List String) :=
  (distinctTexts (ids.map name)).filterMap fun shared =>
    let group := sortTexts (ids.filter fun id => name id = shared)
    if group.length > 1 then some group else none

theorem reportedGroups_append (artifact : String) (left right : List BuildError) :
    reportedGroups artifact (left ++ right) =
      reportedGroups artifact left ++ reportedGroups artifact right := by
  simp [reportedGroups]

theorem reportedGroups_collisions (artifact place : String) (name : String → String)
    (ids : List String) :
    reportedGroups artifact (collisions place (ids.map fun id => (name id, id))) =
      if place = artifact then sharedGroups name ids else [] := by
  have sources (shared : String) : sourcesOf shared (ids.map fun id => (name id, id)) =
      sortTexts (ids.filter fun id => name id = shared) := by
    simp [sourcesOf, List.filter_map, Function.comp_def]
  simp only [reportedGroups, collisions, sharedGroups, sources, List.filterMap_filterMap,
    List.map_map, Function.comp_def]
  by_cases here : place = artifact
  · rw [if_pos here]
    congr 1
    funext shared
    split <;> simp [here]
  · rw [if_neg here, List.filterMap_eq_nil_iff]
    intro shared _
    split <;> simp [here]

/-- The groups that the check of all operations reports for the four kinds of names. -/
theorem reportedGroups_operationCollisions (ids : List String) :
    reportedGroups "cli subcommand" (operationCollisions ids) =
      sharedGroups (fun id => (Names.ofOperation id).subcommand) ids ∧
    reportedGroups "cli command variant" (operationCollisions ids) =
      sharedGroups (fun id => (Names.ofOperation id).variant) ids ∧
    reportedGroups "client method" (operationCollisions ids) =
      sharedGroups (fun id => (Names.ofOperation id).clientMethod) ids ∧
    reportedGroups "router handler" (operationCollisions ids) =
      sharedGroups (fun id => (Names.ofOperation id).routerStub) ids := by
  simp [operationCollisions, reportedGroups_append, reportedGroups_collisions]

theorem mem_sortTexts (text : String) (texts : List String) :
    text ∈ sortTexts texts ↔ text ∈ texts := by
  simp [sortTexts]

theorem mem_sharedGroups (name : String → String) (ids group : List String) :
    group ∈ sharedGroups name ids ↔
      ∃ id ∈ ids, group = sortTexts (ids.filter fun other => name other = name id) ∧
        1 < group.length := by
  simp only [sharedGroups, List.mem_filterMap, mem_distinctTexts, List.mem_map]
  constructor
  · rintro ⟨shared, ⟨id, member, rfl⟩, found⟩
    split at found
    · rename_i many
      cases found
      exact ⟨id, member, rfl, many⟩
    · cases found
  · rintro ⟨id, member, rfl, many⟩
    exact ⟨name id, ⟨id, member, rfl⟩, if_pos many⟩

/-- No group comes up twice: a source is in the group of its own name only. -/
theorem sharedGroups_nodup (name : String → String) (ids : List String) :
    (sharedGroups name ids).Nodup := by
  have distinct : (distinctTexts (ids.map name)).Nodup :=
    (distinctTexts_pairwise (ids.map name)).imp Std.ne_of_lt
  refine List.Nodup.filterMap ?_ distinct
  intro first second group ofFirst ofSecond
  simp only [Option.mem_def, Option.ite_none_right_eq_some, Option.some.injEq] at ofFirst ofSecond
  obtain ⟨many, rfl⟩ := ofFirst
  obtain ⟨id, member⟩ := List.exists_mem_of_length_pos (Nat.lt_of_succ_lt many)
  have inSecond := ofSecond.2 ▸ member
  simp only [mem_sortTexts, List.mem_filter, decide_eq_true_eq] at member inSecond
  exact member.2.symm.trans inSecond.2

theorem sharedGroups_perm (first second : String → String)
    (alike : ∀ one other, first one = first other ↔ second one = second other) (ids : List String) :
    (sharedGroups first ids).Perm (sharedGroups second ids) := by
  rw [List.perm_ext_iff_of_nodup (sharedGroups_nodup first ids) (sharedGroups_nodup second ids)]
  intro group
  simp only [mem_sharedGroups, alike]

theorem sortTexts_sublist (few many : List String) (within : few.Sublist many) :
    (sortTexts few).Sublist (sortTexts many) := by
  have sorted : (sortTexts few).Subperm (sortTexts many) :=
    (List.mergeSort_perm few _).subperm.trans
      (within.subperm.trans (List.mergeSort_perm many _).symm.subperm)
  exact List.sublist_of_subperm_of_pairwise sorted (sortTexts_pairwise few) (sortTexts_pairwise many)

theorem sharedGroups_contained (finer coarser : String → String)
    (implied : ∀ one other, finer one = finer other → coarser one = coarser other)
    (ids group : List String) (shared : group ∈ sharedGroups finer ids) :
    ∃ larger ∈ sharedGroups coarser ids, group.Sublist larger := by
  obtain ⟨id, member, rfl, many⟩ := (mem_sharedGroups finer ids group).mp shared
  have contained : (sortTexts (ids.filter fun other => finer other = finer id)).Sublist
      (sortTexts (ids.filter fun other => coarser other = coarser id)) := by
    apply sortTexts_sublist
    apply List.monotone_filter_right
    intro other same
    simpa using implied other id (by simpa using same)
  refine ⟨_, (mem_sharedGroups coarser ids _).mpr ⟨id, member, rfl, ?_⟩, contained⟩
  exact Nat.lt_of_lt_of_le many contained.length_le

end ApiAssembly.Identifier
