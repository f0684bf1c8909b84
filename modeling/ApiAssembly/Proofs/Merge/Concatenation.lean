import ApiAssembly.Proofs.Merge.Parts
/-! Merging one list of fragments behind another. Operations and schemas of the second list stand
before those of the first, the name of the API is that of the first list if it has one, and the
log only grows. Each declared operation is either held in the end or was overridden in a collision. -/
namespace ApiAssembly

namespace Specification

theorem operationCount_eq_total (spec : Specification) :
    spec.operationCount = spec.paths.total fun item => item.operations.size := by
  unfold operationCount Dict.values Dict.total Entries.total
  induction spec.paths.entries with
  | nil => rfl
  | cons entry rest ih => rw [List.map_cons, List.foldr_cons, List.foldr_cons, ih]

end Specification

namespace Merge

/-! An operation that meets no other makes the count grow, one that does is a collision. -/

theorem count_addOperation (policy : CollisionPolicy) (merge : Merge) (operation : Operation) :
    (addOperation policy merge operation).specification.operationCount +
        (addOperation policy merge operation).collisions.length =
      merge.specification.operationCount + merge.collisions.length + 1 := by
  let present := ((merge.paths.find? operation.path).map PathItem.operations).getD Dict.empty
  have outer := merge.paths.total_insert (fun item => item.operations.size) operation.path
    ⟨present.insert operation.method operation⟩
  have inner := present.size_insert operation.method operation
  have before : ((merge.paths.find? operation.path).map fun item => item.operations.size).getD 0 =
      present.size := by
    unfold present
    cases merge.paths.find? operation.path <;> rfl
  have logged : (merge.collision? operation).toList.length =
      (present.find? operation.method).toList.length := by
    have holder : present.find? operation.method = merge.operation? operation.key := by
      unfold present operation? Operation.key
      cases merge.paths.find? operation.path <;> rfl
    rw [holder, collision?]
    cases merge.operation? operation.key <;> rfl
  have grown : (addOperation policy merge operation).collisions.length =
      merge.collisions.length + (merge.collision? operation).toList.length := List.length_append
  have changed : (addOperation policy merge operation).specification.operationCount =
      (merge.paths.insert operation.path ⟨present.insert operation.method operation⟩).total
        fun item => item.operations.size := Specification.operationCount_eq_total _
  rw [changed, grown, logged, Specification.operationCount_eq_total]
  rw [before] at outer
  simp only [specification] at outer inner ⊢
  omega

theorem count_operations (policy : CollisionPolicy) (operations : List Operation) (merge : Merge) :
    (operations.foldl (addOperation policy) merge).specification.operationCount +
        (operations.foldl (addOperation policy) merge).collisions.length =
      merge.specification.operationCount + merge.collisions.length + operations.length := by
  induction operations generalizing merge with
  | nil => rfl
  | cons operation rest ih =>
    rw [List.foldl_cons, ih, count_addOperation, List.length_cons]
    omega

theorem count_ofFragments (policy : CollisionPolicy) (fragments : List Fragment) :
    (declared fragments).length = (ofFragments policy fragments).specification.operationCount +
      (ofFragments policy fragments).collisions.length := by
  have counted := count_operations policy (declared fragments) {}
  have start : ({} : Merge).specification.operationCount + ({} : Merge).collisions.length = 0 := rfl
  rw [start, Nat.zero_add] at counted
  rw [ofFragments_collisions, Specification.operationCount, specification, ofFragments_paths]
  exact counted.symm

theorem collisions_grow (policy : CollisionPolicy) (operations : List Operation) (merge : Merge) :
    merge.collisions <+: (operations.foldl (addOperation policy) merge).collisions := by
  induction operations generalizing merge with
  | nil => exact List.prefix_rfl
  | cons operation rest ih =>
    exact (List.prefix_append _ _).trans (ih (addOperation policy merge operation))

/-- A merge of two lists after each other, told from the merges of the two. -/
theorem concatenation_right_biased (policy : CollisionPolicy) (earlier later : List Fragment) :
    let first := ofFragments policy earlier
    let second := ofFragments policy later
    let whole := ofFragments policy (earlier ++ later)
    (∀ key, whole.specification.operation? key =
      (second.specification.operation? key).or (first.specification.operation? key)) ∧
    (∀ name, whole.specification.components.find? name =
      (second.specification.components.find? name).or
        (first.specification.components.find? name)) ∧
    whole.specification.info =
      (if earlier.any fun fragment => fragment.info?.isSome then first.specification.info
        else second.specification.info) ∧
    first.collisions <+: whole.collisions ∧
    first.warnings <+: whole.warnings ∧
    (declared (earlier ++ later)).length =
      whole.specification.operationCount + whole.collisions.length := by
  intro first second whole
  refine ⟨?_, ?_, ?_, ?_, ?_, count_ofFragments policy (earlier ++ later)⟩
  · intro key
    rw [operation?_ofFragments, operation?_ofFragments, operation?_ofFragments, declared_append,
      List.reverse_append, List.find?_append]
  · intro name
    simp only [first, second, whole, specification, ofFragments_components, List.flatMap_append,
      Dict.find?_ofList, List.reverse_append, Entries.find?_append]
  · simp only [first, second, whole, specification, ofFragments_info, List.findSome?_append]
    rw [← List.isSome_findSome?]
    cases earlier.findSome? Fragment.info? <;> simp
  · simp only [first, whole, ofFragments_collisions, declared_append, ofOperations,
      List.foldl_append]
    exact collisions_grow policy (declared later) _
  · simp only [first, whole, ofFragments_warnings, List.flatMap_append]
    exact List.prefix_append _ _

end Merge
end ApiAssembly
