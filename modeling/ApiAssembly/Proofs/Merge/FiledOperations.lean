import ApiAssembly.Proofs.Merge.Parts
import ApiAssembly.Proofs.Operation.Entries
import ApiAssembly.Proofs.Specification.Entries
/-! The shape of a merged specification. A path is listed for the sake of an operation, every operation
stands under its own path and method, comes from one of the fragments and has an identifier to be
known by. The route table is then in order and can be searched by the keys of its rows. -/
namespace ApiAssembly

namespace Operation

theorem idOf_not_blank (method : Method) (path : String) (value : Json) :
    Text.isBlankText (idOf method path value) = false := by
  rw [idOf]
  cases declared : declaredId? value with
  | some id =>
    have kept := (Option.filter_eq_some_iff.mp declared).2
    simpa using kept
  | none =>
    -- A derived identifier starts with the method.
    rw [Option.getD_none, PathTemplate.operationId, Text.isBlankText, String.toList_append,
      List.all_append, Bool.and_eq_false_iff]
    left
    cases method <;> decide

end Operation

namespace Operations

theorem source_of_mem (source : String) (document : Json) (operation : Operation)
    (member : operation ∈ (ofDocument source document).operations) :
    operation.source = source ∧ Text.isBlankText operation.id = false := by
  obtain ⟨_, _, path, item, _, _, value, method, _, _, _, rfl⟩ :=
    (mem_ofDocument source document operation).mp member
  exact ⟨rfl, Operation.idOf_not_blank method path value⟩

end Operations

namespace Specification

/-- No path stands there without an operation. -/
def HasNoEmptyPath (spec : Specification) : Prop :=
  ∀ path item, spec.paths.find? path = some item → item.operations.entries ≠ []

end Specification

namespace Merge

theorem hasNoEmptyPath_addOperation (policy : CollisionPolicy) (merge : Merge)
    (operation : Operation) (filled : merge.specification.HasNoEmptyPath) :
    (addOperation policy merge operation).specification.HasNoEmptyPath := by
  intro path item found
  simp only [specification, addOperation, Dict.find?_insert] at found
  split at found
  · cases found
    intro empty
    -- The operation that was just put in is found.
    have held := Dict.find?_insert
      (((merge.paths.find? operation.path).map PathItem.operations).getD Dict.empty)
      operation.method operation.method operation
    rw [if_pos rfl, Dict.find?, empty] at held
    cases held
  · exact filled path item found

theorem hasNoEmptyPath_operations (policy : CollisionPolicy) (operations : List Operation)
    (merge : Merge) (filled : merge.specification.HasNoEmptyPath) :
    (operations.foldl (addOperation policy) merge).specification.HasNoEmptyPath := by
  induction operations generalizing merge with
  | nil => exact filled
  | cons operation rest ih =>
    exact ih (addOperation policy merge operation)
      (hasNoEmptyPath_addOperation policy merge operation filled)

theorem hasNoEmptyPath_ofFragments (policy : CollisionPolicy) (fragments : List Fragment) :
    (ofFragments policy fragments).specification.HasNoEmptyPath := by
  have start : ({} : Merge).specification.HasNoEmptyPath := by
    intro path item found
    cases found
  have filled := hasNoEmptyPath_operations policy (declared fragments) {} start
  intro path item found
  rw [specification, ofFragments_paths] at found
  exact filled path item found

/-- What is found in a merge was declared there under the same key. -/
theorem declared_of_found (policy : CollisionPolicy) (fragments : List Fragment)
    (key : OperationKey) (operation : Operation)
    (found : (ofFragments policy fragments).specification.operation? key = some operation) :
    operation.key = key ∧ operation ∈ declared fragments := by
  rw [operation?_ofFragments] at found
  have same := List.find?_some found
  exact ⟨(of_decide_eq_true same).symm, List.mem_reverse.mp (List.mem_of_find?_eq_some found)⟩

theorem isFiled_ofFragments (policy : CollisionPolicy) (fragments : List Fragment) :
    (ofFragments policy fragments).specification.IsFiled := by
  intro key operation found
  exact (declared_of_found policy fragments key operation found).1

theorem source_of_declared (fragments : List Fragment) (operation : Operation)
    (member : operation ∈ declared fragments) :
    operation.source ∈ fragments.map Fragment.name ∧ Text.isBlankText operation.id = false := by
  obtain ⟨fragment, listed, inside⟩ := List.mem_flatMap.mp member
  obtain ⟨source, named⟩ := Operations.source_of_mem _ _ operation inside
  exact ⟨List.mem_map.mpr ⟨fragment, listed, source.symm⟩, named⟩

/-- Whatever is merged, paths and methods tell where an operation stands, and the route table lists
the operations in the order of their keys, each of them once. -/
theorem specification_well_formed (policy : CollisionPolicy) (fragments : List Fragment) :
    let spec := (ofFragments policy fragments).specification
    (∀ path item, spec.paths.find? path = some item →
      item.operations.entries ≠ [] ∧
      ∀ method operation, item.operations.find? method = some operation →
        operation.path = path ∧ operation.method = method ∧
        operation.source ∈ fragments.map Fragment.name ∧
        Text.isBlankText operation.id = false) ∧
    ∀ stubs,
      ((Route.table spec stubs).Pairwise fun left right => compare left.key right.key = .lt) ∧
      (Route.table spec stubs).length = spec.operationCount ∧
      List.Forall₂ (fun row operation => row = Route.ofOperation stubs operation ∧
        spec.operation? row.key = some operation) (Route.table spec stubs) spec.operations := by
  intro spec
  have filed := isFiled_ofFragments policy fragments
  constructor
  · intro path item atPath
    refine ⟨hasNoEmptyPath_ofFragments policy fragments path item atPath, ?_⟩
    intro method operation atMethod
    have found : spec.operation? ⟨path, method⟩ = some operation := by
      rw [Specification.operation?, atPath, Option.bind_some, atMethod]
    obtain ⟨key, member⟩ := declared_of_found policy fragments ⟨path, method⟩ operation found
    exact ⟨congrArg OperationKey.path key, congrArg OperationKey.method key,
      source_of_declared fragments operation member⟩
  · intro stubs
    exact ⟨Route.table_sorted spec filed stubs, Route.table_length spec stubs,
      Route.table_lookup spec filed stubs⟩

end Merge
end ApiAssembly
