import ApiAssembly.Specification.Merge
import ApiAssembly.Proofs.Dict.Lookup
/-! A merge taken apart. Its four parts do not look at each other: what the API is called, the shared
schemas, the warnings, and the operations with their collisions. The first three are plain
functions of the fragments, and the last is one run over the declared operations in order. -/
namespace ApiAssembly

namespace Fragment

/-- What a fragment declares once its references carry its name. -/
def declared (fragment : Fragment) : Operations :=
  Operations.ofDocument fragment.name (Reference.qualify fragment.name fragment.document)

def info? (fragment : Fragment) : Option Info :=
  Info.ofDocument? (Reference.qualify fragment.name fragment.document)

def qualifiedSchemas (fragment : Fragment) : List (String × Json) :=
  (Merge.schemasOf (Reference.qualify fragment.name fragment.document)).map fun entry =>
    (Reference.qualifiedName fragment.name entry.1, entry.2)

end Fragment

namespace Merge

/-- The operations of all fragments, in the order in which they are taken in. -/
def declared (fragments : List Fragment) : List Operation :=
  fragments.flatMap fun fragment => fragment.declared.operations

theorem declared_append (earlier later : List Fragment) :
    declared (earlier ++ later) = declared earlier ++ declared later := List.flatMap_append

/-! Operations leave the other parts alone, and do not look at them. -/

theorem operations_frame (policy : CollisionPolicy) (operations : List Operation) (merge : Merge)
    (info : Option Info) (components : Dict String Json) (warnings : List String) :
    operations.foldl (addOperation policy) { merge with info, components, warnings } =
      { operations.foldl (addOperation policy) merge with info, components, warnings } := by
  induction operations generalizing merge with
  | nil => rfl
  | cons operation rest ih => exact ih (addOperation policy merge operation)

theorem addFragment_eq (policy : CollisionPolicy) (merge : Merge) (fragment : Fragment) :
    addFragment policy merge fragment =
      { fragment.declared.operations.foldl (addOperation policy) merge with
        info := merge.info.or fragment.info?
        components := fragment.qualifiedSchemas.foldl
          (fun components entry => components.insert entry.1 entry.2) merge.components
        warnings := merge.warnings ++ fragment.declared.warnings } := by
  rw [Fragment.qualifiedSchemas, List.foldl_map]
  exact operations_frame policy fragment.declared.operations merge _ _ _

theorem fragments_eq (policy : CollisionPolicy) (fragments : List Fragment) (merge : Merge) :
    fragments.foldl (addFragment policy) merge =
      { (declared fragments).foldl (addOperation policy) merge with
        info := merge.info.or (fragments.findSome? Fragment.info?)
        components := (fragments.flatMap Fragment.qualifiedSchemas).foldl
          (fun components entry => components.insert entry.1 entry.2) merge.components
        warnings := merge.warnings ++ fragments.flatMap fun fragment => fragment.declared.warnings } := by
  induction fragments generalizing merge with
  | nil => simp [declared]
  | cons fragment rest ih =>
    rw [List.foldl_cons, ih, addFragment_eq, operations_frame]
    have operations : declared (fragment :: rest) = fragment.declared.operations ++ declared rest :=
      List.flatMap_cons
    rw [operations, List.foldl_append, List.flatMap_cons, List.foldl_append, List.flatMap_cons,
      List.append_assoc, Option.or_assoc, List.findSome?_cons]
    cases fragment.info? <;> rfl

/-- The run over the declared operations, with nothing else in the merge. -/
def ofOperations (policy : CollisionPolicy) (operations : List Operation) : Merge :=
  operations.foldl (addOperation policy) {}

theorem ofFragments_eq (policy : CollisionPolicy) (fragments : List Fragment) :
    ofFragments policy fragments =
      { ofOperations policy (declared fragments) with
        info := fragments.findSome? Fragment.info?
        components := Dict.ofList (fragments.flatMap Fragment.qualifiedSchemas)
        warnings := fragments.flatMap fun fragment => fragment.declared.warnings } := by
  rw [ofFragments, fragments_eq]
  rfl

theorem ofFragments_info (policy : CollisionPolicy) (fragments : List Fragment) :
    (ofFragments policy fragments).info = fragments.findSome? Fragment.info? := by
  rw [ofFragments_eq]

theorem ofFragments_components (policy : CollisionPolicy) (fragments : List Fragment) :
    (ofFragments policy fragments).components =
      Dict.ofList (fragments.flatMap Fragment.qualifiedSchemas) := by
  rw [ofFragments_eq]

theorem ofFragments_warnings (policy : CollisionPolicy) (fragments : List Fragment) :
    (ofFragments policy fragments).warnings =
      fragments.flatMap fun fragment => fragment.declared.warnings := by
  rw [ofFragments_eq]

theorem ofFragments_paths (policy : CollisionPolicy) (fragments : List Fragment) :
    (ofFragments policy fragments).paths = (ofOperations policy (declared fragments)).paths := by
  rw [ofFragments_eq]

theorem ofFragments_collisions (policy : CollisionPolicy) (fragments : List Fragment) :
    (ofFragments policy fragments).collisions =
      (ofOperations policy (declared fragments)).collisions := by
  rw [ofFragments_eq]

/-! One operation is found under its own key from then on, and nothing changes under other keys. -/

theorem operation?_addOperation (policy : CollisionPolicy) (merge : Merge) (operation : Operation)
    (key : OperationKey) :
    (addOperation policy merge operation).operation? key =
      if key = operation.key then some operation else merge.operation? key := by
  unfold operation? addOperation
  rw [Dict.find?_insert]
  by_cases path : key.path = operation.path
  · rw [if_pos path, Option.bind_some, Dict.find?_insert, path]
    by_cases method : key.method = operation.method
    · have same : key = operation.key := by
        cases key
        cases path
        cases method
        rfl
      rw [if_pos method, if_pos same]
    · have other : key ≠ operation.key := fun same => method (same ▸ rfl)
      rw [if_neg method, if_neg other]
      cases merge.paths.find? operation.path <;> rfl
  · have other : key ≠ operation.key := fun same => path (same ▸ rfl)
    rw [if_neg path, if_neg other]

theorem operation?_operations (policy : CollisionPolicy) (operations : List Operation)
    (merge : Merge) (key : OperationKey) :
    (operations.foldl (addOperation policy) merge).operation? key =
      (operations.reverse.find? fun operation => key = operation.key).or (merge.operation? key) := by
  induction operations generalizing merge with
  | nil => rfl
  | cons operation rest ih =>
    rw [List.foldl_cons, ih, operation?_addOperation, List.reverse_cons, List.find?_append,
      Option.or_assoc]
    congr 1
    by_cases same : key = operation.key
    · simp [same]
    · simp [same]

/-- Under each key the last operation declared for it is held. -/
theorem operation?_ofFragments (policy : CollisionPolicy) (fragments : List Fragment)
    (key : OperationKey) :
    (ofFragments policy fragments).specification.operation? key =
      (declared fragments).reverse.find? fun operation => key = operation.key := by
  have held := operation?_operations policy (declared fragments) {} key
  rw [Specification.operation?, specification, ofFragments_paths]
  exact held.trans Option.or_none

end Merge
end ApiAssembly
