import ApiAssembly.Route
import ApiAssembly.Proofs.Dict.Lookup
/-! A specification as one dictionary. Its two levels, paths and methods, come to a list of operations
under keys, in the order of the keys. Where every operation is filed under its own key, this is
the order of the routes, and the key of a route leads back to its operation. -/
namespace ApiAssembly

theorem OperationKey.compare_lt_iff (left right : OperationKey) :
    compare left right = .lt ↔ compare left.path right.path = .lt ∨
      compare left.path right.path = .eq ∧ compare left.method right.method = .lt :=
  Ordering.then_eq_lt

def PathItem.entries (path : String) (item : PathItem) : List (OperationKey × Operation) :=
  item.operations.entries.map fun entry => (⟨path, entry.1⟩, entry.2)

namespace Specification

def entries (spec : Specification) : List (OperationKey × Operation) :=
  spec.paths.entries.flatMap fun entry => entry.2.entries entry.1

theorem entries_values (spec : Specification) : spec.entries.map Prod.snd = spec.operations := by
  rw [entries, operations, Dict.values, List.map_flatMap, List.flatMap_map]
  congr 1
  funext entry
  rw [PathItem.entries, List.map_map, Dict.values]
  rfl

theorem entries_sorted (spec : Specification) : Entries.Sorted spec.entries := by
  rw [Entries.Sorted, entries, List.pairwise_flatMap]
  constructor
  · -- Within one path the methods decide.
    intro entry _
    rw [PathItem.entries, List.pairwise_map]
    apply entry.2.operations.sorted.imp
    intro left right before
    exact (OperationKey.compare_lt_iff _ _).mpr (Or.inr ⟨Std.ReflOrd.compare_self, before⟩)
  · apply spec.paths.sorted.imp
    intro first second before left inFirst right inSecond
    obtain ⟨_, _, rfl⟩ := List.mem_map.mp inFirst
    obtain ⟨_, _, rfl⟩ := List.mem_map.mp inSecond
    exact (OperationKey.compare_lt_iff _ _).mpr (Or.inl before)

theorem mem_entries_iff (spec : Specification) (key : OperationKey) (operation : Operation) :
    (key, operation) ∈ spec.entries ↔ spec.operation? key = some operation := by
  rw [entries, operation?, List.mem_flatMap, Option.bind_eq_some_iff]
  constructor
  · rintro ⟨⟨path, item⟩, atPath, inside⟩
    obtain ⟨⟨method, held⟩, atMethod, same⟩ := List.mem_map.mp inside
    cases same
    exact ⟨item, (Entries.mem_iff_find? _ spec.paths.sorted _).mp atPath,
      (Entries.mem_iff_find? _ item.operations.sorted _).mp atMethod⟩
  · rintro ⟨item, atPath, atMethod⟩
    refine ⟨(key.path, item), (Entries.mem_iff_find? _ spec.paths.sorted _).mpr atPath, ?_⟩
    exact List.mem_map.mpr ⟨(key.method, operation),
      (Entries.mem_iff_find? _ item.operations.sorted _).mpr atMethod, rfl⟩

theorem operation?_of_mem (spec : Specification) (operation : Operation)
    (member : operation ∈ spec.operations) :
    ∃ key, spec.operation? key = some operation := by
  rw [← entries_values] at member
  obtain ⟨⟨key, held⟩, entry, rfl⟩ := List.mem_map.mp member
  exact ⟨key, (spec.mem_entries_iff key held).mp entry⟩

theorem operations_length (spec : Specification) :
    spec.operations.length = spec.operationCount := by
  rw [operations, operationCount]
  induction spec.paths.values with
  | nil => rfl
  | cons item rest ih =>
    rw [List.flatMap_cons, List.length_append, List.foldr_cons, ih, Dict.values, List.length_map]
    rfl

/-- Every operation stands under its own path and method. -/
def IsFiled (spec : Specification) : Prop :=
  ∀ key operation, spec.operation? key = some operation → operation.key = key

theorem entries_of_filed (spec : Specification) (filed : spec.IsFiled) :
    spec.entries = spec.operations.map fun operation => (operation.key, operation) := by
  rw [← entries_values, List.map_map]
  have same : ∀ entry ∈ spec.entries, entry = (entry.2.key, entry.2) := by
    rintro ⟨key, operation⟩ member
    rw [filed key operation ((spec.mem_entries_iff key operation).mp member)]
  exact (List.map_id _).symm.trans (List.map_congr_left same)

theorem operation?_of_filed (spec : Specification) (filed : spec.IsFiled) (operation : Operation)
    (member : operation ∈ spec.operations) : spec.operation? operation.key = some operation := by
  rw [← mem_entries_iff, entries_of_filed spec filed]
  exact List.mem_map.mpr ⟨operation, member, rfl⟩

theorem operations_sorted (spec : Specification) (filed : spec.IsFiled) :
    spec.operations.Pairwise fun left right => compare left.key right.key = .lt := by
  have sorted := spec.entries_sorted
  rwa [entries_of_filed spec filed, Entries.Sorted, List.pairwise_map] at sorted

theorem keys_nodup (spec : Specification) (filed : spec.IsFiled) :
    (spec.operations.map Operation.key).Nodup := by
  rw [List.Nodup, List.pairwise_map]
  apply (spec.operations_sorted filed).imp
  intro left right before same
  rw [same, Std.ReflOrd.compare_self] at before
  cases before

end Specification

namespace Route

/-- The rows of a table are in the order of their keys. -/
theorem table_sorted (spec : Specification) (filed : spec.IsFiled) (stubs : List OperationKey) :
    (table spec stubs).Pairwise fun left right => compare left.key right.key = .lt := by
  rw [table, List.pairwise_map]
  exact spec.operations_sorted filed

theorem table_length (spec : Specification) (stubs : List OperationKey) :
    (table spec stubs).length = spec.operationCount := by
  rw [table, List.length_map, Specification.operations_length]

/-- The key of a row leads to the operation that the row was made from. -/
theorem table_lookup (spec : Specification) (filed : spec.IsFiled) (stubs : List OperationKey) :
    List.Forall₂ (fun row operation => row = ofOperation stubs operation ∧
      spec.operation? row.key = some operation) (table spec stubs) spec.operations := by
  rw [table, List.forall₂_map_left_iff, List.forall₂_same]
  intro operation member
  exact ⟨rfl, spec.operation?_of_filed filed operation member⟩

end Route
end ApiAssembly
