import ApiAssembly.Proofs.Dict.Lookup
import ApiAssembly.Proofs.Identifier.Collision
import ApiAssembly.Specification.Merge
/-! The report of identifiers that more than one operation carries. It has one error for each of them,
in the order of the identifiers, and each error names all operations with its identifier. One pass
that files the label of every operation under its identifier comes to the same report. -/
namespace ApiAssembly.Specification
open Identifier

def labelsOf (operations : List Operation) (id : String) : List String :=
  (operations.filter fun operation => operation.id = id).map Operation.label

def ids (operations : List Operation) : List String := operations.map Operation.id

theorem labelsOf_length (operations : List Operation) (id : String) :
    (labelsOf operations id).length = (ids operations).count id := by
  rw [labelsOf, ids, List.length_map, length_filter_key]

theorem labelsOf_eq_nil_iff (operations : List Operation) (id : String) :
    labelsOf operations id = [] ↔ id ∉ ids operations := by
  rw [← List.length_eq_zero_iff, labelsOf_length, List.count_eq_zero]

theorem labelsOf_cons (operation : Operation) (rest : List Operation) (id : String) :
    labelsOf (operation :: rest) id =
      if operation.id = id then operation.label :: labelsOf rest id else labelsOf rest id := by
  by_cases same : operation.id = id <;> simp [labelsOf, same]

/-- What is reported of one identifier. -/
def repeated? (id : String) (labels : List String) : Option BuildError :=
  if labels.length > 1 then some (.duplicateOperationId id labels) else none

theorem duplicateIds_eq (spec : Specification) :
    spec.duplicateIds = (distinctTexts (ids spec.operations)).filterMap fun id =>
      repeated? id (labelsOf spec.operations id) := by
  unfold duplicateIds repeated? labelsOf ids
  simp only [List.length_map]

/-- The identifiers that come up again, in their order. -/
def repeatedIds (operations : List Operation) : List String :=
  (distinctTexts (ids operations)).filter fun id => 2 ≤ (ids operations).count id

theorem mem_repeatedIds (operations : List Operation) (id : String) :
    id ∈ repeatedIds operations ↔ 2 ≤ (ids operations).count id := by
  rw [repeatedIds, List.mem_filter, mem_distinctTexts, decide_eq_true_eq, and_iff_right_iff_imp]
  intro twice
  exact List.count_pos_iff.mp (Nat.lt_of_lt_of_le Nat.zero_lt_two twice)

theorem repeatedIds_pairwise (operations : List Operation) :
    (repeatedIds operations).Pairwise (· < ·) :=
  (distinctTexts_pairwise _).filter _

theorem duplicateIds_eq_map (spec : Specification) :
    spec.duplicateIds = (repeatedIds spec.operations).map fun id =>
      .duplicateOperationId id (labelsOf spec.operations id) := by
  rw [duplicateIds_eq, repeatedIds, ← List.filterMap_eq_map, List.filterMap_filter]
  refine List.filterMap_congr fun id _ => ?_
  rw [repeated?, labelsOf_length]
  simp [Nat.lt_iff_add_one_le]

/-! The pass over the operations. A step changes the labels of one identifier. -/

def addLabel (groups : Dict String (List String)) (operation : Operation) :
    Dict String (List String) :=
  groups.insert operation.id ((groups.find? operation.id).getD [] ++ [operation.label])

def groupLabels (operations : List Operation) : Dict String (List String) :=
  operations.foldl addLabel Dict.empty

theorem find?_addLabel (groups : Dict String (List String)) (operation : Operation) (id : String) :
    (addLabel groups operation).find? id =
      if id = operation.id then some ((groups.find? id).getD [] ++ [operation.label])
      else groups.find? id := by
  rw [addLabel, Dict.find?_insert]
  by_cases same : id = operation.id
  · simp [same]
  · simp [same]

theorem find?_addLabels (operations : List Operation) (groups : Dict String (List String))
    (id : String) :
    (operations.foldl addLabel groups).find? id =
      if labelsOf operations id = [] then groups.find? id
      else some ((groups.find? id).getD [] ++ labelsOf operations id) := by
  induction operations generalizing groups with
  | nil => rfl
  | cons operation rest ih =>
    -- The step files one label, and the rest of the pass puts its own behind it.
    rw [List.foldl_cons, ih, find?_addLabel, labelsOf_cons]
    by_cases same : operation.id = id
    · by_cases last : labelsOf rest id = []
      · simp [same, last]
      · simp [same, last]
    · simp [same, Ne.symm same]

theorem find?_groupLabels (operations : List Operation) (id : String) :
    (groupLabels operations).find? id =
      if id ∈ ids operations then some (labelsOf operations id) else none := by
  rw [groupLabels, find?_addLabels]
  by_cases carried : id ∈ ids operations
  · have some : labelsOf operations id ≠ [] := by rwa [ne_eq, labelsOf_eq_nil_iff, not_not]
    rw [if_neg some, if_pos carried]
    rfl
  · rw [if_pos ((labelsOf_eq_nil_iff operations id).mpr carried), if_neg carried]
    rfl

theorem keys_groupLabels (operations : List Operation) :
    (groupLabels operations).keys = distinctTexts (ids operations) := by
  have filed : (groupLabels operations).keys.Pairwise fun left right => compare left right = .lt :=
    List.pairwise_map.mpr (groupLabels operations).sorted
  have listed : (distinctTexts (ids operations)).Pairwise fun left right =>
      compare left right = .lt :=
    (distinctTexts_pairwise _).imp compareOfLessAndEq_eq_lt.mpr
  refine Sorting.eq_of_mem_iff filed listed fun id => ?_
  rw [Dict.mem_keys_iff, find?_groupLabels, mem_distinctTexts]
  by_cases carried : id ∈ ids operations <;> simp [carried]

theorem entries_groupLabels (operations : List Operation) :
    (groupLabels operations).entries =
      (distinctTexts (ids operations)).map fun id => (id, labelsOf operations id) := by
  rw [← keys_groupLabels, Dict.keys, List.map_map]
  have filed : ∀ entry ∈ (groupLabels operations).entries,
      entry = (entry.1, labelsOf operations entry.1) := by
    intro entry member
    have found := (Entries.mem_iff_find? _ (groupLabels operations).sorted entry).mp member
    rw [← Dict.find?, find?_groupLabels] at found
    split at found
    · rw [Option.some.inj found]
    · cases found
  exact (List.map_id _).symm.trans (List.map_congr_left filed)

theorem duplicateIds_eq_grouped (spec : Specification) :
    spec.duplicateIds = (groupLabels spec.operations).entries.filterMap fun entry =>
      repeated? entry.1 entry.2 := by
  rw [duplicateIds_eq, entries_groupLabels, List.filterMap_map]
  rfl

/-- Every identifier that comes up again is reported once, with the labels of all that carry it in
route order, and no other identifier is. The report is what one pass over the operations collects. -/
theorem duplicate_ids_complete (spec : Specification) :
    (∃ repeated : List String,
      repeated.Pairwise (· < ·) ∧
      (∀ id, id ∈ repeated ↔ 2 ≤ (spec.operations.map Operation.id).count id) ∧
      spec.duplicateIds = repeated.map fun id => .duplicateOperationId id
        ((spec.operations.filter fun operation => operation.id = id).map Operation.label)) ∧
    (spec.duplicateIds = [] ↔ (spec.operations.map Operation.id).Nodup) ∧
    spec.duplicateIds = (groupLabels spec.operations).entries.filterMap fun entry =>
      repeated? entry.1 entry.2 := by
  have report : spec.duplicateIds = (repeatedIds spec.operations).map fun id =>
      .duplicateOperationId id (labelsOf spec.operations id) := duplicateIds_eq_map spec
  refine ⟨⟨repeatedIds spec.operations, repeatedIds_pairwise _, ?_, report⟩, ?_,
    duplicateIds_eq_grouped spec⟩
  · exact mem_repeatedIds spec.operations
  · rw [report, List.map_eq_nil_iff, List.nodup_iff_count_le_one, List.eq_nil_iff_forall_not_mem]
    refine forall_congr' fun id => ?_
    rw [mem_repeatedIds, Nat.not_le, Nat.lt_succ_iff]
    rfl

end ApiAssembly.Specification
