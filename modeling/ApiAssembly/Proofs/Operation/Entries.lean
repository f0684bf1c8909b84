import ApiAssembly.Operation.Reader
/-! Where the operations of a document come from. Each is read from one field of one path item, and
each of its parameters from an entry of its own list or of the list of its path, unless the path
alone calls for it. -/
namespace ApiAssembly

namespace Operations

theorem append_operations (left right : Operations) :
    (left.append right).operations = left.operations ++ right.operations := rfl

theorem join_operations (parts : List Operations) :
    (join parts).operations = parts.flatMap Operations.operations := by
  have run : ∀ start : Operations, (parts.foldl append start).operations =
      start.operations ++ parts.flatMap Operations.operations := by
    induction parts with
    | nil => intro start; simp
    | cons part rest ih =>
      intro start
      rw [List.foldl_cons, ih, append_operations, List.flatMap_cons, List.append_assoc]
  exact run {}

theorem mem_ofEntry (source path : String) (item : List (String × Json)) (entry : String × Json)
    (operation : Operation) :
    operation ∈ (ofEntry source path item entry).operations ↔
      ∃ method, Method.parse? entry.1 = some method ∧ entry.2.isObject = true ∧
        operation = Operation.ofJson source path item method entry.2 := by
  unfold ofEntry
  cases Method.parse? entry.1 with
  | none => simp
  | some method =>
    cases entry.2.isObject with
    | true => simp
    | false => simp

/-- The operations of a document are those that its path items hold under the key of a method. -/
theorem mem_ofDocument (source : String) (document : Json) (operation : Operation) :
    operation ∈ (ofDocument source document).operations ↔
      ∃ paths, document.getObj? "paths" = some paths ∧
        ∃ path item, (path, Json.obj item) ∈ paths ∧
          ∃ key value method, (key, value) ∈ item ∧ Method.parse? key = some method ∧
            value.isObject = true ∧ operation = Operation.ofJson source path item method value := by
  rw [ofDocument, join_operations, List.mem_flatMap]
  constructor
  · rintro ⟨part, listed, member⟩
    obtain ⟨⟨path, value⟩, present, rfl⟩ := List.mem_map.mp listed
    cases found : document.getObj? "paths" with
    | none => simp [found] at present
    | some paths =>
      rw [found, Option.getD_some] at present
      refine ⟨paths, rfl, path, ?_⟩
      cases value with
      | obj item =>
        refine ⟨item, present, ?_⟩
        rw [ofPathItem, append_operations, List.nil_append, join_operations,
          List.mem_flatMap] at member
        obtain ⟨read, listed, inside⟩ := member
        obtain ⟨⟨key, value⟩, field, rfl⟩ := List.mem_map.mp listed
        obtain ⟨method, parsed, object, same⟩ := (mem_ofEntry _ _ _ _ _).mp inside
        exact ⟨key, value, method, field, parsed, object, same⟩
      | _ => cases member
  · rintro ⟨paths, found, path, item, present, key, value, method, field, parsed, object, same⟩
    refine ⟨ofPathItem source path (.obj item), ?_, ?_⟩
    · rw [found, Option.getD_some]
      exact List.mem_map.mpr ⟨_, present, rfl⟩
    · rw [ofPathItem, append_operations, List.nil_append, join_operations, List.mem_flatMap]
      exact ⟨_, List.mem_map.mpr ⟨_, field, rfl⟩,
        (mem_ofEntry _ _ _ _ _).mpr ⟨method, parsed, object, same⟩⟩

end Operations

namespace Parameter

theorem take?_parts (name : String) (declared rest : List Parameter) (parameter : Parameter)
    (taken : take? name declared = some (parameter, rest)) :
    parameter ∈ declared ∧ rest ⊆ declared := by
  induction declared generalizing parameter rest with
  | nil => cases taken
  | cons head tail ih =>
    unfold take? at taken
    split at taken
    · cases taken
      exact ⟨List.mem_cons_self, List.subset_cons_self _ _⟩
    · obtain ⟨⟨found, others⟩, inner, same⟩ := Option.map_eq_some_iff.mp taken
      cases same
      obtain ⟨present, kept⟩ := ih others found inner
      exact ⟨List.mem_cons_of_mem head present, List.cons_subset_cons head kept⟩

theorem mem_arrange (names : List String) (declared : List Parameter) (parameter : Parameter)
    (member : parameter ∈ arrange names declared) :
    parameter ∈ declared ∨ ∃ name ∈ names, parameter = plain name := by
  induction names generalizing declared with
  | nil => exact Or.inl (List.mem_filter.mp member).1
  | cons name names ih =>
    unfold arrange at member
    split at member
    · rename_i found rest taken
      obtain ⟨present, kept⟩ := take?_parts name declared rest found taken
      rcases List.mem_cons.mp member with head | later
      · exact Or.inl (head ▸ present)
      · rcases ih rest later with inside | ⟨other, named, same⟩
        · exact Or.inl (kept inside)
        · exact Or.inr ⟨other, List.mem_cons_of_mem name named, same⟩
    · rcases List.mem_cons.mp member with head | later
      · exact Or.inr ⟨name, List.mem_cons_self, head⟩
      · rcases ih declared later with inside | ⟨other, named, same⟩
        · exact Or.inl inside
        · exact Or.inr ⟨other, List.mem_cons_of_mem name named, same⟩

/-- A parameter was declared for the path or for the operation, or is a placeholder of the path that
neither declares. -/
theorem mem_merge (path : String) (inherited own : List Parameter) (parameter : Parameter)
    (member : parameter ∈ merge path inherited own) :
    parameter ∈ inherited ∨ parameter ∈ own ∨
      ∃ name ∈ PathTemplate.placeholders path, parameter = plain name := by
  rcases mem_arrange _ _ parameter member with declared | missing
  · rcases List.mem_append.mp declared with kept | present
    · exact Or.inl (List.mem_filter.mp kept).1
    · exact Or.inr (Or.inl present)
  · exact Or.inr (Or.inr missing)

theorem mem_readAll (value : Option Json) (parameter : Parameter)
    (member : parameter ∈ readAll value) :
    ∃ items item, value = some (.arr items) ∧ item ∈ items ∧ ofJson? item = some parameter := by
  obtain ⟨item, listed, read⟩ := List.mem_filterMap.mp member
  cases value with
  | none => cases listed
  | some value =>
    cases value with
    | arr items => exact ⟨items, item, rfl, listed, read⟩
    | _ => cases listed

theorem ofJson?_schema (value : Json) (parameter : Parameter)
    (read : ofJson? value = some parameter) : parameter.schema = value.get? "schema" := by
  unfold ofJson? at read
  obtain ⟨name, _, later⟩ := Option.bind_eq_some_iff.mp read
  obtain ⟨place, _, made⟩ := Option.bind_eq_some_iff.mp later
  cases made
  rfl

end Parameter
end ApiAssembly
