import ApiAssembly.Proofs.Merge.SchemaNames
import ApiAssembly.Proofs.Operation.Entries
import ApiAssembly.Proofs.Reference.Targets
import ApiAssembly.Proofs.Specification.Entries
/-! Whether a merged specification refers only to schemas that it holds. Every reference in it comes
out of a qualified document. One that qualifying renamed leads to the renamed schema of the same
fragment; one that was passed over keeps a name that no schema of its fragment has any more. -/
namespace ApiAssembly

def Parameter.references (parameter : Parameter) : List String :=
  parameter.schema.toList.flatMap Reference.targets

def RequestBody.references (body : RequestBody) : List String :=
  body.schema.toList.flatMap Reference.targets

def Operation.references (operation : Operation) : List String :=
  operation.parameters.flatMap Parameter.references ++
    operation.body.toList.flatMap RequestBody.references ++
    Reference.fieldTargets operation.responses

namespace Specification

def references (spec : Specification) : List String :=
  spec.operations.flatMap Operation.references ++ spec.components.values.flatMap Reference.targets

def IsClosed (spec : Specification) : Prop :=
  ∀ name ∈ spec.references, name ∈ spec.components.keys

instance (spec : Specification) : Decidable spec.IsClosed :=
  inferInstanceAs (Decidable (∀ name ∈ spec.references, name ∈ spec.components.keys))

end Specification

/-! An operation refers only to what its document refers to. -/

open Reference

theorem Parameter.references_readAll (value : Option Json) (parameter : Parameter)
    (member : parameter ∈ Parameter.readAll value) :
    parameter.references ⊆ value.toList.flatMap targets := by
  obtain ⟨items, item, rfl, listed, read⟩ := Parameter.mem_readAll value parameter member
  intro target inside
  rw [Parameter.references, Parameter.ofJson?_schema item parameter read] at inside
  obtain ⟨schema, found, below⟩ := List.mem_flatMap.mp inside
  have within := targets_get? "schema" item schema (Option.mem_toList.mp found) below
  rw [Option.toList_some, List.flatMap_singleton, targets, mem_itemTargets]
  exact ⟨item, listed, within⟩

theorem RequestBody.references_ofJson? (value : Json) (body : RequestBody)
    (read : RequestBody.ofJson? value = some body) : body.references ⊆ targets value := by
  cases value with
  | obj fields =>
    cases read
    intro target inside
    obtain ⟨schema, found, below⟩ := List.mem_flatMap.mp inside
    obtain ⟨media, inMedia, inSchema⟩ := Option.bind_eq_some_iff.mp (Option.mem_toList.mp found)
    obtain ⟨content, inContent, inJson⟩ := Option.bind_eq_some_iff.mp inMedia
    rw [targets]
    exact targets_find? fields "content" content inContent
      (targets_get? "application/json" content media inJson
        (targets_get? "schema" media schema inSchema below))
  | _ => cases read

theorem Operation.references_ofJson (source path : String) (item : List (String × Json))
    (method : Method) (value : Json) :
    (Operation.ofJson source path item method value).references ⊆
      fieldTargets item ++ targets value := by
  intro target member
  rcases List.mem_append.mp member with member | response
  · rcases List.mem_append.mp member with parameter | body
    · obtain ⟨parameter, listed, inside⟩ := List.mem_flatMap.mp parameter
      rcases Parameter.mem_merge _ _ _ parameter listed with inherited | own | ⟨name, _, plain⟩
      · have within := Parameter.references_readAll _ parameter inherited inside
        obtain ⟨list, found, below⟩ := List.mem_flatMap.mp within
        exact List.mem_append_left _
          (targets_find? item "parameters" list (Option.mem_toList.mp found) below)
      · have within := Parameter.references_readAll _ parameter own inside
        obtain ⟨list, found, below⟩ := List.mem_flatMap.mp within
        exact List.mem_append_right _
          (targets_get? "parameters" value list (Option.mem_toList.mp found) below)
      · subst plain
        simp [Parameter.references, Parameter.plain, targets, fieldTargets, ownTargets] at inside
    · obtain ⟨body, found, inside⟩ := List.mem_flatMap.mp body
      obtain ⟨raw, present, read⟩ := Option.bind_eq_some_iff.mp (Option.mem_toList.mp found)
      exact List.mem_append_right _ (targets_get? "requestBody" value raw present
        (RequestBody.references_ofJson? raw body read inside))
  · cases found : value.getObj? "responses" with
    | none => simp [Operation.ofJson, found, fieldTargets] at response
    | some fields =>
      rw [Operation.ofJson, found] at response
      exact List.mem_append_right _ (targets_getObj? "responses" value fields found response)

theorem Operation.references_ofDocument (source : String) (document : Json) (operation : Operation)
    (member : operation ∈ (Operations.ofDocument source document).operations) :
    operation.references ⊆ targets document := by
  obtain ⟨paths, found, path, item, present, key, value, method, field, _, _, rfl⟩ :=
    (Operations.mem_ofDocument source document operation).mp member
  have inItem : fieldTargets item ⊆ targets document := by
    have inPaths := targets_field paths path (.obj item) present
    rw [targets] at inPaths
    exact List.Subset.trans inPaths (targets_getObj? "paths" document paths found)
  intro target inside
  rcases List.mem_append.mp (Operation.references_ofJson source path item method value inside) with
    beside | below
  · exact inItem beside
  · exact inItem (targets_field item key value field below)

namespace Merge

theorem mem_declared_of_mem (policy : CollisionPolicy) (fragments : List Fragment)
    (operation : Operation)
    (member : operation ∈ (ofFragments policy fragments).specification.operations) :
    ∃ fragment ∈ fragments, operation ∈ fragment.declared.operations := by
  obtain ⟨key, held⟩ := Specification.operation?_of_mem _ operation member
  rw [operation?_ofFragments] at held
  exact List.mem_flatMap.mp (List.mem_reverse.mp (List.mem_of_find?_eq_some held))

theorem mem_qualifiedSchemas (policy : CollisionPolicy) (fragments : List Fragment) (key : String)
    (schema : Json) (entry : (key, schema) ∈ (ofFragments policy fragments).components.entries) :
    (key, schema) ∈ fragments.flatMap Fragment.qualifiedSchemas := by
  rw [ofFragments_components] at entry
  have found := Entries.find?_of_mem key schema _ (Dict.keys_nodup _) entry
  exact List.mem_reverse.mp
    (Entries.mem_of_find? key schema _ ((Dict.find?_ofList _ key).symm.trans found))

theorem targets_schemasOf (document : Json) : fieldTargets (schemasOf document) ⊆ targets document := by
  intro target member
  unfold schemasOf at member
  cases found : document.get? "components" with
  | none => simp [found, fieldTargets] at member
  | some components =>
    rw [found, Option.bind_some] at member
    cases inner : components.getObj? "schemas" with
    | none => simp [inner, fieldTargets] at member
    | some schemas =>
      rw [inner, Option.getD_some] at member
      exact targets_get? "components" document components found
        (targets_getObj? "schemas" components schemas inner member)

/-- Every reference of a merge stands in the qualified document of one of the fragments. -/
theorem references_ofFragments (policy : CollisionPolicy) (fragments : List Fragment)
    (name : String) (member : name ∈ (ofFragments policy fragments).specification.references) :
    ∃ fragment ∈ fragments, name ∈ targets (qualify fragment.name fragment.document) := by
  rcases List.mem_append.mp member with operation | component
  · obtain ⟨operation, listed, inside⟩ := List.mem_flatMap.mp operation
    obtain ⟨fragment, present, declared⟩ := mem_declared_of_mem policy fragments operation listed
    exact ⟨fragment, present, Operation.references_ofDocument _ _ operation declared inside⟩
  · obtain ⟨schema, listed, inside⟩ := List.mem_flatMap.mp component
    obtain ⟨⟨key, schema⟩, entry, rfl⟩ := List.mem_map.mp listed
    obtain ⟨fragment, present, qualified⟩ :=
      List.mem_flatMap.mp (mem_qualifiedSchemas policy fragments key schema entry)
    obtain ⟨⟨title, schema⟩, original, same⟩ := List.mem_map.mp qualified
    cases same
    exact ⟨fragment, present, targets_schemasOf _ (targets_field _ title schema original inside)⟩

/-- A reference that follows the renaming leads to a schema of the merge. -/
theorem mem_components_of_schemaName (policy : CollisionPolicy) (fragments : List Fragment)
    (fragment : Fragment) (present : fragment ∈ fragments) (title : String)
    (held : title ∈ fragment.schemaNames) :
    qualifiedName fragment.name title ∈
      (ofFragments policy fragments).specification.components.keys := by
  have built : (ofFragments policy fragments).specification.components =
      Dict.ofList (fragments.flatMap Fragment.schemaEntries) := components_eq policy fragments
  rw [built, Dict.mem_keys_ofList, List.map_flatMap]
  exact List.mem_flatMap.mpr ⟨fragment, present,
    (fragment.mem_schemaEntries_keys _).mpr ⟨title, held, rfl⟩⟩

/-- When fragments refer to their own schemas only, a merge of them is closed exactly when each
passed over reference that it takes in happens to lead to one of its schemas. -/
theorem references_closed_iff (policy : CollisionPolicy) (fragments : List Fragment)
    (inside : ∀ fragment ∈ fragments, ∀ name ∈ targets fragment.document,
      name ∈ fragment.schemaNames) :
    let spec := (ofFragments policy fragments).specification
    spec.IsClosed ↔ ∀ fragment ∈ fragments, ∀ name ∈ passedOver fragment.document,
      name ∈ spec.references → name ∈ spec.components.keys := by
  intro spec
  constructor
  · intro closed fragment _ name _ taken
    exact closed name taken
  · intro led name taken
    obtain ⟨fragment, present, written⟩ := references_ofFragments policy fragments name taken
    rcases mem_targets_qualify fragment.name name fragment.document written with renamed | missed
    · obtain ⟨title, original, rfl⟩ := List.mem_map.mp renamed
      exact mem_components_of_schemaName policy fragments fragment present title
        (inside fragment present title original)
    · exact led fragment present name missed taken

def referenceTo (name : String) : Json := .obj [("$ref", .str (start ++ name))]

/-- Two fragments with a schema of one name each. The first refers to its own ones from a request
body, from a list of alternatives and from a mapping. -/
theorem references_closed_example :
    let operation : Json := .obj [("requestBody", .obj [("content", .obj [("application/json",
      .obj [("schema", referenceTo "Shape")])])])]
    let shape : Json := .obj [
      ("discriminator", .obj [("mapping", .obj [("box", .str (start ++ "Box"))])]),
      ("oneOf", .arr [referenceTo "Box"])]
    let core : Fragment := ⟨"core", ⟨"core.yaml"⟩, .handWritten, .obj [
      ("components", .obj [("schemas", .obj [("Box", .obj []), ("Shape", shape)])]),
      ("paths", .obj [("/shapes", .obj [("post", operation)])])]⟩
    let extra := schemaFragment "extra" [("Box", .obj [("type", .str "string")])]
    let spec := (ofFragments .lastWriterWins [core, extra]).specification
    ([core, extra].map Fragment.name).Nodup ∧
    (∀ fragment ∈ [core, extra], ∀ name ∈ targets fragment.document,
      name ∈ fragment.schemaNames) ∧
    spec.references = ["core_Shape", "core_Box", "core_Box"] ∧ spec.IsClosed := by
  intro operation shape core extra spec
  have inside : ∀ fragment ∈ [core, extra], ∀ name ∈ targets fragment.document,
      name ∈ fragment.schemaNames := by decide
  have reached : ∀ fragment ∈ [core, extra], ∀ name ∈ passedOver fragment.document,
      name ∈ spec.references → name ∈ spec.components.keys := by decide
  exact ⟨by decide, inside, by decide,
    (references_closed_iff .lastWriterWins [core, extra] inside).mpr reached⟩

/-- A property called `discriminator` is taken for a discriminator, and the reference below it keeps
a name that no schema has. -/
theorem references_dangling :
    let shape : Json := .obj [("properties", .obj [("discriminator", referenceTo "Kind")])]
    let core := schemaFragment "core" [("Kind", .obj [("type", .str "string")]), ("Shape", shape)]
    let spec := (ofFragments .lastWriterWins [core]).specification
    ([core].map Fragment.name).Nodup ∧
    (∀ name ∈ targets core.document, name ∈ core.schemaNames) ∧
    spec.references = ["Kind"] ∧ spec.components.keys = ["core_Kind", "core_Shape"] ∧
    ¬ spec.IsClosed := by
  decide

end Merge
end ApiAssembly
