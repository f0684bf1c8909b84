import ApiAssembly.Proofs.Declaration.Conflicts
/-! The union of types, read back from its fragment. Schemas, references and mapping speak of the
same types, one for each discriminator, and a name that is not among them is in the conflict of
its discriminator. -/
namespace ApiAssembly

namespace TypeUnion

/-! Reading a fragment. -/

/-- What a fragment says of its types. -/
structure Parts where
  schemas : List (String × Json)
  references : List String
  mapping : List (String × String)

def schemas? (document : Json) : Option (List (String × Json)) := do
  let components ← document.get? "components"
  let schemas ← components.get? "schemas"
  schemas.obj?

/-- The schema of the body of the one operation. -/
def union? (options : Options) (paths : Json) : Option Json := do
  let item ← paths.get? options.path
  let operation ← item.get? options.method.key
  let body ← operation.get? "requestBody"
  let content ← body.get? "content"
  let media ← content.get? "application/json"
  media.get? "schema"

def references? (union : Json) : Option (List String) := do
  let variants ← union.get? "oneOf"
  let items ← variants.arr?
  items.mapM (Json.getStr? "$ref")

def mapping? (union : Json) : Option (List (String × String)) := do
  let mapping ← (union.get? "discriminator").bind (Json.get? "mapping")
  let entries ← mapping.obj?
  entries.mapM fun entry => entry.2.str?.map fun target => (entry.1, target)

/-- A fragment without paths has no union, and so neither references nor a mapping. -/
def Parts.ofDocument? (options : Options) (document : Json) : Option Parts := do
  let schemas ← schemas? document
  match document.get? "paths" with
  | none => some ⟨schemas, [], []⟩
  | some paths =>
    let union ← union? options paths
    return ⟨schemas, ← references? union, ← mapping? union⟩

def properties? (schema : Json) : Option (List (String × Json)) := do
  let properties ← schema.get? "properties"
  properties.obj?

/-- A schema that allows one discriminator, which is also the initial value. -/
def Fixes (schema : Json) (discriminator : String) : Prop :=
  ∃ properties fixed, properties? schema = some properties ∧
    Entries.find? discriminatorName properties = some fixed ∧
    fixed.get? "enum" = some (.arr [.str discriminator]) ∧
    fixed.get? "default" = some (.str discriminator)

/-! What is written is read. -/

theorem unionSchema_references (groups : List Group) :
    references? (unionSchema groups) =
      some (groups.map fun group => reference group.first.name) := by
  have variants : (unionSchema groups).get? "oneOf" = some (.arr (groups.map fun group =>
      .obj [("$ref", .str (reference group.first.name))])) := by
    rw [unionSchema, Json.get?_ofFields]
    simp [Entries.find?_cons]
  rw [references?, variants]
  apply mapM_written
  intro group _
  rw [Json.getStr?, Json.get?, Entries.find?_cons, if_pos rfl]
  rfl

theorem unionSchema_mapping (groups : List Group)
    (sorted : groups.Pairwise fun left right => left.discriminator < right.discriminator) :
    mapping? (unionSchema groups) =
      some (groups.map fun group => (group.discriminator, reference group.first.name)) := by
  have inOrder : Entries.Sorted (groups.map fun group =>
      (group.discriminator, Json.str (reference group.first.name))) :=
    List.pairwise_map.mpr (sorted.imp (compare_eq_lt _ _).mpr)
  have written : Json.ofFields (groups.map fun group =>
      (group.discriminator, .str (reference group.first.name))) =
      .obj (groups.map fun group => (group.discriminator, .str (reference group.first.name))) :=
    congrArg Json.obj (Entries.ofList_of_sorted _ inOrder)
  have mapping : ((unionSchema groups).get? "discriminator").bind (Json.get? "mapping") =
      some (.obj (groups.map fun group =>
        (group.discriminator, .str (reference group.first.name)))) := by
    rw [← written, unionSchema, Json.get?_ofFields]
    simp [Entries.find?_cons, Json.get?_ofFields]
  rw [mapping?, mapping]
  apply mapM_written fun group : Group =>
    (group.discriminator, Json.str (reference group.first.name))
  intro group _
  rfl

theorem operation_union (options : Options) (groups : List Group) :
    union? options (.obj [(options.path, .obj [(options.method.key, operation options groups)])]) =
      some (unionSchema groups) := by
  have body : (operation options groups).get? "requestBody" = some (Json.ofFields [
      ("required", .bool true),
      ("content", .obj [("application/json", .obj [("schema", unionSchema groups)])])]) := by
    rw [operation, Json.get?_ofFields]
    cases handler : options.handler <;>
      simp [handlerFields, Entries.find?_cons, HandlerBinding.fileField,
        HandlerBinding.functionField]
  have one (name : String) (value : Json) : (Json.obj [(name, value)]).get? name = some value := by
    rw [Json.get?, Entries.find?_cons, if_pos rfl]
  simp [union?, one, body, Json.get?_ofFields, Entries.find?_cons]

/-- Schemas are looked up by name, so their order in the document is not that of the groups. -/
theorem document_schemas (options : Options) (groups : List Group) :
    schemas? (document options groups) =
      some (Entries.ofList (groups.map fun group => (group.first.name, variantSchema group))) := by
  have components : (document options groups).get? "components" =
      some (.obj [("schemas", schemas groups)]) := by
    rw [document]
    split
    · rw [Json.get?, Entries.find?_cons, if_pos rfl]
    · rw [Json.get?_ofFields]
      simp [Entries.find?_cons]
  rw [schemas?, components]
  simp [Json.get?, Entries.find?_cons, schemas, Json.ofFields, Json.obj?]

theorem document_paths (options : Options) (groups : List Group) :
    (document options groups).get? "paths" =
      if groups.isEmpty then none
      else some (.obj [(options.path, .obj [(options.method.key, operation options groups)])]) := by
  rw [document]
  split
  · simp [Json.get?, Entries.find?]
  · rw [Json.get?_ofFields]
    simp [Entries.find?_cons]

theorem document_parts (options : Options) (groups : List Group)
    (sorted : groups.Pairwise fun left right => left.discriminator < right.discriminator) :
    Parts.ofDocument? options (document options groups) = some {
      schemas := Entries.ofList (groups.map fun group => (group.first.name, variantSchema group))
      references := groups.map fun group => reference group.first.name
      mapping := groups.map fun group => (group.discriminator, reference group.first.name) } := by
  rw [Parts.ofDocument?, document_schemas, document_paths]
  cases groups with
  | nil =>
    -- Without paths there is no union, and the parts are empty as well.
    rfl
  | cons group rest =>
    simp only [List.isEmpty_cons, Bool.false_eq_true, if_false]
    simp [operation_union, unionSchema_references, unionSchema_mapping _ sorted]

def fixedSchema (discriminator : String) : Json :=
  Json.ofFields [("default", .str discriminator), ("enum", .arr [.str discriminator]),
    ("type", .str "string")]

/-- The discriminator, and a property for each parameter of another name. -/
def properties (group : Group) : List (String × Json) :=
  (discriminatorName, fixedSchema group.discriminator) ::
    (propertyParameters group.first).map fun parameter => (parameter.name, parameterSchema parameter)

theorem variantSchema_properties (group : Group) :
    properties? (variantSchema group) = some (Entries.ofList (properties group)) := by
  rw [properties?, variantSchema, Json.get?_ofFields]
  simp [Entries.find?_cons, TypeSchema.foreignMark, Json.ofFields, Json.obj?, properties,
    fixedSchema]

/-- No parameter takes the place of the discriminator. -/
theorem find?_discriminator (group : Group) :
    Entries.find? discriminatorName (Entries.ofList (properties group)) =
      some (fixedSchema group.discriminator) := by
  have free : Entries.find? discriminatorName ((propertyParameters group.first).map
      fun parameter => (parameter.name, parameterSchema parameter)).reverse = none := by
    rw [← Option.not_isSome_iff_eq_none, Entries.find?_isSome_iff]
    intro taken
    obtain ⟨entry, present, same⟩ := List.mem_map.mp taken
    obtain ⟨parameter, kept, rfl⟩ := List.mem_map.mp (List.mem_reverse.mp present)
    have other := (List.mem_filter.mp kept).2
    exact absurd same (by simpa using other)
  rw [Entries.find?_ofList, properties, List.reverse_cons, Entries.find?_append, free,
    Entries.find?_cons, if_pos rfl]
  rfl

theorem fixes_iff (group : Group) (discriminator : String) :
    Fixes (variantSchema group) discriminator ↔ discriminator = group.discriminator := by
  have only : (fixedSchema group.discriminator).get? "enum" =
      some (.arr [.str group.discriminator]) := by
    rw [fixedSchema, Json.get?_ofFields]
    simp [Entries.find?_cons]
  have initial : (fixedSchema group.discriminator).get? "default" =
      some (.str group.discriminator) := by
    rw [fixedSchema, Json.get?_ofFields]
    simp [Entries.find?_cons]
  constructor
  · rintro ⟨held, fixed, read, found, _, default⟩
    rw [variantSchema_properties] at read
    cases read
    rw [find?_discriminator] at found
    cases found
    rw [initial] at default
    cases default
    rfl
  · rintro rfl
    exact ⟨_, _, variantSchema_properties group, find?_discriminator group, only, initial⟩

theorem mem_properties_iff (group : Group) (name : String) :
    name ∈ (Entries.ofList (properties group)).map Prod.fst ↔
      name = discriminatorName ∨ name ∈ group.first.parameters.map TypeParameter.name := by
  rw [Entries.mem_keys_ofList, properties, List.map_cons, List.mem_cons, List.map_map]
  constructor
  · rintro (same | listed)
    · exact .inl same
    · obtain ⟨parameter, kept, rfl⟩ := List.mem_map.mp listed
      exact .inr (List.mem_map_of_mem (List.mem_filter.mp kept).1)
  · rintro (same | listed)
    · exact .inl same
    · obtain ⟨parameter, present, rfl⟩ := List.mem_map.mp listed
      by_cases taken : parameter.name = discriminatorName
      · exact .inl taken
      · refine .inr (List.mem_map.mpr ⟨parameter, List.mem_filter.mpr ⟨present, ?_⟩, rfl⟩)
        simpa using taken

/-! The union as a whole. -/

/-- Schemas, references and mapping stand for the same types, each once. A type is reached by the
one discriminator that its own schema allows, and takes the parameters of its first declaration. -/
structure Consistent (options : Options) (declarations : List TypeDeclaration) (parts : Parts)
    (kept : List String) : Prop where
  once : kept.Nodup
  schemas : (parts.schemas.map Prod.fst).Perm kept
  references : parts.references.Perm (kept.map reference)
  targets : (parts.mapping.map Prod.snd).Perm (kept.map reference)
  mapped : ∀ discriminator type,
    Entries.find? discriminator parts.mapping = some (reference type) ↔
      discriminator = Discriminator.ofTypeName options.endings type ∧
      ∃ schema, Entries.find? type parts.schemas = some schema ∧ Fixes schema discriminator
  parameters : ∀ type schema, Entries.find? type parts.schemas = some schema →
    ∃ first fields, declarations.find? (fun declaration => declaration.name = type) = some first ∧
      properties? schema = some fields ∧
      ∀ name, name ∈ fields.map Prod.fst ↔
        name = discriminatorName ∨ name ∈ first.parameters.map TypeParameter.name

theorem find?_schema_iff (options : Options) (declarations : List TypeDeclaration) (type : String)
    (schema : Json) :
    Entries.find? type (Entries.ofList ((groups options declarations).map fun group =>
        (group.first.name, variantSchema group))) = some schema ↔
      ∃ group ∈ groups options declarations,
        group.first.name = type ∧ variantSchema group = schema := by
  -- No type is written over another.
  have once : (((groups options declarations).map fun group =>
      (group.first.name, variantSchema group)).map Prod.fst).Nodup := by
    rw [List.map_map]
    exact keptNames_nodup options declarations
  rw [Entries.find?_ofList, Entries.find?_reverse _ _ once]
  constructor
  · intro found
    obtain ⟨group, member, same⟩ := List.mem_map.mp (Entries.mem_of_find? _ _ _ found)
    cases same
    exact ⟨group, member, rfl, rfl⟩
  · rintro ⟨group, member, rfl, rfl⟩
    exact Entries.find?_of_mem _ _ _ once (List.mem_map.mpr ⟨group, member, rfl⟩)

theorem find?_mapping_iff (options : Options) (declarations : List TypeDeclaration)
    (discriminator type : String) :
    Entries.find? discriminator ((groups options declarations).map fun group =>
        (group.discriminator, reference group.first.name)) = some (reference type) ↔
      ∃ group ∈ groups options declarations,
        group.first.name = type ∧ group.discriminator = discriminator := by
  have once : (((groups options declarations).map fun group =>
      (group.discriminator, reference group.first.name)).map Prod.fst).Nodup := by
    rw [List.map_map]
    exact List.pairwise_map.mpr
      ((groups_pairwise options declarations).imp fun before => Std.ne_of_lt before)
  constructor
  · intro found
    obtain ⟨group, member, same⟩ := List.mem_map.mp (Entries.mem_of_find? _ _ _ found)
    obtain ⟨discriminated, referenced⟩ := Prod.mk.injEq .. ▸ same
    exact ⟨group, member, (String.append_right_inj _).mp referenced, discriminated⟩
  · rintro ⟨group, member, rfl, rfl⟩
    exact Entries.find?_of_mem _ _ _ once (List.mem_map.mpr ⟨group, member, rfl⟩)

theorem groups_consistent (options : Options) (declarations : List TypeDeclaration) :
    Consistent options declarations {
      schemas := Entries.ofList ((groups options declarations).map fun group =>
        (group.first.name, variantSchema group))
      references := (groups options declarations).map fun group => reference group.first.name
      mapping := (groups options declarations).map fun group =>
        (group.discriminator, reference group.first.name) }
      (keptNames options declarations) where
  once := keptNames_nodup options declarations
  schemas := by
    have perm := (Entries.ofList_perm ((groups options declarations).map fun group =>
      (group.first.name, variantSchema group)) (by
        rw [List.map_map]
        exact keptNames_nodup options declarations)).map Prod.fst
    rw [List.map_map] at perm
    exact perm
  references := by
    rw [keptNames, List.map_map]
    exact .refl _
  targets := by
    rw [keptNames, List.map_map, List.map_map]
    exact .refl _
  mapped := by
    intro discriminator type
    rw [find?_mapping_iff]
    constructor
    · rintro ⟨group, member, rfl, rfl⟩
      refine ⟨(first_mem_types options declarations group member).2.symm, variantSchema group, ?_,
        (fixes_iff group _).mpr rfl⟩
      exact (find?_schema_iff options declarations _ _).mpr ⟨group, member, rfl, rfl⟩
    · rintro ⟨_, schema, found, fixes⟩
      obtain ⟨group, member, named, rfl⟩ :=
        (find?_schema_iff options declarations _ _).mp found
      exact ⟨group, member, named, ((fixes_iff group _).mp fixes).symm⟩
  parameters := by
    intro type schema found
    obtain ⟨group, member, rfl, rfl⟩ := (find?_schema_iff options declarations _ _).mp found
    refine ⟨group.first, _, ?_, variantSchema_properties group, mem_properties_iff group⟩
    exact (mem_types_iff declarations group.first).mp
      (first_mem_types options declarations group member).1

/-- Whatever the declarations, the fragment can be read, its parts agree with each other, and every
declared name is accounted for. Only without declarations there are no paths. -/
theorem fragment_consistent (options : Options) (source : FilePath)
    (declarations : List TypeDeclaration) :
    ∃ parts kept,
      Parts.ofDocument? options (fragment options source declarations).document = some parts ∧
      Consistent options declarations parts kept ∧
      Accounts options declarations kept (errors options declarations) ∧
      ((fragment options source declarations).document.get? "paths" = none ↔
        declarations = []) := by
  refine ⟨_, keptNames options declarations,
    document_parts options _ (groups_pairwise options declarations),
    groups_consistent options declarations, errors_account options declarations, ?_⟩
  have silent : (groups options declarations).isEmpty = true ↔ declarations = [] := by
    rw [List.isEmpty_iff]
    exact groups_eq_nil_iff options declarations
  rw [fragment, document_paths, ← silent]
  split
  · rename_i empty
    exact ⟨fun _ => empty, fun _ => rfl⟩
  · rename_i filled
    constructor
    · intro absent
      cases absent
    · intro empty
      exact absurd empty filled

end TypeUnion
end ApiAssembly
