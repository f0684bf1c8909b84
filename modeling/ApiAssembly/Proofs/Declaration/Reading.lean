import ApiAssembly.Fragment.Structure
import ApiAssembly.Proofs.Declaration.Union
import ApiAssembly.Proofs.Merge.ClosedReferences
/-! The operation of a union of types, read back. Writer and reader agree on the keys of methods, on
the fields of operations and on the place of the schema in a body, before and after references
are qualified. A qualified union is the union of renamed types, so its references still lead to
schemas. -/
namespace ApiAssembly
open Reference

theorem Method.parse?_key (method : Method) : Method.parse? method.key = some method := by
  cases method <;> decide

theorem Method.key_plain (method : Method) :
    method.key ≠ "$ref" ∧ method.key ≠ "discriminator" := by
  cases method <;> decide

theorem path_plain {path : String} (slash : Text.startsWith "/" path = true) :
    path ≠ "$ref" ∧ path ≠ "discriminator" := by
  constructor
  · rintro rfl
    exact absurd slash (by decide)
  · rintro rfl
    exact absurd slash (by decide)

theorem RequestBody.ofJson?_qualify (source : String) (value : Json) :
    RequestBody.ofJson? (qualify source value) =
      (RequestBody.ofJson? value).map fun body =>
        { body with schema := body.schema.map (qualify source) } := by
  cases value with
  | obj fields =>
    have required := find?_qualifyFields source "required" fields (by decide) (by decide)
    have content := find?_qualifyFields source "content" fields (by decide) (by decide)
    rw [qualify, ofJson?, ofJson?, Json.obj?, Json.obj?, Option.map_some, Option.map_some,
      Option.map_some, required, content]
    congr 2
    · cases Entries.find? "required" fields with
      | none => rfl
      | some flag =>
        rw [Option.map_some, Option.bind_some, Option.bind_some, bool?_qualify]
    · cases Entries.find? "content" fields with
      | none => rfl
      | some content =>
        rw [Option.map_some, Option.bind_some, Option.bind_some,
          get?_qualify source "application/json" content (by decide) (by decide)]
        cases content.get? "application/json" with
        | none => rfl
        | some media => exact get?_qualify source "schema" media (by decide) (by decide)
  | arr items => rw [qualify]; rfl
  | _ => rfl

namespace TypeUnion

/-! The operation. -/

/-- What a reader finds in the operation of a union. -/
structure Describes (options : Options) (union operation : Json) : Prop where
  object : operation.isObject = true
  id : operation.getStr? "operationId" = some options.operationId
  parameters : operation.get? "parameters" = none
  body : (operation.get? "requestBody").bind RequestBody.ofJson? = some ⟨true, some union⟩
  file : operation.getStr? HandlerBinding.fileField =
    options.handler.map fun binding => binding.file.text
  function : operation.getStr? HandlerBinding.functionField =
    options.handler.map HandlerBinding.function

theorem find?_handlerFields (handler : Option HandlerBinding) (name : String) :
    Entries.find? name (handlerFields handler).reverse = handler.bind fun binding =>
      if name = HandlerBinding.functionField then some (.str binding.function)
      else if name = HandlerBinding.fileField then some (.str binding.file.text)
      else none := by
  cases handler with
  | none => rfl
  | some binding =>
    change Entries.find? name [(HandlerBinding.functionField, Json.str binding.function),
      (HandlerBinding.fileField, Json.str binding.file.text)] = _
    rw [Entries.find?_cons, Entries.find?_cons]
    rfl

def body (groups : List Group) : Json :=
  Json.ofFields [
    ("required", .bool true),
    ("content", .obj [("application/json", .obj [("schema", unionSchema groups)])])]

/-- The fields of the handler do not cover any other. -/
theorem operation_get? (options : Options) (groups : List Group) (name : String) :
    (operation options groups).get? name =
      (options.handler.bind fun binding =>
        if name = HandlerBinding.functionField then some (.str binding.function)
        else if name = HandlerBinding.fileField then some (.str binding.file.text)
        else none).or
      (Entries.find? name [
        ("responses", .obj [("201", .obj [("description", .str "Created")])]),
        ("requestBody", body groups),
        ("summary", .str ("Create one of " ++ toString groups.length ++ " synthesized variants")),
        ("operationId", .str options.operationId)]) := by
  rw [operation, Json.get?_ofFields, List.reverse_append, Entries.find?_append,
    find?_handlerFields]
  rfl

theorem body_ofJson? (groups : List Group) :
    RequestBody.ofJson? (body groups) = some ⟨true, some (unionSchema groups)⟩ := by
  have read (name : String) : (body groups).get? name = Entries.find? name [
      ("content", .obj [("application/json", .obj [("schema", unionSchema groups)])]),
      ("required", .bool true)] := Json.get?_ofFields name _
  change some (RequestBody.mk ((((body groups).get? "required").bind Json.bool?).getD false)
    ((((body groups).get? "content").bind (Json.get? "application/json")).bind
      (Json.get? "schema"))) = _
  rw [read, read]
  simp [Entries.find?_cons, Json.get?, Json.bool?]

theorem describes_operation (options : Options) (groups : List Group) :
    Describes options (unionSchema groups) (operation options groups) where
  object := rfl
  id := by
    rw [Json.getStr?, operation_get?]
    simp [HandlerBinding.fileField, HandlerBinding.functionField, Entries.find?_cons, Json.str?]
  parameters := by
    rw [operation_get?]
    simp [HandlerBinding.fileField, HandlerBinding.functionField, Entries.find?]
  body := by
    rw [operation_get?]
    simp [HandlerBinding.fileField, HandlerBinding.functionField, Entries.find?_cons,
      body_ofJson?]
  file := by
    rw [Json.getStr?, operation_get?]
    cases options.handler <;>
      simp [HandlerBinding.fileField, HandlerBinding.functionField, Entries.find?, Json.str?]
  function := by
    rw [Json.getStr?, operation_get?]
    cases options.handler <;>
      simp [HandlerBinding.functionField, Entries.find?, Json.str?]

theorem Describes.qualify {options : Options} {union operation : Json}
    (described : Describes options union operation) (source : String) :
    Describes options (qualify source union) (qualify source operation) where
  object := by
    have object := described.object
    rw [Json.isObject] at object ⊢
    rw [obj?_qualify, Option.isSome_map, object]
  id := by rw [getStr?_qualify _ _ _ (by decide) (by decide), described.id]
  parameters := by rw [get?_qualify _ _ _ (by decide) (by decide), described.parameters]; rfl
  body := by
    have read := described.body
    rw [get?_qualify _ _ _ (by decide) (by decide)]
    cases found : operation.get? "requestBody" with
    | none =>
      rw [found] at read
      cases read
    | some body =>
      rw [found, Option.bind_some] at read
      rw [Option.map_some, Option.bind_some, RequestBody.ofJson?_qualify, read]
      rfl
  file := by rw [getStr?_qualify _ _ _ (by decide) (by decide), described.file]
  function := by rw [getStr?_qualify _ _ _ (by decide) (by decide), described.function]

/-- An operation as the options ask for it, with a body that has to be there. -/
structure Follows (options : Options) (source : String) (union : Json) (operation : Operation) :
    Prop where
  path : operation.path = options.path
  method : operation.method = options.method
  id : operation.id = options.operationId
  handler : operation.handler = options.handler
  body : operation.body = some ⟨true, some union⟩
  source : operation.source = source

/-- Options whose operation can be read: a path with a slash in front, and neither a blank name of
the operation nor a blank handler file. -/
structure Options.IsReadable (options : Options) : Prop where
  slash : Text.startsWith "/" options.path = true
  named : Text.isBlankText options.operationId = false
  bound : ∀ binding, options.handler = some binding →
    Text.isBlankText binding.file.text = false

theorem Describes.handler {options : Options} {union operation : Json}
    (described : Describes options union operation) (readable : options.IsReadable) (id : String) :
    HandlerBinding.ofJson? operation id = options.handler := by
  rw [HandlerBinding.ofJson?, described.file, described.function]
  cases bound : options.handler with
  | none => rfl
  | some binding =>
    have filled := readable.bound binding bound
    simp [filled]

theorem Describes.declaredId? {options : Options} {union operation : Json}
    (described : Describes options union operation) (readable : options.IsReadable) :
    Operation.declaredId? operation = some options.operationId := by
  rw [Operation.declaredId?, described.id]
  simp [readable.named]

theorem Describes.follows {options : Options} {union operation : Json}
    (described : Describes options union operation) (readable : options.IsReadable)
    (source : String) (item : List (String × Json)) :
    Follows options source union
      (Operation.ofJson source options.path item options.method operation) where
  path := rfl
  method := rfl
  id := by rw [Operation.ofJson, Operation.idOf, described.declaredId? readable]; rfl
  handler := described.handler readable _
  body := described.body
  source := rfl

theorem Describes.warnings {options : Options} {union operation : Json}
    (described : Describes options union operation) (readable : options.IsReadable)
    (source : String) :
    Operation.warnings source options.path options.method operation = [] := by
  have handler : HandlerBinding.warnings
      (Operation.location source options.method options.path) operation
      (Operation.idOf options.method options.path operation) = [] := by
    rw [HandlerBinding.warnings, described.handler readable, described.function]
    cases options.handler with
    | none => rfl
    | some binding => rfl
  rw [Operation.warnings, described.declaredId? readable, described.parameters]
  simp only [handler]
  rfl

/-- The paths of a union are read as one operation. -/
theorem Describes.ofDocument {options : Options} {union operation document : Json}
    (described : Describes options union operation) (readable : options.IsReadable)
    (source : String)
    (paths : document.get? "paths" =
      some (.obj [(options.path, .obj [(options.method.key, operation)])])) :
    ∃ read, Operations.ofDocument source document = ⟨[read], []⟩ ∧
      Follows options source union read := by
  refine ⟨_, ?_, described.follows readable source [(options.method.key, operation)]⟩
  have entry : Operations.ofEntry source options.path [(options.method.key, operation)]
      (options.method.key, operation) = ⟨[Operation.ofJson source options.path
        [(options.method.key, operation)] options.method operation], []⟩ := by
    rw [Operations.ofEntry, Method.parse?_key]
    simp only [described.object, if_true, described.warnings readable]
  have inherited : Entries.find? "parameters" [(options.method.key, operation)] = none := by
    have other : "parameters" ≠ options.method.key := by cases options.method <;> decide
    rw [Entries.find?_cons, if_neg other]
    rfl
  rw [Operations.ofDocument, Json.getObj?, paths]
  simp only [Option.bind_some, Json.obj?, Option.getD_some, List.map_cons, List.map_nil,
    Operations.ofPathItem, entry, inherited]
  rfl

/-! The union. -/

/-- A type under the name that it has once its fragment is qualified. -/
def Group.qualified (source : String) (group : Group) : Group :=
  { group with first := { group.first with name := qualifiedName source group.first.name } }

theorem qualifyText_reference (source name : String) :
    qualifyText source (reference name) = reference (qualifiedName source name) := by
  have led : reference name = start ++ name := rfl
  rw [led, qualifyText, Text.afterStart?_append]
  rfl

theorem unionSchema_eq (groups : List Group)
    (sorted : groups.Pairwise fun left right => left.discriminator < right.discriminator) :
    unionSchema groups = .obj [
      ("discriminator", .obj [
        ("mapping", .obj (groups.map fun group =>
          (group.discriminator, .str (reference group.first.name)))),
        ("propertyName", .str discriminatorName)]),
      ("oneOf", .arr (groups.map fun group =>
        .obj [("$ref", .str (reference group.first.name))]))] := by
  have outer : compare "discriminator" "oneOf" = .lt := by decide
  have inner : compare "mapping" "propertyName" = .lt := by decide
  have inOrder : Entries.Sorted (groups.map fun group =>
      (group.discriminator, Json.str (reference group.first.name))) :=
    List.pairwise_map.mpr (sorted.imp (compare_eq_lt _ _).mpr)
  simp only [unionSchema, Json.ofFields, Entries.ofList_of_sorted _ inOrder]
  simp [Entries.ofList, Entries.insert, outer, inner]

/-- A qualified union is the union of the types under their qualified names. -/
theorem qualify_unionSchema (source : String) (groups : List Group)
    (sorted : groups.Pairwise fun left right => left.discriminator < right.discriminator) :
    qualify source (unionSchema groups) = unionSchema (groups.map (Group.qualified source)) := by
  have renamed : (groups.map (Group.qualified source)).Pairwise fun left right =>
      left.discriminator < right.discriminator := List.pairwise_map.mpr sorted
  have targets : (groups.map fun group =>
        (group.discriminator, Json.str (reference group.first.name))).map
        (fun target => (target.1, qualifyTarget source target.2)) =
      (groups.map (Group.qualified source)).map fun group =>
        (group.discriminator, Json.str (reference group.first.name)) := by
    rw [List.map_map, List.map_map]
    apply List.map_congr_left
    intro group _
    exact congrArg (fun text => (group.discriminator, Json.str text))
      (qualifyText_reference source group.first.name)
  have variants : qualifyItems source (groups.map fun group =>
        .obj [("$ref", .str (reference group.first.name))]) =
      (groups.map (Group.qualified source)).map fun group =>
        .obj [("$ref", .str (reference group.first.name))] := by
    rw [qualifyItems_eq, List.map_map, List.map_map]
    apply List.map_congr_left
    intro group _
    rw [Function.comp_apply, qualify, qualifyFields, qualifyText_reference, qualifyFields]
    rfl
  rw [unionSchema_eq groups sorted, unionSchema_eq _ renamed, ← targets, ← variants]
  simp [qualify, qualifyFields, qualifyMapping]

/-! The fragment as a whole. -/

def paths (options : Options) (groups : List Group) : Json :=
  .obj [(options.path, .obj [(options.method.key, operation options groups)])]

theorem document_eq (options : Options) (groups : List Group) (filled : groups ≠ []) :
    document options groups =
      .obj [("components", .obj [("schemas", schemas groups)]), ("paths", paths options groups)] := by
  have order : compare "paths" "components" = .gt := by decide
  rw [document, if_neg (by simpa using filled)]
  simp [Json.ofFields, Entries.ofList, Entries.insert, order, paths]

theorem fault?_document (options : Options) (groups : List Group) (filled : groups ≠ [])
    (slash : Text.startsWith "/" options.path = true) :
    Fragment.fault? (document options groups) = none := by
  have path : Fragment.pathsFault? (paths options groups) = none := by
    have item : Fragment.pathFault?
        (options.path, .obj [(options.method.key, operation options groups)]) = none := by
      have object := (describes_operation options groups).object
      simp [Fragment.pathFault?, slash, Json.obj?, Fragment.operationFault?, object]
    simp [paths, Fragment.pathsFault?, item]
  have components : Fragment.componentsFault? (.obj [("schemas", schemas groups)]) = none := by
    rw [Fragment.componentsFault?, Entries.find?_cons, if_pos rfl]
    rfl
  rw [document_eq options groups filled, Fragment.fault?]
  simp [Entries.find?_cons, path, components]

theorem withoutUnknownKeys_document (options : Options) (groups : List Group)
    (filled : groups ≠ []) :
    Fragment.withoutUnknownKeys (document options groups) = document options groups := by
  have known : Fragment.isPathItemKey options.method.key = true := by
    rw [Fragment.isPathItemKey, Method.parse?_key]
    simp
  rw [document_eq options groups filled]
  simp [Fragment.withoutUnknownKeys, Fragment.keepKnownPathKeys, paths, Fragment.keepKnownKeys, known]

theorem mem_schemaNames (options : Options) (source : FilePath)
    (declarations : List TypeDeclaration) (name : String)
    (kept : name ∈ keptNames options declarations) :
    name ∈ (fragment options source declarations).schemaNames := by
  have held : Merge.schemasOf (fragment options source declarations).document =
      Entries.ofList ((groups options declarations).map fun group =>
        (group.first.name, variantSchema group)) := by
    have read := document_schemas options (groups options declarations)
    have stated : Merge.schemasOf (fragment options source declarations).document =
        (schemas? (fragment options source declarations).document).getD [] := by
      rfl
    rw [stated, fragment, read]
    rfl
  rw [Fragment.schemaNames, held, Entries.mem_keys_ofList, List.map_map]
  exact kept

/-- A merge of one fragment that declares one operation. -/
theorem operations_ofFragment (policy : CollisionPolicy) (made : Fragment) (read : Operation)
    (declared : made.declared = ⟨[read], []⟩) :
    (Merge.ofFragments policy [made]).specification.operations = [read] ∧
      (Merge.ofFragments policy [made]).warnings = [] := by
  have alone : Merge.declared [made] = [read] := by
    rw [Merge.declared, List.flatMap_singleton, declared]
  constructor
  · rw [Specification.operations, Merge.specification, Merge.ofFragments_paths, alone]
    rfl
  · rw [Merge.ofFragments_warnings, List.flatMap_singleton, declared]

/-- The operation that is written for a set of declarations is read back as it was asked for, alone and
without warnings. After a merge its references and its mapping lead to schemas. -/
theorem fragment_read_back (options : Options) (source : FilePath)
    (declarations : List TypeDeclaration) (policy : CollisionPolicy) (filled : declarations ≠ [])
    (readable : options.IsReadable) :
    let made := fragment options source declarations
    let merge := Merge.ofFragments policy [made]
    Fragment.fault? made.document = none ∧
    Fragment.withoutUnknownKeys made.document = made.document ∧
    (∃ read union, Operations.ofDocument made.name made.document = ⟨[read], []⟩ ∧
      Follows options made.name union read) ∧
    ∃ read union references mapping,
      merge.specification.operations = [read] ∧ merge.warnings = [] ∧
      Follows options made.name union read ∧
      references? union = some references ∧ mapping? union = some mapping ∧
      references ≠ [] ∧ mapping.map Prod.snd = references ∧
      ∀ text ∈ references, ∃ name ∈ merge.specification.components.keys, text = reference name := by
  intro made merge
  have present : groups options declarations ≠ [] := by
    rw [Ne, groups_eq_nil_iff]
    exact filled
  have sorted := groups_pairwise options declarations
  have written : made.document.get? "paths" =
      some (paths options (groups options declarations)) := by
    change (document options (groups options declarations)).get? "paths" = _
    rw [document_paths, if_neg (by simpa using present)]
    rfl
  have described := describes_operation options (groups options declarations)
  refine ⟨fault?_document options _ present readable.slash,
    withoutUnknownKeys_document options _ present, ?_, ?_⟩
  · obtain ⟨read, alone, follows⟩ := described.ofDocument readable made.name written
    exact ⟨read, _, alone, follows⟩
  · -- Neither the path nor the key of the method is a name that qualifying treats apart, so the
    -- operation is found where it was, with its own fields qualified.
    have qualified : (qualify made.name made.document).get? "paths" =
        some (.obj [(options.path, .obj [(options.method.key,
          qualify made.name (operation options (groups options declarations)))])]) := by
      obtain ⟨pathRef, pathDiscriminator⟩ := path_plain readable.slash
      obtain ⟨keyRef, keyDiscriminator⟩ := options.method.key_plain
      rw [get?_qualify _ _ _ (by decide) (by decide), written, Option.map_some, paths,
        qualify_field _ _ _ pathRef pathDiscriminator, qualify_field _ _ _ keyRef keyDiscriminator]
    obtain ⟨read, alone, follows⟩ :=
      (described.qualify made.name).ofDocument readable made.name qualified
    obtain ⟨operations, warnings⟩ := operations_ofFragment policy made read alone
    have renamed : ((groups options declarations).map (Group.qualified made.name)).Pairwise
        fun left right => left.discriminator < right.discriminator := List.pairwise_map.mpr sorted
    rw [qualify_unionSchema _ _ sorted] at follows
    refine ⟨read, _, _, _, operations, warnings, follows, unionSchema_references _,
      unionSchema_mapping _ renamed, ?_, ?_, ?_⟩
    · simpa using present
    · rw [List.map_map]
      rfl
    · -- The union lists kept types only, and these are the schemas of the fragment.
      intro text listed
      rw [List.map_map] at listed
      obtain ⟨group, member, rfl⟩ := List.mem_map.mp listed
      have kept : group.first.name ∈ keptNames options declarations :=
        List.mem_map_of_mem member
      exact ⟨_, Merge.mem_components_of_schemaName policy [made] made (by simp) _
        (mem_schemaNames options source declarations _ kept), rfl⟩

/-- One type, and an operation that is bound to a handler. -/
theorem fragment_read_back_bound :
    let options : Options := { handler := some ⟨⟨"geometry.rs"⟩, "create"⟩ }
    let declarations : List TypeDeclaration := [⟨"BoxGeometry", []⟩]
    let made := fragment options ⟨"vendor/types"⟩ declarations
    declarations ≠ [] ∧ options.IsReadable ∧ Fragment.fault? made.document = none ∧
    ∃ read, (Merge.ofFragments .error [made]).specification.operations = [read] ∧
      read.id = "createGeometry" ∧ read.handler = some ⟨⟨"geometry.rs"⟩, "create"⟩ := by
  intro options declarations made
  have filled : declarations ≠ [] := List.cons_ne_nil _ _
  have readable : options.IsReadable := by
    refine ⟨by decide, by decide, ?_⟩
    intro binding bound
    cases bound
    decide
  obtain ⟨sound, _, _, read, _, _, _, operations, _, follows, _⟩ :=
    fragment_read_back options ⟨"vendor/types"⟩ declarations .error filled readable
  exact ⟨filled, readable, sound, read, operations, follows.id, follows.handler⟩

end TypeUnion
end ApiAssembly
