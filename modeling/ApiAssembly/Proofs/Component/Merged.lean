import ApiAssembly.Component.Library
import ApiAssembly.Component.Registration
import ApiAssembly.Proofs.Component.Schema
import ApiAssembly.Proofs.Merge.SchemaNames
import ApiAssembly.Proofs.Reference.Reached
/-! Components that went through a merge. A component is read back from its schema as it was written,
and reading commutes with qualifying, so what a merge changes of a component is what qualifying
changes of its initial values and choices. -/
namespace ApiAssembly
open Reference

/-! Reading what was qualified. Below a field `discriminator` only a mapping is rewritten, and neither
properties nor components have one. -/

theorem get?_qualifyMapping (source name : String) (fields : List (String × Json))
    (other : name ≠ "mapping") :
    (Json.obj (qualifyMapping source fields)).get? name = (Json.obj fields).get? name := by
  rw [Json.get?, Json.get?, qualifyMapping_eq]
  induction fields with
  | nil => rfl
  | cons field rest ih =>
    rw [List.map_cons, Entries.find?_cons, Entries.find?_cons, ih]
    by_cases mapping : field.1 = "mapping"
    · rw [if_pos mapping, mapping, if_neg other, if_neg other]
    · rw [if_neg mapping]

theorem bind_str?_qualify (source : String) (value : Option Json) :
    (value.map (qualify source)).bind Json.str? = value.bind Json.str? := by
  cases value with
  | none => rfl
  | some value => exact str?_qualify source value

theorem bind_real?_qualify (source : String) (value : Option Json) :
    (value.map (qualify source)).bind Json.real? = value.bind Json.real? := by
  cases value with
  | none => rfl
  | some value => exact real?_qualify source value

theorem bool?_eq_some_iff (value : Json) (flag : Bool) :
    value.bool? = some flag ↔ value = .bool flag := by
  cases value <;> simp [Json.bool?]

/-- A reader of objects whose outcome qualifying changes in one way reads qualified fields. -/
theorem map_read_qualifyFields {α : Type} (source : String) (read? : Json → Option α)
    (change : α → α) (object : ∀ value, value.isObject = false → read? value = none)
    (inside : ∀ value, read? (qualify source value) = (read? value).map change)
    (mapping : ∀ fields, read? (.obj (qualifyMapping source fields)) = read? (.obj fields))
    (fields : List (String × Json)) :
    (qualifyFields source fields).map (fun field => (field.1, read? field.2)) =
      fields.map fun field => (field.1,
        (read? field.2).map fun value => if field.1 = "discriminator" then value else change value) := by
  induction fields with
  | nil => rw [qualifyFields]; rfl
  | cons field rest ih =>
    unfold qualifyFields
    split
    · rename_i empty
      cases empty
    · rename_i text others same
      cases same
      rw [List.map_cons, List.map_cons, ih, object _ rfl, object _ rfl]
      rfl
    · -- Of an object below `discriminator` only the mapping changes, and that is not read.
      rename_i inner others same
      cases same
      rw [List.map_cons, List.map_cons, ih, mapping]
      simp
    · rename_i name value others _ apart same
      cases same
      rw [List.map_cons, List.map_cons, ih, inside]
      by_cases discriminator : name = "discriminator"
      · have plain : value.isObject = false := by
          cases value with
          | obj inner => exact (apart inner discriminator rfl).elim
          | _ => rfl
        rw [object value plain]
        rfl
      · simp [discriminator]

namespace Property

def qualified (source : String) (property : Property) : Property :=
  { property with
    initial := property.initial.map (qualify source)
    choices := property.choices.map (List.map (qualify source)) }

theorem ofSchema?_plain (value : Json) (plain : value.isObject = false) :
    ofSchema? value = none := by
  cases value with
  | obj fields => cases plain
  | _ => rfl

theorem ofSchema?_qualify (source : String) (schema : Json) :
    ofSchema? (qualify source schema) = (ofSchema? schema).map (qualified source) := by
  have choices : ((schema.get? "enum").map (qualify source)).bind Json.arr? =
      ((schema.get? "enum").bind Json.arr?).map (List.map (qualify source)) := by
    cases schema.get? "enum" with
    | none => rfl
    | some value =>
      rw [Option.map_some, Option.bind_some, Option.bind_some, arr?_qualify]
      cases value.arr? with
      | none => rfl
      | some items => rw [Option.map_some, Option.map_some, qualifyItems_eq]
  rw [ofSchema?_eq, ofSchema?_eq, Option.map_map]
  simp only [get?_qualify source _ schema (show typeMark ≠ "$ref" by decide)
      (show typeMark ≠ "discriminator" by decide),
    get?_qualify source "type" schema (by decide) (by decide),
    get?_qualify source "default" schema (by decide) (by decide),
    get?_qualify source "minimum" schema (by decide) (by decide),
    get?_qualify source "maximum" schema (by decide) (by decide),
    get?_qualify source "enum" schema (by decide) (by decide), ← Option.map_or,
    bind_str?_qualify, bind_real?_qualify, choices]
  rfl

theorem ofSchema?_qualifyMapping (source : String) (fields : List (String × Json)) :
    ofSchema? (.obj (qualifyMapping source fields)) = ofSchema? (.obj fields) := by
  rw [ofSchema?_eq, ofSchema?_eq]
  simp only [get?_qualifyMapping source _ fields (show typeMark ≠ "mapping" by decide),
    get?_qualifyMapping source "type" fields (by decide),
    get?_qualifyMapping source "default" fields (by decide),
    get?_qualifyMapping source "minimum" fields (by decide),
    get?_qualifyMapping source "maximum" fields (by decide),
    get?_qualifyMapping source "enum" fields (by decide)]

end Property

namespace Component

/-- Under the name `discriminator` a property stays as it is. -/
def qualified (source : String) (component : Component) : Component :=
  { component with
    properties := component.properties.mapValues fun name property =>
      if name = "discriminator" then property else property.qualified source }

theorem propertiesOf_eq (fields : List (String × Json)) :
    propertiesOf fields = Dict.ofList
      ((fields.map fun field => (field.1, Property.ofSchema? field.2)).filterMap fun entry =>
        entry.2.map fun property => (entry.1, property)) := by
  rw [List.filterMap_map]
  rfl

theorem propertiesOf_qualifyFields (source : String) (fields : List (String × Json)) :
    propertiesOf (qualifyFields source fields) =
      (propertiesOf fields).mapValues fun name property =>
        if name = "discriminator" then property else property.qualified source := by
  rw [propertiesOf_eq, propertiesOf, ← Dict.ofList_mapValues,
    map_read_qualifyFields source Property.ofSchema? (Property.qualified source)
      Property.ofSchema?_plain (Property.ofSchema?_qualify source)
      (Property.ofSchema?_qualifyMapping source),
    List.filterMap_map, List.map_filterMap]
  congr 1
  apply List.filterMap_congr
  intro field _
  rw [Function.comp_apply, Option.map_map, Option.map_map]
  rfl

theorem ofSchema?_plain (value : Json) (plain : value.isObject = false) :
    ofSchema? value = none := by
  cases value with
  | obj fields => cases plain
  | _ => rfl

theorem ofSchema?_qualify (source : String) (schema : Json) :
    ofSchema? (qualify source schema) = (ofSchema? schema).map (qualified source) := by
  have marked : (schema.get? mark).map (qualify source) = some (.bool true) ↔
      schema.get? mark = some (.bool true) := by
    cases schema.get? mark with
    | none => simp
    | some value =>
      rw [Option.map_some, Option.some.injEq, Option.some.injEq, ← bool?_eq_some_iff,
        bool?_qualify, bool?_eq_some_iff]
  have properties : propertiesOf ((((schema.get? "properties").map (qualify source)).bind
        Json.obj?).getD []) =
      (propertiesOf (((schema.get? "properties").bind Json.obj?).getD [])).mapValues
        fun name property => if name = "discriminator" then property else property.qualified source := by
    cases schema.get? "properties" with
    | none => rfl
    | some value =>
      rw [Option.map_some, Option.bind_some, Option.bind_some, obj?_qualify]
      cases value.obj? with
      | none => rfl
      | some fields => exact propertiesOf_qualifyFields source fields
  rw [ofSchema?_eq, ofSchema?_eq]
  simp only [get?_qualify source _ schema (show mark ≠ "$ref" by decide)
      (show mark ≠ "discriminator" by decide),
    get?_qualify source _ schema (show categoryMark ≠ "$ref" by decide)
      (show categoryMark ≠ "discriminator" by decide),
    get?_qualify source "title" schema (by decide) (by decide),
    get?_qualify source "properties" schema (by decide) (by decide),
    marked, bind_str?_qualify, properties]
  split
  · rw [Option.map_map]
    rfl
  · rfl

theorem ofSchema?_qualifyMapping (source : String) (fields : List (String × Json)) :
    ofSchema? (.obj (qualifyMapping source fields)) = ofSchema? (.obj fields) := by
  rw [ofSchema?_eq, ofSchema?_eq]
  simp only [get?_qualifyMapping source _ fields (show mark ≠ "mapping" by decide),
    get?_qualifyMapping source _ fields (show categoryMark ≠ "mapping" by decide),
    get?_qualifyMapping source "title" fields (by decide),
    get?_qualifyMapping source "properties" fields (by decide)]

/-! The merge of a component library. -/

/-- What a merge makes of a component of a fragment. -/
def merged (source : String) (component : Component) : Component :=
  if component.name = "discriminator" then component else component.qualified source

theorem merged_name (source : String) (component : Component) :
    (component.merged source).name = component.name := by
  unfold merged
  split
  · rfl
  · rfl

/-- The schemas of a library, as they are written. -/
def written (components : List Component) : List (String × Json) :=
  components.map fun component => (component.name, component.toSchema)

theorem schemasOf_fragment (name : String) (path : FilePath) (components : List Component) :
    Merge.schemasOf (fragment name path components).document = Entries.ofList (written components) := by
  simp [Merge.schemasOf, fragment, Json.get?, Json.getObj?, Json.obj?, Entries.find?_cons,
    Json.ofFields, written]

/-- The values of a dictionary are those of the pairs that it was built from, when no key occurs
twice among them. -/
theorem values_ofList_perm {α : Type} (pairs : List (String × α))
    (once : (pairs.map Prod.fst).Nodup) : (Dict.ofList pairs).values.Perm (pairs.map Prod.snd) :=
  ((Dict.entries_ofList_perm_iff pairs).mpr once).map Prod.snd

theorem values_merged (policy : CollisionPolicy) (made : Fragment)
    (once : made.schemaNames.Nodup) :
    (Merge.ofFragments policy [made]).specification.components.values.Perm
      ((qualifyFields made.name (Merge.schemasOf made.document)).map Prod.snd) := by
  have built : (Merge.ofFragments policy [made]).specification.components =
      Dict.ofList made.schemaEntries := by
    have whole := Merge.components_eq policy [made]
    rwa [List.flatMap_singleton] at whole
  have keys : (made.schemaEntries.map Prod.fst).Nodup := by
    rw [Fragment.schemaEntries_keys]
    exact made.schemas.keys_nodup.map (qualifiedName_injective made.name)
  have names : ((qualifyFields made.name (Merge.schemasOf made.document)).map Prod.fst).Nodup := by
    rw [qualifyFields_names]
    exact once
  rw [built]
  refine (values_ofList_perm made.schemaEntries keys).trans ?_
  rw [Fragment.schemaEntries, List.map_map]
  exact values_ofList_perm _ names

theorem readings_merged (policy : CollisionPolicy) (name : String) (path : FilePath)
    (components : List Component) (distinct : (components.map Component.name).Nodup) :
    ((Merge.ofFragments policy [fragment name path components]).specification.components.values.map
      ofSchema?).Perm (components.map fun component => some (component.merged name)) := by
  have once : ((written components).map Prod.fst).Nodup := by
    rw [written, List.map_map]
    exact distinct
  have ordered := Entries.ofList_perm (written components) once
  have names : (fragment name path components).schemaNames.Nodup := by
    rw [Fragment.schemaNames, schemasOf_fragment]
    exact (ordered.map Prod.fst).nodup_iff.mpr once
  have read := congrArg (List.map Prod.snd) (map_read_qualifyFields name ofSchema? (qualified name)
    ofSchema?_plain (ofSchema?_qualify name) (ofSchema?_qualifyMapping name)
    (Entries.ofList (written components)))
  rw [List.map_map, List.map_map] at read
  have values := (values_merged policy (fragment name path components) names).map ofSchema?
  rw [schemasOf_fragment, List.map_map] at values
  refine values.trans ?_
  refine (List.Perm.of_eq read).trans ((ordered.map _).trans (List.Perm.of_eq ?_))
  rw [written, List.map_map]
  apply List.map_congr_left
  intro component _
  rw [Function.comp_apply, Function.comp_apply, ofSchema?_toSchema, Option.map_some, merged]

end Component

/-! What a merge leaves as it is. -/

theorem Dict.mapValues_eq_iff {α : Type} (change : String → α → α) (dict : Dict String α) :
    dict.mapValues change = dict ↔ ∀ entry ∈ dict.entries, change entry.1 entry.2 = entry.2 := by
  have entries : dict.mapValues change = dict ↔
      dict.entries.map (fun entry => (entry.1, change entry.1 entry.2)) = dict.entries := by
    constructor
    · exact congrArg Dict.entries
    · intro same
      exact Dict.ext same
  rw [entries, map_eq_self_iff]
  refine forall₂_congr fun entry _ => ?_
  simp [Prod.ext_iff]

/-- The initial value and the choices of a property. -/
def Property.literals (property : Property) : List Json :=
  property.initial.toList ++ property.choices.getD []

theorem Property.qualified_eq_iff (source : String) (property : Property) :
    property.qualified source = property ↔ ∀ value ∈ property.literals, reached value = [] := by
  obtain ⟨type, initial, least, greatest, choices⟩ := property
  have value : initial.map (qualify source) = initial ↔
      ∀ value ∈ initial.toList, reached value = [] := by
    cases initial with
    | none => simp
    | some value => simp [qualify_eq_iff]
  have list : choices.map (List.map (qualify source)) = choices ↔
      ∀ value ∈ choices.getD [], reached value = [] := by
    cases choices with
    | none => simp
    | some items => simp [map_eq_self_iff, qualify_eq_iff]
  simp only [qualified, literals, mk.injEq, true_and, value, list, List.mem_append, or_imp,
    forall_and]

namespace Component

/-- The values of a component that qualifying looks into: initial values and choices, apart from those
that stand below the name `discriminator`. -/
def literals (component : Component) : List Json :=
  if component.name = "discriminator" then []
  else component.properties.entries.flatMap fun entry =>
    if entry.1 = "discriminator" then [] else entry.2.literals

theorem merged_eq_iff (source : String) (component : Component) :
    component.merged source = component ↔ ∀ value ∈ component.literals, reached value = [] := by
  unfold merged literals
  split
  · simp
  · have properties : component.qualified source = component ↔
        (component.properties.mapValues fun name property =>
          if name = "discriminator" then property else property.qualified source) =
        component.properties := by
      obtain ⟨name, category, properties⟩ := component
      simp [qualified]
    rw [properties, Dict.mapValues_eq_iff]
    simp only [List.mem_flatMap, forall_exists_index, and_imp]
    constructor
    · intro kept value entry member inside
      have same := kept entry member
      split at inside
      · cases inside
      · rename_i other
        rw [if_neg other] at same
        exact (entry.2.qualified_eq_iff source).mp same value inside
    · intro plain entry member
      split
      · rfl
      · rename_i other
        refine (entry.2.qualified_eq_iff source).mpr fun value inside => ?_
        exact plain value entry member (by rwa [if_neg other])

/-- A merge gives the components of a library back exactly when no initial value and no choice that
qualifying looks into has the form of a reference. -/
theorem merged_unchanged_iff (policy : CollisionPolicy) (name : String) (path : FilePath)
    (components : List Component) (distinct : (components.map Component.name).Nodup) :
    ((Merge.ofFragments policy [fragment name path components]).specification.components.values.map
        ofSchema?).Perm (components.map some) ↔
      ∀ component ∈ components, ∀ value ∈ component.literals, reached value = [] := by
  have readings := readings_merged policy name path components distinct
  constructor
  · intro kept component member
    rw [← merged_eq_iff name component]
    -- The name of a component is not rewritten, so it tells which one a reading comes from.
    have present : some (component.merged name) ∈ components.map some :=
      (readings.symm.trans kept).subset (List.mem_map.mpr ⟨component, member, rfl⟩)
    obtain ⟨other, listed, same⟩ := List.mem_map.mp present
    have equal : other = component.merged name := Option.some.inj same
    have names : other.name = component.name := by rw [equal, merged_name]
    have itself : other = component := List.inj_on_of_nodup_map distinct listed member names
    rw [← equal, itself]
  · intro plain
    refine readings.trans (List.Perm.of_eq ?_)
    apply List.map_congr_left
    intro component member
    rw [(merged_eq_iff name component).mpr (plain component member)]

/-- A lamp with bounds and choices, and text that is no reference. -/
theorem merged_unchanged_lamp :
    let lamp : Component := ⟨"lamp", "light", Dict.ofList [
      ("color", ⟨"color", some (.str "#ffffff"), none, none, none⟩),
      ("level", ⟨"int", some (.num (.int 1)), some (Decimal.ofInt 0), some (Decimal.ofInt 2),
        some [.num (.int 0), .num (.int 1), .num (.int 2)]⟩)]⟩
    ([lamp].map Component.name).Nodup ∧
    ((Merge.ofFragments .error [fragment "components" ⟨"lib"⟩ [lamp]]).specification.components.values.map
      ofSchema?).Perm [some lamp] := by
  intro lamp
  have distinct : ([lamp].map Component.name).Nodup := by decide
  exact ⟨distinct, (merged_unchanged_iff .error "components" ⟨"lib"⟩ [lamp] distinct).mpr
    (by decide +kernel)⟩

/-- An initial value that looks like a reference comes back with another text in it. -/
theorem merged_rewritten :
    let text := "registerComponent('a', \x7bschema: \x7bb: \x7bdefault: " ++
      "\x7b'$ref': '#/components/schemas/C'\x7d\x7d\x7d\x7d)"
    let holding (target : String) : Component := ⟨"a", "misc",
      Dict.ofList [("b", ⟨"object", some (.obj [("$ref", .str target)]), none, none, none⟩)]⟩
    let written := holding "#/components/schemas/C"
    let merge := Merge.ofFragments .lastWriterWins [fragment "components" ⟨"lib"⟩ [written]]
    (Extraction.ofText "lib.js" .builtin text).components = [written] ∧
    ([written].map Component.name).Nodup ∧
    merge.specification.components.values.map ofSchema? =
      [some (holding "#/components/schemas/components_C")] ∧
    ¬ (merge.specification.components.values.map ofSchema?).Perm ([written].map some) := by
  decide +kernel

end Component
end ApiAssembly
