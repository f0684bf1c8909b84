import ApiAssembly.Component.Basic
import ApiAssembly.Proofs.Dict.Lookup
import Mathlib.Tactic.SplitIfs
/-! Schemas of properties and components. What a schema holds under a name is told by the fields that
were written, the mark of the property type and the fields of the JSON type apart, and so a property
or a component is read back as it was written. -/
namespace ApiAssembly

namespace Property

theorem find?_optionalField (name field : String) (value : Option Json) :
    Entries.find? name (optionalField field value).reverse =
      if name = field then value else none := by
  cases value with
  | none => simp [optionalField, Entries.find?]
  | some value =>
    change Entries.find? name [(field, value)] = _
    rw [Entries.find?_cons]
    rfl

theorem typeFields_names (type : String) :
    (typeFields type).map Prod.fst ⊆ ["format", "properties", "type"] := by
  unfold typeFields axesSchema
  split_ifs <;> simp

theorem find?_typeFields (type name : String) (other : name ∉ ["format", "properties", "type"]) :
    Entries.find? name (typeFields type).reverse = none := by
  rw [← Option.not_isSome_iff_eq_none, Entries.find?_isSome_iff, List.map_reverse,
    List.mem_reverse]
  intro present
  exact other (typeFields_names type present)

/-- The fields of a schema that speak of anything but the JSON type. -/
theorem toSchema_get? (property : Property) (name : String)
    (other : name ∉ ["format", "properties", "type"]) :
    property.toSchema.get? name =
      (if name = "enum" then property.choices.map .arr else none).or
      ((if name = "maximum" then property.greatest.map real else none).or
      ((if name = "minimum" then property.least.map real else none).or
      ((if name = "default" then property.initial else none).or
      (if name = typeMark then some (.str property.type) else none)))) := by
  have marked := find?_optionalField name typeMark (some (.str property.type))
  rw [toSchema, Json.get?_ofFields]
  simp only [List.reverse_append, Entries.find?_append, find?_optionalField,
    find?_typeFields property.type name other, Option.or_none]
  exact congrArg _ (congrArg _ (congrArg _ (congrArg _ marked)))

/-- The fields of a schema that speak of the JSON type. -/
theorem toSchema_get?_typeField (property : Property) (name : String)
    (among : name ∈ ["format", "properties", "type"]) :
    property.toSchema.get? name = Entries.find? name (typeFields property.type).reverse := by
  have marked := find?_optionalField name typeMark (some (.str property.type))
  have apart : ∀ field ∈ ["enum", "maximum", "minimum", "default", typeMark], name ≠ field := by
    simp only [List.mem_cons, List.not_mem_nil, or_false] at among
    rcases among with rfl | rfl | rfl <;> decide
  simp only [List.forall_mem_cons] at apart
  obtain ⟨choices, greatest, least, initial, mark, _⟩ := apart
  rw [toSchema, Json.get?_ofFields]
  rw [if_neg mark] at marked
  simp only [List.reverse_append, Entries.find?_append, find?_optionalField, if_neg choices,
    if_neg greatest, if_neg least, if_neg initial, Option.none_or]
  exact congrArg (Option.or · _) marked

theorem ofSchema?_eq (schema : Json) :
    ofSchema? schema = (((schema.get? typeMark).or (schema.get? "type")).bind Json.str?).map
      fun type => {
        type := type
        initial := schema.get? "default"
        least := (schema.get? "minimum").bind Json.real?
        greatest := (schema.get? "maximum").bind Json.real?
        choices := (schema.get? "enum").bind Json.arr? } := by
  cases schema with
  | obj fields =>
    change (((Entries.find? typeMark fields).or (Entries.find? "type" fields)).bind Json.str?).bind
      _ = Option.map _ (((Entries.find? typeMark fields).or (Entries.find? "type" fields)).bind
        Json.str?)
    rw [Option.map_eq_bind]
    rfl
  | _ => rfl

theorem real?_map_real (value : Option Decimal) : (value.map real).bind Json.real? = value := by
  cases value <;> rfl

theorem arr?_map_arr (value : Option (List Json)) : (value.map Json.arr).bind Json.arr? = value := by
  cases value <;> rfl

theorem ofSchema?_toSchema (property : Property) : ofSchema? property.toSchema = some property := by
  have found (name : String) (other : name ∉ ["format", "properties", "type"]) :=
    property.toSchema_get? name other
  have type : property.toSchema.get? typeMark = some (.str property.type) := by
    rw [found typeMark (by decide)]
    simp [typeMark]
  have initial : property.toSchema.get? "default" = property.initial := by
    simp [found "default" (by decide), typeMark]
  have least : property.toSchema.get? "minimum" = property.least.map real := by
    simp [found "minimum" (by decide), typeMark]
  have greatest : property.toSchema.get? "maximum" = property.greatest.map real := by
    simp [found "maximum" (by decide), typeMark]
  have choices : property.toSchema.get? "enum" = property.choices.map .arr := by
    simp [found "enum" (by decide), typeMark]
  rw [ofSchema?_eq, type, initial, least, greatest, choices, real?_map_real, real?_map_real,
    arr?_map_arr]
  rfl

end Property

namespace Component

theorem ofSchema?_eq (schema : Json) :
    ofSchema? schema =
      if schema.get? mark = some (.bool true) then
        ((schema.get? "title").bind Json.str?).map fun name => {
          name := name
          category := ((schema.get? categoryMark).bind Json.str?).getD Classifier.fallbackCategory
          properties := propertiesOf (((schema.get? "properties").bind Json.obj?).getD []) }
      else none := by
  cases schema with
  | obj fields =>
    change (if Entries.find? mark fields = some (.bool true) then
      ((Entries.find? "title" fields).bind Json.str?).bind _ else none) =
      if Entries.find? mark fields = some (.bool true) then
        Option.map _ ((Entries.find? "title" fields).bind Json.str?) else none
    rw [Option.map_eq_bind]
    rfl
  | _ => rfl

theorem propertiesOf_schemas (properties : Dict String Property) :
    propertiesOf (properties.mapValues fun _ => Property.toSchema).entries = properties := by
  have read : ((properties.mapValues fun _ => Property.toSchema).entries.filterMap fun entry =>
      (Property.ofSchema? entry.2).map fun property => (entry.1, property)) =
      properties.entries := by
    rw [Dict.mapValues, List.filterMap_map]
    have back : ((fun entry : String × Json => (Property.ofSchema? entry.2).map fun property =>
        (entry.1, property)) ∘ fun entry : String × Property => (entry.1, entry.2.toSchema)) =
        some := by
      funext entry
      rw [Function.comp_apply, Property.ofSchema?_toSchema]
      rfl
    rw [back, List.filterMap_some]
  apply Dict.ext
  rw [propertiesOf, read, ← Entries.ofList_eq, Entries.ofList_of_sorted _ properties.sorted]

theorem ofSchema?_toSchema (component : Component) :
    ofSchema? component.toSchema = some component := by
  have found (name : String) := Json.get?_ofFields name [
    ("type", .str "object"),
    ("title", .str component.name),
    (mark, .bool true),
    (categoryMark, .str component.category),
    ("properties", .obj (component.properties.mapValues fun _ => Property.toSchema).entries)]
  have marked : component.toSchema.get? mark = some (.bool true) := by
    rw [toSchema, found]
    simp [Entries.find?_cons, mark, categoryMark]
  have title : component.toSchema.get? "title" = some (.str component.name) := by
    rw [toSchema, found]
    simp [Entries.find?_cons, mark, categoryMark]
  have category : component.toSchema.get? categoryMark = some (.str component.category) := by
    rw [toSchema, found]
    simp [Entries.find?_cons, categoryMark]
  have properties : component.toSchema.get? "properties" =
      some (.obj (component.properties.mapValues fun _ => Property.toSchema).entries) := by
    rw [toSchema, found]
    simp [Entries.find?_cons]
  rw [ofSchema?_eq, if_pos marked, title, category, properties]
  simp [Json.str?, Json.obj?, propertiesOf_schemas]

end Component

end ApiAssembly
