import ApiAssembly.Component.Category
import ApiAssembly.Json.Basic
/-! Components and the properties by which they are configured, and the schemas that hold them in a
specification. A mark sets these schemas apart from others; the name of a property's type is kept
beside the schema type, so that a component can be read back from its schema. -/
namespace ApiAssembly

structure Property where
  type : String
  initial : Option Json
  least : Option Decimal
  greatest : Option Decimal
  choices : Option (List Json)
deriving DecidableEq

structure Component where
  name : String
  category : String
  properties : Dict String Property
deriving DecidableEq

namespace Property

def typeMark : String := "x-property-type"

def axesSchema (axes : List String) : List (String × Json) :=
  [("properties", Json.ofFields (axes.map fun name => (name, .obj [("type", .str "number")]))),
    ("type", .str "object")]

/-- The fields that say which JSON values a property type admits. -/
def typeFields (type : String) : List (String × Json) :=
  if type = "number" then [("type", .str "number")]
  else if type = "int" ∨ type = "integer" then [("type", .str "integer")]
  else if type = "boolean" then [("type", .str "boolean")]
  else if type = "array" then [("type", .str "array")]
  else if type = "color" then [("format", .str "color"), ("type", .str "string")]
  else if type = "vec2" then axesSchema ["x", "y"]
  else if type = "vec3" then axesSchema ["x", "y", "z"]
  else if type = "vec4" then axesSchema ["x", "y", "z", "w"]
  else if type = "object" then [("type", .str "object")]
  else [("type", .str "string")]

def optionalField (name : String) : Option Json → List (String × Json)
  | some value => [(name, value)]
  | none => []

def real (value : Decimal) : Json := .num (.real value)

def toSchema (property : Property) : Json :=
  Json.ofFields (typeFields property.type ++ [(typeMark, .str property.type)] ++
    optionalField "default" property.initial ++
    optionalField "minimum" (property.least.map real) ++
    optionalField "maximum" (property.greatest.map real) ++
    optionalField "enum" (property.choices.map .arr))

def ofSchema? (schema : Json) : Option Property := do
  let fields ← schema.obj?
  let type ← ((Entries.find? typeMark fields).or (Entries.find? "type" fields)).bind Json.str?
  pure {
    type := type
    initial := Entries.find? "default" fields
    least := (Entries.find? "minimum" fields).bind Json.real?
    greatest := (Entries.find? "maximum" fields).bind Json.real?
    choices := (Entries.find? "enum" fields).bind Json.arr? }

end Property

namespace Component

def mark : String := "x-component"

def categoryMark : String := "x-category"

def toSchema (component : Component) : Json :=
  Json.ofFields [
    ("type", .str "object"),
    ("title", .str component.name),
    (mark, .bool true),
    (categoryMark, .str component.category),
    ("properties", .obj (component.properties.mapValues fun _ => Property.toSchema).entries)]

/-- Fields that hold no property are passed over. -/
def propertiesOf (fields : List (String × Json)) : Dict String Property :=
  Dict.ofList (fields.filterMap fun entry =>
    (Property.ofSchema? entry.2).map fun property => (entry.1, property))

def ofSchema? (schema : Json) : Option Component := do
  let fields ← schema.obj?
  if Entries.find? mark fields = some (.bool true) then
    let name ← (Entries.find? "title" fields).bind Json.str?
    pure {
      name := name
      category := ((Entries.find? categoryMark fields).bind Json.str?).getD
        Classifier.fallbackCategory
      properties := propertiesOf (((Entries.find? "properties" fields).bind Json.obj?).getD []) }
  else none

end Component
end ApiAssembly
