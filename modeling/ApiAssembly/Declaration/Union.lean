import ApiAssembly.BuildError
import ApiAssembly.Declaration.Discriminator
import ApiAssembly.Declaration.Schema
import ApiAssembly.Fragment
import ApiAssembly.Identifier.Collision
/-! The fragment that stands for a set of type declarations: one operation whose body is a union with
one variant a type, told apart by a discriminator. Types are taken in the order of their names,
so the order in which declarations come does not matter as long as their names differ. -/
namespace ApiAssembly
open Identifier

namespace TypeUnion

structure Options where
  fragmentName : String := "geometries"
  path : String := "/geometries"
  method : Method := .post
  operationId : String := "createGeometry"
  endings : List String := ["buffergeometry", "geometry"]
  handler : Option HandlerBinding := none
deriving DecidableEq

def discriminatorName : String := "type"

def reference (name : String) : String := "#/components/schemas/" ++ name

/-- Declarations by name. The first one with a name is kept. -/
def distinct : List TypeDeclaration → Dict String TypeDeclaration
  | [] => Dict.empty
  | declaration :: rest =>
    (distinct rest).insert declaration.name declaration

def repeatedWarnings (seen : List String) : List TypeDeclaration → List String
  | [] => []
  | declaration :: rest =>
    if seen.contains declaration.name then
      ("type '" ++ declaration.name ++ "' declared more than once; keeping the first") ::
        repeatedWarnings seen rest
    else repeatedWarnings (declaration.name :: seen) rest

/-- The types that share a discriminator, in the order of their names. -/
structure Group where
  discriminator : String
  first : TypeDeclaration
  others : List TypeDeclaration
deriving DecidableEq

def groups (options : Options) (declarations : List TypeDeclaration) : List Group :=
  let types := (distinct declarations).values
  let discriminatorOf (type : TypeDeclaration) :=
    Discriminator.ofTypeName options.endings type.name
  (distinctTexts (types.map discriminatorOf)).filterMap fun discriminator =>
    match types.filter fun type => discriminatorOf type = discriminator with
    | first :: others => some ⟨discriminator, first, others⟩
    | [] => none

def parameterSchema (parameter : TypeParameter) : Json :=
  match TypeSchema.ofType parameter.type parameter.initial with
  | .obj fields =>
    let fields := match parameter.initial with
      | some value => Entries.insert "default" value fields
      | none => fields
    .obj (match parameter.description with
      | some text => Entries.insert "description" (.str text) fields
      | none => fields)
  | schema => schema

/-- Parameters that can be properties: the name of the discriminator is taken. -/
def propertyParameters (type : TypeDeclaration) : List TypeParameter :=
  type.parameters.filter fun parameter => parameter.name != discriminatorName

def variantSchema (group : Group) : Json :=
  let fixed := Json.ofFields [("default", .str group.discriminator),
    ("enum", .arr [.str group.discriminator]), ("type", .str "string")]
  Json.ofFields [
    ("properties", Json.ofFields ((discriminatorName, fixed) ::
      (propertyParameters group.first).map fun parameter =>
        (parameter.name, parameterSchema parameter))),
    ("required", .arr [.str discriminatorName]),
    ("title", .str group.first.name),
    ("type", .str "object"),
    (TypeSchema.foreignMark, .str group.first.name)]

def shadowWarnings (group : Group) : List String :=
  (group.first.parameters.filter fun parameter => parameter.name = discriminatorName).map fun _ =>
    "type '" ++ group.first.name ++ "': parameter '" ++ discriminatorName ++
      "' shadows the discriminator; skipped"

def schemas (groups : List Group) : Json :=
  Json.ofFields (groups.map fun group => (group.first.name, variantSchema group))

def handlerFields : Option HandlerBinding → List (String × Json)
  | some binding =>
    [(HandlerBinding.fileField, .str binding.file.text),
      (HandlerBinding.functionField, .str binding.function)]
  | none => []

def unionSchema (groups : List Group) : Json :=
  Json.ofFields [
    ("oneOf", .arr (groups.map fun group => .obj [("$ref", .str (reference group.first.name))])),
    ("discriminator", Json.ofFields [
      ("propertyName", .str discriminatorName),
      ("mapping", Json.ofFields (groups.map fun group =>
        (group.discriminator, .str (reference group.first.name))))])]

def operation (options : Options) (groups : List Group) : Json :=
  Json.ofFields ([
    ("operationId", .str options.operationId),
    ("summary", .str ("Create one of " ++ toString groups.length ++ " synthesized variants")),
    ("requestBody", Json.ofFields [
      ("required", .bool true),
      ("content", .obj [("application/json", .obj [("schema", unionSchema groups)])])]),
    ("responses", .obj [("201", .obj [("description", .str "Created")])])] ++
    handlerFields options.handler)

def document (options : Options) (groups : List Group) : Json :=
  let components := ("components", Json.obj [("schemas", schemas groups)])
  if groups.isEmpty then .obj [components]
  else
    Json.ofFields [components,
      ("paths", .obj [(options.path, .obj [(options.method.key, operation options groups)])])]

def conflicts (groups : List Group) : List BuildError :=
  (groups.filter fun group => !group.others.isEmpty).map fun group =>
    .discriminatorConflict group.discriminator
      ((group.first :: group.others).map TypeDeclaration.name)

def emptyWarnings (options : Options) (source : FilePath) (groups : List Group) : List String :=
  if groups.isEmpty then
    [source.text ++ ": no type declarations found; operation '" ++ options.operationId ++
      "' omitted"]
  else []

def fragment (options : Options) (source : FilePath) (declarations : List TypeDeclaration) :
    Fragment where
  name := options.fragmentName
  path := source
  origin := .typeDefinitions
  document := document options (groups options declarations)

def warnings (options : Options) (source : FilePath) (declarations : List TypeDeclaration) :
    List String :=
  let groups := groups options declarations
  repeatedWarnings [] declarations ++ groups.flatMap shadowWarnings ++
    emptyWarnings options source groups

def errors (options : Options) (declarations : List TypeDeclaration) : List BuildError :=
  conflicts (groups options declarations)

end TypeUnion
end ApiAssembly
