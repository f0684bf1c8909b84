import ApiAssembly.BuildError
import ApiAssembly.Fragment
import ApiAssembly.Text.Basic
/-! The form of a fragment's document. It is an object; its paths start with a slash and lead to
objects, whose methods are objects again; its shared schemas are an object. Of two faults the
one that comes first in the order of names is reported, and paths come before schemas. In a path
item only methods, the fields of path items and extensions are kept. -/
namespace ApiAssembly.Fragment

def operationFault? (path : String) (fields : List (String × Json)) : Option FragmentFault :=
  (fields.find? fun field => (Method.parse? field.1).isSome && !field.2.isObject).map fun field =>
    .operationNotMapping field.1 path

def pathFault? (entry : String × Json) : Option FragmentFault :=
  if !Text.startsWith "/" entry.1 then some (.pathWithoutSlash entry.1)
  else
    match entry.2.obj? with
    | none => some (.pathItemNotMapping entry.1)
    | some fields => operationFault? entry.1 fields

def pathsFault? : Json → Option FragmentFault
  | .obj paths => paths.findSome? pathFault?
  | _ => some .pathsNotMapping

def componentsFault? : Json → Option FragmentFault
  | .obj fields =>
    match Entries.find? "schemas" fields with
    | some schemas => if schemas.isObject then none else some .schemasNotMapping
    | none => none
  | _ => some .componentsNotMapping

/-- The first fault of a document, if it has one. -/
def fault? : Json → Option FragmentFault
  | .obj fields =>
    ((Entries.find? "paths" fields).bind pathsFault?).or
      ((Entries.find? "components" fields).bind componentsFault?)
  | _ => some .rootNotMapping

def pathItemFields : List String := ["summary", "description", "servers", "parameters", "$ref"]

def isPathItemKey (key : String) : Bool :=
  pathItemFields.contains key || (Method.parse? key).isSome || Text.startsWith "x-" key

def keepKnownKeys : Json → Json
  | .obj fields => .obj (fields.filter fun field => isPathItemKey field.1)
  | value => value

def keepKnownPathKeys : String × Json → String × Json
  | ("paths", .obj paths) => ("paths", .obj (paths.map fun entry => (entry.1, keepKnownKeys entry.2)))
  | field => field

def withoutUnknownKeys : Json → Json
  | .obj fields => .obj (fields.map keepKnownPathKeys)
  | value => value

end ApiAssembly.Fragment
