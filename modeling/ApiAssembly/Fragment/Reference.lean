import ApiAssembly.Json.Basic
import ApiAssembly.Text.Basic
/-! References to shared schemas. When fragments are put together the schemas of each carry its name
in front, and the references inside the fragment follow them. Only two places hold references:
the field `$ref`, and the targets of a discriminator's mapping. -/
namespace ApiAssembly.Reference

def start : String := "#/components/schemas/"

def qualifiedName (source name : String) : String := source ++ "_" ++ name

def qualifyText (source text : String) : String :=
  match Text.afterStart? start text with
  | some name => start ++ qualifiedName source name
  | none => text

def qualifyTarget (source : String) : Json → Json
  | .str text => .str (qualifyText source text)
  | value => value

def qualifyMapping (source : String) (fields : List (String × Json)) : List (String × Json) :=
  fields.map fun entry =>
    match entry with
    | ("mapping", .obj targets) =>
      ("mapping", .obj (targets.map fun target => (target.1, qualifyTarget source target.2)))
    | entry => entry

mutual
def qualify (source : String) : Json → Json
  | .arr items => .arr (qualifyItems source items)
  | .obj fields => .obj (qualifyFields source fields)
  | value => value
def qualifyItems (source : String) : List Json → List Json
  | [] => []
  | item :: rest => qualify source item :: qualifyItems source rest
def qualifyFields (source : String) : List (String × Json) → List (String × Json)
  | [] => []
  | ("$ref", .str text) :: rest =>
    ("$ref", .str (qualifyText source text)) :: qualifyFields source rest
  | ("discriminator", .obj fields) :: rest =>
    ("discriminator", .obj (qualifyMapping source fields)) :: qualifyFields source rest
  | (name, value) :: rest => (name, qualify source value) :: qualifyFields source rest
end

end ApiAssembly.Reference
