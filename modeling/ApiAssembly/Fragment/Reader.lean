import ApiAssembly.Fragment.Structure
import ApiAssembly.Yaml.Document
/-! Reading fragments from text. A file with the extension of JSON holds JSON, every other one YAML. -/
namespace ApiAssembly.Fragment

def document? (path : FilePath) (text : String) : Option Json :=
  if path.extension? = some "json" then Json.parse? Json.depthLimit text else Yaml.json? text

def parse (name : String) (path : FilePath) (text : String) : Except BuildError Fragment :=
  match document? path text with
  | none => .error (.fragment path (.malformed Content.malformed))
  | some document =>
    match fault? document with
    | some fault => .error (.fragment path fault)
    | none => .ok ⟨name, path, .handWritten, withoutUnknownKeys document⟩

end ApiAssembly.Fragment
