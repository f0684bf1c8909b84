import ApiAssembly.FilePath
import ApiAssembly.Method
/-! Templates of paths. A placeholder is a name in braces within one segment. -/
namespace ApiAssembly.PathTemplate

/-- Here `current` holds the name being read, last character first, once a brace has opened it. -/
def namesFrom (current : Option (List Char)) : List Char → List (List Char)
  | [] => []
  | c :: rest =>
    if c = '\x7b' then namesFrom (some []) rest
    else if c = '\x7d' then
      match current with
      | some (last :: name) => (last :: name).reverse :: namesFrom none rest
      | _ => namesFrom none rest
    else if c = '/' then namesFrom none rest
    else namesFrom (current.map fun name => c :: name) rest

def placeholders (path : String) : List String :=
  (namesFrom none path.toList).map String.ofList

def cleanSegment (segment : List Char) : List Char :=
  (segment.filter fun c => c ≠ '\x7b' && c ≠ '\x7d').map fun c =>
    if c.isAlphanum then c.toLower else '_'

/-- The identifier of an operation that declares none: its method and the segments of its path. -/
def operationId (method : Method) (path : String) : String :=
  let segments := ((FilePath.splitSlashes path.toList).map cleanSegment).filter (! ·.isEmpty)
  method.key ++ String.join (segments.map fun segment => "_" ++ String.ofList segment)

end ApiAssembly.PathTemplate
