import ApiAssembly.FilePath
import ApiAssembly.Method
import ApiAssembly.Json.Basic
/-! Operations: what a client can ask for at a path by a method. Two operations are the same entry
of an API when path and method agree; the identifier names an operation in generated programs. -/
namespace ApiAssembly

inductive ParameterPlace where
  | path | query | header | cookie
deriving DecidableEq

namespace ParameterPlace

def name : ParameterPlace → String
  | path => "path" | query => "query" | header => "header" | cookie => "cookie"

def parse? (text : String) : Option ParameterPlace :=
  [path, query, header, cookie].find? fun place => place.name = text

end ParameterPlace

structure Parameter where
  name : String
  place : ParameterPlace
  required : Bool
  schema : Option Json
  description : Option String
deriving DecidableEq

structure RequestBody where
  required : Bool
  schema : Option Json
deriving DecidableEq

/-- The file is relative to the directory of handlers. -/
structure HandlerBinding where
  file : FilePath
  function : String
deriving DecidableEq

namespace HandlerBinding

def fileField : String := "x-handler-file"

def functionField : String := "x-handler-function"

end HandlerBinding

structure OperationKey where
  path : String
  method : Method
deriving DecidableEq

namespace OperationKey

instance : Ord OperationKey :=
  ⟨compareLex (compareOn OperationKey.path) (compareOn OperationKey.method)⟩

instance : Std.TransOrd OperationKey :=
  inferInstanceAs
    (Std.TransCmp (compareLex (compareOn OperationKey.path) (compareOn OperationKey.method)))

def text (key : OperationKey) : String := key.method.name ++ " " ++ key.path

end OperationKey

structure Operation where
  id : String
  method : Method
  path : String
  summary : Option String
  parameters : List Parameter
  body : Option RequestBody
  responses : List (String × Json)
  handler : Option HandlerBinding
  source : String
deriving DecidableEq

namespace Operation

def key (operation : Operation) : OperationKey := ⟨operation.path, operation.method⟩

def pathParameters (operation : Operation) : List Parameter :=
  operation.parameters.filter fun parameter => parameter.place = .path

def label (operation : Operation) : String :=
  operation.key.text ++ " (" ++ operation.source ++ ")"

end Operation
end ApiAssembly
