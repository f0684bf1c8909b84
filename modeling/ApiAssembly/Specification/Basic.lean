import ApiAssembly.Operation
/-! The specification that is put together from fragments: what it is called, the operations of each
path, and shared schemas. Operations are listed by path, then by method. -/
namespace ApiAssembly

structure Info where
  title : String := "specweave"
  version : String := "0.0.0"
  description : Option String := none
deriving DecidableEq

structure PathItem where
  operations : Dict Method Operation
deriving DecidableEq

structure Specification where
  info : Info
  paths : Dict String PathItem
  components : Dict String Json
deriving DecidableEq

namespace Specification

def operations (spec : Specification) : List Operation :=
  spec.paths.values.flatMap fun item => item.operations.values

def operation? (spec : Specification) (key : OperationKey) : Option Operation :=
  (spec.paths.find? key.path).bind fun item => item.operations.find? key.method

def operationCount (spec : Specification) : Nat :=
  spec.paths.values.foldr (fun item count => item.operations.size + count) 0

end Specification
end ApiAssembly
