import ApiAssembly.Identifier.Collision
import ApiAssembly.Specification.Basic
/-! The route table: one row an operation, in route order, with what the generated programs need to
know of it. A row whose handler is missing is a stub. -/
namespace ApiAssembly

structure Route where
  method : Method
  path : String
  operationId : String
  summary : Option String
  pathParameters : List String
  body : Option RequestBody
  handler : Option HandlerBinding
  stub : Bool
deriving DecidableEq

namespace Route

def key (route : Route) : OperationKey := ⟨route.path, route.method⟩

def hasBody (route : Route) : Bool := route.body.isSome

def bodyRequired (route : Route) : Bool :=
  match route.body with
  | some body => body.required
  | none => false

/-- The number of arguments that a call cannot do without. -/
def arity (route : Route) : Nat :=
  route.pathParameters.length + if route.bodyRequired then 1 else 0

def ofOperation (stubs : List OperationKey) (operation : Operation) : Route where
  method := operation.method
  path := operation.path
  operationId := operation.id
  summary := operation.summary
  pathParameters := operation.pathParameters.map Parameter.name
  body := operation.body
  handler := operation.handler
  stub := stubs.contains operation.key

def table (spec : Specification) (stubs : List OperationKey) : List Route :=
  spec.operations.map (ofOperation stubs)

def parameterCollisions (routes : List Route) : List BuildError :=
  routes.flatMap fun route =>
    Identifier.parameterCollisions route.operationId route.pathParameters

end Route
end ApiAssembly
