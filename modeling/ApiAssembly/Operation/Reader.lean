import ApiAssembly.Identifier.Words
import ApiAssembly.Json.Printer
import ApiAssembly.Operation
import ApiAssembly.PathTemplate
import ApiAssembly.Text.Whitespace
/-! Reading the operations of a document. Parameters of a path hold for all its operations unless an
operation declares its own of the same name and place. The path parameters of an operation are
those of its template, in that order. What cannot be used is left out with a warning. -/
namespace ApiAssembly

structure Operations where
  operations : List Operation := []
  warnings : List String := []

namespace Operations

def append (left right : Operations) : Operations :=
  ⟨left.operations ++ right.operations, left.warnings ++ right.warnings⟩

def join (parts : List Operations) : Operations := parts.foldl append {}

end Operations

namespace Parameter

def ofJson? (value : Json) : Option Parameter := do
  let name ← value.getStr? "name"
  let place ← (value.getStr? "in").bind ParameterPlace.parse?
  pure {
    name := name
    place := place
    required := place = .path || ((value.get? "required").bind Json.bool?).getD false
    schema := value.get? "schema"
    description := value.getStr? "description" }

def listOf (value : Option Json) : List Json := (value.bind Json.arr?).getD []

def readAll (value : Option Json) : List Parameter := (listOf value).filterMap ofJson?

def warnings (location : String) (value : Option Json) : List String :=
  ((listOf value).filter fun item => (ofJson? item).isNone).map fun item =>
    location ++ ": ignoring parameter without name/in: " ++ item.text

def plain (name : String) : Parameter :=
  ⟨name, .path, true, some (.obj [("type", .str "string")]), none⟩

def sameSlot (left right : Parameter) : Bool := left.name = right.name && left.place = right.place

def overridden (inherited own : List Parameter) : List Parameter :=
  (inherited.filter fun parameter => !own.any (sameSlot parameter)) ++ own

/-- The first path parameter of the name, and the others. -/
def take? (name : String) : List Parameter → Option (Parameter × List Parameter)
  | [] => none
  | parameter :: rest =>
    if parameter.place = .path && parameter.name = name then some (parameter, rest)
    else (take? name rest).map fun taken => (taken.1, parameter :: taken.2)

/-- Path parameters that the template does not name are dropped at the end. -/
def arrange : List String → List Parameter → List Parameter
  | [], declared => declared.filter fun parameter => parameter.place ≠ .path
  | name :: names, declared =>
    match take? name declared with
    | some (parameter, rest) => parameter :: arrange names rest
    | none => plain name :: arrange names declared

def merge (path : String) (inherited own : List Parameter) : List Parameter :=
  arrange (PathTemplate.placeholders path) (overridden inherited own)

end Parameter

def RequestBody.ofJson? (value : Json) : Option RequestBody :=
  value.obj?.map fun fields => {
    required := ((Entries.find? "required" fields).bind Json.bool?).getD false
    schema := ((Entries.find? "content" fields).bind fun content =>
      content.get? "application/json").bind fun media => media.get? "schema" }

namespace HandlerBinding

/-- A file that is not blank binds a handler. The function is named after the
operation by default. -/
def ofJson? (operation : Json) (id : String) : Option HandlerBinding :=
  (operation.getStr? fileField).bind fun file =>
    if Text.isBlankText file then none
    else some ⟨⟨file⟩, (operation.getStr? functionField).getD (Identifier.snake id)⟩

def warnings (location : String) (operation : Json) (id : String) : List String :=
  match ofJson? operation id, operation.getStr? functionField with
  | none, some function =>
    [location ++ ": " ++ functionField ++ " '" ++ function ++ "' has no " ++ fileField ++
      "; binding ignored"]
  | _, _ => []

end HandlerBinding

namespace Operation

def declaredId? (value : Json) : Option String :=
  (value.getStr? "operationId").filter fun id => !Text.isBlankText id

def idOf (method : Method) (path : String) (value : Json) : String :=
  (declaredId? value).getD (PathTemplate.operationId method path)

def location (source : String) (method : Method) (path : String) : String :=
  (OperationKey.mk path method).text ++ " (" ++ source ++ ")"

/-- The operation that a path item declares under a method. -/
def ofJson (source path : String) (item : List (String × Json)) (method : Method) (value : Json) :
    Operation :=
  let id := idOf method path value
  { id := id
    method := method
    path := path
    summary := ((value.get? "summary").or (Entries.find? "summary" item)).bind Json.str?
    parameters := Parameter.merge path (Parameter.readAll (Entries.find? "parameters" item))
      (Parameter.readAll (value.get? "parameters"))
    body := (value.get? "requestBody").bind RequestBody.ofJson?
    responses := (value.getObj? "responses").getD []
    handler := HandlerBinding.ofJson? value id
    source := source }

def warnings (source path : String) (method : Method) (value : Json) : List String :=
  let place := location source method path
  let id := idOf method path value
  (match declaredId? value with
    | some _ => []
    | none => [place ++ ": missing operationId, using '" ++ id ++ "'"]) ++
    Parameter.warnings place (value.get? "parameters") ++
    HandlerBinding.warnings place value id

end Operation

namespace Operations

def ofEntry (source path : String) (item : List (String × Json)) (entry : String × Json) :
    Operations :=
  match Method.parse? entry.1 with
  | some method =>
    if entry.2.isObject then
      ⟨[Operation.ofJson source path item method entry.2],
        Operation.warnings source path method entry.2⟩
    else {}
  | none => {}

def ofPathItem (source path : String) (value : Json) : Operations :=
  match value with
  | .obj item =>
    append ⟨[], Parameter.warnings path (Entries.find? "parameters" item)⟩
      (join (item.map (ofEntry source path item)))
  | _ => {}

def ofDocument (source : String) (document : Json) : Operations :=
  join (((document.getObj? "paths").getD []).map fun entry =>
    ofPathItem source entry.1 entry.2)

end Operations
end ApiAssembly
