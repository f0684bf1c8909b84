import ApiAssembly.Json.Printer
import ApiAssembly.Route
import ApiAssembly.Text.Basic
/-! The routes as they are shown: in columns, or as a list of records with the fields in the order of
the columns. -/
namespace ApiAssembly.Console
open Text (padded)

structure RouteRow where
  method : String
  path : String
  operationId : String
  subcommand : String
  clientMethod : String
  handler : String
  stub : Bool
deriving DecidableEq

namespace RouteRow

def handlerText : Option HandlerBinding → String
  | some handler => handler.file.text ++ "#" ++ handler.function
  | none => "-"

def ofRoute (route : Route) : RouteRow :=
  let names := Identifier.Names.ofOperation route.operationId
  { method := route.method.name
    path := route.path
    operationId := route.operationId
    subcommand := names.subcommand
    clientMethod := names.clientMethod
    handler := handlerText route.handler
    stub := route.stub }

def text (row : RouteRow) : String :=
  " ".intercalate [padded 7 row.method, padded 40 row.path, padded 28 row.operationId,
    padded 28 row.subcommand, padded 28 row.clientMethod,
    row.handler ++ if row.stub then " [stub]" else ""]

def fields (row : RouteRow) : List (String × Json) :=
  [("method", .str row.method), ("path", .str row.path), ("operation_id", .str row.operationId),
    ("subcommand", .str row.subcommand), ("client_method", .str row.clientMethod),
    ("handler", .str row.handler), ("stub", .bool row.stub)]

def fieldText (field : String × Json) : String :=
  "    " ++ String.ofList (Json.quote field.1) ++ ": " ++ field.2.text

def recordText (row : RouteRow) : String :=
  "  \x7b\n" ++ ",\n".intercalate (row.fields.map fieldText) ++ "\n  \x7d"

def listText (rows : List RouteRow) : String :=
  if rows.isEmpty then "[]" else "[\n" ++ ",\n".intercalate (rows.map recordText) ++ "\n]"

end RouteRow
end ApiAssembly.Console
