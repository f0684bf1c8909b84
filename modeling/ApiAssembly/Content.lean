import ApiAssembly.Json.Basic
/-! What a structured document says, entry by entry and as written: a repeated name stands as often as
it is written, and in some notations a name need not be a text. -/
namespace ApiAssembly

inductive Content where
  | null
  | bool (value : Bool)
  | num (value : Number)
  -- The integer zero with a minus sign. It equals zero, but does not count anything.
  | minusZero
  | notFinite
  | str (value : String)
  | arr (items : List Content)
  | obj (entries : List (Content × Content))
deriving Inhabited

namespace Content

/-- What is reported of a text that is no document. -/
def malformed : String := "not a well-formed document"

mutual
/-- Numbers that are not finite have no place in JSON and become null there. -/
def json? : Content → Option Json
  | .null => some .null
  | .bool value => some (.bool value)
  | .num value => some (.num value)
  | .minusZero => some (.num (.int 0))
  | .notFinite => some .null
  | .str value => some (.str value)
  | .arr items => (jsonItems? items).map .arr
  | .obj entries => (jsonFields? entries).map Json.ofFields
def jsonItems? : List Content → Option (List Json)
  | [] => some []
  | item :: rest => do pure ((← json? item) :: (← jsonItems? rest))
def jsonFields? : List (Content × Content) → Option (List (String × Json))
  | [] => some []
  | (.str name, value) :: rest => do pure ((name, ← json? value) :: (← jsonFields? rest))
  | _ => none
end

mutual
def ofJson : Json → Content
  | .null => .null
  | .bool value => .bool value
  | .num value => .num value
  | .str value => .str value
  | .arr items => .arr (ofJsonItems items)
  | .obj fields => .obj (ofJsonFields fields)
def ofJsonItems : List Json → List Content
  | [] => []
  | item :: rest => ofJson item :: ofJsonItems rest
def ofJsonFields : List (String × Json) → List (Content × Content)
  | [] => []
  | (name, value) :: rest => (.str name, ofJson value) :: ofJsonFields rest
end

end Content
end ApiAssembly
