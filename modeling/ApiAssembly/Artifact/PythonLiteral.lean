import ApiAssembly.Json.Printer
/-! JSON values as literals of the scripting language. Texts and numbers are written as in JSON; truth
values and absence have names of their own; commas and colons are followed by a blank. -/
namespace ApiAssembly.PythonLiteral

mutual
def render : Json → List Char
  | .null => "None".toList
  | .bool value => (if value then "True" else "False").toList
  | .num value => value.render
  | .str value => Json.quote value
  | .arr items => '[' :: renderItems items ++ [']']
  | .obj fields => '\x7b' :: renderFields fields ++ ['\x7d']
def renderItems : List Json → List Char
  | [] => []
  | [item] => render item
  | item :: rest => render item ++ ',' :: ' ' :: renderItems rest
def renderFields : List (String × Json) → List Char
  | [] => []
  | [(name, value)] => Json.quote name ++ ':' :: ' ' :: render value
  | (name, value) :: rest =>
    Json.quote name ++ ':' :: ' ' :: render value ++ ',' :: ' ' :: renderFields rest
end

def text (value : Json) : String := String.ofList (render value)

end ApiAssembly.PythonLiteral
