import ApiAssembly.Json.Basic
/-! JSON text without blanks. Quotes, backslashes and control characters are escaped, all else is
written as it is; a decimal is positional while its point lies between the fifth place before
its digits and the sixteenth digit. -/
namespace ApiAssembly

def Number.style : Decimal.Style := ⟨-5, 16, true⟩

def Number.render : Number → List Char
  | .int value => (toString value).toList
  | .real value => value.render style

namespace Json

def hexDigit (value : Nat) : Char := (Nat.toDigits 16 value).headD '0'

def escapeChar (c : Char) : List Char :=
  if c = '"' then ['\\', '"']
  else if c = '\\' then ['\\', '\\']
  else if c = '\n' then ['\\', 'n']
  else if c = '\r' then ['\\', 'r']
  else if c = '\t' then ['\\', 't']
  else if c = '\x08' then ['\\', 'b']
  else if c = '\x0c' then ['\\', 'f']
  else if c.toNat < 32 then
    ['\\', 'u', '0', '0', hexDigit (c.toNat / 16), hexDigit (c.toNat % 16)]
  else [c]

def quote (text : String) : List Char := '"' :: text.toList.flatMap escapeChar ++ ['"']

mutual
def render : Json → List Char
  | .null => "null".toList
  | .bool value => (if value then "true" else "false").toList
  | .num value => value.render
  | .str value => quote value
  | .arr items => '[' :: renderItems items ++ [']']
  | .obj fields => '\x7b' :: renderFields fields ++ ['\x7d']
def renderItems : List Json → List Char
  | [] => []
  | [item] => render item
  | item :: rest => render item ++ ',' :: renderItems rest
def renderFields : List (String × Json) → List Char
  | [] => []
  | [(name, value)] => quote name ++ ':' :: render value
  | (name, value) :: rest => quote name ++ ':' :: render value ++ ',' :: renderFields rest
end

def text (value : Json) : String := String.ofList value.render

end Json
end ApiAssembly
