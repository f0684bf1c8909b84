import ApiAssembly.Json.Printer
import ApiAssembly.Yaml.ScalarStyle
/-! JSON values as YAML in block style. What is below a key is indented by two places, but for lists,
whose dashes stand under the key; empty collections are written as in JSON. A key of several
lines or of more than 128 bytes is marked by a question mark. -/
namespace ApiAssembly.Yaml
open ScalarStyle (spaces)

def numberStyle : Decimal.Style := ⟨-5, 16, false⟩

def numberText : Number → List Char
  | .int value => (toString value).toList
  | .real value => value.render numberStyle

def isShortKey (key : String) : Bool := !key.toList.any isBreak && key.utf8ByteSize ≤ 128

/-- Whether a collection starts on the line of the mark before it, or on the next one. -/
inductive Placement where
  | beside | below

namespace Placement

def listIndent (indent : Nat) : Placement → Nat
  | beside => indent + 2
  | below => indent

def listLead (indent : Nat) : Placement → List Char
  | beside => [' ']
  | below => '\n' :: spaces indent

def fieldsLead (indent : Nat) : Placement → List Char
  | beside => [' ']
  | below => '\n' :: spaces (indent + 2)

end Placement

def keyText (indent : Nat) (key : String) : List Char :=
  if isShortKey key then ScalarStyle.written (indent + 2) key.toList ++ [':']
  else '?' :: ' ' :: ScalarStyle.line (indent + 2) key.toList ++ spaces indent ++ [':']

def keyPlacement (key : String) : Placement := if isShortKey key then .below else .beside

mutual
/-- The text behind a dash, a colon or a question mark that stands at the indentation. -/
def renderNode (placement : Placement) (indent : Nat) : Json → List Char
  | .null => " null\n".toList
  | .bool value => (if value then " true\n" else " false\n").toList
  | .num value => ' ' :: numberText value ++ ['\n']
  | .str value => ' ' :: ScalarStyle.line (indent + 2) value.toList
  | .arr items =>
    if items.isEmpty then " []\n".toList
    else placement.listLead indent ++ renderItems (placement.listIndent indent) items
  | .obj fields =>
    if fields.isEmpty then " \x7b\x7d\n".toList
    else placement.fieldsLead indent ++ renderFields (indent + 2) fields
def renderItems (indent : Nat) : List Json → List Char
  | [] => []
  | [item] => '-' :: renderNode .beside indent item
  | item :: rest =>
    '-' :: renderNode .beside indent item ++ spaces indent ++ renderItems indent rest
def renderFields (indent : Nat) : List (String × Json) → List Char
  | [] => []
  | [(key, value)] => keyText indent key ++ renderNode (keyPlacement key) indent value
  | (key, value) :: rest =>
    keyText indent key ++ renderNode (keyPlacement key) indent value ++ spaces indent ++
      renderFields indent rest
end

def render : Json → List Char
  | .arr (item :: rest) => renderItems 0 (item :: rest)
  | .obj (field :: rest) => renderFields 0 (field :: rest)
  | value => (renderNode .beside 0 value).drop 1

def text (value : Json) : String := String.ofList (render value)

end ApiAssembly.Yaml
