import ApiAssembly.Component.Basic
import ApiAssembly.Scan.Literal
/-! Registrations of components in the source text of a component library: a call with a quoted name
and a block that may hold a schema. Each call gives a component, or a reason why it is passed
over; what stands before and behind a call does not matter to it. -/
namespace ApiAssembly
open Scan Text

inductive BlockFault where
  | noDefinition
  | definitionNotObject
  | definitionUnbalanced
  | schemaNotObject
  | schemaNotClosed
  | schemaUnbalanced
  | propertyNotBlock
  | propertyUnbalanced
  | unreadDefault (text : String)
  | typeNotText (text : String)
  | noMarker
  | boundNotNumeric (key text : String)
  | choicesNotList (text : String)
deriving DecidableEq

namespace BlockFault

def message : BlockFault → String
  | noDefinition => "registration has no definition"
  | definitionNotObject => "definition is not an object literal"
  | definitionUnbalanced => "unbalanced definition block"
  | schemaNotObject => "schema is not an object literal"
  | schemaNotClosed => "schema block is not closed"
  | schemaUnbalanced => "unbalanced schema block"
  | propertyNotBlock => "property is not an object block"
  | propertyUnbalanced => "unbalanced property block"
  | unreadDefault text => "unrecognised default `" ++ text ++ "`"
  | typeNotText text => "type marker `" ++ text ++ "` is not a string literal"
  | noMarker => "neither type nor default marker"
  | boundNotNumeric key text => key ++ " marker `" ++ text ++ "` is not numeric"
  | choicesNotList text => "enumeration `" ++ text ++ "` is not an array literal"

end BlockFault

abbrev Markers := List (List Char × List Char)

namespace Property

/-- The type of a property without a type marker. Three axes are told by the
third, four by the fourth. -/
def inferType? : Json → Option String
  | .null => none
  | .bool _ => some "boolean"
  | .num _ => some "number"
  | .str text => some (if text.toList.head? = some '#' then "color" else "string")
  | .arr _ => some "array"
  | .obj fields =>
    let has (axis : String) := Entries.contains axis fields
    some (
      if fields.length = 2 ∧ has "x" ∧ has "y" then "vec2"
      else if fields.length = 3 ∧ has "z" then "vec3"
      else if fields.length = 4 ∧ has "w" then "vec4"
      else "object")

/-- The last entry with a key counts. -/
def marker? (key : String) (markers : Markers) : Option (List Char) :=
  (markers.findRev? fun entry => entry.1 = key.toList).map Prod.snd

def readDefault (markers : Markers) : Except BlockFault (Option Json) :=
  match marker? "default" markers with
  | none => .ok none
  | some text =>
    match literal? text with
    | some value => .ok (some value)
    | none => .error (.unreadDefault (String.ofList text))

def readType (markers : Markers) (initial : Option Json) : Except BlockFault String :=
  match marker? "type" markers with
  | some text =>
    match literal? text with
    | some (.str type) => .ok type
    | _ => .error (.typeNotText (String.ofList text))
  | none =>
    match initial.bind inferType? with
    | some type => .ok type
    | none => .error .noMarker

def readChoices (markers : Markers) : Except BlockFault (Option (List Json)) :=
  match (marker? "oneOf" markers).or (marker? "enum" markers) with
  | none => .ok none
  | some text =>
    match literal? text with
    | some (.arr values) => .ok (some values)
    | _ => .error (.choicesNotList (String.ofList text))

def readBound (key : String) (markers : Markers) : Except BlockFault (Option Decimal) :=
  match marker? key markers with
  | none => .ok none
  | some text =>
    match (literal? text).bind Json.real? with
    | some value => .ok (some value)
    | none => .error (.boundNotNumeric key (String.ofList text))

def ofMarkers (markers : Markers) : Except BlockFault Property := do
  let initial ← readDefault markers
  let type ← readType markers initial
  let choices ← readChoices markers
  let least ← readBound "min" markers
  let greatest ← readBound "max" markers
  pure ⟨type, initial, least, greatest, choices⟩

end Property

/-- The text between the first and the last character, when these are braces. -/
def braced? : List Char → Option (List Char)
  | [] => none
  | c :: rest =>
    if c = '\x7b' && rest.getLast? = some '\x7d' then some rest.dropLast else none

def markersOf (pieces : List (List Char)) : Markers := pieces.filterMap keyValue?

def Property.ofBlock (block : List Char) : Except BlockFault Property :=
  match braced? block with
  | none => .error .propertyNotBlock
  | some inside =>
    match pieces? inside with
    | none => .error .propertyUnbalanced
    | some pieces => Property.ofMarkers (markersOf pieces)

/-- Properties read so far, and the blocks that could not be read. -/
structure PropertyBlocks where
  properties : Dict String Property := Dict.empty
  faults : List (String × BlockFault) := []

def PropertyBlocks.add (blocks : PropertyBlocks) (entry : List Char × List Char) :
    PropertyBlocks :=
  let name := String.ofList entry.1
  match Property.ofBlock entry.2 with
  | .ok property => { blocks with properties := blocks.properties.insert name property }
  | .error fault => { blocks with faults := blocks.faults ++ [(name, fault)] }

/-- A schema whose markers stand in it directly describes one property, called `value`. -/
def isSingle (entries : Markers) : Bool :=
  entries.any fun entry =>
    (entry.1 = "type".toList || entry.1 = "default".toList) && entry.2.head? != some '\x7b'

def propertyBlocks (entries : Markers) : Except BlockFault PropertyBlocks :=
  if isSingle entries then
    (Property.ofMarkers entries).map fun property => ⟨Dict.empty.insert "value" property, []⟩
  else .ok (entries.foldl PropertyBlocks.add {})

def schemaProperties (block : List Char) : Except BlockFault PropertyBlocks :=
  match braced? block with
  | none => .error .schemaNotClosed
  | some inside =>
    match pieces? inside with
    | none => .error .schemaUnbalanced
    | some pieces => propertyBlocks (markersOf pieces)

def definitionProperties (inside : List Char) : Except BlockFault PropertyBlocks :=
  match pieces? inside with
  | none => .error .definitionUnbalanced
  | some pieces =>
    match (markersOf pieces).find? fun entry => entry.1 = "schema".toList with
    | none => .ok {}
    | some (_, value) =>
      if value.head? = some '\x7b' then schemaProperties value else .error .schemaNotObject

/-- A call: the name it registers, and the text behind the comma that follows the name. -/
structure Registration where
  name : String
  after : List Char
deriving DecidableEq

namespace Registration

def callName : List Char := "registerComponent".toList

def isNameChar (c : Char) : Bool :=
  c.isAlphanum || c = '_' || c = '.' || c = ':' || c = '-'

def character? (expected : Char → Bool) : List Char → Option (List Char)
  | [] => none
  | c :: rest => if expected c then some rest else none

def ofStart? (cs : List Char) : Option Registration := do
  if callName.isPrefixOf cs then
    let rest ← character? (· = '(') (trimStart (cs.drop callName.length))
    let rest ← character? isQuote (trimStart rest)
    let name := rest.takeWhile isNameChar
    if name.isEmpty then none
    else
      let rest ← character? isQuote (rest.dropWhile isNameChar)
      let rest ← character? (· = ',') (trimStart rest)
      pure ⟨String.ofList name, rest⟩
  else none

theorem character?_shorter (expected : Char → Bool) (cs rest : List Char)
    (found : character? expected cs = some rest) : rest.length < cs.length := by
  cases cs with
  | nil => simp [character?] at found
  | cons c tail =>
    simp only [character?] at found
    split at found
    · simp only [Option.some.injEq] at found
      simp [found]
    · simp at found

theorem ofStart?_shorter (cs : List Char) (call : Registration)
    (found : ofStart? cs = some call) : call.after.length < cs.length := by
  unfold ofStart? at found
  split at found
  · obtain ⟨first, opens, found⟩ := Option.bind_eq_some_iff.mp found
    obtain ⟨second, quotes, found⟩ := Option.bind_eq_some_iff.mp found
    simp only at found
    split at found
    · simp at found
    · obtain ⟨third, closes, found⟩ := Option.bind_eq_some_iff.mp found
      obtain ⟨fourth, commas, found⟩ := Option.bind_eq_some_iff.mp found
      simp only [Option.pure_def, Option.some.injEq] at found
      rw [← found]
      have := character?_shorter _ _ _ opens
      have := character?_shorter _ _ _ quotes
      have := character?_shorter _ _ _ closes
      have := character?_shorter _ _ _ commas
      have := (List.dropWhile_suffix isBlank (l := cs.drop callName.length)).length_le
      have := (List.dropWhile_suffix isBlank (l := first)).length_le
      have := (List.dropWhile_suffix isNameChar (l := second)).length_le
      have := (List.dropWhile_suffix isBlank (l := third)).length_le
      simp only [trimStart, List.length_drop] at *
      omega
  · simp at found

/-- The calls of a text in order. The search goes on behind the comma of the last one. -/
def all (cs : List Char) : List Registration :=
  match _call : ofStart? cs with
  | some call => call :: all call.after
  | none =>
    match cs with
    | [] => []
    | _ :: rest => all rest
termination_by cs.length
decreasing_by
  · exact ofStart?_shorter cs call _call
  · simp

def blocks (call : Registration) : Except BlockFault PropertyBlocks :=
  match trimStart call.after with
  | [] => .error .noDefinition
  | c :: rest =>
    if c = '\x7b' then
      match block? (c :: rest) with
      | none => .error .definitionUnbalanced
      | some (inside, _) => definitionProperties inside
    else .error .definitionNotObject

end Registration

structure Extraction where
  components : List Component := []
  warnings : List String := []

namespace Extraction

def append (left right : Extraction) : Extraction :=
  ⟨left.components ++ right.components, left.warnings ++ right.warnings⟩

def ofCall (label : String) (classifier : Classifier) (call : Registration) : Extraction :=
  match call.blocks with
  | .error fault =>
    ⟨[], [label ++ ": skipped component '" ++ call.name ++ "': " ++ fault.message]⟩
  | .ok blocks =>
    ⟨[⟨call.name, classifier.classify call.name, blocks.properties⟩],
      blocks.faults.map fun fault =>
        label ++ ": skipped property '" ++ call.name ++ "." ++ fault.1 ++ "': " ++
          fault.2.message⟩

def ofText (label : String) (classifier : Classifier) (text : String) : Extraction :=
  ((Registration.all text.toList).map (ofCall label classifier)).foldl append {}

end Extraction
end ApiAssembly
