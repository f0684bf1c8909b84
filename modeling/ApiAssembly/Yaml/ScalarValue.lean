import ApiAssembly.Yaml.Token
/-! What a YAML scalar stands for. A plain scalar without a tag may be null, a truth value or a
number; every other one is a text unless a tag of the core set says what it has to be. -/
namespace ApiAssembly.Yaml

structure Scalar where
  tag : Option TagBytes
  text : String
  plain : Bool
deriving DecidableEq

namespace Scalar

def isNull (text : String) : Bool := ["null", "Null", "NULL", "~"].contains text

def bool? (text : String) : Option Bool :=
  if ["true", "True", "TRUE"].contains text then some true
  else if ["false", "False", "FALSE"].contains text then some false
  else none

def digitValue? (base : Nat) (c : Char) : Option Nat :=
  (Json.Reader.hexValue? c).filter fun digit => digit < base

def natural? (base : Nat) (cs : List Char) : Option Nat :=
  if cs.isEmpty then none
  else cs.foldl (fun total c => do pure ((← total) * base + (← digitValue? base c))) (some 0)

/-- A leading zero before other digits does not make a number. -/
def isPadded : List Char → Bool
  | '0' :: rest => !rest.isEmpty && rest.all Char.isDigit
  | _ => false

def magnitude? : List Char → Option Nat
  | '0' :: 'x' :: digits => natural? 16 digits
  | '0' :: 'o' :: digits => natural? 8 digits
  | '0' :: 'b' :: digits => natural? 2 digits
  | digits => if isPadded digits then none else natural? 10 digits

def integer? (cs : List Char) : Option Int :=
  match cs with
  | '-' :: digits => (magnitude? digits).map fun size => -(size : Int)
  | '+' :: digits => (magnitude? digits).map Int.ofNat
  | digits => (magnitude? digits).map Int.ofNat

/-- Integers of up to 128 bits have to fit a word; longer ones are no integers any more. -/
def fitsDoubleWord (value : Int) : Bool :=
  -0x80000000000000000000000000000000 ≤ value && value < 0x100000000000000000000000000000000

def isInfinite (cs : List Char) : Bool :=
  [".inf", ".Inf", ".INF", "+.inf", "+.Inf", "+.INF", "-.inf", "-.Inf", "-.INF"].contains
    (String.ofList cs)

def isNotNumber (cs : List Char) : Bool := [".nan", ".NaN", ".NAN"].contains (String.ofList cs)

def real? (cs : List Char) : Option Content :=
  if isInfinite cs || isNotNumber cs then some .notFinite
  else
    match cs with
    | '+' :: '+' :: _ | '+' :: '-' :: _ => none
    | cs => (Decimal.read? cs).map fun value => .num (.real value)

def withoutSign : List Char → List Char
  | '+' :: rest => rest
  | '-' :: rest => rest
  | cs => cs

def plainReal? (cs : List Char) : Option Content :=
  if isPadded (withoutSign cs) then none else real? cs

def ofInteger (cs : List Char) (value : Int) : Content :=
  if value = 0 && cs.head? = some '-' then .minusZero else .num (.int value)

/-- The outer option tells whether the text can be read, the inner one whether it is a number. -/
def number? (cs : List Char) : Option (Option Content) :=
  match integer? cs with
  | some value =>
    if Number.fitsWord value then some (some (ofInteger cs value))
    else if fitsDoubleWord value then none
    else some (plainReal? cs)
  | none => some (plainReal? cs)

def plainContent? (text : String) : Option Content :=
  if text.isEmpty || isNull text then some .null
  else
    match bool? text with
    | some value => some (.bool value)
    | none => (number? text.toList).map fun number => number.getD (.str text)

def coreTag : String := "tag:yaml.org,2002:"

def privateMark : UInt8 := '!'.toUInt8

/-- A tag of one's own starts with the mark. Without a name that can be read it counts for nothing. -/
def isPrivateTag (tag : Option TagBytes) : Bool :=
  tag.any fun bytes => bytes.head? = some privateMark && (String.fromUTF8? ⟨bytes.toArray⟩).isSome

def hasCoreTag (name : String) (tag : TagBytes) : Bool := tag = (coreTag ++ name).toUTF8.toList

def untaggedContent? (scalar : Scalar) : Option Content :=
  if scalar.plain then plainContent? scalar.text else some (.str scalar.text)

def taggedContent? (tag : TagBytes) (scalar : Scalar) : Option Content :=
  if hasCoreTag "bool" tag then (bool? scalar.text).map .bool
  else if hasCoreTag "int" tag then
    match integer? scalar.text.toList with
    | some value => if Number.fitsWord value then some (ofInteger scalar.text.toList value) else none
    | none => none
  else if hasCoreTag "float" tag then real? scalar.text.toList
  else if hasCoreTag "null" tag then if isNull scalar.text then some .null else none
  else if tag.head? = some privateMark then scalar.untaggedContent?
  else some (.str scalar.text)

def content? (scalar : Scalar) : Option Content :=
  if isPrivateTag scalar.tag then none
  else
    match scalar.tag with
    | some tag => taggedContent? tag scalar
    | none => scalar.untaggedContent?

end Scalar
end ApiAssembly.Yaml
