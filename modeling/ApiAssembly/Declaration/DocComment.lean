import ApiAssembly.Scan.Literal
import ApiAssembly.Text.WordCharacter
/-! Documentation comments of a constructor. A line with a parameter tag starts the description of
that parameter, and lines without a tag continue it. A default may stand in brackets beside the
name, or between back quotes in the description. -/
namespace ApiAssembly
open Scan Text

structure ParameterDoc where
  name : String
  initial : Option (List Char)
  description : String
deriving DecidableEq

namespace DocComment

def isNameStart (c : Char) : Bool := c.isAlpha || c = '_' || c = '$'

def isNameChar (c : Char) : Bool := isWordChar c || c = '$'

/-- A name at the start of the text, as long as it can be. -/
def name? : List Char → Option (List Char × List Char)
  | [] => none
  | c :: rest =>
    if isNameStart c then some (c :: rest.takeWhile isNameChar, rest.dropWhile isNameChar)
    else none

def lines : List Char → List (List Char)
  | [] => [[]]
  | c :: rest =>
    if c = '\n' then [] :: lines rest
    else
      match lines rest with
      | [] => [[c]]
      | line :: more => (c :: line) :: more

def dropOpenings : List Char → List Char
  | '/' :: '*' :: '*' :: rest => dropOpenings rest
  | cs => cs

def dropReversedClosings : List Char → List Char
  | '/' :: '*' :: rest => dropReversedClosings rest
  | cs => cs

/-- A line without the marks of the comment around it. -/
def content (line : List Char) : List Char :=
  let opened := dropOpenings (trim line)
  let closed := (dropReversedClosings opened.reverse).reverse
  trim (closed.dropWhile (· = '*'))

def afterTypeNote (cs : List Char) : List Char :=
  match cs with
  | '\x7b' :: rest =>
    match rest.dropWhile (· ≠ '\x7d') with
    | _ :: behind => trimStart behind
    | [] => cs
  | _ => cs

def bracketedDefault (cs : List Char) : Option (List Char) × List Char :=
  match cs with
  | '=' :: rest =>
    let text := rest.takeWhile (· ≠ ']')
    if text.isEmpty then (none, cs) else (some (trim text), rest.dropWhile (· ≠ ']'))
  | _ => (none, cs)

def dropOne (c : Char) (cs : List Char) : List Char :=
  match cs with
  | head :: rest => if head = c then rest else cs
  | [] => []

def parameterLine? (line : List Char) : Option ParameterDoc := do
  let tag := "@param".toList
  if tag.isPrefixOf line && ((line.drop tag.length).head?.any isBlank) then
    let rest := afterTypeNote (trimStart (line.drop tag.length))
    let (name, rest) ← name? (dropOne '[' rest)
    let (initial, rest) := bracketedDefault rest
    let rest := trimStart (dropOne ']' rest)
    let text := match rest with
      | '-' :: behind => trimStart behind
      | _ => rest
    pure ⟨String.ofList name, initial, String.ofList (trim text)⟩
  else none

/-- Descriptions read so far, the last one first, and whether lines still continue it. -/
structure Reading where
  docs : List ParameterDoc := []
  continues : Bool := false

def Reading.addText (reading : Reading) (text : List Char) : Reading :=
  match reading.docs with
  | doc :: earlier =>
    if reading.continues && !text.isEmpty then
      let gap := if doc.description.isEmpty then "" else " "
      let longer := doc.description ++ gap ++ String.ofList text
      { reading with docs := { doc with description := longer } :: earlier }
    else reading
  | [] => reading

def Reading.addLine (reading : Reading) (line : List Char) : Reading :=
  let text := content line
  match parameterLine? text with
  | some doc => ⟨doc :: reading.docs, true⟩
  | none =>
    if text.head? = some '@' then { reading with continues := false } else reading.addText text

/-- The last description of a name comes first. -/
def ofText (cs : List Char) : List ParameterDoc :=
  ((lines cs).foldl Reading.addLine {}).docs

/-- The comment that ends right before a place, from the reversed text before that place. The mark
that opens it is the last one before its end. -/
def openingFrom (kept : List Char) : List Char → Option (List Char)
  | '*' :: '*' :: '/' :: _ => some ('/' :: '*' :: '*' :: kept)
  | c :: rest => openingFrom (c :: kept) rest
  | [] => none

def ofReversed? (before : List Char) : Option (List Char) :=
  match before.dropWhile isBlank with
  | '/' :: '*' :: earlier => openingFrom ['*', '/'] earlier
  | _ => none

/-- The markers before a default in a description, letters in either case. The
long s is a form of the letter s. -/
def sameLetter (expected c : Char) : Bool :=
  c.toLower = expected || (expected = 's' && c = 'ſ')

def afterWord? : List Char → List Char → Option (List Char)
  | [], cs => some cs
  | expected :: word, c :: rest => if sameLetter expected c then afterWord? word rest else none
  | _ :: _, [] => none

def afterLinkWord (cs : List Char) : List Char :=
  match cs with
  | c :: _ =>
    if isBlank c then
      (["is", "to", "value"].findSome? fun word => afterWord? word.toList (trimStart cs)).getD cs
    else cs
  | [] => []

def markedDefault? (cs : List Char) : Option (List Char) := do
  let rest ← afterWord? "default".toList cs
  let rest := (afterWord? ['s'] rest).getD rest
  let rest := trimStart (afterLinkWord rest)
  let rest := match rest with
    | c :: behind => if c = ':' || c = '=' then trimStart behind else rest
    | [] => []
  match rest with
  | '\x60' :: behind =>
    let text := behind.takeWhile (· ≠ '\x60')
    if text.isEmpty || (behind.dropWhile (· ≠ '\x60')).isEmpty then none else some text
  | _ => none

/-- The search takes only whole words: the character before the marker is no part of a word. -/
def defaultFrom (previous : Option Char) : List Char → Option (List Char)
  | [] => none
  | c :: rest =>
    let here := if previous.any isWordChar then none else markedDefault? (c :: rest)
    match here with
    | some text => some text
    | none => defaultFrom (some c) rest

def defaultIn? (description : String) : Option (List Char) := defaultFrom none description.toList

end DocComment
end ApiAssembly
