import ApiAssembly.Json.Reader
import ApiAssembly.Yaml.Cursor
/-! The tokens of YAML. Blocks are opened and closed by indentation, so their tokens stand for no
character; a key is only known as such at the colon behind it. Escapes in a tag stand for bytes,
which need not make up characters; a tag ends before its first byte zero. -/
namespace ApiAssembly.Yaml

abbrev TagBytes := List UInt8

inductive Token where
  | version (major minor : Nat)
  | tagHandle (handle : String) (start : TagBytes)
  | documentStart | documentEnd | streamEnd
  | sequenceStart | mappingStart | blockEnd
  | flowSequenceStart | flowSequenceEnd | flowMappingStart | flowMappingEnd
  | entry | flowEntry | key | value
  | alias (name : String)
  | anchor (name : String)
  | tag (handle : String) (suffix : TagBytes)
  | scalar (text : String) (plain : Bool)
deriving DecidableEq

namespace Token

def isDirective : Token → Bool
  | version .. | tagHandle .. => true
  | _ => false

/-- What cannot be the content of a document. -/
def endsContent (token : Token) : Bool :=
  token.isDirective || token = documentStart || token = documentEnd || token = streamEnd

end Token

/-! Names of anchors, tags and directives. -/

/-- What may stand behind the name of an anchor. -/
def endsAnchor : Option Char → Bool
  | some c => Cursor.isBlankOrEnd (some c) || "?:,]\x7d%@`".toList.contains c
  | none => true

def anchorName? (cursor : Cursor) : Option (String × Cursor) :=
  let (name, after) := cursor.takeWhile isNameChar
  if name.isEmpty || !endsAnchor after.peek? then none else some (String.ofList name, after)

def isAddressChar (verbatim : Bool) (c : Char) : Bool :=
  isNameChar c || ";/?:@&=+$.!~*'()".toList.contains c ||
    (verbatim && ",[]".toList.contains c)

def escapedByte? : List Char → Option UInt8
  | '%' :: high :: low :: _ => do
    pure (UInt8.ofNat ((← Json.Reader.hexValue? high) * 16 + (← Json.Reader.hexValue? low)))
  | _ => none

/-- How many bytes a character has that starts with the given one. -/
def byteCount? (lead : UInt8) : Option Nat :=
  if lead < 0x80 then some 1
  else if lead / 32 = 6 then some 2
  else if lead / 16 = 14 then some 3
  else if lead / 8 = 30 then some 4
  else none

def escapedTail? : Nat → Cursor → Option (TagBytes × Cursor)
  | 0, cursor => some ([], cursor)
  | count + 1, cursor => do
    let byte ← escapedByte? cursor.rest
    if byte / 64 = 2 then
      let (tail, cursor) ← escapedTail? count (cursor.advanceBy 3)
      pure (byte :: tail, cursor)
    else none

/-- The bytes of one character. Their number is right, their value may be that of none. -/
def escapedChar? (cursor : Cursor) : Option (TagBytes × Cursor) := do
  let lead ← escapedByte? cursor.rest
  let (tail, cursor) ← escapedTail? ((← byteCount? lead) - 1) (cursor.advanceBy 3)
  pure (lead :: tail, cursor)

/-- The bytes up to the first character that cannot belong to the tag. -/
def address? (verbatim : Bool) : Nat → Cursor → Option (TagBytes × Cursor)
  | 0, cursor => some ([], cursor)
  | fuel + 1, cursor =>
    match cursor.peek? with
    | some c =>
      if c = '%' then do
        let (bytes, cursor) ← escapedChar? cursor
        let (more, cursor) ← address? verbatim fuel cursor
        pure (bytes ++ more, cursor)
      else if isAddressChar verbatim c then do
        let (more, cursor) ← address? verbatim fuel cursor.advance
        pure (c.toUInt8 :: more, cursor)
      else some ([], cursor)
    | none => some ([], cursor)

def addressAt? (verbatim : Bool) (cursor : Cursor) : Option (TagBytes × Cursor) :=
  address? verbatim cursor.rest.length cursor

def untilZero (bytes : TagBytes) : TagBytes := bytes.takeWhile (· ≠ 0)

/-- The tag of a node that is not to have one. -/
def noTag : Token := .tag "" "!".toUTF8.toList

/-- A tag in angle brackets is written out. Otherwise it has a handle, which may
be the lone mark. -/
def tagParts? (cursor : Cursor) : Option (Token × Cursor) := do
  if cursor.ahead? 1 = some '<' then
    let (address, cursor) ← addressAt? true (cursor.advanceBy 2)
    if address.isEmpty || !cursor.starts '>' then none
    else pure (.tag "" (untilZero address), cursor.advance)
  else
    let (name, after) := cursor.advance.takeWhile isNameChar
    if after.starts '!' then
      let (suffix, cursor) ← addressAt? false after.advance
      if suffix.isEmpty then none
      else pure (.tag (String.ofList ('!' :: name ++ ['!'])) (untilZero suffix), cursor)
    else
      let (suffix, cursor) ← addressAt? false cursor.advance
      if (untilZero suffix).isEmpty then pure (noTag, cursor)
      else pure (.tag "!" (untilZero suffix), cursor)

def tag? (flow : Bool) (cursor : Cursor) : Option (Token × Cursor) := do
  let (token, cursor) ← tagParts? cursor
  if cursor.blankOrEndAt 0 || (flow && cursor.starts ',') then pure (token, cursor) else none

def versionNumber? (cursor : Cursor) : Option (Nat × Cursor) :=
  let (digits, cursor) := cursor.takeWhile Char.isDigit
  if digits.isEmpty || digits.length > 9 then none else some (Decimal.digitsOf digits, cursor)

def versionDirective? (cursor : Cursor) : Option (Token × Cursor) := do
  let (major, cursor) ← versionNumber? (cursor.skipWhile isSpaceOrTab)
  if !cursor.starts '.' then none
  else
    let (minor, cursor) ← versionNumber? cursor.advance
    pure (.version major minor, cursor)

def handle? (cursor : Cursor) : Option (String × Cursor) := do
  if !cursor.starts '!' then none
  else
    let (name, after) := cursor.advance.takeWhile isNameChar
    if after.starts '!' then pure (String.ofList ('!' :: name ++ ['!']), after.advance)
    else if name.isEmpty then pure ("!", after)
    else none

def tagDirective? (cursor : Cursor) : Option (Token × Cursor) := do
  let (handle, cursor) ← handle? (cursor.skipWhile isSpaceOrTab)
  if !cursor.peek?.any isSpaceOrTab then none
  else
    let (start, cursor) ← addressAt? true (cursor.skipWhile isSpaceOrTab)
    if start.isEmpty || !cursor.blankOrEndAt 0 then none
    else pure (.tagHandle handle (untilZero start), cursor)

/-- Only a comment may stand behind a directive on its line. -/
def directive? (cursor : Cursor) : Option (Token × Cursor) := do
  let (name, after) := cursor.advance.takeWhile isNameChar
  if !after.blankOrEndAt 0 then none
  else
    let (token, cursor) ←
      if name = "YAML".toList then versionDirective? after
      else if name = "TAG".toList then tagDirective? after
      else none
    let cursor := (cursor.skipWhile isSpaceOrTab).skipComment
    if cursor.breakOrEnd then pure (token, cursor.takeBreak.2) else none

end ApiAssembly.Yaml
