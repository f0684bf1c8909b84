/-! A place in a YAML text: what is left of it, and the line and column reached. Line breaks are read
as one kind of break, except for the two separators that keep their own. -/
namespace ApiAssembly.Yaml

def isSpaceOrTab (c : Char) : Bool := c = ' ' || c = '\t'

def isBreak (c : Char) : Bool :=
  c = '\n' || c = '\r' || c = '\x85' || c = '\u2028' || c = '\u2029'

def isNameChar (c : Char) : Bool := c.isAlphanum || c = '_' || c = '-'

/-- The characters that a document may hold. -/
def isAdmitted (c : Char) : Bool :=
  c = '\t' || c = '\n' || c = '\r' || (' ' ≤ c && c ≤ '~') || c = '\x85' ||
    (0xA0 ≤ c.toNat && c.toNat ≤ 0xFFFD) || 0x10000 ≤ c.toNat

structure Cursor where
  rest : List Char
  line : Nat := 0
  column : Nat := 0
  index : Nat := 0

namespace Cursor

def peek? (cursor : Cursor) : Option Char := cursor.rest.head?

def atEnd (cursor : Cursor) : Bool := cursor.rest.isEmpty

def starts (c : Char) (cursor : Cursor) : Bool := cursor.rest.head? = some c

/-- The character that stands so many places ahead. -/
def ahead? (count : Nat) (cursor : Cursor) : Option Char := cursor.rest[count]?

def isBlankOrEnd : Option Char → Bool
  | some c => isSpaceOrTab c || isBreak c
  | none => true

def blankOrEndAt (count : Nat) (cursor : Cursor) : Bool := isBlankOrEnd (cursor.ahead? count)

def breakOrEnd (cursor : Cursor) : Bool :=
  match cursor.peek? with
  | some c => isBreak c
  | none => true

def advance (cursor : Cursor) : Cursor :=
  { cursor with
    rest := cursor.rest.drop 1, column := cursor.column + 1, index := cursor.index + 1 }

def advanceBy : Nat → Cursor → Cursor
  | 0, cursor => cursor
  | count + 1, cursor => advanceBy count cursor.advance

def nextLine (length : Nat) (cursor : Cursor) : Cursor where
  rest := cursor.rest.drop length
  line := cursor.line + 1
  column := 0
  index := cursor.index + length

/-- The break at the cursor as it is read, and the cursor behind it. -/
def takeBreak (cursor : Cursor) : List Char × Cursor :=
  match cursor.rest with
  | '\r' :: '\n' :: _ => (['\n'], cursor.nextLine 2)
  | c :: _ =>
    if c = '\u2028' || c = '\u2029' then ([c], cursor.nextLine 1)
    else if isBreak c then (['\n'], cursor.nextLine 1)
    else ([], cursor)
  | [] => ([], cursor)

def skipWhile (skips : Char → Bool) (cursor : Cursor) : Cursor :=
  cursor.advanceBy (cursor.rest.takeWhile skips).length

def takeWhile (takes : Char → Bool) (cursor : Cursor) : List Char × Cursor :=
  let text := cursor.rest.takeWhile takes
  (text, cursor.advanceBy text.length)

/-- One byte order mark at the start of a line. -/
def skipMark (cursor : Cursor) : Cursor :=
  if cursor.column = 0 && cursor.starts '\ufeff' then cursor.advance else cursor

def skipComment (cursor : Cursor) : Cursor :=
  if cursor.starts '#' then cursor.skipWhile (! isBreak ·) else cursor

/-- A document marker is three equal signs at the start of a line, with a blank behind them. -/
def atMarker (sign : Char) (cursor : Cursor) : Bool :=
  cursor.column = 0 && [sign, sign, sign].isPrefixOf cursor.rest && cursor.blankOrEndAt 3

def atDocumentMarker (cursor : Cursor) : Bool := cursor.atMarker '-' || cursor.atMarker '.'

end Cursor
end ApiAssembly.Yaml
