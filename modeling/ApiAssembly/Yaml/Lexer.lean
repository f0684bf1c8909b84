import ApiAssembly.Yaml.Scalar
import ApiAssembly.Yaml.Token
/-! Reading the tokens of a text. What stands where a key may stand is remembered until it is known
whether a colon follows: at the colon the token of the key is put in front of it, with the start
of a mapping if the key is indented deeper than the block around it. A key ends on its line and
within 1024 characters. -/
namespace ApiAssembly.Yaml

/-- What may turn out to be a key: the number of its first token, and its place. It must be one if
nothing else can stand at its indentation. -/
structure KeyPlace where
  required : Bool
  number : Nat
  line : Nat
  column : Nat
  index : Nat

structure Lexer where
  cursor : Cursor
  -- The indentations of the open blocks, innermost first.
  indents : List Nat := []
  keyAllowed : Bool := true
  key : Option KeyPlace := none
  -- One place for each open flow collection, innermost first.
  outerKeys : List (Option KeyPlace) := []
  -- The tokens read, last first.
  tokens : List Token := []

namespace Lexer

def inFlow (lexer : Lexer) : Bool := !lexer.outerKeys.isEmpty

def push (token : Token) (lexer : Lexer) : Lexer :=
  { lexer with tokens := token :: lexer.tokens }

/-- A sign of so many characters is a token of its own. -/
def pushSign (token : Token) (length : Nat) (lexer : Lexer) : Lexer :=
  { lexer.push token with cursor := lexer.cursor.advanceBy length }

def insertAt (number : Nat) (token : Token) (lexer : Lexer) : Lexer :=
  let later := lexer.tokens.length - number
  { lexer with tokens := lexer.tokens.take later ++ token :: lexer.tokens.drop later }

def isDeeper (column : Nat) (lexer : Lexer) : Bool :=
  !lexer.inFlow && lexer.indents.head?.all fun indent => indent < column

/-- A block starts where the indentation grows. -/
def openBlock (column number : Nat) (token : Token) (lexer : Lexer) : Lexer :=
  if lexer.isDeeper column then
    { lexer.insertAt number token with indents := column :: lexer.indents }
  else lexer

def openBlockHere (token : Token) (lexer : Lexer) : Lexer :=
  lexer.openBlock lexer.cursor.column lexer.tokens.length token

/-- Blocks that are indented deeper than the column end; without a column, all of them. -/
def closeBlocks (column : Option Nat) (lexer : Lexer) : Lexer :=
  if lexer.inFlow then lexer
  else
    let closed := lexer.indents.takeWhile fun indent => column.all fun column => column < indent
    { lexer with
      tokens := List.replicate closed.length .blockEnd ++ lexer.tokens
      indents := lexer.indents.drop closed.length }

def KeyPlace.isStale (cursor : Cursor) (place : KeyPlace) : Bool :=
  place.line < cursor.line || place.index + 1024 < cursor.index

def freshKey? (cursor : Cursor) : Option KeyPlace → Option (Option KeyPlace)
  | some place =>
    if KeyPlace.isStale cursor place then if place.required then none else some none
    else some (some place)
  | none => some none

def dropStaleKeys? (lexer : Lexer) : Option Lexer := do
  pure { lexer with
    key := ← freshKey? lexer.cursor lexer.key
    outerKeys := ← lexer.outerKeys.mapM (freshKey? lexer.cursor) }

def dropKey? (lexer : Lexer) : Option Lexer :=
  if lexer.key.any KeyPlace.required then none else some { lexer with key := none }

def saveKey? (lexer : Lexer) : Option Lexer := do
  if lexer.keyAllowed then
    let lexer ← lexer.dropKey?
    let cursor := lexer.cursor
    let required := !lexer.inFlow && lexer.indents.head? = some cursor.column
    let place : KeyPlace :=
      ⟨required, lexer.tokens.length, cursor.line, cursor.column, cursor.index⟩
    pure { lexer with key := some place }
  else pure lexer

def allowKey (allowed : Bool) (lexer : Lexer) : Lexer := { lexer with keyAllowed := allowed }

/-- Blanks, comments and breaks. Tabs are blanks where no key can stand, and so is a byte order mark
at the start of a line. -/
def skipBlanks : Nat → Lexer → Lexer
  | 0, lexer => lexer
  | fuel + 1, lexer =>
    let tabs := lexer.inFlow || !lexer.keyAllowed
    let start := lexer.cursor.skipMark
    let cursor := (start.skipWhile fun c => c = ' ' || (tabs && c = '\t')).skipComment
    if cursor.peek?.any isBreak then
      skipBlanks fuel { lexer with
        cursor := cursor.takeBreak.2, keyAllowed := lexer.keyAllowed || !lexer.inFlow }
    else { lexer with cursor }

def openFlow? (token : Token) (lexer : Lexer) : Option Lexer := do
  let lexer ← lexer.saveKey?
  pure ({ lexer with
    key := none, outerKeys := lexer.key :: lexer.outerKeys }.allowKey true |>.pushSign token 1)

def closeFlow? (token : Token) (lexer : Lexer) : Option Lexer := do
  let lexer ← lexer.dropKey?
  let lexer := match lexer.outerKeys with
    | key :: outerKeys => { lexer with key, outerKeys }
    | [] => lexer
  pure ((lexer.allowKey false).pushSign token 1)

def flowEntry? (lexer : Lexer) : Option Lexer := do
  pure (((← lexer.dropKey?).allowKey true).pushSign .flowEntry 1)

def entry? (lexer : Lexer) : Option Lexer := do
  if !lexer.inFlow && !lexer.keyAllowed then none
  else
    let lexer ← (lexer.openBlockHere .sequenceStart).dropKey?
    pure ((lexer.allowKey true).pushSign .entry 1)

def key? (lexer : Lexer) : Option Lexer := do
  if !lexer.inFlow && !lexer.keyAllowed then none
  else
    let lexer ← (lexer.openBlockHere .mappingStart).dropKey?
    pure ((lexer.allowKey !lexer.inFlow).pushSign .key 1)

def value? (lexer : Lexer) : Option Lexer :=
  match lexer.key with
  | some place =>
    let lexer := (lexer.insertAt place.number .key).openBlock place.column place.number .mappingStart
    some (({ lexer with key := none }.allowKey false).pushSign .value 1)
  | none =>
    if !lexer.inFlow && !lexer.keyAllowed then none
    else
      let lexer := lexer.openBlockHere .mappingStart
      some ((lexer.allowKey !lexer.inFlow).pushSign .value 1)

/-- A token of several characters that may be the start of a key. -/
def pushRead? (read : Cursor → Option (Token × Cursor)) (lexer : Lexer) : Option Lexer := do
  let lexer ← lexer.saveKey?
  let (token, cursor) ← read lexer.cursor
  pure { (lexer.allowKey false).push token with cursor }

def named? (token : String → Token) (lexer : Lexer) : Option Lexer :=
  lexer.pushRead? fun cursor =>
    (anchorName? cursor.advance).map fun named => (token named.1, named.2)

def pushScalar (scalar : ScannedScalar) (lexer : Lexer) : Lexer :=
  { lexer.push (.scalar (String.ofList scalar.text) scalar.plain) with
    cursor := scalar.cursor, keyAllowed := lexer.keyAllowed || scalar.brokeLine }

def quoted? (quote : Char) (lexer : Lexer) : Option Lexer := do
  let lexer ← lexer.saveKey?
  pure ((lexer.allowKey false).pushScalar (← Yaml.quoted? quote lexer.cursor))

def plain? (lexer : Lexer) : Option Lexer := do
  let lexer ← lexer.saveKey?
  let leastColumn := match lexer.indents.head? with
    | some indent => indent + 1
    | none => 0
  pure ((lexer.allowKey false).pushScalar
    (← Yaml.plain? lexer.inFlow leastColumn lexer.cursor))

def block? (literal : Bool) (lexer : Lexer) : Option Lexer := do
  let lexer ← lexer.dropKey?
  pure ((lexer.allowKey true).pushScalar
    (← Yaml.block? literal lexer.indents.head? lexer.cursor))

def directive? (lexer : Lexer) : Option Lexer := do
  let lexer ← (lexer.closeBlocks none).dropKey?
  let (token, cursor) ← Yaml.directive? lexer.cursor
  pure { (lexer.allowKey false).push token with cursor }

def marker? (token : Token) (lexer : Lexer) : Option Lexer := do
  let lexer ← (lexer.closeBlocks none).dropKey?
  pure ((lexer.allowKey false).pushSign token 3)

def end? (lexer : Lexer) : Option Lexer := do
  pure ((← (lexer.closeBlocks none).dropKey?).push .streamEnd)

def startsPlain (inFlow : Bool) (cursor : Cursor) : Bool :=
  cursor.peek?.any fun c =>
    !(isSpaceOrTab c || isBreak c || "-?:,[]\x7b\x7d#&*!|>'\"%@`".toList.contains c) ||
      (c = '-' && !(cursor.ahead? 1).any isSpaceOrTab) ||
      (!inFlow && (c = '?' || c = ':') && !cursor.blankOrEndAt 1)

def sign? (c : Char) (lexer : Lexer) : Option Lexer :=
  let blankBehind := lexer.cursor.blankOrEndAt 1
  if lexer.cursor.column = 0 && c = '%' then lexer.directive?
  else if lexer.cursor.atMarker '-' then lexer.marker? .documentStart
  else if lexer.cursor.atMarker '.' then lexer.marker? .documentEnd
  else if c = '[' then lexer.openFlow? .flowSequenceStart
  else if c = '\x7b' then lexer.openFlow? .flowMappingStart
  else if c = ']' then lexer.closeFlow? .flowSequenceEnd
  else if c = '\x7d' then lexer.closeFlow? .flowMappingEnd
  else if c = ',' then lexer.flowEntry?
  else if c = '-' && blankBehind then lexer.entry?
  else if c = '?' && (lexer.inFlow || blankBehind) then lexer.key?
  else if c = ':' && (lexer.inFlow || blankBehind) then lexer.value?
  else if c = '*' then lexer.named? .alias
  else if c = '&' then lexer.named? .anchor
  else if c = '!' then lexer.pushRead? (tag? lexer.inFlow)
  else if c = '|' && !lexer.inFlow then lexer.block? true
  else if c = '>' && !lexer.inFlow then lexer.block? false
  else if c = '\'' || c = '"' then lexer.quoted? c
  else if startsPlain lexer.inFlow lexer.cursor then lexer.plain?
  else none

/-- Every step but the last takes a character, so the length of the text is fuel enough. -/
def run? : Nat → Lexer → Option (List Token)
  | 0, _ => none
  | fuel + 1, lexer => do
    let lexer ← (lexer.skipBlanks (lexer.cursor.rest.length + 1)).dropStaleKeys?
    let lexer := lexer.closeBlocks (some lexer.cursor.column)
    match lexer.cursor.peek? with
    | none => pure (← lexer.end?).tokens.reverse
    | some c => run? fuel (← lexer.sign? c)

end Lexer

def tokens? (text : String) : Option (List Token) :=
  let cs := text.toList
  if cs.all isAdmitted then Lexer.run? (cs.length + 2) { cursor := { rest := cs } } else none

end ApiAssembly.Yaml
