import ApiAssembly.Json.Reader
import ApiAssembly.Yaml.Cursor
/-! The texts of YAML scalars: plain ones, quoted ones, and blocks. A break between lines is folded
into a blank unless empty lines follow it, which are kept instead. Blocks keep or fold their
breaks, and say what becomes of those at the end. The fuel of each reader bounds the characters
that are left. -/
namespace ApiAssembly.Yaml

/-- Blanks and breaks between two parts of a scalar. -/
structure Gap where
  blanks : List Char := []
  firstBreak : Option (List Char) := none
  laterBreaks : List Char := []

namespace Gap

def folded (gap : Gap) : List Char :=
  match gap.firstBreak with
  | none => gap.blanks
  | some ['\n'] => if gap.laterBreaks.isEmpty then [' '] else gap.laterBreaks
  | some first => first ++ gap.laterBreaks

/-- Tabs in front of the least column of a continued line are refused. -/
def read? (leastColumn : Nat) : Nat → Gap → Cursor → Option (Gap × Cursor)
  | 0, gap, cursor => some (gap, cursor)
  | fuel + 1, gap, cursor =>
    match cursor.peek? with
    | none => some (gap, cursor)
    | some c =>
      if isSpaceOrTab c then
        if gap.firstBreak.isSome then
          if c = '\t' && cursor.column < leastColumn then none
          else read? leastColumn fuel gap cursor.advance
        else read? leastColumn fuel { gap with blanks := gap.blanks ++ [c] } cursor.advance
      else if isBreak c then
        let (text, cursor) := cursor.takeBreak
        match gap.firstBreak with
        | none => read? leastColumn fuel { gap with blanks := [], firstBreak := some text } cursor
        | some _ =>
          read? leastColumn fuel { gap with laterBreaks := gap.laterBreaks ++ text } cursor
      else some (gap, cursor)

end Gap

structure ScannedScalar where
  text : List Char
  plain : Bool
  -- Whether the scalar ended behind a break, so that a key may follow.
  brokeLine : Bool
  cursor : Cursor

def isFlowIndicator (c : Char) : Bool :=
  c = ',' || c = '[' || c = ']' || c = '\x7b' || c = '\x7d'

/-- One run of a plain scalar, last character first. -/
def plainRun? (flow : Bool) : Nat → List Char → Cursor → Option (List Char × Cursor)
  | 0, kept, cursor => some (kept, cursor)
  | fuel + 1, kept, cursor =>
    match cursor.peek? with
    | none => some (kept, cursor)
    | some c =>
      if isSpaceOrTab c || isBreak c then some (kept, cursor)
      else if flow && c = ':' && (cursor.ahead? 1).any (fun d => isFlowIndicator d || d = '?') then
        none
      else if (c = ':' && cursor.blankOrEndAt 1) || (flow && isFlowIndicator c) then
        some (kept, cursor)
      else plainRun? flow fuel (c :: kept) cursor.advance

/-- Here `kept` is the text so far, last character first, and `gap` what stands
before the next run. -/
def plainFrom? (flow : Bool) (leastColumn : Nat) :
    Nat → List Char → Gap → Cursor → Option ScannedScalar
  | 0, _, _, _ => none
  | fuel + 1, kept, gap, cursor => do
    let finish (gap : Gap) (cursor : Cursor) : ScannedScalar :=
      ⟨kept.reverse, true, gap.firstBreak.isSome, cursor⟩
    if cursor.atDocumentMarker || cursor.starts '#' then pure (finish gap cursor)
    else
      let (run, after) ← plainRun? flow cursor.rest.length [] cursor
      let kept := if run.isEmpty then kept else run ++ gap.folded.reverse ++ kept
      let gap := if run.isEmpty then gap else {}
      let finish (gap : Gap) (cursor : Cursor) : ScannedScalar :=
        ⟨kept.reverse, true, gap.firstBreak.isSome, cursor⟩
      if after.peek?.any (fun c => isSpaceOrTab c || isBreak c) then
        let (gap, after) ← gap.read? leastColumn after.rest.length after
        if !flow && after.column < leastColumn then pure (finish gap after)
        else plainFrom? flow leastColumn fuel kept gap after
      else pure (finish gap after)

def plain? (flow : Bool) (leastColumn : Nat) (cursor : Cursor) : Option ScannedScalar :=
  plainFrom? flow leastColumn (cursor.rest.length + 1) [] {} cursor

def hexNumber? (digits : List Char) : Option Nat :=
  digits.foldl (fun total c => do
    pure ((← total) * 16 + (← Json.Reader.hexValue? c))) (some 0)

def numberedChar? (length : Nat) (cursor : Cursor) : Option (Char × Cursor) := do
  let digits := cursor.rest.take length
  if digits.length < length then none
  else
    let number ← hexNumber? digits
    if number.isValidChar then some (Char.ofNat number, cursor.advanceBy length) else none

def namedEscapes : List (Char × Char) := [
  ('0', '\x00'), ('a', '\x07'), ('b', '\x08'), ('t', '\t'), ('\t', '\t'), ('n', '\n'),
  ('v', '\x0b'), ('f', '\x0c'), ('r', '\r'), ('e', '\x1b'), (' ', ' '), ('"', '"'), ('/', '/'),
  ('\\', '\\'), ('N', '\x85'), ('_', '\xa0'), ('L', '\u2028'), ('P', '\u2029')]

/-- The cursor stands behind the backslash. -/
def escape? (cursor : Cursor) : Option (Char × Cursor) := do
  let c ← cursor.peek?
  match namedEscapes.find? fun entry => entry.1 = c with
  | some entry => some (entry.2, cursor.advance)
  | none =>
    if c = 'x' then numberedChar? 2 cursor.advance
    else if c = 'u' then numberedChar? 4 cursor.advance
    else if c = 'U' then numberedChar? 8 cursor.advance
    else none

/-- One run of a quoted scalar, last character first. A backslash before a break swallows it. -/
def quotedRun? (quote : Char) : Nat → List Char → Cursor → Option (List Char × Bool × Cursor)
  | 0, kept, cursor => some (kept, false, cursor)
  | fuel + 1, kept, cursor =>
    match cursor.peek? with
    | none => some (kept, false, cursor)
    | some c =>
      if isSpaceOrTab c || isBreak c then some (kept, false, cursor)
      else if quote = '\'' && c = '\'' && cursor.ahead? 1 = some '\'' then
        quotedRun? quote fuel ('\'' :: kept) (cursor.advanceBy 2)
      else if c = quote then some (kept, false, cursor)
      else if quote = '"' && c = '\\' then
        if (cursor.ahead? 1).any isBreak then some (kept, true, cursor.advance.takeBreak.2)
        else
          match escape? cursor.advance with
          | some (c, cursor) => quotedRun? quote fuel (c :: kept) cursor
          | none => none
      else quotedRun? quote fuel (c :: kept) cursor.advance

def quotedFrom? (quote : Char) : Nat → List Char → Cursor → Option ScannedScalar
  | 0, _, _ => none
  | fuel + 1, kept, cursor => do
    if cursor.atDocumentMarker || cursor.atEnd then none
    else
      let (run, swallowed, after) ← quotedRun? quote cursor.rest.length [] cursor
      let kept := run ++ kept
      if after.starts quote then pure ⟨kept.reverse, false, false, after.advance⟩
      else
        let gap : Gap := if swallowed then { firstBreak := some [] } else {}
        let (gap, after) ← gap.read? 0 after.rest.length after
        quotedFrom? quote fuel (gap.folded.reverse ++ kept) after

def quoted? (quote : Char) (cursor : Cursor) : Option ScannedScalar :=
  quotedFrom? quote (cursor.rest.length + 1) [] cursor.advance

inductive Chomping where
  | strip | clip | keep
deriving DecidableEq

structure BlockHeader where
  chomping : Chomping := .clip
  increment : Option Nat := none
  cursor : Cursor

def chomping? (cursor : Cursor) : Option Chomping :=
  if cursor.starts '+' then some .keep else if cursor.starts '-' then some .strip else none

/-- A digit is an increment of the indentation, and never zero. -/
def increment? (cursor : Cursor) : Option (Option Nat) :=
  match cursor.peek? with
  | some c =>
    if c = '0' then none
    else if c.isDigit then some (some (c.toNat - '0'.toNat))
    else some none
  | none => some none

def blockSigns? (cursor : Cursor) : Option BlockHeader := do
  match chomping? cursor with
  | some chomping =>
    let cursor := cursor.advance
    match ← increment? cursor with
    | some increment => pure ⟨chomping, some increment, cursor.advance⟩
    | none => pure ⟨chomping, none, cursor⟩
  | none =>
    match ← increment? cursor with
    | some increment =>
      let cursor := cursor.advance
      match chomping? cursor with
      | some chomping => pure ⟨chomping, some increment, cursor.advance⟩
      | none => pure ⟨.clip, some increment, cursor⟩
    | none => pure ⟨.clip, none, cursor⟩

def blockHeader? (cursor : Cursor) : Option BlockHeader := do
  let header ← blockSigns? cursor
  let cursor := (header.cursor.skipWhile isSpaceOrTab).skipComment
  if cursor.breakOrEnd then pure { header with cursor := cursor.takeBreak.2 } else none

/-- Empty lines in front of a line of a block. `width` is the widest indentation met. -/
structure Lead where
  breaks : List Char
  width : Nat
  cursor : Cursor

def lead? (indent : Option Nat) : Nat → List Char → Nat → Cursor → Option Lead
  | 0, breaks, width, cursor => some ⟨breaks, width, cursor⟩
  | fuel + 1, breaks, width, cursor =>
    let inside (cursor : Cursor) : Bool := indent.all fun indent => cursor.column < indent
    let spaces := (cursor.rest.takeWhile (· = ' ')).length
    let cursor := cursor.advanceBy (match indent with
      | none => spaces
      | some indent => min spaces (indent - cursor.column))
    let width := max width cursor.column
    if inside cursor && cursor.starts '\t' then none
    else if cursor.peek?.any isBreak then
      let (text, cursor) := cursor.takeBreak
      lead? indent fuel (breaks ++ text) width cursor
    else some ⟨breaks, width, cursor⟩

/-- What has been read of a block: its text, the break behind its last line, and the empty lines
behind that. `blankLine` tells whether the last line started with a blank. -/
structure BlockText where
  text : List Char := []
  lastBreak : List Char := []
  breaks : List Char := []
  blankLine : Bool := false

def BlockText.joined (literal startsBlank : Bool) (block : BlockText) : List Char :=
  if !literal && block.lastBreak.head? = some '\n' && !block.blankLine && !startsBlank then
    block.text ++ (if block.breaks.isEmpty then [' '] else []) ++ block.breaks
  else block.text ++ block.lastBreak ++ block.breaks

def blockLines? (literal : Bool) (indent : Nat) :
    Nat → BlockText → Cursor → Option (BlockText × Cursor)
  | 0, block, cursor => some (block, cursor)
  | fuel + 1, block, cursor =>
    if cursor.column = indent && !cursor.atEnd then do
      let startsBlank := cursor.peek?.any isSpaceOrTab
      let before := block.joined literal startsBlank
      let (line, cursor) := cursor.takeWhile (! isBreak ·)
      let (lastBreak, cursor) := cursor.takeBreak
      let lead ← lead? (some indent) (cursor.rest.length + 1) [] 0 cursor
      blockLines? literal indent fuel ⟨before ++ line, lastBreak, lead.breaks, startsBlank⟩
        lead.cursor
    else some (block, cursor)

def BlockText.chomped (chomping : Chomping) (block : BlockText) : List Char :=
  match chomping with
  | .strip => block.text
  | .clip => block.text ++ block.lastBreak
  | .keep => block.text ++ block.lastBreak ++ block.breaks

/-- The cursor stands at the sign of the block; `outer` is the indentation around it, if any. -/
def block? (literal : Bool) (outer : Option Nat) (cursor : Cursor) : Option ScannedScalar := do
  let header ← blockHeader? cursor.advance
  let given := header.increment.map fun increment => outer.getD 0 + increment
  let lead ← lead? given (header.cursor.rest.length + 1) [] 0 header.cursor
  let least := match outer with
    | some outer => outer + 1
    | none => 1
  let indent := given.getD (max lead.width least)
  let (block, cursor) ← blockLines? literal indent (lead.cursor.rest.length + 1)
    { breaks := lead.breaks } lead.cursor
  pure ⟨block.chomped header.chomping, false, true, cursor⟩

end ApiAssembly.Yaml
