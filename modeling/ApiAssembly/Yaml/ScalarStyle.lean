import ApiAssembly.Yaml.Cursor
import ApiAssembly.Yaml.ScalarValue
/-! How a text is written as a YAML scalar. Plain comes first, then single quotes, then double quotes
with escapes; texts of several lines are literal blocks. A style is passed over when the text would
be read back as something else. -/
namespace ApiAssembly.Yaml

inductive ScalarStyle where
  | plain | singleQuoted | doubleQuoted | literal
deriving DecidableEq

namespace ScalarStyle

def isShown (c : Char) : Bool :=
  isAdmitted c && c ≠ '\t' && c ≠ '\r' && c ≠ '\x85' && c ≠ '\ufeff'

def startsWithSpace (cs : List Char) : Bool := cs.head? = some ' '

def startsWithBreak (cs : List Char) : Bool := cs.head?.any isBreak

def endsWithSpace (cs : List Char) : Bool := cs.getLast? = some ' '

def endsWithBreak (cs : List Char) : Bool := cs.getLast?.any isBreak

def neighbours (cs : List Char) : List (Char × Char) := cs.zip (cs.drop 1)

def hasSpaceBeforeBreak (cs : List Char) : Bool :=
  (neighbours cs).any fun pair => pair.1 = ' ' && isBreak pair.2

def hasSpaceAfterBreak (cs : List Char) : Bool :=
  (neighbours cs).any fun pair => isBreak pair.1 && pair.2 = ' '

def isBlank (c : Char) : Bool := isSpaceOrTab c || isBreak c

def indicators : List Char :=
  ['#', ',', '[', ']', '\x7b', '\x7d', '&', '*', '!', '|', '>', '\'', '"', '%', '@', '\x60']

def startsWithIndicator : List Char → Bool
  | '-' :: '-' :: '-' :: _ => true
  | '.' :: '.' :: '.' :: _ => true
  | c :: rest =>
    indicators.contains c || ((c = '-' || c = '?') && Cursor.isBlankOrEnd rest.head?)
  | [] => false

/-- A colon before a blank or the end, or a hash behind a blank. -/
def holdsIndicator (cs : List Char) : Bool :=
  cs.getLast? = some ':' ||
    (neighbours cs).any fun pair => (pair.1 = ':' && isBlank pair.2) || (isBlank pair.1 && pair.2 = '#')

def literalFits (cs : List Char) : Bool :=
  cs.all isShown && !hasSpaceBeforeBreak cs && !endsWithSpace cs

def singleFits (cs : List Char) : Bool :=
  cs.all isShown && !hasSpaceBeforeBreak cs && !hasSpaceAfterBreak cs

def plainFits (cs : List Char) : Bool :=
  cs.all isShown && !cs.any isBreak && !startsWithSpace cs && !endsWithSpace cs &&
    !startsWithIndicator cs && !holdsIndicator cs

/-- Whether the text, written plainly, stands for itself. -/
def meansItself (cs : List Char) : Bool :=
  match Scalar.plainContent? (String.ofList cs) with
  | some (.str _) => !Scalar.isPadded (Scalar.withoutSign cs)
  | _ => false

def ofText (cs : List Char) : ScalarStyle :=
  if cs.contains '\n' then if literalFits cs then literal else doubleQuoted
  else if meansItself cs && plainFits cs then plain
  else if singleFits cs then singleQuoted
  else doubleQuoted

def spaces (count : Nat) : List Char := List.replicate count ' '

/-- Behind the last of several breaks the text goes on at the indentation. -/
def singleBody (indent : Nat) : List Char → List Char
  | [] => []
  | c :: rest =>
    if c = '\'' then '\'' :: '\'' :: singleBody indent rest
    else if isBreak c && !startsWithBreak rest then c :: (spaces indent ++ singleBody indent rest)
    else c :: singleBody indent rest

def hexDigit (value : Nat) : Char := ((Nat.toDigits 16 value).headD '0').toUpper

def hexDigits : Nat → Nat → List Char
  | 0, _ => []
  | count + 1, value => hexDigits count (value / 16) ++ [hexDigit (value % 16)]

def shortEscapes : List (Char × Char) :=
  [('\x00', '0'), ('\x07', 'a'), ('\x08', 'b'), ('\t', 't'), ('\n', 'n'), ('\x0b', 'v'),
    ('\x0c', 'f'), ('\r', 'r'), ('\x1b', 'e'), ('"', '"'), ('\\', '\\'), ('\x85', 'N'),
    ('\u2028', 'L'), ('\u2029', 'P')]

def escape (c : Char) : List Char :=
  match shortEscapes.lookup c with
  | some short => ['\\', short]
  | none =>
    if isShown c then [c]
    else if c.toNat ≤ 0xFF then '\\' :: 'x' :: hexDigits 2 c.toNat
    else if c.toNat ≤ 0xFFFF then '\\' :: 'u' :: hexDigits 4 c.toNat
    else '\\' :: 'U' :: hexDigits 8 c.toNat

/-- Whether the breaks at the end are clipped to none, kept as one, or all kept. -/
def chomping (cs : List Char) : List Char :=
  match cs.reverse with
  | [] => ['-']
  | last :: before =>
    if !isBreak last then ['-'] else if before.isEmpty || startsWithBreak before then ['+'] else []

def literalHeader (cs : List Char) : List Char :=
  '|' :: (if startsWithSpace cs || startsWithBreak cs then ['2'] else []) ++ chomping cs ++ ['\n']

def literalBody (indent : Nat) : Bool → List Char → List Char
  | _, [] => []
  | fresh, c :: rest =>
    if isBreak c then c :: literalBody indent true rest
    else (if fresh then spaces indent else []) ++ c :: literalBody indent false rest

/-- A text as it stands on a line, whose further lines are indented. -/
def written (indent : Nat) (cs : List Char) : List Char :=
  match ofText cs with
  | .plain => cs
  | .singleQuoted => '\'' :: singleBody indent cs ++ ['\'']
  | .doubleQuoted => '"' :: cs.flatMap escape ++ ['"']
  | .literal => literalHeader cs ++ literalBody indent true cs

/-- A literal block that ends in a break has its line ended by that. -/
def endsLine (cs : List Char) : Bool := ofText cs = literal && endsWithBreak cs

def line (indent : Nat) (cs : List Char) : List Char :=
  if endsLine cs then written indent cs else written indent cs ++ ['\n']

end ScalarStyle
end ApiAssembly.Yaml
