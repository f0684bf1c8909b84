import ApiAssembly.Json.Reader
import ApiAssembly.Toml.Value
/-! The scalars of TOML: texts in four kinds of quotes, truth values, numbers and moments. A reader
takes what is left of the text and returns what it has read with what is left behind it. -/
namespace ApiAssembly.Toml

def isBlank (c : Char) : Bool := c = ' ' || c = '\t'

/-- Control characters other than the tab may not stand in texts and comments. -/
def isControl (c : Char) : Bool := (c.toNat < 32 && c ≠ '\t') || c = '\x7f'

def newline? : List Char → Option (List Char)
  | '\n' :: rest => some rest
  | '\r' :: '\n' :: rest => some rest
  | _ => none

def codePoint? (length : Nat) (cs : List Char) : Option (Char × List Char) := do
  let digits := cs.take length
  let code ← digits.foldl (fun code c => do
    pure ((← code) * 16 + (← Json.Reader.hexValue? c))) (some 0)
  if digits.length = length && code.isValidChar then pure (Char.ofNat code, cs.drop length)
  else none

def escape? : List Char → Option (Char × List Char)
  | 'b' :: rest => some ('\x08', rest)
  | 't' :: rest => some ('\t', rest)
  | 'n' :: rest => some ('\n', rest)
  | 'f' :: rest => some ('\x0c', rest)
  | 'r' :: rest => some ('\r', rest)
  | 'e' :: rest => some ('\x1b', rest)
  | '"' :: rest => some ('"', rest)
  | '\\' :: rest => some ('\\', rest)
  | 'x' :: rest => codePoint? 2 rest
  | 'u' :: rest => codePoint? 4 rest
  | 'U' :: rest => codePoint? 8 rest
  | _ => none

/-- A text on one line. `kept` holds its characters, last first. -/
def line? (quote : Char) : Nat → List Char → List Char → Option (String × List Char)
  | 0, _, _ => none
  | fuel + 1, kept, cs =>
    match cs with
    | [] => none
    | c :: rest =>
      if c = quote then some (String.ofList kept.reverse, rest)
      else if c = '\\' && quote = '"' then do
        let (c, rest) ← escape? rest
        line? quote fuel (c :: kept) rest
      else if isControl c then none
      else line? quote fuel (c :: kept) rest

def skipBlankLines : Nat → List Char → List Char
  | 0, cs => cs
  | fuel + 1, cs =>
    let cs := cs.dropWhile isBlank
    match newline? cs with
    | some rest => skipBlankLines fuel rest
    | none => cs

/-- Three quotes end a text of several lines; up to two more may stand right in front of them. A
backslash at the end of a line takes the blanks and breaks behind it away. -/
def lines? (quote : Char) : Nat → List Char → List Char → Option (String × List Char)
  | 0, _, _ => none
  | fuel + 1, kept, cs =>
    match cs with
    | [] => none
    | c :: rest =>
      if c = quote then
        let quotes := cs.takeWhile (· = quote)
        let rest := cs.drop quotes.length
        if quotes.length > 5 then none
        else if quotes.length ≥ 3 then
          some (String.ofList (quotes.drop 3 ++ kept).reverse, rest)
        else lines? quote fuel (quotes ++ kept) rest
      else if c = '\\' && quote = '"' then
        match newline? (rest.dropWhile isBlank) with
        | some rest => lines? quote fuel kept (skipBlankLines rest.length rest)
        | none => do
          let (c, rest) ← escape? rest
          lines? quote fuel (c :: kept) rest
      else
        match newline? cs with
        | some rest => lines? quote fuel (if c = '\r' then '\n' :: c :: kept else c :: kept) rest
        | none => if isControl c then none else lines? quote fuel (c :: kept) rest

/-- The break right behind the opening quotes does not count. -/
def quoted? (cs : List Char) : Option (String × List Char) :=
  match cs with
  | '"' :: '"' :: '"' :: rest =>
    lines? '"' (rest.length + 1) [] ((newline? rest).getD rest)
  | '\'' :: '\'' :: '\'' :: rest =>
    lines? '\'' (rest.length + 1) [] ((newline? rest).getD rest)
  | '"' :: rest => line? '"' (rest.length + 1) [] rest
  | '\'' :: rest => line? '\'' (rest.length + 1) [] rest
  | _ => none

/-! Numbers and moments are checked and kept as written. Integers have to fit 128 bits, with or
without a sign, and other numbers have to be finite unless they say that they are not. -/

/-- Digits may be grouped by single underscores between them. -/
def isGrouped (isDigit : Char → Bool) : List Char → Bool
  | [] => false
  | c :: rest =>
    isDigit c && match rest with
      | [] => true
      | '_' :: rest => isGrouped isDigit rest
      | rest => isGrouped isDigit rest

def withoutSign : List Char → List Char
  | '+' :: rest => rest
  | '-' :: rest => rest
  | cs => cs

def isHexDigit (c : Char) : Bool := (Json.Reader.hexValue? c).isSome

def isWhole (cs : List Char) : Bool :=
  isGrouped Char.isDigit cs && (cs.head? ≠ some '0' || cs.length = 1)

def naturalOf (base : Nat) (cs : List Char) : Nat :=
  (cs.filter (· ≠ '_')).foldl (fun total c => total * base + (Json.Reader.hexValue? c).getD 0) 0

def isUnsigned (base : Nat) (isDigit : Char → Bool) (cs : List Char) : Bool :=
  isGrouped isDigit cs && naturalOf base cs < 0x100000000000000000000000000000000

def isInteger (cs : List Char) : Bool :=
  match cs with
  | '0' :: 'x' :: digits => isUnsigned 16 isHexDigit digits
  | '0' :: 'o' :: digits => isUnsigned 8 (fun c => '0' ≤ c && c ≤ '7') digits
  | '0' :: 'b' :: digits => isUnsigned 2 (fun c => c = '0' || c = '1') digits
  | '-' :: digits => isWhole digits && naturalOf 10 digits ≤ 0x80000000000000000000000000000000
  | cs => isWhole (withoutSign cs) && isUnsigned 10 Char.isDigit (withoutSign cs)

def isPower : List Char → Bool
  | c :: rest => (c = 'e' || c = 'E') && isGrouped Char.isDigit (withoutSign rest)
  | [] => false

def isExponent (c : Char) : Bool := c = 'e' || c = 'E'

def isReal (cs : List Char) : Bool :=
  let cs := withoutSign cs
  let whole := cs.takeWhile fun c => c.isDigit || c = '_'
  let named := cs = "inf".toList || cs = "nan".toList
  named || isWhole whole && (match cs.drop whole.length with
    | '.' :: rest =>
      let fraction := rest.takeWhile (! isExponent ·)
      let power := rest.drop fraction.length
      isGrouped Char.isDigit fraction && (power.isEmpty || isPower power)
    | power => isPower power) && (Decimal.read? (cs.filter (· ≠ '_'))).isSome

def twoDigits? (limit : Nat) : List Char → Option (List Char)
  | a :: b :: rest =>
    if a.isDigit && b.isDigit && Decimal.digitsOf [a, b] ≤ limit then some rest else none
  | _ => none

def sign? (sign : Char) : List Char → Option (List Char)
  | c :: rest => if c = sign then some rest else none
  | [] => none

def isLeapYear (year : Nat) : Bool := year % 4 = 0 && (year % 100 ≠ 0 || year % 400 = 0)

def daysIn (year month : Nat) : Nat :=
  if month = 2 then if isLeapYear year then 29 else 28
  else if month = 4 || month = 6 || month = 9 || month = 11 then 30 else 31

def date? (cs : List Char) : Option (List Char) := do
  let year := cs.take 4
  if year.length = 4 && year.all Char.isDigit then
    let months ← sign? '-' (cs.drop 4)
    let rest ← twoDigits? 12 months
    let month := Decimal.digitsOf (months.take 2)
    let days ← sign? '-' rest
    let rest ← twoDigits? (daysIn (Decimal.digitsOf year) month) days
    if month = 0 || Decimal.digitsOf (days.take 2) = 0 then none else some rest
  else none

/-- Seconds may be left out, and may have a fraction. -/
def time? (cs : List Char) : Option (List Char) := do
  let rest ← twoDigits? 59 (← sign? ':' (← twoDigits? 23 cs))
  match sign? ':' rest with
  | none => some rest
  | some rest =>
    let rest ← twoDigits? 60 rest
    match sign? '.' rest with
    | none => some rest
    | some rest =>
      let fraction := rest.takeWhile Char.isDigit
      if fraction.isEmpty then none else some (rest.drop fraction.length)

def isOffset : List Char → Bool
  | [] => true
  | ['Z'] => true
  | ['z'] => true
  | c :: rest =>
    (c = '+' || c = '-') &&
      (((twoDigits? 23 rest).bind (sign? ':')).bind (twoDigits? 59)) = some []

def isMoment (cs : List Char) : Bool :=
  match date? cs with
  | some [] => true
  | some (c :: rest) =>
    (c = 'T' || c = 't' || c = ' ') && (time? rest).any isOffset
  | none => time? cs = some []

def endsBare (c : Char) : Bool := isControl c || isBlank c || "#,]\x7d=".toList.contains c

/-- A blank may stand between a date and a time. -/
def bareText (cs : List Char) : List Char :=
  let first := cs.takeWhile (! endsBare ·)
  match cs.drop first.length with
  | ' ' :: c :: rest =>
    if date? first = some [] && c.isDigit then
      first ++ ' ' :: (c :: rest).takeWhile (! endsBare ·)
    else first
  | _ => first

def bare? (cs : List Char) : Option (Value × List Char) :=
  let text := bareText cs
  let rest := cs.drop text.length
  if text = "true".toList then some (.truth true, rest)
  else if text = "false".toList then some (.truth false, rest)
  else if isInteger text || isReal text then some (.number (String.ofList text), rest)
  else if isMoment text then some (.moment (String.ofList text), rest)
  else none

end ApiAssembly.Toml
