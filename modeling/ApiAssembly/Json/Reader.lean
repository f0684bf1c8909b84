import ApiAssembly.Decimal.Reader
import ApiAssembly.Decimal.Stepwise
import ApiAssembly.Content
/-! Reading JSON text. The grammar is the strict one: no comments, no trailing commas, no leading
zeros, and one value with nothing but blanks around it. Arrays and objects nest to a given
depth. A reader takes what is left of the text and returns a value with what is left after it. -/
namespace ApiAssembly.Json.Reader
open Decimal (digitsOf)

def isBlank (c : Char) : Bool := c = ' ' || c = '\n' || c = '\t' || c = '\r'

def skipBlanks (cs : List Char) : List Char := cs.dropWhile isBlank

def hexValue? (c : Char) : Option Nat :=
  if c.isDigit then some (c.toNat - '0'.toNat)
  else if 'a' ≤ c && c ≤ 'f' then some (c.toNat - 'a'.toNat + 10)
  else if 'A' ≤ c && c ≤ 'F' then some (c.toNat - 'A'.toNat + 10)
  else none

def hexQuad? : List Char → Option (Nat × List Char)
  | a :: b :: c :: d :: rest => do
    let a ← hexValue? a
    let b ← hexValue? b
    let c ← hexValue? c
    let d ← hexValue? d
    pure (((a * 16 + b) * 16 + c) * 16 + d, rest)
  | _ => none

/-- A code unit of the upper half of a pair needs the lower half right behind it. -/
def escapedUnit? (cs : List Char) : Option (Char × List Char) := do
  let (unit, rest) ← hexQuad? cs
  if 0xD800 ≤ unit ∧ unit < 0xDC00 then
    match rest with
    | '\\' :: 'u' :: more =>
      let (low, rest) ← hexQuad? more
      if 0xDC00 ≤ low ∧ low < 0xE000 then
        pure (Char.ofNat (0x10000 + (unit - 0xD800) * 0x400 + (low - 0xDC00)), rest)
      else none
    | _ => none
  else if 0xDC00 ≤ unit ∧ unit < 0xE000 then none
  else pure (Char.ofNat unit, rest)

def escaped? : List Char → Option (Char × List Char)
  | '"' :: rest => some ('"', rest)
  | '\\' :: rest => some ('\\', rest)
  | '/' :: rest => some ('/', rest)
  | 'b' :: rest => some ('\x08', rest)
  | 'f' :: rest => some ('\x0c', rest)
  | 'n' :: rest => some ('\n', rest)
  | 'r' :: rest => some ('\r', rest)
  | 't' :: rest => some ('\t', rest)
  | 'u' :: rest => escapedUnit? rest
  | _ => none

/-- The fuel bounds the characters of the text; `kept` holds the characters read, last first. -/
def string? : Nat → List Char → List Char → Option (String × List Char)
  | 0, _, _ => none
  | fuel + 1, kept, cs =>
    match cs with
    | '"' :: rest => some (String.ofList kept.reverse, rest)
    | '\\' :: rest => do
      let (c, rest) ← escaped? rest
      string? fuel (c :: kept) rest
    | c :: rest => if c.toNat < 32 then none else string? fuel (c :: kept) rest
    | [] => none

def exponent? : List Char → Option (Option Int × List Char)
  | mark :: rest =>
    if mark = 'e' || mark = 'E' then
      let (negative, rest) := match rest with
        | '-' :: rest => (true, rest)
        | '+' :: rest => (false, rest)
        | rest => (false, rest)
      let digits := rest.takeWhile Char.isDigit
      if digits.isEmpty then none
      else
        let size : Int := digitsOf digits
        some (some (if negative then -size else size), rest.dropWhile Char.isDigit)
    else some (none, mark :: rest)
  | [] => some (none, [])

def fraction? : List Char → Option (Option (List Char) × List Char)
  | '.' :: rest =>
    let digits := rest.takeWhile Char.isDigit
    if digits.isEmpty then none else some (some digits, rest.dropWhile Char.isDigit)
  | rest => some (none, rest)

/-- A number without fraction and exponent is an integer when it fits a word; minus zero is not. -/
def number? (cs : List Char) : Option (Number × List Char) := do
  let (negative, rest) := match cs with
    | '-' :: rest => (true, rest)
    | rest => (false, rest)
  let whole := rest.takeWhile Char.isDigit
  if whole.isEmpty || (whole.head? = some '0' && whole.length > 1) then none
  else
    let (fraction, rest) ← fraction? (rest.dropWhile Char.isDigit)
    let (exponent, rest) ← exponent? rest
    let signed : Int := if negative then -(digitsOf whole) else digitsOf whole
    if fraction.isNone && exponent.isNone && Number.fitsWord signed
        && !(negative && signed = 0) then
      pure (.int signed, rest)
    else
      let leading := (LeadingDigits.ofWhole 0 whole).withFraction (fraction.getD [])
      let value ← Decimal.ofLeading? negative ⟨leading.significand, leading.power + exponent.getD 0⟩
      pure (.real value, rest)

def keyword? (word : List Char) (value : Content) (cs : List Char) : Option (Content × List Char) :=
  if word.isPrefixOf cs then some (value, cs.drop word.length) else none

mutual
def value? (fuel depth : Nat) (cs : List Char) : Option (Content × List Char) :=
  match fuel with
  | 0 => none
  | fuel + 1 =>
    match skipBlanks cs with
    | 'n' :: rest => keyword? "null".toList .null ('n' :: rest)
    | 't' :: rest => keyword? "true".toList (.bool true) ('t' :: rest)
    | 'f' :: rest => keyword? "false".toList (.bool false) ('f' :: rest)
    | '"' :: rest => do
      let (text, rest) ← string? (rest.length + 1) [] rest
      pure (.str text, rest)
    | '[' :: rest =>
      match depth with
      | 0 => none
      | depth + 1 =>
        match skipBlanks rest with
        | ']' :: rest => some (.arr [], rest)
        | rest => do
          let (items, rest) ← items? fuel depth [] rest
          pure (.arr items, rest)
    | '\x7b' :: rest =>
      match depth with
      | 0 => none
      | depth + 1 =>
        match skipBlanks rest with
        | '\x7d' :: rest => some (.obj [], rest)
        | rest => do
          let (fields, rest) ← fields? fuel depth [] rest
          pure (.obj fields, rest)
    | rest => do
      let (number, rest) ← number? rest
      pure (.num number, rest)
def items? (fuel depth : Nat) (kept : List Content) (cs : List Char) :
    Option (List Content × List Char) :=
  match fuel with
  | 0 => none
  | fuel + 1 => do
    let (item, rest) ← value? fuel depth cs
    match skipBlanks rest with
    | ',' :: rest => items? fuel depth (item :: kept) rest
    | ']' :: rest => pure ((item :: kept).reverse, rest)
    | _ => none
def fields? (fuel depth : Nat) (kept : List (Content × Content)) (cs : List Char) :
    Option (List (Content × Content) × List Char) :=
  match fuel with
  | 0 => none
  | fuel + 1 =>
    match skipBlanks cs with
    | '"' :: rest => do
      let (name, rest) ← string? (rest.length + 1) [] rest
      match skipBlanks rest with
      | ':' :: rest =>
        let (value, rest) ← value? fuel depth rest
        match skipBlanks rest with
        | ',' :: rest => fields? fuel depth ((.str name, value) :: kept) rest
        | '\x7d' :: rest => pure (((.str name, value) :: kept).reverse, rest)
        | _ => none
      | _ => none
    | _ => none
end

end Reader

def depthLimit : Nat := 127

/-- Every step of the reader takes a character, so twice the length is fuel enough. -/
def content? (depth : Nat) (text : String) : Option Content := do
  let cs := text.toList
  let (value, rest) ← Reader.value? (2 * cs.length + 2) depth cs
  if (Reader.skipBlanks rest).isEmpty then some value else none

def parse? (depth : Nat) (text : String) : Option Json := (content? depth text).bind Content.json?

end ApiAssembly.Json
