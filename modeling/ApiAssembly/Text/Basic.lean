/-! Texts and characters. Sets of characters are given by runs. One text is looked for inside another,
and the empty text is found everywhere. The last parts serve what is shown and what is generated:
columns, lines, and the notice in the first line of a generated text. -/
namespace ApiAssembly
namespace Text

/-- The first and the last code point of a run and the stride between its members. A stride of two
serves alphabets in which the two cases alternate. -/
abbrev CharRun := Nat × Nat × Nat

def CharRun.covers (run : CharRun) (c : Char) : Bool :=
  run.1 ≤ c.toNat && c.toNat ≤ run.2.1 && (c.toNat - run.1) % run.2.2 = 0

/-! Only the 26 letters of ASCII have two cases here, all other characters are left as they are. -/

def lowerAscii (text : String) : String := String.ofList (text.toList.map Char.toLower)

def upperAscii (text : String) : String := String.ofList (text.toList.map Char.toUpper)

def occursIn (needle : List Char) : List Char → Bool
  | [] => needle.isEmpty
  | c :: rest => needle.isPrefixOf (c :: rest) || occursIn needle rest

def mentions (text needle : String) : Bool := occursIn needle.toList text.toList

def startsWith (start text : String) : Bool := start.toList.isPrefixOf text.toList

/-- What follows the start of a text. -/
def afterStart? (start text : String) : Option String :=
  if startsWith start text then some (String.ofList (text.toList.drop start.length)) else none

/-- A text that is narrower than its column is followed by blanks. -/
def padded (width : Nat) (text : String) : String :=
  text ++ String.ofList (List.replicate (width - text.length) ' ')

def unlines (lines : List String) : String := String.join (lines.map fun line => line ++ "\n")

end Text

def notice (title version : String) : String :=
  "@generated by specweave-gen from " ++ title ++ " " ++ version ++ ". Do not edit."

end ApiAssembly
