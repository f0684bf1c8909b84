import ApiAssembly.Text.Basic
/-! Blank characters of all scripts, and what is done at blanks: cutting them off at both ends of
a text, splitting a text into what stands between them, and writing a text on one line. -/
namespace ApiAssembly.Text

def blankRuns : List CharRun := [
  (0x85, 0x85, 1), (0xa0, 0xa0, 1), (0x1680, 0x1680, 1), (0x2000, 0x200a, 1),
  (0x2028, 0x2029, 1), (0x202f, 0x202f, 1), (0x205f, 0x205f, 1), (0x3000, 0x3000, 1)]

def isBlank (c : Char) : Bool :=
  if c.toNat < 128 then c = ' ' || (9 ≤ c.toNat && c.toNat ≤ 13)
  else blankRuns.any fun run => run.covers c

def trimStart (cs : List Char) : List Char := cs.dropWhile isBlank

def trimEnd (cs : List Char) : List Char := (cs.reverse.dropWhile isBlank).reverse

def trim (cs : List Char) : List Char := trimEnd (trimStart cs)

def isBlankText (text : String) : Bool := text.toList.all isBlank

/-- The runs of characters between separators; the current run is kept last character first. -/
def runsFrom (separates : Char → Bool) (current : List Char) : List Char → List (List Char)
  | [] => if current.isEmpty then [] else [current.reverse]
  | c :: rest =>
    if separates c then
      if current.isEmpty then runsFrom separates [] rest
      else current.reverse :: runsFrom separates [] rest
    else runsFrom separates (c :: current) rest

def splitBlanks (text : String) : List String :=
  (runsFrom isBlank [] text.toList).map String.ofList

def oneLine (text : String) : String := " ".intercalate (splitBlanks text)

end ApiAssembly.Text
