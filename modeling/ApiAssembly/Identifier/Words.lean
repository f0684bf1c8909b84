import ApiAssembly.Text.Alphanumeric
import ApiAssembly.Text.LetterCase
/-! Words of an identifier. Anything but a letter or a number separates words. Inside a run of
those a capital starts a word behind a small letter or a digit, and the last capital of a row of
capitals starts one when a small letter follows. Words are kept in lower case; the writing styles
join them again. -/
namespace ApiAssembly.Identifier
open Text

def startsWord (previous : Option Char) (c : Char) (next : Option Char) : Bool :=
  isUppercase c &&
    match previous with
    | some before =>
      isLowercase before || before.isDigit || (isUppercase before && next.any isLowercase)
    | none => false

def flush (current : List Char) : List (List Char) :=
  if current.isEmpty then [] else [current.reverse]

/-- The current word is kept last character first. -/
def wordsFrom (previous : Option Char) (current : List Char) : List Char → List (List Char)
  | [] => flush current
  | c :: rest =>
    if isAlphanumeric c then
      if startsWord previous c rest.head? then
        flush current ++ wordsFrom (some c) (lower c).reverse rest
      else wordsFrom (some c) ((lower c).reverse ++ current) rest
    else flush current ++ wordsFrom (some c) [] rest

def wordsOf (cs : List Char) : List (List Char) := wordsFrom none [] cs

def words (text : String) : List String := (wordsOf text.toList).map String.ofList

def capitalize : List Char → List Char
  | [] => []
  | c :: rest => upper c ++ rest

def kebab (text : String) : String := String.ofList (['-'].intercalate (wordsOf text.toList))

def snake (text : String) : String := String.ofList (['_'].intercalate (wordsOf text.toList))

def joinCapitalized (words : List (List Char)) : List Char := words.flatMap capitalize

def pascal (text : String) : String := String.ofList (joinCapitalized (wordsOf text.toList))

def camel (text : String) : String :=
  match wordsOf text.toList with
  | [] => ""
  | first :: rest => String.ofList (first ++ joinCapitalized rest)

end ApiAssembly.Identifier
