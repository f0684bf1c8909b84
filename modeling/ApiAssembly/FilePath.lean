/-! File paths as they are written: segments between slashes, absolute when they start with one.
Paths are never normalised on display. Empty segments and inner dots mean nothing when a path
is taken apart, and two paths are ordered by their parts, not by their spelling. -/
namespace ApiAssembly

structure FilePath where
  text : String
deriving DecidableEq, Inhabited

namespace FilePath

def isAbsolute (path : FilePath) : Bool := path.text.toList.head? = some '/'

def hasNull (path : FilePath) : Bool := path.text.toList.contains '\x00'

/-- An absolute path replaces the base. A base that ends in a slash needs no other. -/
def join (base path : FilePath) : FilePath :=
  if path.isAbsolute || base.text.isEmpty then path
  else if base.text.toList.getLast? = some '/' then ⟨base.text ++ path.text⟩
  else ⟨base.text ++ "/" ++ path.text⟩

def splitSlashes : List Char → List (List Char)
  | [] => [[]]
  | c :: rest =>
    if c = '/' then [] :: splitSlashes rest
    else
      match splitSlashes rest with
      | [] => [[c]]
      | segment :: more => (c :: segment) :: more

def segments (path : FilePath) : List String :=
  (splitSlashes path.text.toList).map String.ofList

/-- The parts of a path, each led by a digit that puts the root before the leading dot, the dot
before a step up, and these before names. -/
def parts (path : FilePath) : List String :=
  let segments := path.segments
  let lead := if path.isAbsolute then ["0"] else if segments.head? = some "." then ["1"] else []
  lead ++ (segments.filter fun segment => segment != "" && segment != ".").map fun segment =>
    if segment = ".." then "2" else "3" ++ segment

/-- A reversed path without the slashes and dots at its end that mean nothing. -/
def trimReversed : List Char → List Char
  | '/' :: [] => ['/']
  | '/' :: rest => trimReversed rest
  | '.' :: '/' :: [] => ['/']
  | '.' :: '/' :: rest => trimReversed rest
  | cs => cs

def parent? (path : FilePath) : Option FilePath :=
  let reversed := trimReversed path.text.toList.reverse
  if reversed = [] || reversed = ['/'] then none
  else some ⟨String.ofList (trimReversed (reversed.dropWhile (· ≠ '/'))).reverse⟩

/-- The directory that a file is in. A lone name is in the working directory. -/
def directory (path : FilePath) : FilePath :=
  match path.parent? with
  | some parent => if parent.text.isEmpty then ⟨"."⟩ else parent
  | none => ⟨"."⟩

def fileName? (path : FilePath) : Option String :=
  let reversed := trimReversed path.text.toList.reverse
  let name := (reversed.takeWhile (· ≠ '/')).reverse
  if name = [] || name = ['.'] || name = ['.', '.'] then none else some (String.ofList name)

/-- The last dot of a name separates the extension, unless the name starts with it. -/
def splitName (name : String) : String × Option String :=
  let reversed := name.toList.reverse
  let tail := reversed.takeWhile (· ≠ '.')
  match reversed.dropWhile (· ≠ '.') with
  | _ :: stem =>
    if stem.isEmpty then (name, none)
    else (String.ofList stem.reverse, some (String.ofList tail.reverse))
  | [] => (name, none)

def stem? (path : FilePath) : Option String := path.fileName?.map fun name => (splitName name).1

def extension? (path : FilePath) : Option String :=
  path.fileName?.bind fun name => (splitName name).2

end FilePath
end ApiAssembly
