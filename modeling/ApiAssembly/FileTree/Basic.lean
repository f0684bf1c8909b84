import ApiAssembly.Dict.Basic
import ApiAssembly.FilePath
import ApiAssembly.FileTree.Fault
/-! A tree of files and directories, and the directory in it that work is done in. An entry is known by
the names that lead to it from the root, which is always a directory. A path that is not absolute
continues that of the working directory. Paths are followed from the root, segment by segment, as
written: every segment but the last has to lead to a directory, and a step up from the root stays
there. A name has at most 255 bytes, a path at most 4095. The tree has neither links nor permissions,
and all names in it are texts. -/
namespace ApiAssembly

abbrev Location := List String

inductive FileEntry where
  | file (content : ByteArray)
  | directory

namespace FileEntry

/-- Files are the same when they hold the same bytes. -/
def decEq : (left right : FileEntry) → Decidable (left = right)
  | file left, file right =>
    if same : left.data = right.data then isTrue (congrArg file (ByteArray.ext same))
    else isFalse fun equal => same (congrArg ByteArray.data (file.inj equal))
  | directory, directory => isTrue rfl
  | file _, directory => isFalse nofun
  | directory, file _ => isFalse nofun

instance : DecidableEq FileEntry := decEq

def isFile : FileEntry → Bool
  | file _ => true
  | directory => false

def content? : FileEntry → Option ByteArray
  | file content => some content
  | directory => none

end FileEntry

structure FileTree where
  entries : Dict Location FileEntry := Dict.empty
  workingDirectory : Location := []
deriving DecidableEq

namespace FileTree

/-- Nothing but the directories that lead to the one that work is done in. -/
def workingIn (here : Location) : FileTree where
  entries := Dict.ofList ((List.range here.length).map fun count =>
    (here.take (count + 1), .directory))
  workingDirectory := here

def entryAt? (tree : FileTree) (location : Location) : Option FileEntry :=
  if location = [] then some .directory else tree.entries.find? location

def content? (tree : FileTree) (location : Location) : Option ByteArray :=
  (tree.entryAt? location).bind FileEntry.content?

def set (tree : FileTree) (location : Location) (entry : FileEntry) : FileTree :=
  { tree with entries := tree.entries.insert location entry }

/-- An entry goes together with everything below it. -/
def remove (tree : FileTree) (location : Location) : FileTree :=
  { tree with entries := tree.entries.filter fun other _ => !location.isPrefixOf other }

def isNameTooLong (name : String) : Bool := 255 < name.utf8ByteSize

def isPathTooLong (path : FilePath) : Bool := 4096 ≤ path.text.utf8ByteSize

def walk (tree : FileTree) (here : Location) : List String → Except FileFault Location
  | [] => .ok here
  | segment :: rest =>
    match tree.entryAt? here with
    | none => .error .notFound
    | some (.file _) => .error .notDirectory
    | some .directory =>
      if segment = "" || segment = "." then walk tree here rest
      else if segment = ".." then walk tree here.dropLast rest
      else if isNameTooLong segment then .error .nameTooLong
      else
        let next := here ++ [segment]
        if (tree.entryAt? next).isSome then walk tree next rest else .error .notFound

/-- The names that lead to where a path starts. -/
def start (tree : FileTree) (path : FilePath) : Location :=
  if path.isAbsolute then [] else tree.workingDirectory

/-- The empty path leads nowhere. -/
def followed (tree : FileTree) (path : FilePath) (segments : List String) :
    Except FileFault Location :=
  if path.hasNull then .error .nullInName
  else if isPathTooLong path then .error .nameTooLong
  else if path.text.isEmpty then .error .notFound
  else tree.walk [] (tree.start path ++ segments)

def locate (tree : FileTree) (path : FilePath) : Except FileFault Location :=
  tree.followed path path.segments

def find? (tree : FileTree) (path : FilePath) : Option FileEntry :=
  match tree.locate path with
  | .ok location => tree.entryAt? location
  | .error _ => none

def isFile (tree : FileTree) (path : FilePath) : Bool := (tree.find? path).any FileEntry.isFile

def isDirectory (tree : FileTree) (path : FilePath) : Bool :=
  tree.find? path = some .directory

def read (tree : FileTree) (path : FilePath) : Except FileFault ByteArray := do
  match tree.entryAt? (← tree.locate path) with
  | some (.file content) => .ok content
  | some .directory => .error .isDirectory
  | none => .error .notFound

def readText (tree : FileTree) (path : FilePath) : Except FileFault String := do
  match String.fromUTF8? (← tree.read path) with
  | some text => .ok text
  | none => .error .notText

/-- The names in a directory, in order. -/
def names (tree : FileTree) (location : Location) : List String :=
  tree.entries.keys.filterMap fun other =>
    if other.dropLast = location then other.getLast? else none

/-- The entries below a directory, known by the names that lead from it to them. -/
def below (tree : FileTree) (location : Location) : List (Location × FileEntry) :=
  tree.entries.entries.filterMap fun entry =>
    if location.isPrefixOf entry.1 && entry.1.length > location.length then
      some (entry.1.drop location.length, entry.2)
    else none

/-- A path to something that need not be there yet: the directory it is in, its name, and whether
slashes follow the name. -/
structure Place where
  directory : Location
  name : String
  slashed : Bool

namespace Place

def isStep (place : Place) : Bool := place.name = "." || place.name = ".."

def location (place : Place) : Location := place.directory ++ [place.name]

end Place

/-- A path of slashes alone names nothing: it stays at the root. -/
def place (tree : FileTree) (path : FilePath) : Except FileFault Place := do
  match path.segments.reverse.dropWhile (· = "") with
  | [] => .ok ⟨← tree.followed path [], ".", true⟩
  | name :: before =>
    let directory ← tree.followed path before.reverse
    match tree.entryAt? directory with
    | some .directory =>
      if isNameTooLong name then .error .nameTooLong
      else .ok ⟨directory, name, path.segments.getLast? = some ""⟩
    | some (.file _) => .error .notDirectory
    | none => .error .notFound

def makeDirectory (tree : FileTree) (path : FilePath) : Except FileFault FileTree := do
  let place ← tree.place path
  if place.isStep || (tree.entryAt? place.location).isSome then .error .alreadyExists
  else .ok (tree.set place.location .directory)

/-- A directory that is there already will do. -/
def ensureDirectory (tree : FileTree) (path : FilePath) : FileTree × Except FileFault Unit :=
  match tree.makeDirectory path with
  | .ok made => (made, .ok ())
  | .error fault => (tree, if tree.isDirectory path then .ok () else .error fault)

/-- A directory whose surroundings are missing waits for them. What was made before a fault stays. -/
def ensureWithin (tree : FileTree) : Nat → FilePath → FileTree × Except FileFault Unit
  | 0, path => tree.ensureDirectory path
  | levels + 1, path =>
    match tree.ensureDirectory path, path.parent? with
    | (_, .error .notFound), some parent =>
      if parent.text.isEmpty then (tree, .error .notFound)
      else
        match tree.ensureWithin levels parent with
        | (made, .error fault) => (made, .error fault)
        | (made, .ok ()) => made.ensureDirectory path
    | result, _ => result

/-- The tree with a directory and those around it, or with as many of them as could be made. The
empty path asks for none. -/
def makeDirectories (tree : FileTree) (path : FilePath) : FileTree × Except FileFault Unit :=
  if path.text.isEmpty then (tree, .ok ()) else tree.ensureWithin path.text.length path

/-- What moving a file onto a path makes of the tree; the place the file came
from is not touched. -/
def putFile (tree : FileTree) (path : FilePath) (content : ByteArray) :
    Except FileFault FileTree := do
  if path.hasNull then .error .invalidArgument
  let place ← tree.place path
  if place.isStep then .error .busy
  else if place.slashed then .error .notDirectory
  else
    match tree.entryAt? place.location with
    | some .directory => .error .isDirectory
    | _ => .ok (tree.set place.location (.file content))

end FileTree
end ApiAssembly
