import ApiAssembly.FileTree.Basic
import ApiAssembly.Fragment.Reader
/-! The fragments of a directory: one for each file of a fitting extension, under the name of the
file without it. A file that cannot be read is reported and left out, and the others are not
touched by that. The order is that of the file names, however the directory lists them. -/
namespace ApiAssembly.Fragment

structure FragmentFile where
  path : FilePath
  content : ByteArray

structure Loaded where
  fragments : List Fragment := []
  errors : List BuildError := []

def extensions : List String := ["yaml", "yml", "json"]

def isFragmentPath (path : FilePath) : Bool := path.extension?.any extensions.contains

def ofFile (file : FragmentFile) : Except BuildError Fragment :=
  match String.fromUTF8? file.content with
  | some text => parse (file.path.stem?.getD "") file.path text
  | none => .error (.fragment file.path (.unreadable .notText))

def fileOrder (left right : FragmentFile) : Bool :=
  (compare left.path.fileName? right.path.fileName?).isLE

def Loaded.add (outcome : Except BuildError Fragment) (loaded : Loaded) : Loaded :=
  match outcome with
  | .ok fragment => { loaded with fragments := fragment :: loaded.fragments }
  | .error error => { loaded with errors := error :: loaded.errors }

def loadFiles (files : List FragmentFile) : Loaded :=
  (((files.filter fun file => isFragmentPath file.path).mergeSort fileOrder).map ofFile).foldr
    Loaded.add {}

/-- The regular file of a name in a directory, unless its path is too long to lead there. -/
def fileAt? (tree : FileTree) (directory : FilePath) (location : Location) (name : String) :
    Option FragmentFile :=
  let path := directory.join ⟨name⟩
  if FileTree.isPathTooLong path then none
  else (tree.content? (location ++ [name])).map fun content => ⟨path, content⟩

/-- The regular files of a directory. -/
def filesIn (tree : FileTree) (directory : FilePath) (location : Location) : List FragmentFile :=
  (tree.names location).filterMap (fileAt? tree directory location)

def load (tree : FileTree) (directory : FilePath) : Except BuildError Loaded :=
  let unreadable := BuildError.other ("Failed to read schema directory: " ++ directory.text)
  match tree.locate directory with
  | .ok location =>
    if tree.entryAt? location = some .directory then
      .ok (loadFiles (filesIn tree directory location))
    else .error unreadable
  | .error _ => .error unreadable

end ApiAssembly.Fragment
