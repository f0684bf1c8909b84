import ApiAssembly.BuildError
import ApiAssembly.FileTree.Basic
import ApiAssembly.Fragment
/-! Sources that are no fragments: the files below a directory, in the order of their paths, and what
comes of reading them. -/
namespace ApiAssembly

structure SourceFile where
  path : FilePath
  -- The path from the directory to the file.
  label : String
  content : ByteArray

namespace SourceFile

def text? (file : SourceFile) : Option String := String.fromUTF8? file.content

def ofMember? (directory : FilePath) (entry : Location × FileEntry) : Option SourceFile :=
  entry.2.content?.map fun content =>
    ⟨entry.1.foldl (fun path name => path.join ⟨name⟩) directory, "/".intercalate entry.1, content⟩

/-- All source files of a directory. What is no directory cannot be searched. -/
def all (tree : FileTree) (directory : FilePath) : Except BuildError (List SourceFile) :=
  match tree.locate directory with
  | .ok location =>
    if tree.entryAt? location = some .directory then
      .ok ((tree.below location).filterMap (ofMember? directory))
    else .error (.configuration (.notSourceDirectory directory))
  | .error _ => .error (.configuration (.notSourceDirectory directory))

end SourceFile

/-- The fragment that sources stand for, if they could be read at all, and the findings on the way. -/
structure Synthesis where
  fragment : Option Fragment := none
  warnings : List String := []
  errors : List BuildError := []
deriving DecidableEq

end ApiAssembly
