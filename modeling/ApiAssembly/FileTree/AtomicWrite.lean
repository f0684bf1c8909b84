import ApiAssembly.BuildError
import ApiAssembly.FileTree.Basic
/-! Writing a file in one step. The text goes to a temporary file next to its place, which is then
moved there, so that a reader sees the old content or the new one. A file that holds the text
already is left alone. Each call on the way can fail; a temporary file does not outlive that. -/
namespace ApiAssembly

inductive WriteStatus where
  | created | updated | unchanged
deriving DecidableEq

namespace WriteStatus

def name : WriteStatus → String
  | created => "created"
  | updated => "updated"
  | unchanged => "unchanged"

end WriteStatus

inductive WriteStep where
  | read | makeDirectories | createTemporary | writeTemporary | rename
deriving DecidableEq

/-- The faults that meet the calls from outside, whatever the tree looks like. -/
abbrev WriteFaults := WriteStep → Option FileFault

namespace FileTree

def attempt (faults : WriteFaults) (step : WriteStep) (result : Except FileFault α) :
    Except FileFault α :=
  match faults step with
  | some fault => .error fault
  | none => result

def attemptDirectories (faults : WriteFaults) (tree : FileTree) (directory : FilePath) :
    FileTree × Except FileFault Unit :=
  match faults .makeDirectories with
  | some fault => (tree, .error fault)
  | none => tree.makeDirectories directory

/-- A name that is longer than all names of the tree. -/
def freshName (tree : FileTree) : String :=
  let longest := (tree.entries.keys.flatten.map String.length).foldl max 0
  ".tmp" ++ String.ofList (List.replicate longest '0')

def temporaryPlace (tree : FileTree) (directory : FilePath) : Except FileFault Location := do
  let location ← tree.locate directory
  match tree.entryAt? location with
  | some .directory => .ok (location ++ [tree.freshName])
  | _ => .error .notDirectory

def moveOnto (tree : FileTree) (temporary : Location) (path : FilePath) (content : ByteArray) :
    Except FileFault FileTree :=
  (tree.remove temporary).putFile path content

def writeThrough (faults : WriteFaults) (tree : FileTree) (path : FilePath)
    (content : ByteArray) (status : WriteStatus) : FileTree × Except BuildError WriteStatus :=
  let directory := path.directory
  match attemptDirectories faults tree directory with
  | (tree, .error fault) => (tree, .error (.file directory fault))
  | (tree, .ok ()) =>
    match attempt faults .createTemporary (tree.temporaryPlace directory) with
    | .error fault => (tree, .error (.file directory fault))
    | .ok temporary =>
      let started := tree.set temporary (.file ByteArray.empty)
      match attempt faults .writeTemporary (.ok (started.set temporary (.file content))) with
      | .error fault =>
        (started.remove temporary, .error (.file (directory.join ⟨tree.freshName⟩) fault))
      | .ok written =>
        match attempt faults .rename (written.moveOnto temporary path content) with
        | .error fault => (written.remove temporary, .error (.file path fault))
        | .ok moved => (moved, .ok status)

def writeAtomicWith (faults : WriteFaults) (tree : FileTree) (path : FilePath) (text : String) :
    FileTree × Except BuildError WriteStatus :=
  match attempt faults .read (tree.read path) with
  | .ok present =>
    if FileEntry.file present = .file text.toUTF8 then (tree, .ok .unchanged)
    else writeThrough faults tree path text.toUTF8 .updated
  | .error _ => writeThrough faults tree path text.toUTF8 .created

def writeAtomic (tree : FileTree) (path : FilePath) (text : String) :
    FileTree × Except BuildError WriteStatus :=
  writeAtomicWith (fun _ => none) tree path text

end FileTree
end ApiAssembly
