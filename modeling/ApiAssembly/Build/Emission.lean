import ApiAssembly.Config.Basic
import ApiAssembly.FileTree.AtomicWrite
/-! Writing the artifacts of a build. One that cannot be rendered or written is reported and skipped;
the others are written all the same. Each artifact is written once, so the faults that its calls
meet from outside are known by its kind. -/
namespace ApiAssembly

/-- The text of an artifact, or the cause why there is none. -/
abbrev Renderer := ArtifactKind → Specification → List Route → Except String String

def Renderer.standard : Renderer := fun kind spec routes => .ok (kind.render spec routes)

structure EmittedArtifact where
  kind : ArtifactKind
  path : FilePath
  status : WriteStatus
deriving DecidableEq

structure Emission where
  tree : FileTree
  artifacts : List EmittedArtifact := []
  errors : List BuildError := []

namespace Emission

def fail (emission : Emission) (error : BuildError) : Emission :=
  { emission with errors := emission.errors ++ [error] }

def write (faults : WriteFaults) (emission : Emission) (kind : ArtifactKind) (path : FilePath)
    (text : String) : Emission :=
  match emission.tree.writeAtomicWith faults path text with
  | (tree, .ok status) =>
    { emission with tree, artifacts := emission.artifacts ++ [⟨kind, path, status⟩] }
  | (tree, .error error) => { emission with tree }.fail error

def add (faults : ArtifactKind → WriteFaults) (config : Config)
    (text : ArtifactKind → Except String String) (emission : Emission) (kind : ArtifactKind) :
    Emission :=
  match text kind with
  | .error cause => emission.fail (.rendering kind.name cause)
  | .ok text => write (faults kind) emission kind (config.outputPath kind) text

def ofArtifacts (faults : ArtifactKind → WriteFaults) (config : Config)
    (text : ArtifactKind → Except String String) (tree : FileTree) : Emission :=
  config.enabledArtifacts.foldl (add faults config text) { tree }

end Emission
end ApiAssembly
