import ApiAssembly.Component.Registration
import ApiAssembly.FileTree.SourceFile
/-! Component libraries. The components of a directory are read from the files of given extensions, in
the order of their paths; of components with one name the first that is registered is kept. The
fragment of a library has one schema a component, under the component's name, and no operations. -/
namespace ApiAssembly

def Component.fragment (name : String) (path : FilePath) (components : List Component) : Fragment where
  name := name
  path := path
  origin := .componentLibrary
  document := .obj [("components", .obj [("schemas", Json.ofFields
    (components.map fun component => (component.name, component.toSchema)))])]

namespace ComponentSources

structure Collected where
  components : Dict String Component := Dict.empty
  warnings : List String := []

namespace Collected

def warn (collected : Collected) (warnings : List String) : Collected :=
  { collected with warnings := collected.warnings ++ warnings }

def add (label : String) (collected : Collected) (component : Component) : Collected :=
  if collected.components.contains component.name then
    collected.warn [label ++ ": component '" ++ component.name ++
      "' registered again; keeping the first registration"]
  else { collected with components := collected.components.insert component.name component }

def addFile (classifier : Classifier) (collected : Collected) (file : SourceFile) : Collected :=
  match file.text? with
  | none =>
    collected.warn [file.path.text ++ ": unreadable component source: " ++
      FileFault.notText.message]
  | some text =>
    let extraction := Extraction.ofText file.label classifier text
    extraction.components.foldl (add file.label) (collected.warn extraction.warnings)

end Collected

def isSource (extensions : List String) (file : SourceFile) : Bool :=
  file.path.extension?.any extensions.contains

def scan (tree : FileTree) (directory : FilePath) (name : String) (extensions : List String)
    (classifier : Classifier) : Synthesis :=
  match SourceFile.all tree directory with
  | .error error => { errors := [error] }
  | .ok files =>
    let collected :=
      (files.filter (isSource extensions)).foldl (Collected.addFile classifier) {}
    { fragment := some (Component.fragment name directory collected.components.values)
      warnings := collected.warnings }

end ComponentSources
end ApiAssembly
