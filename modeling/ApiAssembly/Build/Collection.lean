import ApiAssembly.Component.Library
import ApiAssembly.Config.Basic
import ApiAssembly.Declaration.Sources
import ApiAssembly.Fragment.Directory
import ApiAssembly.Fragment.LoadOrder
import ApiAssembly.Report
/-! The fragments of a build: those of the fragment directory and those that stand for type
declarations and components, in load order. What went wrong with any of them is reported. -/
namespace ApiAssembly.Build

/-- Types come first. Only what is configured is read. -/
def synthesize (config : Config) (tree : FileTree) : Except BuildError (List Synthesis) :=
  match config.types.options with
  | .error fault => .error (.configuration fault)
  | .ok options =>
    let settings := config.components
    .ok ((config.paths.typeDefinitions.map fun directory =>
        TypeSources.scan tree directory options).toList ++
      (config.paths.componentSources.map fun directory =>
        ComponentSources.scan tree directory settings.fragmentName settings.extensions
          config.classifier).toList)

structure Collection where
  report : Report := {}
  fragments : List Fragment := []

namespace Collection

def addLoaded (loaded : Except BuildError Fragment.Loaded) (collection : Collection) :
    Collection :=
  match loaded with
  | .error error => { collection with report := collection.report.addErrors [error] }
  | .ok loaded =>
    ⟨collection.report.addErrors loaded.errors, collection.fragments ++ loaded.fragments⟩

def addSynthesis (collection : Collection) (synthesis : Synthesis) : Collection :=
  ⟨(collection.report.addWarnings synthesis.warnings).addErrors synthesis.errors,
    collection.fragments ++ synthesis.fragment.toList⟩

def addSyntheses (syntheses : Except BuildError (List Synthesis)) (collection : Collection) :
    Collection :=
  match syntheses with
  | .error error => { collection with report := collection.report.addErrors [error] }
  | .ok syntheses => syntheses.foldl addSynthesis collection

def ordered (collection : Collection) : Collection :=
  let ordered := Fragment.order collection.fragments
  ⟨collection.report.addErrors ordered.errors, ordered.fragments⟩

/-- A directory without any fragment is an error unless something else is to blame. -/
def finish (directory : FilePath) (collection : Collection) : Report × Option (List Fragment) :=
  if collection.fragments.isEmpty then
    let report := collection.report
    (if report.hasErrors then report
      else report.addErrors [.configuration (.noFragments directory)], none)
  else (collection.report, some collection.fragments)

end Collection

/-- The fragments to put together, if there are any. -/
def collect (config : Config) (tree : FileTree) : Report × Option (List Fragment) :=
  match config.fragmentDirectory with
  | .error fault => (Report.addErrors {} [.configuration fault], none)
  | .ok directory =>
    let loaded := Collection.addLoaded (Fragment.load tree directory) {}
    ((loaded.addSyntheses (synthesize config tree)).ordered).finish directory

end ApiAssembly.Build
