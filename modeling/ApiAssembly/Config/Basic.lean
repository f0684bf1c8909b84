import ApiAssembly.Artifact.Kind
import ApiAssembly.Component.Category
import ApiAssembly.Declaration.Union
import ApiAssembly.Handler
import ApiAssembly.Specification.Merge
/-! The configuration of a build: what is read, what is written, and which findings are fatal. Every
setting has a default but the directory of fragments. -/
namespace ApiAssembly
namespace Config

structure Paths where
  fragments : Option FilePath := none
  handlerRoot : FilePath := ⟨"."⟩
  output : FilePath := ⟨"generated"⟩
  typeDefinitions : Option FilePath := none
  componentSources : Option FilePath := none
deriving DecidableEq

/-- Where the artifacts go, relative to the output directory. -/
structure Outputs where
  router : FilePath := ⟨"router.rs"⟩
  commandLine : FilePath := ⟨"cli.rs"⟩
  scriptingClient : FilePath := ⟨"client.py"⟩
deriving DecidableEq

structure TypeSettings where
  fragmentName : String := ({} : TypeUnion.Options).fragmentName
  path : String := ({} : TypeUnion.Options).path
  method : String := ({} : TypeUnion.Options).method.key
  operationId : String := ({} : TypeUnion.Options).operationId
  endings : List String := ({} : TypeUnion.Options).endings
  handlerFile : Option FilePath := none
  handlerFunction : Option String := none
deriving DecidableEq

structure ComponentSettings where
  fragmentName : String := "components"
  extensions : List String := ["js", "mjs"]
  categories : List KeywordRule := []
deriving DecidableEq

end Config

structure Config where
  strictValidation : Bool := false
  autoRouting : Bool := true
  handlerValidation : Bool := true
  failOnMissingHandlers : Bool := false
  collisionPolicy : CollisionPolicy := .lastWriterWins
  paths : Config.Paths := {}
  outputs : Config.Outputs := {}
  types : Config.TypeSettings := {}
  components : Config.ComponentSettings := {}
deriving DecidableEq

namespace Config

def Outputs.file (outputs : Outputs) : ArtifactKind → FilePath
  | .router => outputs.router
  | .commandLine => outputs.commandLine
  | .scriptingClient => outputs.scriptingClient

def outputPath (config : Config) (kind : ArtifactKind) : FilePath :=
  config.paths.output.join (config.outputs.file kind)

/-- The artifacts that are emitted, in the order of emission. -/
def enabledArtifacts (config : Config) : List ArtifactKind :=
  ArtifactKind.all.filter fun kind => kind != .router || config.autoRouting

def fragmentDirectory (config : Config) : Except ConfigFault FilePath :=
  match config.paths.fragments with
  | some directory => .ok directory
  | none => .error .noSchemaDirectory

def handlerRules (config : Config) : HandlerRules :=
  ⟨config.strictValidation, config.failOnMissingHandlers, config.paths.handlerRoot⟩

def classifier (config : Config) : Classifier := .withRules config.components.categories

/-- A function that is not named is called like the operation. -/
def TypeSettings.handler (settings : TypeSettings) : Option HandlerBinding :=
  settings.handlerFile.map fun file =>
    ⟨file, settings.handlerFunction.getD (Identifier.snake settings.operationId)⟩

def TypeSettings.options (settings : TypeSettings) : Except ConfigFault TypeUnion.Options :=
  match Method.parse? settings.method with
  | none => .error (.unknownMethod settings.method)
  | some method =>
    if !Text.startsWith "/" settings.path then .error (.synthesisPath settings.path)
    else .ok ⟨settings.fragmentName, settings.path, method, settings.operationId,
      settings.endings, settings.handler⟩

/-- Relative paths of a configuration file are relative to the directory of the file. -/
def Paths.relativeTo (base : FilePath) (paths : Paths) : Paths where
  fragments := paths.fragments.map base.join
  handlerRoot := base.join paths.handlerRoot
  output := base.join paths.output
  typeDefinitions := paths.typeDefinitions.map base.join
  componentSources := paths.componentSources.map base.join

def relativeTo (base : FilePath) (config : Config) : Config :=
  { config with paths := config.paths.relativeTo base }

end Config
end ApiAssembly
