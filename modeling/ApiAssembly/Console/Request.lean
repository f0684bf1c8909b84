import ApiAssembly.Config.Reader
/-! What is asked for on the command line: a command, and options that take the place of settings of
the configuration file. -/
namespace ApiAssembly.Console

inductive Command where
  | generate | validate | inspect | synthesize
deriving DecidableEq

namespace Command

def all : List Command := [generate, validate, inspect, synthesize]

def name : Command → String
  | generate => "generate"
  | validate => "validate"
  | inspect => "inspect"
  | synthesize => "synth"

def parse? (text : String) : Option Command := all.find? fun command => command.name = text

end Command

structure BuildOptions where
  configFile : Option FilePath := none
  fragments : Option FilePath := none
  handlerRoot : Option FilePath := none
  output : Option FilePath := none
  typeDefinitions : Option FilePath := none
  componentSources : Option FilePath := none
  strict : Bool := false
  failOnMissingHandlers : Bool := false
  withoutRouter : Bool := false
  withoutHandlerValidation : Bool := false
  collisionPolicy : Option CollisionPolicy := none
deriving DecidableEq

structure Request where
  command : Command
  asJson : Bool
  logLevel : Option String
  options : BuildOptions
deriving DecidableEq

namespace BuildOptions

def overridePaths (options : BuildOptions) (paths : Config.Paths) : Config.Paths where
  fragments := options.fragments <|> paths.fragments
  handlerRoot := options.handlerRoot.getD paths.handlerRoot
  output := options.output.getD paths.output
  typeDefinitions := options.typeDefinitions <|> paths.typeDefinitions
  componentSources := options.componentSources <|> paths.componentSources

/-- Switches only ever add strictness or leave steps out. -/
def override (options : BuildOptions) (config : Config) : Config :=
  { config with
    strictValidation := config.strictValidation || options.strict
    failOnMissingHandlers := config.failOnMissingHandlers || options.failOnMissingHandlers
    autoRouting := config.autoRouting && !options.withoutRouter
    handlerValidation := config.handlerValidation && !options.withoutHandlerValidation
    collisionPolicy := options.collisionPolicy.getD config.collisionPolicy
    paths := options.overridePaths config.paths }

def base (options : BuildOptions) (tree : FileTree) : Except ConfigFault Config :=
  match options.configFile with
  | some file => Config.load tree file
  | none => .ok {}

/-- The configuration file, if there is one, with the options applied to it. -/
def config (options : BuildOptions) (tree : FileTree) : Except ConfigFault Config :=
  (options.base tree).map options.override

end BuildOptions
end ApiAssembly.Console
