import ApiAssembly.Console.Request
/-! Reading the arguments of the program, one after another. An option is given once at most; its
value is attached to it or is the next argument. Options of a build follow the command; the level
of the log may stand on either side of it. -/
namespace ApiAssembly.Console

inductive Setting where
  | logLevel | configFile | fragments | handlerRoot | output | typeDefinitions | componentSources
  | collisionPolicy
deriving DecidableEq

inductive Switch where
  | strict | failOnMissingHandlers | noRouter | skipHandlerValidation | json | help | version
deriving DecidableEq

/-- Why there is nothing to run. -/
inductive Stop where
  | usage | help | version
deriving DecidableEq

namespace Setting

def all : List Setting :=
  [logLevel, configFile, fragments, handlerRoot, output, typeDefinitions, componentSources,
    collisionPolicy]

def name : Setting → String
  | logLevel => "log-level"
  | configFile => "config"
  | fragments => "schemas"
  | handlerRoot => "handler-root"
  | output => "out-dir"
  | typeDefinitions => "type-definitions"
  | componentSources => "component-sources"
  | collisionPolicy => "collision-policy"

def letter? : Setting → Option Char
  | configFile => some 'c'
  | fragments => some 's'
  | output => some 'o'
  | _ => none

/-- A path is not empty, a policy is one of those that there are. -/
def accepts (value : String) : Setting → Bool
  | logLevel => true
  | collisionPolicy => (CollisionPolicy.parse? value).isSome
  | _ => !value.isEmpty

end Setting

namespace Switch

def all : List Switch :=
  [strict, failOnMissingHandlers, noRouter, skipHandlerValidation, json, help, version]

def name : Switch → String
  | strict => "strict"
  | failOnMissingHandlers => "fail-on-missing-handlers"
  | noRouter => "no-router"
  | skipHandlerValidation => "skip-handler-validation"
  | json => "json"
  | help => "help"
  | version => "version"

def letter? : Switch → Option Char
  | help => some 'h'
  | version => some 'V'
  | _ => none

end Switch

/-- The place among the arguments: before the command, behind it, or behind the word for help. -/
inductive Scope where
  | program
  | command (command : Command)
  | topic
deriving DecidableEq

namespace Scope

def hasSetting (setting : Setting) : Scope → Bool
  | program => setting = .logLevel
  | command _ => true
  | topic => false

def hasSwitch (switch : Switch) : Scope → Bool
  | program => switch = .help || switch = .version
  | command chosen => switch ≠ .version && (switch ≠ .json || chosen = .inspect)
  | topic => false

def setting? (names : Setting → Bool) (scope : Scope) : Option Setting :=
  Setting.all.find? fun setting => names setting && scope.hasSetting setting

def switch? (names : Switch → Bool) (scope : Scope) : Option Switch :=
  Switch.all.find? fun switch => names switch && scope.hasSwitch switch

end Scope

/-- What has been read so far. A setting that waits for its value takes the next argument. -/
structure Reading where
  scope : Scope := .program
  programLogLevel : Option String := none
  values : List (Setting × String) := []
  switches : List Switch := []
  pending : Option Setting := none
  closed : Bool := false

namespace Reading

def value? (reading : Reading) (setting : Setting) : Option String :=
  reading.values.lookup setting

def path? (reading : Reading) (setting : Setting) : Option FilePath :=
  (reading.value? setting).map FilePath.mk

def has (reading : Reading) (switch : Switch) : Bool := reading.switches.contains switch

def setValue (reading : Reading) (setting : Setting) (value : String) : Except Stop Reading :=
  if (reading.value? setting).isSome || !setting.accepts value then .error .usage
  else .ok { reading with values := reading.values ++ [(setting, value)], pending := none }

def turnOn (reading : Reading) (switch : Switch) : Except Stop Reading :=
  if switch = .help then .error .help
  else if switch = .version then .error .version
  else if reading.has switch then .error .usage
  else .ok { reading with switches := reading.switches ++ [switch] }

/-- An option by its long name, with the value attached to it. -/
def readLong (reading : Reading) (name : String) (value : Option String) : Except Stop Reading :=
  match reading.scope.setting? fun setting => setting.name = name, value with
  | some setting, some value => reading.setValue setting value
  | some setting, none => .ok { reading with pending := some setting }
  | none, value =>
    match reading.scope.switch? fun switch => switch.name = name with
    | some switch => if value.isSome then .error .usage else reading.turnOn switch
    | none => .error .usage

def attached : List Char → Option String
  | [] => none
  | '=' :: value => some (String.ofList value)
  | value => some (String.ofList value)

/-- An option by its letter. What follows the letter is the value. -/
def readLetter (reading : Reading) (letter : Char) (rest : List Char) : Except Stop Reading :=
  match reading.scope.setting? fun setting => setting.letter? = some letter, attached rest with
  | some setting, some value => reading.setValue setting value
  | some setting, none => .ok { reading with pending := some setting }
  | none, _ =>
    match reading.scope.switch? fun switch => switch.letter? = some letter with
    | some switch => reading.turnOn switch
    | none => .error .usage

def splitName (cs : List Char) : String × Option String :=
  (String.ofList (cs.takeWhile (· ≠ '=')),
    match cs.dropWhile (· ≠ '=') with
    | _ :: value => some (String.ofList value)
    | [] => none)

def readWord (reading : Reading) (word : String) : Except Stop Reading :=
  match reading.scope, Command.parse? word with
  | .program, some command =>
    .ok { scope := .command command, programLogLevel := reading.value? .logLevel }
  | .program, none => if word = "help" then .ok { scope := .topic } else .error .usage
  | .topic, some _ => .ok { scope := .topic, closed := true }
  | _, _ => .error .usage

def readArgument (reading : Reading) (argument : String) : Except Stop Reading :=
  if reading.closed then .error .usage
  else
    match reading.pending, argument.toList with
    | some setting, ['-'] => reading.setValue setting "-"
    | some _, '-' :: _ => .error .usage
    | some setting, _ => reading.setValue setting argument
    | none, ['-', '-'] => .ok { reading with closed := true }
    | none, '-' :: '-' :: long => reading.readLong (splitName long).1 (splitName long).2
    | none, '-' :: letter :: rest => reading.readLetter letter rest
    | none, _ => reading.readWord argument

def options (reading : Reading) (configFile : Option FilePath) : BuildOptions where
  configFile := reading.path? .configFile <|> configFile
  fragments := reading.path? .fragments
  handlerRoot := reading.path? .handlerRoot
  output := reading.path? .output
  typeDefinitions := reading.path? .typeDefinitions
  componentSources := reading.path? .componentSources
  strict := reading.has .strict
  failOnMissingHandlers := reading.has .failOnMissingHandlers
  withoutRouter := reading.has .noRouter
  withoutHandlerValidation := reading.has .skipHandlerValidation
  collisionPolicy := (reading.value? .collisionPolicy).bind CollisionPolicy.parse?

/-- The configuration file of the environment serves when none is given, and
must have a name then. -/
def finish (configFile : Option String) (reading : Reading) : Except Stop Request :=
  match reading.scope, reading.pending with
  | .topic, _ => .error .help
  | .command command, none =>
    if (reading.value? .configFile).isNone && configFile = some "" then .error .usage
    else
      .ok { command
            asJson := reading.has .json
            logLevel := reading.value? .logLevel <|> reading.programLogLevel
            options := reading.options (configFile.map FilePath.mk) }
  | _, _ => .error .usage

end Reading

def Request.read (configFile : Option String) (arguments : List String) : Except Stop Request :=
  (arguments.foldlM Reading.readArgument {}).bind (Reading.finish configFile)

end ApiAssembly.Console
