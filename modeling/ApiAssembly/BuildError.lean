import ApiAssembly.FileTree.Fault
import ApiAssembly.Operation
/-! Everything that can go wrong in a build, and the words in which it is reported. A kind is the
short name of a family of errors. -/
namespace ApiAssembly

/-- Why a document is no fragment. -/
inductive FragmentFault where
  | malformed (detail : String)
  | unreadable (fault : FileFault)
  | rootNotMapping
  | pathsNotMapping
  | pathWithoutSlash (path : String)
  | pathItemNotMapping (path : String)
  | operationNotMapping (key path : String)
  | componentsNotMapping
  | schemasNotMapping
  | nameTaken (name : String) (first : FilePath)
deriving DecidableEq

namespace FragmentFault

def message : FragmentFault → String
  | malformed detail => detail
  | unreadable fault => fault.message
  | rootNotMapping => "document root must be a mapping"
  | pathsNotMapping => "`paths` must be a mapping of path -> path item"
  | pathWithoutSlash path => "path '" ++ path ++ "' must start with '/'"
  | pathItemNotMapping path => "path item '" ++ path ++ "' must be a mapping"
  | operationNotMapping key path =>
    "operation '" ++ key ++ " " ++ path ++ "' must be a mapping"
  | componentsNotMapping => "`components` must be a mapping"
  | schemasNotMapping => "`components.schemas` must be a mapping"
  | nameTaken name first =>
    "fragment name '" ++ name ++ "' is already used by " ++ first.text

end FragmentFault

inductive ConfigFault where
  | malformed (detail : String)
  | malformedFile (file : FilePath) (detail : String)
  | unreadable (file : FilePath) (fault : FileFault)
  | noSchemaDirectory
  | unknownMethod (text : String)
  | synthesisPath (path : String)
  | notSourceDirectory (directory : FilePath)
  | noFragments (directory : FilePath)
deriving DecidableEq

namespace ConfigFault

def message : ConfigFault → String
  | malformed detail => detail
  | malformedFile file detail => file.text ++ ": " ++ detail
  | unreadable file fault => "cannot read " ++ file.text ++ ": " ++ fault.message
  | noSchemaDirectory => "no schema directory configured (paths.schemas)"
  | unknownMethod text => "synth.types.method: unknown HTTP method '" ++ text ++ "'"
  | synthesisPath path => "synth.types.path: '" ++ path ++ "' must start with '/'"
  | notSourceDirectory directory =>
    "synthesis source " ++ directory.text ++ " is not a directory"
  | noFragments directory => "no schema fragments found in " ++ directory.text

end ConfigFault

/-- The function is named when the file is there but does not mention it. -/
structure MissingHandler where
  method : Method
  path : String
  operationId : String
  file : FilePath
  function : Option String
deriving DecidableEq

namespace MissingHandler

def key (missing : MissingHandler) : OperationKey := ⟨missing.path, missing.method⟩

def text (missing : MissingHandler) : String :=
  missing.key.text ++ " -> " ++ missing.file.text ++
    match missing.function with
    | some function => "#" ++ function
    | none => ""

end MissingHandler

/-- One operation took the place of another of the same path and method. -/
structure Collision where
  method : Method
  path : String
  earlier : String
  later : String
deriving DecidableEq

inductive BuildError where
  | fragment (file : FilePath) (fault : FragmentFault)
  | duplicateOperationId (id : String) (occurrences : List String)
  | pathConflict (collision : Collision)
  | missingHandlers (missing : List MissingHandler)
  | rendering (artifact cause : String)
  | discriminatorConflict (discriminator : String) (types : List String)
  | nameCollision (artifact name : String) (sources : List String)
  | configuration (fault : ConfigFault)
  | file (path : FilePath) (fault : FileFault)
  | other (text : String)
deriving DecidableEq

namespace BuildError

def kind : BuildError → String
  | fragment .. => "SchemaParseError"
  | duplicateOperationId .. => "DuplicateOperationIDError"
  | pathConflict .. => "PathConflictError"
  | missingHandlers .. => "MissingHandlerError"
  | rendering .. => "TemplateRenderError"
  | discriminatorConflict .. => "DuplicateOperationIDError"
  | nameCollision .. => "GeneratedNameCollisionError"
  | configuration .. => "ConfigError"
  | file .. => "IoError"
  | other .. => "Error"

def message : BuildError → String
  | fragment path fault => "schema parse error in " ++ path.text ++ ": " ++ fault.message
  | duplicateOperationId id occurrences =>
    "duplicate operationId '" ++ id ++ "' declared by " ++ " and ".intercalate occurrences
  | pathConflict collision =>
    "path conflict on " ++ collision.method.name ++ " " ++ collision.path ++ ": '" ++
      collision.earlier ++ "' is overridden by '" ++ collision.later ++ "'"
  | missingHandlers missing =>
    "missing handler implementation for " ++ toString missing.length ++ " operation(s):" ++
      String.join (missing.map fun handler => "\n  " ++ handler.text)
  | rendering artifact cause => "failed to render " ++ artifact ++ ": " ++ cause
  | discriminatorConflict discriminator types =>
    "discriminator '" ++ discriminator ++ "' is produced by more than one type: " ++
      ", ".intercalate types
  | nameCollision artifact name sources =>
    "generated " ++ artifact ++ " name '" ++ name ++ "' is produced by " ++
      ", ".intercalate sources
  | configuration fault => "configuration error: " ++ fault.message
  | file path fault => "i/o error on " ++ path.text ++ ": " ++ fault.message
  | other text => text

end BuildError
end ApiAssembly
