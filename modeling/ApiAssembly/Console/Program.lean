import ApiAssembly.Build.Run
import ApiAssembly.Console.Arguments
import ApiAssembly.Console.RouteRow
import ApiAssembly.LogSettings
import ApiAssembly.Yaml.Printer
/-! The program: what a command line comes to over a tree of files. Results go to the output, reports
and warnings to the errors; the exit code is 2 when the arguments make no sense, 1 when anything
is wrong with the project, and 0 otherwise. What is logged on the way is left out. -/
namespace ApiAssembly.Console

def programName : String := "specweave-gen"

def programVersion : String := "0.1.0-alpha.1"

/-- The configuration file is the one to use when none is given. -/
structure Environment where
  configFile : Option String := none
  log : LogSettings := {}

structure Response where
  exitCode : Nat := 0
  output : String := ""
  errors : String := ""
deriving DecidableEq

namespace Response

def line (text : String) : String := text ++ "\n"

def lines (texts : List String) : String := String.join (texts.map line)

def ofError (error : BuildError) : Response :=
  { exitCode := 1, errors := line ("[" ++ error.kind ++ "] " ++ error.message) }

/-- A report is set off by an empty line. -/
def ofReport (report : Report) (output : String) : Response :=
  ⟨report.exitCode, output, line report.text⟩

def append (first second : Response) : Response :=
  ⟨max first.exitCode second.exitCode, first.output ++ second.output,
    first.errors ++ second.errors⟩

end Response

def statusText : WriteStatus → String
  | .created => "Created"
  | .updated => "Updated"
  | .unchanged => "Unchanged"

def artifactText (artifact : EmittedArtifact) : String :=
  Text.padded 17 artifact.kind.name ++ " " ++ artifact.path.text ++ " (" ++
    statusText artifact.status ++ ")"

def sizeText (spec : Specification) : String :=
  toString spec.operationCount ++ " operation(s) across " ++ toString spec.paths.keys.length ++
    " path(s)"

def routesText (asJson : Bool) (routes : List Route) : String :=
  let rows := routes.map RouteRow.ofRoute
  if asJson then Response.line (RouteRow.listText rows)
  else Response.lines (rows.map RouteRow.text)

def fragmentText (fragment : Fragment) : String :=
  Response.line ("# fragment: " ++ fragment.name ++ " (" ++ fragment.path.text ++ ")") ++
    Response.line (Yaml.text fragment.document)

def synthesisResponse (synthesis : Synthesis) : Response where
  exitCode := if synthesis.errors.isEmpty then 0 else 1
  output := String.join (synthesis.fragment.toList.map fragmentText)
  errors := Response.lines (synthesis.warnings.map fun warning => "warning: " ++ warning) ++
    String.join (synthesis.errors.map fun error => (Response.ofError error).errors)

def synthesesResponse (config : Config) (tree : FileTree) : Response :=
  match Build.synthesize config tree with
  | .error error => Response.ofError error
  | .ok syntheses => (syntheses.map synthesisResponse).foldl Response.append {}

def generate (config : Config) (tree : FileTree) : FileTree × Response :=
  let (tree, outcome) := Build.run Renderer.standard config .generate tree
  (tree, Response.ofReport outcome.report (Response.lines (outcome.artifacts.map artifactText)))

def validated (config : Config) (tree : FileTree) : BuildOutcome :=
  (Build.run Renderer.standard config .validate tree).2

/-- Only generating changes anything. -/
def perform (request : Request) (config : Config) (tree : FileTree) : FileTree × Response :=
  match request.command with
  | .generate => generate config tree
  | .validate =>
    let outcome := validated config tree
    let sizes := outcome.specification.toList.map sizeText
    (tree, Response.ofReport outcome.report (Response.lines sizes))
  | .inspect =>
    let outcome := validated config tree
    (tree, Response.ofReport outcome.report (routesText request.asJson outcome.routes))
  | .synthesize => (tree, synthesesResponse config tree)

def answer (environment : Environment) (request : Request) (tree : FileTree) :
    FileTree × Response :=
  let log := environment.log.withLevel request.logLevel
  let warned : Response := { errors := Response.lines log.warnings }
  match request.options.config tree with
  | .error fault => (tree, warned.append (Response.ofError (.configuration fault)))
  | .ok config =>
    let (tree, response) := perform request config tree
    (tree, warned.append response)

def usage : String := "Usage: " ++ programName ++ " [OPTIONS] <COMMAND>"

def helpText : String := Response.lines
  ["Merge schema fragments and generate a router, a CLI client and a scripting client", "",
    usage, "", "Commands:",
    "  generate  Run the full pipeline and write all enabled artifacts",
    "  validate  Load, merge and validate without writing anything",
    "  inspect   Print the route table with every generated name",
    "  synth     Print the synthesized fragments as YAML",
    "  help      Print this message or the help of the given subcommand(s)", "", "Options:",
    "      --log-level <LOG_LEVEL>  Log level override (trace, debug, info, warn, error)",
    "  -h, --help                   Print help", "  -V, --version                Print version"]

def stopResponse : Stop → Response
  | .usage => { exitCode := 2, errors := Response.line usage }
  | .help => { output := helpText }
  | .version => { output := Response.line (programName ++ " " ++ programVersion) }

def run (environment : Environment) (arguments : List String) (tree : FileTree) :
    FileTree × Response :=
  match Request.read environment.configFile arguments with
  | .error stop => (tree, stopResponse stop)
  | .ok request => answer environment request tree

end ApiAssembly.Console
