import ApiAssembly.Proofs.Artifact.ClientMethods
import ApiAssembly.Proofs.Artifact.DeclaredCommands
import ApiAssembly.Proofs.Artifact.Placeholders
import ApiAssembly.Proofs.Identifier.Collision
/-! The names that the generated programs define, as their texts have them. What passes the checks of the
names is defined once in the scripting client. In the router and in the command line the path of an
operation may leave its comment and bring further definitions along; otherwise these define each
name once as well. -/
namespace ApiAssembly
open Text

/-- No method has the name of another member, and no method binds a name twice. -/
structure ScriptingClient.NamesApart (text : String) : Prop where
  methods : (definedMethods text).Nodup
  attributes : ∀ name ∈ ["timeout", "base_url"], name ∉ definedMethods text
  parameters : ∀ names ∈ definedParameters text, names.Nodup

/-- No two subcommands share their name or their variant, and no two fields of a variant share theirs. -/
structure CommandLine.NamesApart (text : String) : Prop where
  subcommands : ((declaredCommands text).map DeclaredCommand.subcommand).Nodup
  variants : ((declaredCommands text).map DeclaredCommand.variant).Nodup
  fields : ∀ command ∈ declaredCommands text, command.fields.Nodup

/-- The names that were checked: those of the operations, and those that each operation gives to its
path parameters. -/
structure Route.NamesChecked (routes : List Route) : Prop where
  subcommands : (routes.map fun route => (CommandLine.Command.ofRoute route).names.subcommand).Nodup
  variants : (routes.map fun route => (CommandLine.Command.ofRoute route).names.variant).Nodup
  methods : (routes.map fun route =>
    (Identifier.Names.ofOperation route.operationId).clientMethod).Nodup
  placeholders : (routes.map Router.stubName).Nodup
  fields : ∀ route ∈ routes, (route.pathParameters.map Identifier.commandField).Nodup
  arguments : ∀ route ∈ routes, (route.pathParameters.map Identifier.clientArgument).Nodup

/-- What passes the check of the parameters of all operations. -/
theorem Route.parameterCollisions_eq_nil_iff (routes : List Route) :
    Route.parameterCollisions routes = [] ↔ ∀ route ∈ routes,
      (route.pathParameters.map Identifier.commandField).Nodup ∧
        (route.pathParameters.map Identifier.clientArgument).Nodup := by
  rw [Route.parameterCollisions, List.flatMap_eq_nil_iff]
  simp only [Identifier.parameterCollisions_eq_nil_iff]

theorem Route.namesChecked (spec : Specification) (stubs : List OperationKey)
    (operationsPass : Identifier.operationCollisions (spec.operations.map Operation.id) = [])
    (parametersPass : Route.parameterCollisions (Route.table spec stubs) = []) :
    Route.NamesChecked (Route.table spec stubs) := by
  have ids : (Route.table spec stubs).map Route.operationId = spec.operations.map Operation.id := by
    rw [Route.table, List.map_map]
    rfl
  rw [← ids, Identifier.operationCollisions_eq_nil_iff] at operationsPass
  simp only [List.map_map, Function.comp_def] at operationsPass
  obtain ⟨subcommands, variants, methods, placeholders⟩ := operationsPass
  rw [Route.parameterCollisions_eq_nil_iff] at parametersPass
  exact {
    subcommands, variants, methods, placeholders
    fields := fun route member => (parametersPass route member).1
    arguments := fun route member => (parametersPass route member).2 }

theorem ScriptingClient.namesApart (spec : Specification) (routes : List Route)
    (checked : Route.NamesChecked routes) :
    ScriptingClient.NamesApart (ScriptingClient.render spec routes) := by
  have free : ∀ name ∈ memberNames, name ∉ routes.map fun route => methodName route.operationId := by
    intro name isMember listed
    obtain ⟨route, _, rfl⟩ := List.mem_map.mp listed
    exact methodName_not_mem route.operationId isMember
  have apart : (routes.map fun route => methodName route.operationId).Nodup := by
    have once := methodNames_nodup (routes.map Route.operationId)
    simp only [List.map_map, Function.comp_def] at once
    exact once checked.methods
  have defined := definedMethods_render spec routes
  constructor
  case methods =>
    rw [defined, List.nodup_append]
    refine ⟨by decide, apart, ?_⟩
    -- The members that every client has are among the names that methods keep clear of.
    intro own isOwn name isMethod same
    have members : ∀ name ∈ ["__init__", "_request"], name ∈ memberNames := by decide
    exact free own (members own isOwn) (same ▸ isMethod)
  case attributes =>
    intro name isAttribute
    have members : ∀ name ∈ ["timeout", "base_url"],
        name ∈ memberNames ∧ name ∉ ["__init__", "_request"] := by decide
    rw [defined, List.mem_append, not_or]
    exact ⟨(members name isAttribute).2, free name (members name isAttribute).1⟩
  case parameters =>
    rw [definedParameters_render, List.forall_mem_append, List.forall_mem_map]
    exact ⟨by decide, fun route member => boundNames_nodup route (checked.arguments route member)⟩

theorem CommandLine.namesApart (spec : Specification) (routes : List Route)
    (checked : Route.NamesChecked routes)
    (none : ∀ route ∈ routes, strayCommands route = []) :
    CommandLine.NamesApart (CommandLine.render spec routes) := by
  have declared := (declaredCommands_render_iff spec routes).mpr none
  constructor
  case subcommands =>
    rw [declared, List.map_map]
    simp only [Function.comp_def, DeclaredCommand.ofRoute]
    exact checked.subcommands
  case variants =>
    rw [declared, List.map_map]
    simp only [Function.comp_def, DeclaredCommand.ofRoute]
    exact checked.variants
  case fields =>
    rw [declared, List.forall_mem_map]
    exact fun route member => Command.fields_nodup _ (checked.fields route member)

/-- What the generated programs of a route table define. Read line by line, the router and the command
line have the names of all routes, each behind whatever its comment breaks into. -/
structure DefinedNames (spec : Specification) (routes : List Route) : Prop where
  client : ScriptingClient.NamesApart (ScriptingClient.render spec routes)
  methods : ScriptingClient.definedMethods (ScriptingClient.render spec routes) =
    ["__init__", "_request"] ++ routes.map fun route => ScriptingClient.methodName route.operationId
  parameters : (ScriptingClient.definedParameters (ScriptingClient.render spec routes)).drop 2 =
    routes.map ScriptingClient.boundNames
  subcommands : (CommandLine.declaredCommands (CommandLine.render spec routes)).map
      CommandLine.DeclaredCommand.subcommand = routes.flatMap fun route =>
    CommandLine.strayCommands route ++ [(CommandLine.Command.ofRoute route).names.subcommand]
  commands : (∀ route ∈ routes, CommandLine.Command.summarized route = false → InLine route.path) →
    CommandLine.declaredCommands (CommandLine.render spec routes) =
        routes.map CommandLine.DeclaredCommand.ofRoute ∧
      CommandLine.NamesApart (CommandLine.render spec routes)
  referred : Router.referredStubs (Router.render spec routes) =
    (routes.filter Route.stub).map Router.stubName
  defined : Router.definedStubs (Router.render spec routes) =
    (routes.filter Route.stub).flatMap fun route => Router.strayStubs route ++ [Router.stubName route]
  placeholders : (∀ route ∈ routes, route.stub = true →
      InLine route.path ∧ InLine (Router.stubFile route)) →
    Router.StubsMatch (Router.render spec routes)

/-- What passes the checks of the names is defined once: always in the scripting client, in the command
line as long as no path that stands in for a summary has a line end, and in the router as long as
no path and no file of a placeholder has one. -/
theorem generated_names_distinct (spec : Specification) (stubs : List OperationKey)
    (operationsPass : Identifier.operationCollisions (spec.operations.map Operation.id) = [])
    (parametersPass : Route.parameterCollisions (Route.table spec stubs) = []) :
    DefinedNames spec (Route.table spec stubs) := by
  have checked := Route.namesChecked spec stubs operationsPass parametersPass
  constructor
  case client => exact ScriptingClient.namesApart spec _ checked
  case methods => exact ScriptingClient.definedMethods_render spec _
  case parameters =>
    rw [ScriptingClient.definedParameters_render]
    rfl
  case subcommands => exact CommandLine.subcommands_render spec _
  case commands =>
    intro inLine
    have none : ∀ route ∈ Route.table spec stubs, CommandLine.strayCommands route = [] :=
      fun route member => CommandLine.strayCommands_inLine route (inLine route member)
    exact ⟨(CommandLine.declaredCommands_render_iff spec _).mpr none,
      CommandLine.namesApart spec _ checked none⟩
  case referred => exact Router.referredStubs_render spec _
  case defined => exact Router.definedStubs_render spec _
  case placeholders =>
    intro inLine
    apply (Router.stubsMatch_render_iff spec _ checked.placeholders).mpr
    intro route member stubbed
    obtain ⟨path, file⟩ := inLine route member stubbed
    exact Router.strayStubs_inLine route path file

/-- Operations whose names no program can take as they are: a digit in front, words of a language, and
names that the programs use themselves. -/
def renamedFragment : Fragment :=
  ⟨"core", ⟨"core.yaml"⟩, .handWritten, .obj [("paths", .obj [
    ("/a/\x7bself\x7d/\x7bhelp\x7d/\x7bpayload\x7d/\x7bbody\x7d", .obj [("put", .obj [
      ("operationId", .str "2faVerify"), ("requestBody", .obj [("required", .bool true)]),
      ("x-handler-file", .str "a.go")])]),
    ("/b", .obj [("get", .obj [("operationId", .str "class")])]),
    ("/c", .obj [("get", .obj [("operationId", .str "timeout")])])])]⟩

theorem generated_names_distinct_renamed :
    let spec := (Merge.ofFragments .lastWriterWins [renamedFragment]).specification
    let routes := Route.table spec
      [⟨"/a/\x7bself\x7d/\x7bhelp\x7d/\x7bpayload\x7d/\x7bbody\x7d", .put⟩]
    let client := ScriptingClient.render spec routes
    Identifier.operationCollisions (spec.operations.map Operation.id) = [] ∧
    Route.parameterCollisions routes = [] ∧
    ScriptingClient.definedMethods client =
      ["__init__", "_request", "_2faVerify", "class_", "timeout_"] ∧
    (ScriptingClient.definedParameters client).drop 2 =
      [["self", "self_", "help", "payload_", "body", "payload"], ["self"], ["self"]] ∧
    CommandLine.declaredCommands (CommandLine.render spec routes) =
      [⟨"2fa-verify", "_2faVerify", ["self_", "help_", "payload", "body", "request_body"]⟩,
        ⟨"class", "Class", []⟩, ⟨"timeout", "Timeout", []⟩] ∧
    Router.referredStubs (Router.render spec routes) = ["stub_2fa_verify"] ∧
    ScriptingClient.NamesApart client ∧
    CommandLine.NamesApart (CommandLine.render spec routes) ∧
    Router.StubsMatch (Router.render spec routes) := by
  intro spec routes client
  have operationsPass : Identifier.operationCollisions (spec.operations.map Operation.id) = [] :=
    (Identifier.operationCollisions_eq_nil_iff _).mpr (by decide +kernel)
  have parametersPass : Route.parameterCollisions routes = [] :=
    (Route.parameterCollisions_eq_nil_iff routes).mpr (by decide +kernel)
  have summaries : ∀ route ∈ routes,
      CommandLine.Command.summarized route = false → InLine route.path := by decide +kernel
  have comments : ∀ route ∈ routes, route.stub = true →
      InLine route.path ∧ InLine (Router.stubFile route) := by decide +kernel
  have names := generated_names_distinct spec _ operationsPass parametersPass
  obtain ⟨commands, commandsApart⟩ := names.commands summaries
  refine ⟨operationsPass, parametersPass, ?_, ?_, ?_, ?_, names.client, commandsApart,
    names.placeholders comments⟩
  · rw [names.methods]
    decide +kernel
  · rw [names.parameters]
    decide +kernel
  · rw [commands]
    decide +kernel
  · rw [names.referred]
    decide +kernel

/-- Paths that go on behind their line: one with a function, one with a subcommand. -/
def functionPath : String :=
  "/a\npub fn stub_a() -> StubResponse \x7b\n    stub_a()\n\x7d\n//"

def subcommandPath : String := "/b\n    #[command(name = \"b\")]\n    B,\n    ///"

def repeatingFragment : Fragment :=
  ⟨"core", ⟨"core.yaml"⟩, .handWritten, .obj [("paths", .obj [
    (functionPath, .obj [("get", .obj [("operationId", .str "a"), ("summary", .str "First"),
      ("x-handler-file", .str "a.go")])]),
    (subcommandPath, .obj [("get", .obj [("operationId", .str "b")])])])]⟩

/-- All names pass the checks, and still a placeholder and a subcommand are defined twice. -/
theorem names_defined_twice :
    let spec := (Merge.ofFragments .lastWriterWins [repeatingFragment]).specification
    let routes := Route.table spec [⟨functionPath, .get⟩]
    Identifier.operationCollisions (spec.operations.map Operation.id) = [] ∧
    Route.parameterCollisions routes = [] ∧
    Router.definedStubs (Router.render spec routes) = ["stub_a", "stub_a"] ∧
    Router.referredStubs (Router.render spec routes) = ["stub_a"] ∧
    (CommandLine.declaredCommands (CommandLine.render spec routes)).map
      CommandLine.DeclaredCommand.subcommand = ["a", "b", "b"] ∧
    ¬ Router.StubsMatch (Router.render spec routes) ∧
    ¬ CommandLine.NamesApart (CommandLine.render spec routes) := by
  intro spec routes
  have operationsPass : Identifier.operationCollisions (spec.operations.map Operation.id) = [] :=
    (Identifier.operationCollisions_eq_nil_iff _).mpr (by decide +kernel)
  have parametersPass : Route.parameterCollisions routes = [] :=
    (Route.parameterCollisions_eq_nil_iff routes).mpr (by decide +kernel)
  have defined : Router.definedStubs (Router.render spec routes) = ["stub_a", "stub_a"] := by
    rw [Router.definedStubs_render]
    decide +kernel
  have referred : Router.referredStubs (Router.render spec routes) = ["stub_a"] := by
    rw [Router.referredStubs_render]
    decide +kernel
  have declared : (CommandLine.declaredCommands (CommandLine.render spec routes)).map
      CommandLine.DeclaredCommand.subcommand = ["a", "b", "b"] := by
    rw [CommandLine.subcommands_render]
    decide +kernel
  refine ⟨operationsPass, parametersPass, defined, referred, declared, ?_, ?_⟩
  · intro same
    have once := same.once
    rw [defined] at once
    exact absurd once (by decide)
  · intro apart
    have once := apart.subcommands
    rw [declared] at once
    exact absurd once (by decide)

end ApiAssembly
