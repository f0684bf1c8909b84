import ApiAssembly.Identifier.Names
import ApiAssembly.Route
import ApiAssembly.Text.Quoted
import ApiAssembly.Text.Whitespace
/-! The command line of an API: one subcommand an operation. Path parameters are positional, a
required body is one more positional argument, and a body that may be left out is an option. -/
namespace ApiAssembly.CommandLine
open Text

def introduction : List String := [
  "//",
  "// One subcommand per operation. Path parameters are positional arguments in",
  "// template order; a required request body is a trailing positional JSON",
  "// argument, an optional one is `--body`.",
  "",
  "use clap::\x7bParser, Subcommand\x7d;",
  "",
  "#[derive(Parser, Debug)]",
  "#[command("]

def attributes : List String := [
  "    disable_help_subcommand = true",
  ")]",
  "pub struct Cli \x7b",
  "    /// Base URL of the API"]

def declarations : List String := [
  "    pub base_url: String,",
  "",
  "    #[command(subcommand)]",
  "    pub command: Command,",
  "\x7d",
  "",
  "#[derive(Subcommand, Debug, Clone, PartialEq, Eq)]",
  "#[allow(non_camel_case_types)]",
  "pub enum Command \x7b"]

/-- The field that takes the body: the first of these names that no path parameter has taken. -/
def bodyField (pathFields : List String) : String :=
  (["body", "payload", "request_body"].find? fun name => !pathFields.contains name).getD
    "request_body_"

structure Command where
  names : Identifier.Names
  route : Route

namespace Command

def ofRoute (route : Route) : Command := ⟨Identifier.Names.ofOperation route.operationId, route⟩

def pathFields (command : Command) : List String :=
  command.route.pathParameters.map Identifier.commandField

def bodyField? (command : Command) : Option String :=
  if command.route.hasBody then some (bodyField command.pathFields) else none

def fields (command : Command) : List String := command.pathFields ++ command.bodyField?.toList

def fieldLine (name type : String) : String := "        " ++ name ++ ": " ++ type ++ ","

def bodyLines (command : Command) : List String :=
  match command.bodyField? with
  | none => []
  | some name =>
    if command.route.bodyRequired then
      ["        /// JSON request body", fieldLine name "String"]
    else ["        /// JSON request body", "        #[arg(long)]", fieldLine name "Option<String>"]

def fallbackText (route : Route) : String := route.key.text

def about (command : Command) : String :=
  match command.route.summary.map oneLine with
  | some text => if text.isEmpty then fallbackText command.route else text
  | none => fallbackText command.route

def variantLines (command : Command) : List String :=
  ["    /// " ++ command.about,
    "    #[command(name = " ++ Quoted.quote command.names.subcommand ++ ")]"] ++
    if command.fields.isEmpty then ["    " ++ command.names.variant ++ ","]
    else ["    " ++ command.names.variant ++ " \x7b"] ++
      command.pathFields.map (fun name => fieldLine name "String") ++ command.bodyLines ++
      ["    \x7d,"]

def tableLine (command : Command) : String :=
  "    (" ++ Quoted.quote command.names.subcommand ++ ", " ++
    Quoted.quote command.route.operationId ++ ", " ++ toString command.route.arity ++ "),"

def armLine (command : Command) (bound value : String) : String :=
  "            Command::" ++ command.names.variant ++ " \x7b " ++ bound ++ ".. \x7d => " ++ value ++
    ","

def idLine (command : Command) : String :=
  command.armLine "" (Quoted.quote command.route.operationId)

def methodLine (command : Command) : String :=
  command.armLine "" (Quoted.quote command.route.method.name)

def substitution (parameter : String) : String :=
  ".replace(" ++ Quoted.quote ("\x7b" ++ parameter ++ "\x7d") ++ ", " ++
    Identifier.commandField parameter ++ ")"

def pathLine (command : Command) : String :=
  command.armLine (String.join (command.pathFields.map fun name => name ++ ", "))
    (Quoted.quote command.route.path ++ ".to_string()" ++
      String.join (command.route.pathParameters.map substitution))

def bodyLine? (command : Command) : Option String :=
  command.bodyField?.map fun name =>
    command.armLine (name ++ ", ")
      (if command.route.bodyRequired then "Some(" ++ name ++ ".as_str())"
       else name ++ ".as_deref()")

end Command

def method (signature : List String) (arms : List String) : List String :=
  signature ++ ["        match self \x7b"] ++ arms ++ ["        \x7d", "    \x7d"]

def methods (commands : List Command) : List String :=
  ["", "impl Command \x7b"] ++
    method ["    pub fn operation_id(&self) -> &'static str \x7b"] (commands.map Command.idLine) ++
    [""] ++
    method ["    pub fn method(&self) -> &'static str \x7b"] (commands.map Command.methodLine) ++
    [""] ++
    method ["    /// Request path with path parameters substituted.",
      "    pub fn path(&self) -> String \x7b"] (commands.map Command.pathLine) ++
    [""] ++
    method ["    /// Raw JSON request body, if one was given.",
      "    pub fn body(&self) -> Option<&str> \x7b"]
      (commands.filterMap Command.bodyLine? ++
        ["            #[allow(unreachable_patterns)]", "            _ => None,"]) ++
    ["\x7d"]

/-- The name of the program comes from the title, or from a general word when
that has no letters. -/
def programBase (info : Info) : String :=
  let base := Identifier.kebab info.title
  if base.isEmpty then "api" else base

def programAbout (info : Info) : String :=
  let fallback := "Command-line client for " ++ oneLine info.title
  match info.description.map oneLine with
  | some text => if text.isEmpty then fallback else text
  | none => fallback

def lines (info : Info) (commands : List Command) : List String :=
  let base := programBase info
  ("// " ++ notice (oneLine info.title) (oneLine info.version)) :: introduction ++
    ["    name = " ++ Quoted.quote (base ++ "-cli") ++ ",",
      "    version = " ++ Quoted.quote (oneLine info.version) ++ ",",
      "    about = " ++ Quoted.quote (programAbout info) ++ ","] ++
    attributes ++
    ["    #[arg(long, env = " ++
      Quoted.quote (upperAscii (Identifier.snake base) ++ "_BASE_URL") ++
      ", default_value = \"http://localhost:8080\")]"] ++
    declarations ++ commands.flatMap Command.variantLines ++
    ["\x7d", "", "/// `(subcommand, operationId, positional arity)` for every subcommand.",
      "pub const SUBCOMMANDS: &[(&str, &str, usize)] = &["] ++
    commands.map Command.tableLine ++ ["];"] ++
    if commands.isEmpty then [] else methods commands

def render (spec : Specification) (routes : List Route) : String :=
  unlines (lines spec.info (routes.map Command.ofRoute))

end ApiAssembly.CommandLine
