import ApiAssembly.Config.Basic
import ApiAssembly.Toml.Reader
/-! Reading configurations. A group of settings is a table, or a list of its settings in their order;
settings that are left out keep their defaults, and unknown ones are refused. -/
namespace ApiAssembly.Config
open Toml (Value)

/-- The values of the named settings, absent ones included. -/
def settings? (names : List String) : Value → Option (List (Option Value))
  | .table entries =>
    if entries.all fun entry => names.contains entry.1 then
      some (names.map fun name => entries.lookup name)
    else none
  | .list items => some ((List.range names.length).map fun index => items[index]?)
  | _ => none

def setting? (read : Value → Option α) (default : α) : Option Value → Option α
  | none => some default
  | some value => read value

def text? : Value → Option String
  | .text value => some value
  | _ => none

def path? (value : Value) : Option FilePath := (text? value).map FilePath.mk

def truth? : Value → Option Bool
  | .truth value => some value
  | _ => none

def list? (read : Value → Option α) : Value → Option (List α)
  | .list items => items.mapM read
  | _ => none

def isHollow : Value → Bool
  | .list items => items.isEmpty
  | .table entries => entries.isEmpty
  | _ => false

/-- A choice is its name, or a table with that name and nothing under it. -/
def policy? : Value → Option CollisionPolicy
  | .text name => CollisionPolicy.parse? name
  | .table [(name, value)] => if isHollow value then CollisionPolicy.parse? name else none
  | _ => none

def paths? (value : Value) : Option Paths := do
  let initial : Paths := {}
  let names :=
    ["schemas", "handler-root", "out-dir", "type-definitions", "component-sources"]
  match ← settings? names value with
  | [fragments, handlerRoot, output, typeDefinitions, componentSources] =>
    pure ⟨← fragments.mapM path?, ← setting? path? initial.handlerRoot handlerRoot,
      ← setting? path? initial.output output, ← typeDefinitions.mapM path?,
      ← componentSources.mapM path?⟩
  | _ => none

def outputs? (value : Value) : Option Outputs := do
  let initial : Outputs := {}
  match ← settings? ["router", "cli", "scripting"] value with
  | [router, commandLine, scriptingClient] =>
    pure ⟨← setting? path? initial.router router,
      ← setting? path? initial.commandLine commandLine,
      ← setting? path? initial.scriptingClient scriptingClient⟩
  | _ => none

def types? (value : Value) : Option TypeSettings := do
  let initial : TypeSettings := {}
  let names := ["fragment-name", "path", "method", "operation-id", "strip-suffixes",
    "handler-file", "handler-function"]
  match ← settings? names value with
  | [fragmentName, path, method, operationId, endings, handlerFile, handlerFunction] =>
    pure ⟨← setting? text? initial.fragmentName fragmentName, ← setting? text? initial.path path,
      ← setting? text? initial.method method, ← setting? text? initial.operationId operationId,
      ← setting? (list? text?) initial.endings endings, ← handlerFile.mapM path?,
      ← handlerFunction.mapM text?⟩
  | _ => none

/-- A rule may carry further entries, which are passed over. -/
def rule? : Value → Option KeywordRule
  | .table entries => do
    pure ⟨← (entries.lookup "keyword").bind text?, ← (entries.lookup "category").bind text?⟩
  | .list (keyword :: category :: _) => do pure ⟨← text? keyword, ← text? category⟩
  | _ => none

def components? (value : Value) : Option ComponentSettings := do
  let initial : ComponentSettings := {}
  match ← settings? ["fragment-name", "extensions", "categories"] value with
  | [fragmentName, extensions, categories] =>
    pure ⟨← setting? text? initial.fragmentName fragmentName,
      ← setting? (list? text?) initial.extensions extensions,
      ← setting? (list? rule?) initial.categories categories⟩
  | _ => none

def synthesis? (value : Value) : Option (TypeSettings × ComponentSettings) := do
  match ← settings? ["types", "components"] value with
  | [types, components] =>
    pure (← setting? types? {} types, ← setting? components? {} components)
  | _ => none

def ofValue? (value : Value) : Option Config := do
  let initial : Config := {}
  let names := ["strict-validation", "auto-routing", "handler-validation",
    "fail-on-missing-handlers", "collision-policy", "paths", "outputs", "synth"]
  match ← settings? names value with
  | [strict, routing, validation, failing, policy, paths, outputs, synthesis] =>
    let (types, components) ← setting? synthesis? ({}, {}) synthesis
    pure ⟨← setting? truth? initial.strictValidation strict,
      ← setting? truth? initial.autoRouting routing,
      ← setting? truth? initial.handlerValidation validation,
      ← setting? truth? initial.failOnMissingHandlers failing,
      ← setting? policy? initial.collisionPolicy policy, ← setting? paths? {} paths,
      ← setting? outputs? {} outputs, types, components⟩
  | _ => none

def malformedDetail : String := "TOML parse error: not a valid configuration"

def ofText? (text : String) : Option Config := (Toml.read? text).bind fun entries =>
  ofValue? (.table entries)

/-- Paths stay as they are written. -/
def parse (text : String) : Except ConfigFault Config :=
  match ofText? text with
  | some config => .ok config
  | none => .error (.malformed malformedDetail)

def load (tree : FileTree) (file : FilePath) : Except ConfigFault Config :=
  match tree.readText file with
  | .error fault => .error (.unreadable file fault)
  | .ok text =>
    match ofText? text with
    | some config => .ok (config.relativeTo file.directory)
    | none => .error (.malformedFile file malformedDetail)

end ApiAssembly.Config
