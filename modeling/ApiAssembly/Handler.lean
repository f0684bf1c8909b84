import ApiAssembly.BuildError
import ApiAssembly.FileTree.Basic
import ApiAssembly.Specification.Basic
import ApiAssembly.Text.Basic
/-! Handlers that operations are bound to. A handler is missing when its file is not there, and under
strict rules also when the file nowhere mentions the function. Missing handlers either fail the
build, all in one error, or turn their operations into stubs. -/
namespace ApiAssembly

structure HandlerRules where
  strict : Bool
  failOnMissing : Bool
  -- The directory that handler files are relative to.
  root : FilePath
deriving DecidableEq

namespace HandlerRules

def areFatal (rules : HandlerRules) : Bool := rules.strict || rules.failOnMissing

end HandlerRules

namespace FileTree

/-- A file that is no text mentions nothing. -/
def fileMentions (tree : FileTree) (path : FilePath) (function : String) : Bool :=
  match tree.readText path with
  | .ok text => Text.mentions text function
  | .error _ => false

end FileTree

namespace MissingHandler

def ofOperation? (rules : HandlerRules) (tree : FileTree) (operation : Operation) :
    Option MissingHandler :=
  match operation.handler with
  | none => none
  | some binding =>
    let missing (function : Option String) : MissingHandler :=
      ⟨operation.method, operation.path, operation.id, binding.file, function⟩
    let path := rules.root.join binding.file
    if !tree.isFile path then some (missing none)
    else if rules.strict && !tree.fileMentions path binding.function then
      some (missing (some binding.function))
    else none

/-- All missing handlers of a specification, in route order. -/
def all (rules : HandlerRules) (tree : FileTree) (spec : Specification) : List MissingHandler :=
  spec.operations.filterMap (ofOperation? rules tree)

/-- The handlers to stub, unless missing ones fail the build. -/
def check (rules : HandlerRules) (tree : FileTree) (spec : Specification) :
    Except BuildError (List MissingHandler) :=
  let missing := all rules tree spec
  if rules.areFatal && !missing.isEmpty then .error (.missingHandlers missing) else .ok missing

def warning (missing : MissingHandler) : String :=
  "missing handler " ++ missing.text ++ "; emitting stub"

end MissingHandler
end ApiAssembly
