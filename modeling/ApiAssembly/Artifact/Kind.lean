import ApiAssembly.Artifact.CommandLine
import ApiAssembly.Artifact.Router
import ApiAssembly.Artifact.ScriptingClient
/-! The artifacts that are generated from a specification, in the order in which they are emitted. -/
namespace ApiAssembly

inductive ArtifactKind where
  | router | commandLine | scriptingClient
deriving DecidableEq

namespace ArtifactKind

def all : List ArtifactKind := [router, commandLine, scriptingClient]

def name : ArtifactKind → String
  | router => "router"
  | commandLine => "cli"
  | scriptingClient => "scripting-client"

def render (kind : ArtifactKind) (spec : Specification) (routes : List Route) : String :=
  match kind with
  | router => Router.render spec routes
  | commandLine => CommandLine.render spec routes
  | scriptingClient => ScriptingClient.render spec routes

end ArtifactKind
end ApiAssembly
