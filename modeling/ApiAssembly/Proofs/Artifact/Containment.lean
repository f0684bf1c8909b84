import ApiAssembly.Proofs.Artifact.ClientLines
import ApiAssembly.Proofs.Artifact.CommandLines
import ApiAssembly.Specification.Merge
/-! Texts of a specification inside the generated programs. A comment ends with its line, so a text stays
in its comment when the lines of a program are those of its template; a documentation text ends
with the quotes that the template puts behind it. The number of lines then is a matter of how
many routes, placeholders, fields, bodies and components there are. -/
namespace ApiAssembly
open Text

structure Router.Contained (spec : Specification) (routes : List Route) : Prop where
  lines : linesOf (Router.render spec routes) = Router.lines spec.info routes
  count : (linesOf (Router.render spec routes)).length =
    Router.lineCount routes.length (routes.countP Route.stub)

structure CommandLine.Contained (spec : Specification) (routes : List Route) : Prop where
  lines : linesOf (CommandLine.render spec routes) =
    CommandLine.lines spec.info (routes.map CommandLine.Command.ofRoute)
  count : (linesOf (CommandLine.render spec routes)).length =
    CommandLine.lineCount (routes.map CommandLine.CommandShape.ofRoute)

structure ScriptingClient.Contained (spec : Specification) (routes : List Route) : Prop where
  lines : linesOf (ScriptingClient.render spec routes) = ScriptingClient.lines spec routes
  count : (linesOf (ScriptingClient.render spec routes)).length =
    ScriptingClient.lineCount routes.length (ScriptingClient.components spec).size
  opens : ∃ rest, ScriptingClient.render spec routes =
    "# " ++ notice (docText spec.info.title) (docText spec.info.version) ++ "\n\"\"\"" ++
      moduleText spec.info ++ "\"\"\"" ++ rest
  closes : ClosesBehind (moduleText spec.info)
  methodsClose : ∀ route ∈ routes, ClosesBehind (doc route)

theorem Router.contained_iff (spec : Specification) (routes : List Route) :
    Router.Contained spec routes ↔
      ∀ route ∈ routes, route.stub = true → InLine route.path ∧ InLine (stubFile route) := by
  rw [← inLine_lines_iff spec.info]
  constructor
  · intro contained
    exact (linesOf_unlines_iff _).mp contained.lines
  · intro inLine
    have same := linesOf_unlines _ inLine
    exact ⟨same, (congrArg List.length same).trans (length_lines spec.info routes)⟩

theorem CommandLine.contained_iff (spec : Specification) (routes : List Route) :
    CommandLine.Contained spec routes ↔
      ∀ route ∈ routes, Command.summarized route = false → InLine route.path := by
  rw [← inLine_lines_iff spec.info]
  constructor
  · intro contained
    exact (linesOf_unlines_iff _).mp contained.lines
  · intro inLine
    have same := linesOf_unlines _ inLine
    exact ⟨same, (congrArg List.length same).trans (length_lines spec.info routes)⟩

theorem ScriptingClient.contained (spec : Specification) (routes : List Route) :
    ScriptingClient.Contained spec routes := by
  have same := linesOf_unlines _ (inLine_lines spec routes)
  exact {
    lines := same
    count := (congrArg List.length same).trans (length_lines spec routes)
    opens := render_moduleText spec routes
    closes := closesBehind_moduleText spec.info
    methodsClose := fun route _ => closesBehind_doc route }

/-- The scripting client keeps all texts in their comments. The router keeps them there unless the path
or the file of a placeholder has a line end, and the command line unless a path that stands in for
a summary has one. -/
theorem texts_contained_iff (spec : Specification) (routes : List Route) :
    (Router.Contained spec routes ↔
      ∀ route ∈ routes, route.stub = true →
        InLine route.path ∧ InLine (Router.stubFile route)) ∧
    (CommandLine.Contained spec routes ↔
      ∀ route ∈ routes, CommandLine.Command.summarized route = false → InLine route.path) ∧
    ScriptingClient.Contained spec routes :=
  ⟨Router.contained_iff spec routes, CommandLine.contained_iff spec routes,
    ScriptingClient.contained spec routes⟩

/-- An operation without a summary, at a path of two lines, with a handler in a file of two lines. -/
def twoLineFragment : Fragment :=
  ⟨"core", ⟨"core.yaml"⟩, .handWritten, .obj [("paths", .obj [("/a\nb", .obj [("get", .obj [
    ("operationId", .str "a"), ("x-handler-file", .str "c\nd.go")])])])]⟩

def twoLineRoute : Route := ⟨.get, "/a\nb", "a", none, [], none, some ⟨⟨"c\nd.go"⟩, "a"⟩, true⟩

/-- The path leaves the comment of the placeholder, and that of the subcommand. -/
theorem texts_leave_comments :
    let spec := (Merge.ofFragments .lastWriterWins [twoLineFragment]).specification
    let routes := Route.table spec [⟨"/a\nb", .get⟩]
    routes = [twoLineRoute] ∧ ¬ Router.Contained spec routes ∧ ¬ CommandLine.Contained spec routes := by
  intro spec routes
  have table : routes = [twoLineRoute] := by decide +kernel
  have listed : twoLineRoute ∈ routes := by
    rw [table]
    exact List.mem_cons_self
  -- One path breaks both programs: it is that of a placeholder, and it stands in for a summary.
  have broken : ¬ InLine twoLineRoute.path := by decide
  refine ⟨table, ?_, ?_⟩
  · intro contained
    exact broken ((Router.contained_iff spec routes).mp contained twoLineRoute listed rfl).1
  · intro contained
    exact broken ((CommandLine.contained_iff spec routes).mp contained twoLineRoute listed rfl)

end ApiAssembly
