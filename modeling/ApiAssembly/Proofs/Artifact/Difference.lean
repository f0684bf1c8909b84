import ApiAssembly.Artifact.Kind
import ApiAssembly.Proofs.Text.Lines
/-! Telling generated texts apart. The command line and the scripting client differ in their first
character, and a router that has a placeholder in its first row differs from all that have found
the handler there. -/
namespace ApiAssembly
open Text

theorem CommandLine.render_opens (spec : Specification) (routes : List Route) :
    ∃ rest, (CommandLine.render spec routes).toList = '/' :: rest :=
  unlines_opens "// " _ _ '/' _ rfl

theorem ScriptingClient.render_opens (spec : Specification) (routes : List Route) :
    ∃ rest, (ScriptingClient.render spec routes).toList = '#' :: rest :=
  unlines_opens "# " _ _ '#' _ rfl

theorem CommandLine.render_ne_client (spec : Specification) (routes : List Route) :
    CommandLine.render spec routes ≠ ScriptingClient.render spec routes := by
  intro same
  obtain ⟨_, slash⟩ := CommandLine.render_opens spec routes
  obtain ⟨_, hash⟩ := ScriptingClient.render_opens spec routes
  rw [same, hash] at slash
  cases slash

namespace Router

/-- A row up to its handler. -/
def rowOpening (route : Route) : String :=
  "    " ++ rowStart ++ Quoted.quote route.method.name ++ ", path: " ++ Quoted.quote route.path ++
    ", operation_id: " ++ Quoted.quote route.operationId ++ ", handler: "

theorem toList_row_handler (route : Route) : (row route).toList =
    (rowOpening route).toList ++ ((handlerText route).toList ++ " \x7d,".toList) := by
  have parts : row route = rowOpening route ++ handlerText route ++ " \x7d," := rfl
  rw [parts, String.toList_append, String.toList_append, List.append_assoc]

theorem toList_render_cons (spec : Specification) (route : Route) (rest : List Route) :
    ∃ behind, (render spec (route :: rest)).toList =
      (unlines (("// " ++ notice (oneLine spec.info.title) (oneLine spec.info.version)) ::
        head)).toList ++ ((rowOpening route).toList ++ ((handlerText route).toList ++ behind)) := by
  have parts : lines spec.info (route :: rest) =
      (("// " ++ notice (oneLine spec.info.title) (oneLine spec.info.version)) :: head) ++
        row route :: (rest.map row ++ ["];"] ++ ((route :: rest).filter Route.stub).flatMap stub ++
          tail) := by
    simp [lines]
  rw [render, parts, toList_unlines_append, toList_unlines (row route :: _), List.flatMap_cons,
    toList_row_handler]
  simp only [List.append_assoc]
  exact ⟨_, rfl⟩

theorem render_ne_of_stub (spec : Specification) (route : Route) (rest others : List Route)
    (binding : HandlerBinding) (bound : route.handler = some binding) :
    render spec ({ route with stub := true } :: rest) ≠
      render spec ({ route with stub := false } :: others) := by
  intro same
  obtain ⟨behind, text⟩ := toList_render_cons spec { route with stub := true } rest
  obtain ⟨otherBehind, otherText⟩ := toList_render_cons spec { route with stub := false } others
  rw [same, otherText] at text
  -- The two rows agree up to the handler, and the handlers up to their kind.
  have handlers := List.append_cancel_left (List.append_cancel_left text)
  simp only [handlerText, bound, if_true, String.toList_append, List.append_assoc] at handlers
  have kinds := congrArg (List.take 13) handlers
  simp at kinds

end Router
end ApiAssembly
