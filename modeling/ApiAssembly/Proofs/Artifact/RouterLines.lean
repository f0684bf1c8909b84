import ApiAssembly.Artifact.Router
import ApiAssembly.Proofs.Text.LineEnds
/-! The lines of the router. Texts come into it quoted, or put on one line; only the comment of a
placeholder takes a path and a file as they are. -/
namespace ApiAssembly

theorem Method.inLine_name (method : Method) : Text.InLine method.name := by
  cases method <;> decide

namespace Router
open Text

theorem inLine_head : ∀ line ∈ head, InLine line := by
  rw [head]
  repeat refine List.forall_mem_cons.mpr ⟨inLine_literal _ rfl, ?_⟩
  exact List.forall_mem_nil _

theorem inLine_tail : ∀ line ∈ tail, InLine line := by
  rw [tail]
  repeat refine List.forall_mem_cons.mpr ⟨inLine_literal _ rfl, ?_⟩
  exact List.forall_mem_nil _

theorem inLine_title (info : Info) :
    InLine ("// " ++ notice (oneLine info.title) (oneLine info.version)) := by
  have mark : InLine "// " := inLine_literal _ rfl
  exact mark.append (inLine_notice _ _ (inLine_oneLine info.title) (inLine_oneLine info.version))

theorem inLine_stubName (route : Route) : InLine (stubName route) :=
  (Identifier.wordlike_routerStub route.operationId).inLine

theorem inLine_handlerText (route : Route) : InLine (handlerText route) := by
  unfold handlerText
  split
  · have opening : InLine "HandlerRef::Stub(" := inLine_literal _ rfl
    have closing : InLine ")" := inLine_literal _ rfl
    exact (opening.append (inLine_stubName route)).append closing
  · split
    · rename_i binding _
      have file : InLine "HandlerRef::Bound \x7b file: " := inLine_literal _ rfl
      have function : InLine ", function: " := inLine_literal _ rfl
      have closing : InLine " \x7d" := inLine_literal _ rfl
      exact (((file.append (Quoted.inLine_quote _)).append function).append
        (Quoted.inLine_quote binding.function)).append closing
    · exact inLine_literal _ rfl

theorem inLine_row (route : Route) : InLine (row route) := by
  have indent : InLine "    " := inLine_literal _ rfl
  have start : InLine rowStart := inLine_literal _ rfl
  have path : InLine ", path: " := inLine_literal _ rfl
  have operation : InLine ", operation_id: " := inLine_literal _ rfl
  have handler : InLine ", handler: " := inLine_literal _ rfl
  have closing : InLine " \x7d," := inLine_literal _ rfl
  have called := ((indent.append start).append (Quoted.inLine_quote route.method.name)).append path
  have filed := (called.append (Quoted.inLine_quote route.path)).append operation
  have known := (filed.append (Quoted.inLine_quote route.operationId)).append handler
  exact (known.append (inLine_handlerText route)).append closing

def stubComment (route : Route) : String :=
  "/// Placeholder for `" ++ route.method.name ++ " " ++ route.path ++ "` (" ++ stubFile route ++
    " not found)."

def stubCode (route : Route) : List String := [
  "pub fn " ++ stubName route ++ "() -> StubResponse \x7b",
  "    StubResponse \x7b",
  "        status: 501,",
  "        operation_id: " ++ Quoted.quote route.operationId ++ ",",
  "    \x7d",
  "\x7d"]

theorem stub_eq (route : Route) : stub route = "" :: stubComment route :: stubCode route := rfl

/-- The comment of a placeholder is the one line that a text can leave. -/
theorem inLine_stubComment_iff (route : Route) :
    InLine (stubComment route) ↔ InLine route.path ∧ InLine (stubFile route) := by
  have opening : InLine "/// Placeholder for `" := inLine_literal _ rfl
  have space : InLine " " := inLine_literal _ rfl
  have between : InLine "` (" := inLine_literal _ rfl
  have closing : InLine " not found)." := inLine_literal _ rfl
  constructor
  · intro whole
    obtain ⟨upToFile, _⟩ := (inLine_append _ _).mp whole
    obtain ⟨upToPath, file⟩ := (inLine_append _ _).mp upToFile
    obtain ⟨pathed, _⟩ := (inLine_append _ _).mp upToPath
    exact ⟨((inLine_append _ _).mp pathed).2, file⟩
  · rintro ⟨path, file⟩
    have pathed := ((opening.append route.method.inLine_name).append space).append path
    exact ((pathed.append between).append file).append closing

theorem inLine_stubCode (route : Route) : ∀ line ∈ stubCode route, InLine line := by
  have defines : InLine ("pub fn " ++ stubName route ++ "() -> StubResponse \x7b") := by
    have opening : InLine "pub fn " := inLine_literal _ rfl
    have closing : InLine "() -> StubResponse \x7b" := inLine_literal _ rfl
    exact (opening.append (inLine_stubName route)).append closing
  have answers : InLine ("        operation_id: " ++ Quoted.quote route.operationId ++ ",") := by
    have opening : InLine "        operation_id: " := inLine_literal _ rfl
    have closing : InLine "," := inLine_literal _ rfl
    exact (opening.append (Quoted.inLine_quote route.operationId)).append closing
  rw [stubCode]
  refine List.forall_mem_cons.mpr ⟨defines, ?_⟩
  refine List.forall_mem_cons.mpr ⟨inLine_literal _ rfl, ?_⟩
  refine List.forall_mem_cons.mpr ⟨inLine_literal _ rfl, ?_⟩
  refine List.forall_mem_cons.mpr ⟨answers, ?_⟩
  decide

theorem inLine_stub_iff (route : Route) :
    (∀ line ∈ stub route, InLine line) ↔ InLine route.path ∧ InLine (stubFile route) := by
  have empty : InLine "" := inLine_literal _ rfl
  rw [stub_eq, List.forall_mem_cons, List.forall_mem_cons, inLine_stubComment_iff]
  exact ⟨fun held => held.2.1, fun held => ⟨empty, held, inLine_stubCode route⟩⟩

theorem inLine_lines_iff (info : Info) (routes : List Route) :
    (∀ line ∈ lines info routes, InLine line) ↔
      ∀ route ∈ routes, route.stub = true → InLine route.path ∧ InLine (stubFile route) := by
  have rows : ∀ line ∈ routes.map row, InLine line := by
    intro line member
    obtain ⟨route, _, rfl⟩ := List.mem_map.mp member
    exact inLine_row route
  have closing : ∀ line ∈ ["];"], InLine line := by decide
  have stubs : (∀ line ∈ (routes.filter Route.stub).flatMap stub, InLine line) ↔
      ∀ route ∈ routes, route.stub = true → InLine route.path ∧ InLine (stubFile route) := by
    rw [List.forall_mem_flatMap]
    simp only [List.mem_filter, inLine_stub_iff, and_imp]
  rw [lines, List.forall_mem_append, List.forall_mem_append, List.forall_mem_append,
    List.forall_mem_append, List.forall_mem_cons, stubs]
  exact ⟨fun ⟨⟨_, held⟩, _⟩ => held,
    fun held => ⟨⟨⟨⟨⟨inLine_title info, inLine_head⟩, rows⟩, closing⟩, held⟩, inLine_tail⟩⟩

/-- How many lines there are for so many routes and placeholders. -/
def lineCount (routes stubs : Nat) : Nat := 1 + head.length + routes + 1 + 8 * stubs + tail.length

theorem length_lines (info : Info) (routes : List Route) :
    (lines info routes).length = lineCount routes.length (routes.countP Route.stub) := by
  have stubs : ((routes.filter Route.stub).flatMap stub).length = 8 * routes.countP Route.stub := by
    rw [List.countP_eq_length_filter]
    induction routes.filter Route.stub with
    | nil => rfl
    | cons route rest ih =>
      rw [List.flatMap_cons, List.length_append, ih, List.length_cons]
      have one : (stub route).length = 8 := rfl
      omega
  simp only [lines, List.length_append, List.length_cons, List.length_map, List.length_nil, stubs,
    lineCount]
  omega

end Router
end ApiAssembly
