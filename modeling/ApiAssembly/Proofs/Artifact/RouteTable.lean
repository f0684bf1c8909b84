import ApiAssembly.Proofs.Artifact.TableRows
import ApiAssembly.Specification.Merge
/-! The route table read back from the router of a merge. The table itself always comes back as it
was. The comment of a placeholder holds the path and the handler file of its stub as they are, and a
line end in one of these may put the start of a row at the start of a line. Such a row is read as
if it were one of the table; this is the only way for the two to differ. -/
namespace ApiAssembly.Router
open Text

/-! The placeholders. -/

/-- Some line end in the text stands in front of the start of a row. -/
def BreaksIntoRow (text : String) : Prop :=
  ∃ before after, text.toList = before ++ '\n' :: after ∧ StartsRow after

theorem newline_split (left right before after : List Char)
    (split : left ++ right = before ++ '\n' :: after) :
    (∃ more, left = before ++ '\n' :: more ∧ after = more ++ right) ∨
      ∃ more, right = more ++ '\n' :: after := by
  rcases List.append_eq_append_iff.mp split with ⟨more, -, behind⟩ | ⟨more, inside, behind⟩
  · exact Or.inr ⟨more, behind⟩
  · cases more with
    | nil => exact Or.inr ⟨[], behind.symm⟩
    | cons c rest =>
      obtain ⟨rfl, rfl⟩ := List.cons.inj behind
      exact Or.inl ⟨rest, inside, rfl⟩

theorem opensNoRow_stubCode (route : Route) : ∀ line ∈ stubCode route, OpensNoRow line.toList := by
  have declaration : OpensNoRow
      ("pub fn " ++ (stubName route ++ "() -> StubResponse \x7b")).toList := by
    refine opensNoRow_append _ _ (by decide) (by decide) ?_
    exact not_mem_toList_append _ _ (inLine_stubName route).newline_not_mem (by decide)
  have operation : OpensNoRow
      ("        operation_id: " ++ (Quoted.quote route.operationId ++ ",")).toList := by
    refine opensNoRow_append _ _ (by decide) (by decide) ?_
    exact not_mem_toList_append _ _ (Quoted.inLine_quote route.operationId).newline_not_mem
      (by decide)
  rw [stubCode, String.append_assoc, String.append_assoc]
  refine List.forall_mem_cons.mpr ⟨declaration, ?_⟩
  refine List.forall_mem_cons.mpr ⟨by decide, ?_⟩
  refine List.forall_mem_cons.mpr ⟨by decide, ?_⟩
  refine List.forall_mem_cons.mpr ⟨operation, ?_⟩
  decide

theorem toList_stubComment (route : Route) :
    (stubComment route).toList =
      ("/// Placeholder for `" ++ route.method.name ++ " ").toList ++ (route.path.toList ++
        ("` (".toList ++ ((stubFile route).toList ++ " not found).".toList))) := by
  have joined : ∀ opening path between file closing : String,
      (opening ++ path ++ between ++ file ++ closing).toList =
        opening.toList ++ (path.toList ++ (between.toList ++ (file.toList ++ closing.toList))) := by
    simp
  exact joined _ _ _ _ _

theorem opensNoRow_stubOpening (method : Method) :
    OpensNoRow ("/// Placeholder for `" ++ method.name ++ " ").toList := by
  cases method <;> decide

-- Neither the mark behind the path nor the words behind the file can stand in a row start, so a row
-- that starts in the comment starts in the path or in the file itself.
theorem rawRows_stubComment (route : Route) (rest : List Char)
    (path : ¬ BreaksIntoRow route.path) (file : ¬ BreaksIntoRow (stubFile route)) :
    rawRows true ((stubComment route).toList ++ '\n' :: rest) = rawRows true rest := by
  rw [toList_stubComment]
  refine rawRows_skip true _ rest ?_ ?_
  · intro _
    rw [String.toList_append, String.toList_append, List.append_assoc, List.append_assoc,
      List.append_assoc]
    exact rawRow?_none _ (not_startsRow _ _ '/' "// Placeholder for `".toList rfl (by decide))
  · intro before after split
    refine rawRow?_none _ ?_
    intro starts
    rcases newline_split _ _ _ _ split with ⟨more, inside, -⟩ | ⟨_, behind⟩
    · exact (opensNoRow_stubOpening route.method).inLine (by rw [inside]; simp)
    rcases newline_split _ _ _ _ behind with ⟨more, inside, rfl⟩ | ⟨_, behind⟩
    · rw [List.append_assoc] at starts
      have started := startsRow_before more _ '`' (by decide) (by decide) starts
      exact path ⟨_, more, inside, started⟩
    rcases newline_split _ _ _ _ behind with ⟨more, inside, -⟩ | ⟨_, behind⟩
    · have inLine : '\n' ∉ "` (".toList := by decide
      exact inLine (by rw [inside]; simp)
    rcases newline_split _ _ _ _ behind with ⟨more, inside, rfl⟩ | ⟨_, behind⟩
    · have words : more ++ " not found).".toList ++ '\n' :: rest =
          (more ++ [' ']) ++ 'n' :: ("ot found).".toList ++ '\n' :: rest) := by
        rw [List.append_assoc, List.append_assoc]
        rfl
      rw [words] at starts
      have started := startsRow_before _ _ 'n' (by decide) (by decide) starts
      exact file ⟨_, more, inside, startsRow_before_space more started⟩
    · have inLine : '\n' ∉ " not found).".toList := by decide
      exact inLine (by rw [behind]; simp)

/-- Of a placeholder only the comment matters to the reader. -/
theorem readRows_stub (route : Route) (rest : List Char) :
    readRows ((unlines (stub route)).toList ++ rest) =
      readRows ((stubComment route).toList ++ '\n' ::
        ((unlines (stubCode route)).toList ++ rest)) := by
  have parts : (unlines (stub route)).toList ++ rest = [] ++ '\n' ::
      ((stubComment route).toList ++ '\n' :: ((unlines (stubCode route)).toList ++ rest)) := by
    rw [stub_eq, toList_unlines, toList_unlines, List.flatMap_cons, List.flatMap_cons]
    simp only [List.append_assoc, List.cons_append, List.nil_append, String.toList_empty]
  rw [parts, readRows, rawRows_line [] _ (by decide), readRows]

theorem readRows_tame (route : Route) (rest : List Char)
    (path : ¬ BreaksIntoRow route.path) (file : ¬ BreaksIntoRow (stubFile route)) :
    readRows ((unlines (stub route)).toList ++ rest) = readRows rest := by
  rw [readRows_stub, readRows, rawRows_stubComment route _ path file]
  exact readRows_lines (stubCode route) rest (opensNoRow_stubCode route)

theorem opensNoRow_tail : ∀ line ∈ tail, OpensNoRow line.toList := by
  rw [tail]
  repeat refine List.forall_mem_cons.mpr ⟨opensNoRow_literal _ (by decide), ?_⟩
  exact List.forall_mem_nil _

theorem readRows_nil : readRows [] = [] := by
  have none : rawRow? [] = none := by decide
  rw [readRows, rawRows]
  split
  · rename_i raw found
    rw [if_pos rfl, none] at found
    cases found
  · rfl

theorem readRows_tail : readRows (unlines tail).toList = [] := by
  have behind := readRows_lines tail [] opensNoRow_tail
  rw [List.append_nil, readRows_nil] at behind
  exact behind

theorem readRows_stubs (routes : List Route) (rest : List Char)
    (tame : ∀ route ∈ routes, ¬ BreaksIntoRow route.path ∧ ¬ BreaksIntoRow (stubFile route)) :
    readRows ((unlines (routes.flatMap stub)).toList ++ rest) = readRows rest := by
  induction routes with
  | nil => rw [List.flatMap_nil, toList_unlines, List.flatMap_nil, List.nil_append]
  | cons route more ih =>
    obtain ⟨path, file⟩ := tame route List.mem_cons_self
    rw [List.flatMap_cons, toList_unlines_append, List.append_assoc, readRows_tame _ _ path file]
    exact ih fun other member => tame other (List.mem_cons_of_mem route member)

/-- Placeholders hold no row as long as no path and no file of a stub breaks into one. -/
theorem rows_placeholders (routes : List Route)
    (tame : ∀ route ∈ routes, route.stub = true →
      ¬ BreaksIntoRow route.path ∧ ¬ BreaksIntoRow (stubFile route)) :
    rows (placeholders routes) = [] := by
  have stubs : ∀ route ∈ routes.filter Route.stub,
      ¬ BreaksIntoRow route.path ∧ ¬ BreaksIntoRow (stubFile route) := by
    intro route member
    obtain ⟨listed, isStub⟩ := List.mem_filter.mp member
    exact tame route listed isStub
  change readRows (placeholders routes).toList = []
  rw [placeholders, toList_unlines_append, readRows_stubs _ _ stubs, readRows_tail]

/-- A path that goes on with a row on a line of its own adds that row to the table. -/
theorem readRows_forged (route forged : Route) (opening : String) (rest : List Char)
    (path : route.path = opening ++ "\n" ++ row forged) (first : '\n' ∉ opening.toList)
    (file : '\n' ∉ (stubFile route).toList) :
    readRows ((unlines (stub route)).toList ++ rest) = Row.ofRoute forged :: readRows rest := by
  have joined : ∀ start between file closing : String,
      (start ++ (opening ++ "\n" ++ row forged) ++ between ++ file ++ closing).toList =
        (start ++ opening).toList ++ '\n' ::
          ((row forged).toList ++ (between ++ file ++ closing).toList) := by
    simp
  have comment := joined ("/// Placeholder for `" ++ route.method.name ++ " ") "` ("
    (stubFile route) " not found)."
  rw [← path] at comment
  change (stubComment route).toList = _ at comment
  have opens : OpensNoRow ("/// Placeholder for `" ++ route.method.name ++ " " ++ opening).toList := by
    refine opensNoRow_append _ _ (opensNoRow_stubOpening route.method) ?_ first
    cases route.method <;> decide
  have inLine : '\n' ∉ rowEnd forged ++ ("` (" ++ stubFile route ++ " not found).").toList := by
    rw [List.mem_append, not_or]
    refine ⟨newline_not_mem_rowEnd forged, ?_⟩
    exact not_mem_toList_append _ _ (not_mem_toList_append _ _ (by decide) file) (by decide)
  rw [readRows_stub, comment, List.append_assoc, List.cons_append, List.append_assoc, readRows,
    rawRows_line _ _ opens, rawRows_row _ _ (rawRow?_row forged _),
    List.filterMap_cons_some (ofRaw?_row forged _), ← List.append_assoc,
    rawRows_inLine _ _ inLine]
  exact congrArg (List.cons (Row.ofRoute forged))
    (readRows_lines (stubCode route) rest (opensNoRow_stubCode route))

/-- The table of a merge comes back from its router exactly when no row is read from the placeholders,
and a row is only read from these when the path or the file of a stub breaks into one. -/
theorem route_table_read_back_iff (policy : CollisionPolicy) (fragments : List Fragment)
    (stubs : List OperationKey) :
    let spec := (Merge.ofFragments policy fragments).specification
    let routes := Route.table spec stubs
    rows (render spec routes) = routes.map Row.ofRoute ++ rows (placeholders routes) ∧
    (rows (render spec routes) = routes.map Row.ofRoute ↔ rows (placeholders routes) = []) ∧
    ((∀ route ∈ routes, route.stub = true →
      ¬ BreaksIntoRow route.path ∧ ¬ BreaksIntoRow (stubFile route)) →
        rows (render spec routes) = routes.map Row.ofRoute) := by
  intro spec routes
  have read := rows_render_eq spec routes
  refine ⟨read, ?_, ?_⟩
  · rw [read, List.append_right_eq_self]
  · intro tame
    rw [read, rows_placeholders routes tame, List.append_nil]

/-- A row that no operation stands behind, and a path that brings it along. -/
def strayRoute : Route := ⟨.get, "/forged", "b", none, [], none, none, false⟩

def strayPath : String :=
  "/a\n    Route \x7b method: \"GET\", path: \"/forged\", operation_id: \"b\", " ++
    "handler: HandlerRef::Unbound \x7d,"

def strayFragment : Fragment :=
  ⟨"core", ⟨"core.yaml"⟩, .handWritten, .obj [("paths", .obj [(strayPath, .obj [("get", .obj [
    ("operationId", .str "a"), ("x-handler-file", .str "a.go")])])])]⟩

def straySource : Route := ⟨.get, strayPath, "a", none, [], none, some ⟨⟨"a.go"⟩, "a"⟩, true⟩

/-- One operation is declared, and a second row is read. -/
theorem route_table_forged :
    let spec := (Merge.ofFragments .lastWriterWins [strayFragment]).specification
    let routes := Route.table spec [⟨strayPath, .get⟩]
    routes.map Row.ofRoute = [⟨.get, strayPath, "a"⟩] ∧
    rows (render spec routes) = [⟨.get, strayPath, "a"⟩, ⟨.get, "/forged", "b"⟩] ∧
    rows (render spec routes) ≠ routes.map Row.ofRoute := by
  intro spec routes
  have table : routes = [straySource] := by decide +kernel
  have listed : routes.map Row.ofRoute = [Row.ofRoute straySource] := by
    rw [table, List.map_singleton]
  have invented : rows (placeholders routes) = [Row.ofRoute strayRoute] := by
    change readRows (placeholders routes).toList = _
    rw [table, placeholders, List.filter_cons_of_pos rfl, List.filter_nil, List.flatMap_singleton,
      toList_unlines_append, readRows_forged straySource strayRoute "/a" _ (by decide) (by decide)
      (by decide), readRows_tail]
  have read := rows_render_eq spec routes
  rw [listed, invented] at read
  refine ⟨listed, read, ?_⟩
  rw [read, listed]
  simp

end ApiAssembly.Router
