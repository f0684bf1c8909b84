import ApiAssembly.Proofs.Artifact.RouterLines
import ApiAssembly.Proofs.Artifact.RouterRows
/-! The rows of the table read back. Each is read as the route it was written for, whatever its texts
are. No line in front of the table is taken for a row, and what is read behind the table is read
from the placeholders. -/
namespace ApiAssembly.Router
open Text

/-! One row. -/
section Row

/-- What stands in a row behind its operation. -/
def rowEnd (route : Route) : List Char := (", handler: " ++ handlerText route ++ " \x7d,").toList

theorem escaped_methodName (method : Method) : Quoted.escaped method.name = method.name.toList := by
  cases method <;> decide

theorem methodName_upper (method : Method) : ∀ c ∈ method.name.toList, Char.isUpper c = true := by
  refine List.all_eq_true.mp ?_
  cases method <;> decide

theorem methodName_filled (method : Method) : method.name.toList.isEmpty = false := by
  cases method <;> decide

theorem parse?_methodName (method : Method) :
    Method.parse? (String.ofList method.name.toList) = some method := by
  cases method <;> decide

theorem toList_row (route : Route) :
    (row route).toList = "    ".toList ++ ((rowStart ++ "\"").toList ++ (route.method.name.toList ++
      ("\", path: \"".toList ++ (Quoted.escaped route.path ++ '"' :: (", operation_id: \"".toList ++
        (Quoted.escaped route.operationId ++ '"' :: rowEnd route)))))) := by
  have start : (rowStart ++ "\"").toList = rowStart.toList ++ ['"'] := String.toList_append
  have between : "\", path: \"".toList = '"' :: (", path: ".toList ++ ['"']) := by decide
  have behind : ", operation_id: \"".toList = ", operation_id: ".toList ++ ['"'] := by decide
  have joined : ∀ indent start path operation handler text closing : String,
      (indent ++ start ++ Quoted.quote route.method.name ++ path ++ Quoted.quote route.path ++
        operation ++ Quoted.quote route.operationId ++ handler ++ text ++ closing).toList =
      indent.toList ++ (start.toList ++ '"' :: (route.method.name.toList ++ '"' :: (path.toList ++
        '"' :: (Quoted.escaped route.path ++ '"' :: (operation.toList ++ '"' ::
          (Quoted.escaped route.operationId ++ '"' :: (handler ++ text ++ closing).toList)))))) := by
    simp [Quoted.toList_quote, escaped_methodName]
  rw [start, between, behind]
  simp only [List.append_assoc, List.cons_append, List.nil_append]
  exact joined _ _ _ _ _ _ _

/-- The reader of a row takes its parts one after the other, each up to its closing quote. -/
theorem rawRow?_row (route : Route) (rest : List Char) :
    rawRow? ((row route).toList ++ rest) =
      some ⟨route.method.name.toList, Quoted.escaped route.path, Quoted.escaped route.operationId,
        rowEnd route ++ rest⟩ := by
  have closing : ∀ behind, "\", path: \"".toList ++ behind = '"' :: (", path: \"".toList ++ behind) :=
    fun _ => rfl
  have name : ∀ behind, (route.method.name.toList ++ ("\", path: \"".toList ++ behind)).takeWhile
      Char.isUpper = route.method.name.toList := by
    intro behind
    rw [List.takeWhile_append_of_pos (methodName_upper route.method), closing]
    exact List.append_nil _
  have afterName : ∀ behind, (route.method.name.toList ++ ("\", path: \"".toList ++ behind)).dropWhile
      Char.isUpper = "\", path: \"".toList ++ behind := by
    intro behind
    rw [List.dropWhile_append_of_pos (methodName_upper route.method), closing]
    rfl
  have indented : ∀ behind, trimStart ("    ".toList ++ ((rowStart ++ "\"").toList ++ behind)) =
      (rowStart ++ "\"").toList ++ behind := fun _ => rfl
  rw [toList_row]
  simp only [List.append_assoc, List.cons_append]
  unfold rawRow?
  rw [indented, after?_append, Option.bind_eq_bind, Option.bind_some]
  simp only [name, afterName, methodName_filled, after?_append, Quoted.escaped, Quoted.body?_escapeWith,
    Option.bind_eq_bind, Option.bind_some, Option.pure_def, if_false, Bool.false_eq_true]

theorem ofRaw?_row (route : Route) (rest : List Char) :
    Row.ofRaw? ⟨route.method.name.toList, Quoted.escaped route.path,
        Quoted.escaped route.operationId, rest⟩ =
      some (Row.ofRoute route) := by
  rw [Row.ofRaw?, parse?_methodName, Option.map_some, Quoted.escaped, Quoted.escaped,
    Quoted.unescape_escapeWith, Quoted.unescape_escapeWith, String.ofList_toList,
    String.ofList_toList]
  rfl

theorem newline_not_mem_rowEnd (route : Route) : '\n' ∉ rowEnd route := by
  have opening : InLine ", handler: " := inLine_literal _ rfl
  have closing : InLine " \x7d," := inLine_literal _ rfl
  exact ((opening.append (inLine_handlerText route)).append closing).newline_not_mem

end Row

/-! All rows of a text. -/

def readRows (cs : List Char) : List Row := (rawRows true cs).filterMap Row.ofRaw?

theorem readRows_row (route : Route) (rest : List Char) :
    readRows ((row route).toList ++ '\n' :: rest) = Row.ofRoute route :: readRows rest := by
  rw [readRows, rawRows_row _ _ (rawRow?_row route ('\n' :: rest)), List.filterMap_cons_some
    (ofRaw?_row route _), rawRows_inLine _ _ (newline_not_mem_rowEnd route), readRows]

theorem readRows_table (routes : List Route) (rest : List Char) :
    readRows ((unlines (routes.map row)).toList ++ rest) =
      routes.map Row.ofRoute ++ readRows rest := by
  rw [toList_unlines]
  induction routes with
  | nil => rfl
  | cons route more ih =>
    rw [List.map_cons, List.flatMap_cons, List.append_assoc, List.append_assoc,
      List.singleton_append, readRows_row, ih, List.map_cons, List.cons_append]

theorem readRows_lines (lines : List String) (rest : List Char)
    (opens : ∀ line ∈ lines, OpensNoRow line.toList) :
    readRows ((unlines lines).toList ++ rest) = readRows rest := by
  rw [readRows, rawRows_lines lines rest opens, readRows]

/-- What the router says behind its table. -/
def placeholders (routes : List Route) : String :=
  unlines ((routes.filter Route.stub).flatMap stub ++ tail)

theorem opensNoRow_notice (info : Info) :
    OpensNoRow ("// " ++ notice (oneLine info.title) (oneLine info.version)).toList := by
  have inLine := inLine_notice _ _ (inLine_oneLine info.title) (inLine_oneLine info.version)
  exact opensNoRow_append _ _ (by decide) (by decide) inLine.newline_not_mem

theorem opensNoRow_head : ∀ line ∈ head, OpensNoRow line.toList := by
  rw [head]
  repeat refine List.forall_mem_cons.mpr ⟨opensNoRow_literal _ (by decide), ?_⟩
  exact List.forall_mem_nil _

/-- The table is read row by row, and then whatever the placeholders read as. -/
theorem rows_render_eq (spec : Specification) (routes : List Route) :
    rows (render spec routes) = routes.map Row.ofRoute ++ rows (placeholders routes) := by
  have parts : (render spec routes).toList =
      (unlines (("// " ++ notice (oneLine spec.info.title) (oneLine spec.info.version)) ::
        head)).toList ++ ((unlines (routes.map row)).toList ++
          ((unlines ["];"]).toList ++ (placeholders routes).toList)) := by
    simp [render, lines, placeholders, toList_unlines]
  have first : ∀ line ∈ ("// " ++ notice (oneLine spec.info.title) (oneLine spec.info.version)) ::
      head, OpensNoRow line.toList := by
    intro line member
    rcases List.mem_cons.mp member with rfl | fixed
    · exact opensNoRow_notice spec.info
    · exact opensNoRow_head line fixed
  change readRows (render spec routes).toList = _
  rw [parts, readRows_lines _ _ first, readRows_table, readRows_lines _ _ (by decide)]
  rfl

end ApiAssembly.Router
