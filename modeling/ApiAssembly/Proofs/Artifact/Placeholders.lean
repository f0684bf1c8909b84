import ApiAssembly.Proofs.Artifact.RouteTable
import ApiAssembly.Proofs.Identifier.NameChars
import ApiAssembly.Proofs.Text.Pieces
import Mathlib.Data.List.Perm.Subperm
/-! The placeholders of a router, read from its text: those that it defines, and those that its table
refers to. The two are the same as long as no comment of a placeholder breaks into the definition
of another. -/
namespace ApiAssembly.Router
open Text

def definitionStart : List Char := "pub fn ".toList

def definitionEnd : List Char := "() -> StubResponse".toList

/-- The placeholder that a line defines. -/
def definedStub? (line : String) : Option String := do
  let named ← after? definitionStart (trimStart line.toList)
  if definitionEnd.isPrefixOf (named.dropWhile fun c => c != '(') then
    some (String.ofList (beforeMark '(' named))
  else none

/-- The placeholders that a router defines, in order. -/
def definedStubs (text : String) : List String := (linesOf text).filterMap definedStub?

def tableStart : String := "pub static ROUTES: &[Route] = &["

def tableEnd : String := "];"

/-- The lines between the start of the table and its end. -/
def tableLines (text : String) : List String :=
  (((linesOf text).dropWhile fun line => line != tableStart).drop 1).takeWhile fun line =>
    line != tableEnd

/-- The placeholder that a row refers to. -/
def referredStub? (line : String) : Option String := do
  let raw ← rawRow? line.toList
  let named ← after? ", handler: HandlerRef::Stub(".toList raw.rest
  pure (String.ofList (beforeMark ')' named))

/-- The placeholders that the table of a router refers to, in order. -/
def referredStubs (text : String) : List String := (tableLines text).filterMap referredStub?

/-! Lines that define nothing. -/

theorem definedStub?_other (line : String) (start rest : List Char) (c : Char) (more : List Char)
    (spelled : line.toList = start ++ rest) (trimmed : trimStart start = c :: more) (other : c ≠ 'p') :
    definedStub? line = none := by
  have apart : definitionStart.isPrefixOf (c :: (more ++ rest)) = false := by
    have first : definitionStart = 'p' :: "ub fn ".toList := by decide
    rw [first, List.isPrefixOf_cons_cons, Bool.and_eq_false_iff, beq_eq_false_iff_ne]
    exact Or.inl other.symm
  rw [definedStub?, spelled, trimStart_append, if_neg (trimmed ▸ List.cons_ne_nil c more), trimmed,
    List.cons_append, after?, apart]
  rfl

theorem definedStub?_literal (cs : List Char) (other : after? definitionStart (trimStart cs) = none) :
    definedStub? (String.ofList cs) = none := by
  rw [definedStub?, String.toList_ofList, other]
  rfl

theorem definedStub?_of_mem_head : ∀ line ∈ head, definedStub? line = none := by
  rw [head]
  repeat refine List.forall_mem_cons.mpr ⟨definedStub?_literal _ (by decide), ?_⟩
  exact List.forall_mem_nil _

-- The search for a route is a function too, but no placeholder: it takes arguments.
theorem definedStub?_of_mem_tail : ∀ line ∈ tail, definedStub? line = none := by
  have search : definedStub? ("pub fn match_route(method: &str, path: &str) -> " ++
      "Option<(&'static Route, Vec<(&'static str, String)>)> \x7b") = none := by decide
  rw [tail]
  repeat refine List.forall_mem_cons.mpr ⟨definedStub?_literal _ (by decide), ?_⟩
  refine List.forall_mem_cons.mpr ⟨search, ?_⟩
  repeat refine List.forall_mem_cons.mpr ⟨definedStub?_literal _ (by decide), ?_⟩
  exact List.forall_mem_nil _

theorem definedStub?_row (route : Route) : definedStub? (row route) = none := by
  have spelled := (toList_row route).trans (List.append_assoc _ _ _).symm
  exact definedStub?_other _ _ _ 'R' "oute \x7b method: \"".toList spelled (by decide) (by decide)

theorem definedStub?_title (info : Info) :
    definedStub? ("// " ++ notice (oneLine info.title) (oneLine info.version)) = none :=
  definedStub?_other _ "// ".toList _ '/' "/ ".toList String.toList_append (by decide) (by decide)

/-! Lines of a placeholder. -/

theorem bracket_not_mem_stubName (route : Route) : '(' ∉ (stubName route).toList :=
  (Identifier.wordlike_routerStub route.operationId).not_mem '(' (by decide)

theorem definedStub?_definition (route : Route) :
    definedStub? ("pub fn " ++ stubName route ++ "() -> StubResponse \x7b") =
      some (stubName route) := by
  have spelled : ("pub fn " ++ stubName route ++ "() -> StubResponse \x7b").toList =
      definitionStart ++ ((stubName route).toList ++ '(' :: ") -> StubResponse \x7b".toList) := by
    rw [String.toList_append, String.toList_append, List.append_assoc]
    rfl
  have trimmed : trimStart definitionStart = definitionStart := by decide
  have ends : definitionEnd.isPrefixOf ('(' :: ") -> StubResponse \x7b".toList) = true := by decide
  have absent := bracket_not_mem_stubName route
  rw [definedStub?, spelled, trimStart_append, trimmed, if_neg (by decide), after?_append,
    Option.bind_eq_bind, Option.bind_some, List.dropWhile_append_of_pos (ne_of_absent '(' _ absent),
    List.dropWhile_cons_of_neg (by decide), if_pos ends, beforeMark_append '(' _ _ absent,
    String.ofList_toList]

theorem definedStubs_lines (lines : List String) (inLine : ∀ line ∈ lines, InLine line) :
    definedStubs (unlines lines) = lines.filterMap definedStub? := by
  rw [definedStubs, linesOf_unlines lines inLine]

theorem definedStubs_append (first second : List String) :
    definedStubs (unlines (first ++ second)) =
      definedStubs (unlines first) ++ definedStubs (unlines second) := by
  rw [definedStubs, linesOf_unlines_append, List.filterMap_append]
  rfl

theorem definedStubs_stubCode (route : Route) :
    definedStubs (unlines (stubCode route)) = [stubName route] := by
  have answer : definedStub? ("        operation_id: " ++ Quoted.quote route.operationId ++ ",") =
      none := by
    rw [String.append_assoc]
    exact definedStub?_other _ "        operation_id: ".toList _ 'o' "peration_id: ".toList
      String.toList_append (by decide) (by decide)
  have body : ∀ line ∈ (stubCode route).tail, definedStub? line = none := by
    rw [stubCode, List.tail_cons]
    refine List.forall_mem_cons.mpr ⟨definedStub?_literal _ (by decide), ?_⟩
    refine List.forall_mem_cons.mpr ⟨definedStub?_literal _ (by decide), ?_⟩
    refine List.forall_mem_cons.mpr ⟨answer, ?_⟩
    decide
  have parts : stubCode route =
      ("pub fn " ++ stubName route ++ "() -> StubResponse \x7b") :: (stubCode route).tail := rfl
  rw [definedStubs_lines _ (inLine_stubCode route), parts,
    List.filterMap_cons_some (definedStub?_definition route), List.filterMap_eq_nil_iff.mpr body]

/-- The definitions that the comment of a placeholder breaks into. -/
def strayStubs (route : Route) : List String := definedStubs (unlines [stubComment route])

theorem strayStubs_inLine (route : Route) (path : InLine route.path)
    (file : InLine (stubFile route)) : strayStubs route = [] := by
  have comment : definedStub? (stubComment route) = none := by
    unfold stubComment
    rw [String.append_assoc, String.append_assoc, String.append_assoc, String.append_assoc,
      String.append_assoc]
    exact definedStub?_other _ "/// Placeholder for `".toList _ '/' "// Placeholder for `".toList
      String.toList_append rfl (by decide)
  have inLine := (inLine_stubComment_iff route).mpr ⟨path, file⟩
  rw [strayStubs, definedStubs_lines _ (List.forall_mem_singleton.mpr inLine),
    List.filterMap_cons_none comment, List.filterMap_nil]

theorem definedStubs_stub (route : Route) :
    definedStubs (unlines (stub route)) = strayStubs route ++ [stubName route] := by
  have parts : stub route = [""] ++ ([stubComment route] ++ stubCode route) := stub_eq route
  have empty : definedStubs (unlines [""]) = [] := by decide
  rw [parts, definedStubs_append, definedStubs_append, empty, definedStubs_stubCode, List.nil_append]
  rfl

theorem definedStubs_stubs (stubs : List Route) :
    definedStubs (unlines (stubs.flatMap stub)) =
      stubs.flatMap fun route => strayStubs route ++ [stubName route] := by
  induction stubs with
  | nil => rfl
  | cons route rest ih =>
    rw [List.flatMap_cons, definedStubs_append, definedStubs_stub, ih, List.flatMap_cons]

/-! The router as a whole. -/

theorem inLine_opening (info : Info) :
    ∀ line ∈ ("// " ++ notice (oneLine info.title) (oneLine info.version)) :: head, InLine line :=
  List.forall_mem_cons.mpr ⟨inLine_title info, inLine_head⟩

theorem inLine_rows (routes : List Route) : ∀ line ∈ routes.map row, InLine line := by
  intro line member
  obtain ⟨route, _, rfl⟩ := List.mem_map.mp member
  exact inLine_row route

/-- A router defines the placeholders of its stubs, each behind what its comment breaks into. -/
theorem definedStubs_render (spec : Specification) (routes : List Route) :
    definedStubs (render spec routes) =
      (routes.filter Route.stub).flatMap fun route => strayStubs route ++ [stubName route] := by
  have opening : definedStubs (unlines (("// " ++
      notice (oneLine spec.info.title) (oneLine spec.info.version)) :: head)) = [] := by
    rw [definedStubs_lines _ (inLine_opening spec.info), List.filterMap_eq_nil_iff]
    exact List.forall_mem_cons.mpr ⟨definedStub?_title spec.info, definedStub?_of_mem_head⟩
  have rows : definedStubs (unlines (routes.map row)) = [] := by
    rw [definedStubs_lines _ (inLine_rows routes), List.filterMap_eq_nil_iff]
    intro line member
    obtain ⟨route, _, rfl⟩ := List.mem_map.mp member
    exact definedStub?_row route
  have closing : definedStubs (unlines ["];"]) = [] := by decide
  have search : definedStubs (unlines tail) = [] := by
    rw [definedStubs_lines _ inLine_tail, List.filterMap_eq_nil_iff]
    exact definedStub?_of_mem_tail
  rw [render, lines, definedStubs_append, definedStubs_append, definedStubs_append,
    definedStubs_append, opening, rows, closing, search, definedStubs_stubs, List.append_nil]
  rfl

theorem tableLines_render (spec : Specification) (routes : List Route) :
    tableLines (render spec routes) = routes.map row := by
  have parts : linesOf (render spec routes) =
      ["// " ++ notice (oneLine spec.info.title) (oneLine spec.info.version)] ++
        (head ++ (routes.map row ++ (tableEnd :: linesOf (placeholders routes)))) := by
    have closing : linesOf (unlines ["];"]) = [tableEnd] := by decide
    rw [render, lines, List.append_assoc, linesOf_unlines_append, linesOf_unlines_append,
      linesOf_unlines_append, linesOf_unlines _ (inLine_opening spec.info),
      linesOf_unlines _ (inLine_rows routes), closing, placeholders]
    simp
  have title : ∀ line ∈ ["// " ++ notice (oneLine spec.info.title) (oneLine spec.info.version)],
      (line != tableStart) = true := by
    refine List.forall_mem_singleton.mpr (bne_of_head? _ _ ?_)
    rw [String.toList_append]
    exact (by decide : some '/' ≠ tableStart.toList.head?)
  have opening : head.dropWhile (fun line => line != tableStart) = [tableStart] := by
    rw [head]
    repeat rw [List.dropWhile_cons_of_pos (by decide)]
    rfl
  have rows : ∀ line ∈ routes.map row, (line != tableEnd) = true := by
    intro line member
    obtain ⟨route, _, rfl⟩ := List.mem_map.mp member
    refine bne_of_head? _ _ ?_
    rw [toList_row]
    exact (by decide : some ' ' ≠ tableEnd.toList.head?)
  rw [tableLines, parts, List.dropWhile_append_of_pos title, List.dropWhile_append, opening,
    if_neg (by decide), List.singleton_append, List.drop_one, List.tail_cons,
    List.takeWhile_append_of_pos rows, List.takeWhile_cons_of_neg (by decide), List.append_nil]

theorem after?_differ (start more rest : List Char) (wanted c : Char) (differ : c ≠ wanted) :
    after? (start ++ wanted :: more) (start ++ c :: rest) = none := by
  rw [after?, if_neg]
  intro led
  have tails := (List.prefix_append_right_inj start).mp (List.isPrefixOf_iff_prefix.mp led)
  exact differ (List.cons_prefix_cons.mp tails).1.symm

theorem referredStub?_row (route : Route) :
    referredStub? (row route) = if route.stub then some (stubName route) else none := by
  have read := rawRow?_row route []
  rw [List.append_nil, List.append_nil] at read
  have kind : ", handler: HandlerRef::Stub(".toList =
      ", handler: HandlerRef::".toList ++ 'S' :: "tub(".toList := by decide
  rw [referredStub?, read, Option.bind_eq_bind, Option.bind_some, rowEnd, handlerText]
  by_cases stubbed : route.stub = true
  · have spelled : (", handler: " ++ ("HandlerRef::Stub(" ++ stubName route ++ ")") ++ " \x7d,").toList =
        ", handler: HandlerRef::Stub(".toList ++
          ((stubName route).toList ++ ')' :: " \x7d,".toList) := by
      simp [String.toList_append]
    have absent : ')' ∉ (stubName route).toList :=
      (Identifier.wordlike_routerStub route.operationId).not_mem ')' (by decide)
    rw [if_pos stubbed, if_pos stubbed, spelled, after?_append, Option.bind_eq_bind,
      Option.bind_some, beforeMark_append ')' _ _ absent, String.ofList_toList]
    rfl
  · -- The other kinds of handlers differ from this one in the first letter of their kind.
    rw [if_neg stubbed, if_neg stubbed, kind]
    cases route.handler with
    | some binding =>
      have spelled : ∀ text : String,
          (", handler: " ++ ("HandlerRef::Bound \x7b file: " ++ text)).toList =
            ", handler: HandlerRef::".toList ++
              'B' :: ("ound \x7b file: ".toList ++ text.toList) := by
        simp [String.toList_append]
      simp only [String.append_assoc]
      rw [spelled, after?_differ _ _ _ _ _ (by decide)]
      rfl
    | none =>
      have spelled : (", handler: " ++ "HandlerRef::Unbound" ++ " \x7d,").toList =
          ", handler: HandlerRef::".toList ++ 'U' :: "nbound \x7d,".toList := by decide
      simp only
      rw [spelled, after?_differ _ _ _ _ _ (by decide)]
      rfl

theorem referredStubs_render (spec : Specification) (routes : List Route) :
    referredStubs (render spec routes) = (routes.filter Route.stub).map stubName := by
  rw [referredStubs, tableLines_render, List.filterMap_map]
  induction routes with
  | nil => rfl
  | cons route rest ih =>
    have first : (referredStub? ∘ row) route =
        if route.stub then some (stubName route) else none := referredStub?_row route
    by_cases stubbed : route.stub = true
    · rw [if_pos stubbed] at first
      rw [List.filterMap_cons_some first, List.filter_cons_of_pos stubbed, List.map_cons, ih]
    · rw [if_neg stubbed] at first
      rw [List.filterMap_cons_none first, List.filter_cons_of_neg stubbed, ih]

/-- Each placeholder that the table of a router refers to is defined once, and no other is. -/
structure StubsMatch (text : String) : Prop where
  once : (definedStubs text).Nodup
  referred : ∀ name, name ∈ definedStubs text ↔ name ∈ referredStubs text

-- A stray definition cannot take the place of one that is referred to: all of these are defined as well.
theorem stubsMatch_render_iff (spec : Specification) (routes : List Route)
    (distinct : (routes.map stubName).Nodup) :
    StubsMatch (render spec routes) ↔
      ∀ route ∈ routes, route.stub = true → strayStubs route = [] := by
  have stray : (∀ route ∈ routes, route.stub = true → strayStubs route = []) ↔
      ∀ route ∈ routes.filter Route.stub, strayStubs route = [] := by
    simp only [List.mem_filter, and_imp]
  have defined := definedStubs_render spec routes
  have referred := referredStubs_render spec routes
  rw [stray]
  constructor
  · intro same
    -- All names are different, so there are no more of them than are referred to.
    have covered := (List.subperm_of_subset same.once fun name => (same.referred name).mp).length_le
    rw [defined, referred, length_flatMap_concat, List.length_map] at covered
    exact List.flatMap_eq_nil_iff.mp (List.length_eq_zero_iff.mp (by omega))
  · intro none
    rw [(flatMap_concat_eq_map_iff strayStubs stubName _).mpr none] at defined
    constructor
    case once =>
      rw [defined]
      exact distinct.sublist (List.filter_sublist.map stubName)
    case referred =>
      intro name
      rw [defined, referred]

end ApiAssembly.Router
