import ApiAssembly.Console.RouteRow
import ApiAssembly.Proofs.Artifact.ClientLines
import ApiAssembly.Proofs.Artifact.GeneratedNames
import ApiAssembly.Proofs.Text.Pieces
import ApiAssembly.Specification.Merge
/-! The methods of the scripting client, read from its text with their parameters, beside the names that
are shown for them. A client keeps the names of its attributes free, which the rows that are shown
do not know of. -/
namespace ApiAssembly.ScriptingClient
open Text

def classLine : String := "class ApiClient:"

def definitionStart : String := "    def "

/-- What the client class defines, in order. -/
def definitions (text : String) : List String :=
  ((linesOf text).dropWhile fun line => line != classLine).filterMap (afterStart? definitionStart)

def definedName (definition : String) : String :=
  String.ofList (beforeMark '(' definition.toList)

/-- The methods of the client class, in the order of their definitions. -/
def definedMethods (text : String) : List String := (definitions text).map definedName

/-- The name of a parameter, without the value that stands in when a call leaves it out. -/
def parameterName (cs : List Char) : String :=
  String.ofList (beforeMark '=' (cs.filter fun c => c != ' '))

def parameterNames (definition : String) : List String :=
  ((beforeMark ')' (behindMark '(' definition.toList)).splitOn ',').map parameterName

/-- The parameters of each method, in the order of the definitions. -/
def definedParameters (text : String) : List (List String) := (definitions text).map parameterNames

/-! One definition. -/

def definition (route : Route) : String :=
  methodName route.operationId ++ "(" ++ signature route ++ "):"

theorem toList_definition (route : Route) :
    (definition route).toList =
      (methodName route.operationId).toList ++ '(' :: ((signature route).toList ++ [')', ':']) := by
  simp [definition, String.toList_append]

theorem bracket_not_mem_methodName (id : String) : '(' ∉ (methodName id).toList :=
  (wordlike_methodName id).not_mem '(' (by decide)

theorem definedName_definition (route : Route) :
    definedName (definition route) = methodName route.operationId := by
  rw [definedName, toList_definition, beforeMark_append '(' _ _ (bracket_not_mem_methodName _),
    String.ofList_toList]

theorem parameterName_declared (name : String) (named : Identifier.Wordlike name) :
    parameterName (' ' :: (declared name).toList) = name := by
  unfold declared
  by_cases body : name = "payload"
  · rw [if_pos body, body]
    decide
  · have blanks := ne_of_absent ' ' name.toList (named.not_mem ' ' (by decide))
    rw [if_neg body, parameterName, List.filter_cons_of_neg (by decide),
      List.filter_eq_self.mpr blanks,
      beforeMark_absent '=' name.toList (named.not_mem '=' (by decide)), String.ofList_toList]

theorem not_mem_declared (name : String) (named : Identifier.Wordlike name) (mark : Char)
    (other : Identifier.isNameChar mark = false) (value : mark ≠ '=') :
    mark ∉ (declared name).toList := by
  unfold declared
  split
  · intro member
    have plain : "payload=None".toList.all (fun c => c == '=' || Identifier.isNameChar c) = true := by
      decide
    have held := List.all_eq_true.mp plain mark member
    rw [other, Bool.or_false, beq_iff_eq] at held
    exact value held
  · exact named.not_mem mark other

/-- Parameters stand behind commas, and hold none. -/
theorem splitOn_parameters (first : List Char) (texts : List String) (plain : ',' ∉ first)
    (others : ∀ text ∈ texts, ',' ∉ text.toList) :
    (first ++ texts.flatMap fun text => ", ".toList ++ text.toList).splitOn ',' =
      first :: texts.map fun text => ' ' :: text.toList := by
  induction texts generalizing first with
  | nil => rw [List.flatMap_nil, List.append_nil, List.splitOn_eq_singleton plain, List.map_nil]
  | cons text rest ih =>
    have next : ',' ∉ ' ' :: text.toList := by
      rw [List.mem_cons, not_or]
      exact ⟨by decide, others text List.mem_cons_self⟩
    have split : (first ++ (text :: rest).flatMap fun text => ", ".toList ++ text.toList) =
        first ++ ',' :: ((' ' :: text.toList) ++
          rest.flatMap fun text => ", ".toList ++ text.toList) := by
      simp
    rw [split, List.splitOn_append_cons_self_of_not_mem plain,
      ih _ next fun other member => others other (List.mem_cons_of_mem text member), List.map_cons]

theorem toList_signature (route : Route) :
    (signature route).toList = "self".toList ++
      ((boundNames route).tail.map declared).flatMap fun text => ", ".toList ++ text.toList := by
  rw [signature_eq, String.toList_join, List.flatMap_cons, List.flatMap_map, List.flatMap_map]
  simp only [String.toList_append]

theorem parameterNames_definition (route : Route) :
    parameterNames (definition route) = boundNames route := by
  have wordlike : ∀ name ∈ (boundNames route).tail, Identifier.Wordlike name := fun name member =>
    wordlike_of_mem_boundNames route name (List.mem_of_mem_tail member)
  have plain (mark : Char) (other : Identifier.isNameChar mark = false) (value : mark ≠ '=') :
      ∀ text ∈ (boundNames route).tail.map declared, mark ∉ text.toList := by
    intro text member
    obtain ⟨name, listed, rfl⟩ := List.mem_map.mp member
    exact not_mem_declared name (wordlike name listed) mark other value
  have bracket : ')' ∉ (signature route).toList := by
    rw [toList_signature, List.mem_append, List.mem_flatMap, not_or]
    refine ⟨by decide, ?_⟩
    rintro ⟨text, listed, inside⟩
    rcases List.mem_append.mp inside with between | held
    · exact absurd between (by decide)
    · exact plain ')' (by decide) (by decide) text listed held
  have names : ∀ name ∈ (boundNames route).tail,
      parameterName (' ' :: (declared name).toList) = id name := fun name member =>
    parameterName_declared name (wordlike name member)
  have receiver : parameterName "self".toList = "self" := by decide
  rw [parameterNames, toList_definition, behindMark_append '(' _ _ (bracket_not_mem_methodName _),
    beforeMark_append ')' _ _ bracket, toList_signature,
    splitOn_parameters _ _ (by decide) (plain ',' (by decide) (by decide)), List.map_cons, receiver,
    List.map_map, List.map_map]
  exact congrArg (List.cons "self") ((List.map_congr_left names).trans (List.map_id _))

/-! The lines of a method. -/

/-- Lines that are indented further define nothing. -/
theorem defines_nothing (line : String) (rest : List Char)
    (deep : line.toList = "        ".toList ++ rest) : afterStart? definitionStart line = none := by
  have other : startsWith definitionStart line = false := by
    rw [startsWith, deep]
    rfl
  rw [afterStart?, other]
  rfl

theorem definitions_method (route : Route) :
    (method route).filterMap (afterStart? definitionStart) = [definition route] := by
  have empty : afterStart? definitionStart "" = none := by decide
  have defines : afterStart? definitionStart ("    def " ++ methodName route.operationId ++ "(" ++
      signature route ++ "):") = some (definition route) := by
    rw [String.append_assoc, String.append_assoc, String.append_assoc]
    refine (afterStart?_append _ _).trans ?_
    rw [definition, String.append_assoc, String.append_assoc]
  have documentation : afterStart? definitionStart ("        \"\"\"" ++ doc route ++ "\"\"\"") =
      none := by
    refine defines_nothing _ ("\"\"\"" ++ doc route ++ "\"\"\"").toList ?_
    simp [String.toList_append]
  have request : afterStart? definitionStart ("        return self._request(" ++
      quoted route.method.name ++ ", " ++ quoted route.path ++
      String.join (route.pathParameters.map substitution) ++
      (if route.hasBody then ", payload" else "") ++ ")") = none := by
    refine defines_nothing _ ("return self._request(" ++ quoted route.method.name ++ ", " ++
      quoted route.path ++ String.join (route.pathParameters.map substitution) ++
      (if route.hasBody then ", payload" else "") ++ ")").toList ?_
    simp [String.toList_append]
  rw [method, List.filterMap_cons_none empty, List.filterMap_cons_some defines,
    List.filterMap_cons_none documentation, List.filterMap_cons_none request, List.filterMap_nil]

theorem definitions_methods (routes : List Route) :
    (routes.flatMap method).filterMap (afterStart? definitionStart) = routes.map definition := by
  induction routes with
  | nil => rfl
  | cons route rest ih =>
    rw [List.flatMap_cons, List.filterMap_append, definitions_method, ih]
    rfl

/-! The class is the last thing in the text. -/

theorem ne_classLine_of_mem_introduction : ∀ line ∈ introduction, (line != classLine) = true := by
  decide

theorem ne_classLine_of_mem_componentLines (spec : Specification) :
    ∀ line ∈ componentLines spec, (line != classLine) = true := by
  unfold componentLines
  simp only
  split
  · decide
  · intro line member
    rcases List.mem_append.mp member with before | closing
    · rcases List.mem_append.mp before with opening | entry
      · rw [List.mem_singleton.mp opening]
        decide
      · obtain ⟨component, _, rfl⟩ := List.mem_map.mp entry
        apply bne_of_head?
        simp [componentLine, String.toList_append, classLine]
    · rw [List.mem_singleton.mp closing]
      decide

theorem afterStart?_literal (cs : List Char) :
    afterStart? definitionStart (String.ofList cs) =
      if definitionStart.toList.isPrefixOf cs then some (String.ofList (cs.drop 8)) else none := by
  have long : definitionStart.length = 8 := by decide
  rw [afterStart?, startsWith, String.toList_ofList, long]

theorem afterStart?_other (cs : List Char) (other : definitionStart.toList.isPrefixOf cs = false) :
    afterStart? definitionStart (String.ofList cs) = none := by
  rw [afterStart?_literal, other]
  rfl

/-- The members that every client has. -/
def ownDefinitions : List String := [
  "__init__(self, base_url=\"http://localhost:8080\", timeout=30.0):",
  "_request(self, method, path, payload=None):"]

theorem definitions_support :
    (support.dropWhile fun line => line != classLine).filterMap (afterStart? definitionStart) =
      ownDefinitions := by
  rw [support]
  repeat rw [List.dropWhile_cons_of_pos (by decide)]
  rw [List.dropWhile_cons_of_neg (by decide), List.filterMap_cons_none (afterStart?_other _ rfl),
    List.filterMap_cons_some (afterStart?_literal _)]
  repeat rw [List.filterMap_cons_none (afterStart?_other _ rfl)]
  rw [List.filterMap_cons_some (afterStart?_literal _)]
  repeat rw [List.filterMap_cons_none (afterStart?_other _ rfl)]
  rfl

/-- Behind its own members the class has a method for each route. -/
theorem definitions_render (spec : Specification) (routes : List Route) :
    definitions (render spec routes) = ownDefinitions ++ routes.map definition := by
  have before : ∀ line ∈ ["# " ++ notice (docText spec.info.title) (docText spec.info.version),
      "\"\"\"Client for " ++ docText spec.info.title ++ " " ++ docText spec.info.version ++ "."] ++
      introduction ++ componentLines spec, (line != classLine) = true := by
    simp only [List.forall_mem_append]
    refine ⟨⟨?_, ne_classLine_of_mem_introduction⟩, ne_classLine_of_mem_componentLines spec⟩
    refine List.forall_mem_cons.mpr ⟨?_, List.forall_mem_singleton.mpr ?_⟩
    · exact bne_of_head? _ _ (by simp [String.toList_append, classLine])
    · exact bne_of_head? _ _ (by simp [String.toList_append, classLine])
  -- The class starts inside the fixed lines, so all methods of the routes are behind its start.
  have opens : (support.dropWhile fun line => line != classLine).isEmpty = false := by
    rw [List.isEmpty_eq_false_iff]
    intro none
    have members := definitions_support
    rw [none] at members
    cases members
  rw [definitions, render, linesOf_unlines _ (inLine_lines spec routes), lines, List.append_assoc,
    List.dropWhile_append_of_pos before, List.dropWhile_append, opens, if_neg Bool.false_ne_true,
    List.filterMap_append, definitions_support, definitions_methods]

/-- The methods are called by the names that keep clear of the attributes. -/
theorem definedMethods_render (spec : Specification) (routes : List Route) :
    definedMethods (render spec routes) =
      ["__init__", "_request"] ++ routes.map fun route => methodName route.operationId := by
  have own : ownDefinitions.map definedName = ["__init__", "_request"] := by decide
  have each : ∀ route ∈ routes,
      (definedName ∘ definition) route = methodName route.operationId := by
    intro route _
    rw [Function.comp_apply, definedName_definition]
  rw [definedMethods, definitions_render, List.map_append, own, List.map_map,
    List.map_congr_left each]

/-- The methods bind the names that their signatures list. -/
theorem definedParameters_render (spec : Specification) (routes : List Route) :
    definedParameters (render spec routes) =
      [["self", "base_url", "timeout"], ["self", "method", "path", "payload"]] ++
        routes.map boundNames := by
  have own : ownDefinitions.map parameterNames =
      [["self", "base_url", "timeout"], ["self", "method", "path", "payload"]] := by decide
  have each : ∀ route ∈ routes, (parameterNames ∘ definition) route = boundNames route := by
    intro route _
    rw [Function.comp_apply, parameterNames_definition]
  rw [definedParameters, definitions_render, List.map_append, own, List.map_map,
    List.map_congr_left each]

theorem clientMethod_eq_timeout_iff (id : String) :
    (Identifier.Names.ofOperation id).clientMethod = "timeout" ↔
      Identifier.camel id = "timeout" := by
  -- The name of the attribute needs no mark, and no mark makes it out of another name.
  have unmarked : Identifier.python "timeout" = "timeout" := by decide
  constructor
  · intro taken
    rw [Identifier.Names.ofOperation] at taken
    rcases Identifier.python_cases (Identifier.camel id) with
      ⟨_, same⟩ | ⟨keyword, same⟩ | ⟨_, same⟩
    · have first := congrArg List.head? (Identifier.toList_of_marked (same.symm.trans taken))
      rw [List.head?_cons] at first
      exact absurd first (by decide)
    · have table : ∀ keyword ∈ Identifier.pythonKeywords, keyword ++ "_" ≠ "timeout" := by decide
      exact absurd (same.symm.trans taken) (table _ keyword)
    · exact same.symm.trans taken
  · intro named
    rw [Identifier.Names.ofOperation, named, unmarked]

/-- A row shows another name than that of the method when the name is that of the attribute. -/
theorem clientMethod_eq_methodName_iff (id : String) :
    (Identifier.Names.ofOperation id).clientMethod = methodName id ↔
      Identifier.camel id ≠ "timeout" := by
  rw [ne_eq, ← clientMethod_eq_timeout_iff, methodName_eq]
  constructor
  · intro same taken
    rw [if_pos taken, taken] at same
    exact absurd same (by decide)
  · intro other
    rw [if_neg other]

/-- The rows of a route table show the methods of its client exactly when no operation is called like
the attribute of a client. The method of such an operation carries a mark that its row does not. -/
theorem shown_methods_iff (spec : Specification) (routes : List Route) :
    definedMethods (render spec routes) =
      ["__init__", "_request"] ++ routes.map (fun route => methodName route.operationId) ∧
    (((routes.map Console.RouteRow.ofRoute).map Console.RouteRow.clientMethod =
        (definedMethods (render spec routes)).drop 2) ↔
      ∀ route ∈ routes, Identifier.camel route.operationId ≠ "timeout") ∧
    ∀ route ∈ routes, Identifier.camel route.operationId = "timeout" →
      (Console.RouteRow.ofRoute route).clientMethod = "timeout" ∧
      methodName route.operationId = "timeout_" := by
  have defined := definedMethods_render spec routes
  refine ⟨defined, ?_, ?_⟩
  · have methods : (definedMethods (render spec routes)).drop 2 =
        routes.map fun route => methodName route.operationId := by
      rw [defined]
      rfl
    rw [methods, List.map_map, List.map_inj_left]
    exact forall₂_congr fun route _ => clientMethod_eq_methodName_iff route.operationId
  · intro route _ named
    have shown := (clientMethod_eq_timeout_iff route.operationId).mpr named
    refine ⟨shown, ?_⟩
    rw [methodName_eq, if_pos shown]

def timeoutFragment : Fragment :=
  ⟨"core", ⟨"core.yaml"⟩, .handWritten, .obj [("paths", .obj [("/timeout", .obj [("get", .obj [
    ("operationId", .str "timeout")])])])]⟩

/-- The row shows a method that the client does not have. -/
theorem shown_method_missing :
    let spec := (Merge.ofFragments .lastWriterWins [timeoutFragment]).specification
    let routes := Route.table spec []
    (routes.map Console.RouteRow.ofRoute).map Console.RouteRow.clientMethod = ["timeout"] ∧
    definedMethods (render spec routes) = ["__init__", "_request", "timeout_"] := by
  intro spec routes
  have table : routes =
      [⟨.get, "/timeout", "timeout", none, [], none, none, false⟩] := by decide +kernel
  constructor
  · rw [table]
    decide +kernel
  · rw [definedMethods_render, table]
    decide +kernel

end ApiAssembly.ScriptingClient
