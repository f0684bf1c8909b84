import ApiAssembly.Artifact.CommandLine
import ApiAssembly.Proofs.Artifact.RouterLines
/-! The lines of the command line. All texts come into it quoted or put on one line, but for the path
that stands in for a missing summary. -/
namespace ApiAssembly.CommandLine
open Text

theorem inLine_introduction : ∀ line ∈ introduction, InLine line := by
  rw [introduction]
  repeat refine List.forall_mem_cons.mpr ⟨inLine_literal _ rfl, ?_⟩
  exact List.forall_mem_nil _

theorem inLine_attributes : ∀ line ∈ attributes, InLine line := by
  rw [attributes]
  repeat refine List.forall_mem_cons.mpr ⟨inLine_literal _ rfl, ?_⟩
  exact List.forall_mem_nil _

theorem inLine_declarations : ∀ line ∈ declarations, InLine line := by
  rw [declarations]
  repeat refine List.forall_mem_cons.mpr ⟨inLine_literal _ rfl, ?_⟩
  exact List.forall_mem_nil _

/-- A line with one quoted text, whatever the text is. -/
theorem inLine_quoting (before after text : String) (left : InLine before) (right : InLine after) :
    InLine (before ++ Quoted.quote text ++ after) :=
  (left.append (Quoted.inLine_quote text)).append right

/-- What only the shape of a command decides: the number of path parameters, and whether there is a
body and whether it is required. -/
structure CommandShape where
  parameters : Nat
  body : Option Bool
deriving DecidableEq

def CommandShape.ofRoute (route : Route) : CommandShape where
  parameters := route.pathParameters.length
  body := route.body.map RequestBody.required

namespace CommandShape

def bodyLines (shape : CommandShape) : Nat :=
  match shape.body with
  | none => 0
  | some true => 2
  | some false => 3

def variantLines (shape : CommandShape) : Nat :=
  if shape.parameters = 0 ∧ shape.body = none then 3
  else 4 + shape.parameters + shape.bodyLines

def allVariantLines : List CommandShape → Nat
  | [] => 0
  | shape :: rest => shape.variantLines + allVariantLines rest

end CommandShape

namespace Command

/-- Whether a route says of itself what it does. -/
def summarized (route : Route) : Bool :=
  (route.summary.map oneLine).any fun text => !text.isEmpty

theorem inLine_about_iff (command : Command) :
    InLine command.about ↔ (summarized command.route = false → InLine command.route.path) := by
  have fallback : InLine (fallbackText command.route) ↔ InLine command.route.path := by
    have space : InLine " " := inLine_literal _ rfl
    constructor
    · intro whole
      exact ((inLine_append _ _).mp whole).2
    · intro path
      exact (command.route.method.inLine_name.append space).append path
  unfold about summarized
  -- A summary is put on one line, its stand-in is not.
  cases command.route.summary with
  | none => simpa using fallback
  | some text =>
    by_cases empty : (oneLine text).isEmpty = true
    · simpa [empty] using fallback
    · simpa [empty] using inLine_oneLine text

variable (command : Command)

theorem inLine_fieldLine (name type : String) (nameInLine : InLine name) (typeInLine : InLine type) :
    InLine (fieldLine name type) := by
  have indent : InLine "        " := inLine_literal _ rfl
  have colon : InLine ": " := inLine_literal _ rfl
  have comma : InLine "," := inLine_literal _ rfl
  exact (((indent.append nameInLine).append colon).append typeInLine).append comma

theorem wordlike_bodyField (pathFields : List String) :
    Identifier.Wordlike (bodyField pathFields) := by
  unfold bodyField
  cases found : ["body", "payload", "request_body"].find? fun name => !pathFields.contains name with
  | none => decide
  | some name =>
    have table : ∀ name ∈ ["body", "payload", "request_body"], Identifier.Wordlike name := by decide
    exact table name (List.mem_of_find?_eq_some found)

theorem wordlike_of_mem_bodyField? (name : String) (held : command.bodyField? = some name) :
    Identifier.Wordlike name := by
  unfold bodyField? at held
  split at held
  · cases held
    exact wordlike_bodyField command.pathFields
  · cases held

theorem wordlike_pathFields : ∀ name ∈ command.pathFields, Identifier.Wordlike name := by
  intro name member
  obtain ⟨parameter, _, rfl⟩ := List.mem_map.mp member
  exact Identifier.wordlike_commandField parameter

theorem inLine_bodyLines : ∀ line ∈ command.bodyLines, InLine line := by
  have comment : InLine "        /// JSON request body" := inLine_literal _ rfl
  have flag : InLine "        #[arg(long)]" := inLine_literal _ rfl
  have required : InLine "String" := inLine_literal _ rfl
  have optional : InLine "Option<String>" := inLine_literal _ rfl
  unfold bodyLines
  split
  · exact List.forall_mem_nil _
  · rename_i name held
    have named := (wordlike_of_mem_bodyField? command name held).inLine
    split
    · exact List.forall_mem_cons.mpr ⟨comment, List.forall_mem_singleton.mpr
        (inLine_fieldLine name _ named required)⟩
    · exact List.forall_mem_cons.mpr ⟨comment, List.forall_mem_cons.mpr ⟨flag,
        List.forall_mem_singleton.mpr (inLine_fieldLine name _ named optional)⟩⟩

theorem inLine_variant (route : Route) : InLine (ofRoute route).names.variant :=
  (Identifier.wordlike_variant route.operationId).inLine

def comment (command : Command) : String := "    /// " ++ command.about

/-- What a variant says behind its comment. -/
def variantCode (command : Command) : List String :=
  ("    #[command(name = " ++ Quoted.quote command.names.subcommand ++ ")]") ::
    if command.fields.isEmpty then ["    " ++ command.names.variant ++ ","]
    else ["    " ++ command.names.variant ++ " \x7b"] ++
      command.pathFields.map (fun name => fieldLine name "String") ++ command.bodyLines ++
      ["    \x7d,"]

theorem variantLines_eq (command : Command) :
    command.variantLines = command.comment :: command.variantCode := rfl

theorem inLine_comment_iff (route : Route) :
    InLine (ofRoute route).comment ↔ (summarized route = false → InLine route.path) := by
  have mark : InLine "    /// " := inLine_literal _ rfl
  have text := inLine_about_iff (ofRoute route)
  exact ⟨fun whole => text.mp ((inLine_append _ _).mp whole).2,
    fun held => mark.append (text.mpr held)⟩

theorem inLine_variantCode (route : Route) : ∀ line ∈ (ofRoute route).variantCode, InLine line := by
  have command : InLine ("    #[command(name = " ++
      Quoted.quote (ofRoute route).names.subcommand ++ ")]") :=
    inLine_quoting _ _ _ (inLine_literal _ rfl) (inLine_literal _ rfl)
  have indent : InLine "    " := inLine_literal _ rfl
  have comma : InLine "," := inLine_literal _ rfl
  have opening : InLine " \x7b" := inLine_literal _ rfl
  have closing : InLine "    \x7d," := inLine_literal _ rfl
  have fieldType : InLine "String" := inLine_literal _ rfl
  have fields : ∀ line ∈ (ofRoute route).pathFields.map (fun name => fieldLine name "String"),
      InLine line := by
    intro line member
    obtain ⟨name, listed, rfl⟩ := List.mem_map.mp member
    exact inLine_fieldLine name _ (wordlike_pathFields _ name listed).inLine fieldType
  rw [variantCode, List.forall_mem_cons]
  refine ⟨command, ?_⟩
  split
  · exact List.forall_mem_singleton.mpr ((indent.append (inLine_variant route)).append comma)
  · rw [List.forall_mem_append, List.forall_mem_append, List.forall_mem_append]
    exact ⟨⟨⟨List.forall_mem_singleton.mpr ((indent.append (inLine_variant route)).append opening),
      fields⟩, inLine_bodyLines _⟩, List.forall_mem_singleton.mpr closing⟩

/-- The lines of a variant stay whole when its comment does. -/
theorem inLine_variantLines_iff (route : Route) :
    (∀ line ∈ (ofRoute route).variantLines, InLine line) ↔
      (summarized route = false → InLine route.path) := by
  rw [variantLines_eq, List.forall_mem_cons, inLine_comment_iff]
  exact ⟨fun held => held.1, fun held => ⟨held, inLine_variantCode route⟩⟩

theorem inLine_armLine (route : Route) (bound value : String) (boundInLine : InLine bound)
    (valueInLine : InLine value) : InLine ((ofRoute route).armLine bound value) := by
  have opening : InLine "            Command::" := inLine_literal _ rfl
  have brace : InLine " \x7b " := inLine_literal _ rfl
  have arrow : InLine ".. \x7d => " := inLine_literal _ rfl
  have comma : InLine "," := inLine_literal _ rfl
  have pattern := (((opening.append (inLine_variant route)).append brace).append boundInLine).append
    arrow
  exact (pattern.append valueInLine).append comma

theorem inLine_substitution (parameter : String) : InLine (substitution parameter) := by
  have opening : InLine ".replace(" := inLine_literal _ rfl
  have comma : InLine ", " := inLine_literal _ rfl
  have closing : InLine ")" := inLine_literal _ rfl
  exact ((inLine_quoting _ _ _ opening comma).append
    (Identifier.wordlike_commandField parameter).inLine).append closing

theorem inLine_pathLine (route : Route) : InLine (ofRoute route).pathLine := by
  have separator : InLine ", " := inLine_literal _ rfl
  have conversion : InLine ".to_string()" := inLine_literal _ rfl
  have bound : InLine (String.join ((ofRoute route).pathFields.map fun name => name ++ ", ")) := by
    apply inLine_join
    intro text member
    obtain ⟨name, listed, rfl⟩ := List.mem_map.mp member
    exact (wordlike_pathFields _ name listed).inLine.append separator
  have substituted : InLine (String.join (route.pathParameters.map substitution)) := by
    apply inLine_join
    intro text member
    obtain ⟨parameter, _, rfl⟩ := List.mem_map.mp member
    exact inLine_substitution parameter
  exact inLine_armLine route _ _ bound
    (((Quoted.inLine_quote route.path).append conversion).append substituted)

theorem inLine_bodyLine? (route : Route) (line : String)
    (held : (ofRoute route).bodyLine? = some line) : InLine line := by
  have separator : InLine ", " := inLine_literal _ rfl
  obtain ⟨name, named, rfl⟩ := Option.map_eq_some_iff.mp held
  have inLine := (wordlike_of_mem_bodyField? _ name named).inLine
  apply inLine_armLine route _ _ (inLine.append separator)
  split
  · have opening : InLine "Some(" := inLine_literal _ rfl
    have closing : InLine ".as_str())" := inLine_literal _ rfl
    exact (opening.append inLine).append closing
  · have conversion : InLine ".as_deref()" := inLine_literal _ rfl
    exact inLine.append conversion

theorem inLine_tableLine (route : Route) : InLine (ofRoute route).tableLine := by
  have opening : InLine "    (" := inLine_literal _ rfl
  have comma : InLine ", " := inLine_literal _ rfl
  have closing : InLine ")," := inLine_literal _ rfl
  have number : InLine (toString route.arity) := inLine_natural route.arity
  have called := inLine_quoting _ _ (ofRoute route).names.subcommand opening comma
  exact (((called.append (Quoted.inLine_quote route.operationId)).append comma).append number).append
    closing

end Command

theorem inLine_method (signature arms : List String) (first : ∀ line ∈ signature, InLine line)
    (inner : ∀ line ∈ arms, InLine line) : ∀ line ∈ method signature arms, InLine line := by
  have opening : ∀ line ∈ ["        match self \x7b"], InLine line := by decide
  have closing : ∀ line ∈ ["        \x7d", "    \x7d"], InLine line := by decide
  rw [method, List.forall_mem_append, List.forall_mem_append, List.forall_mem_append]
  exact ⟨⟨⟨first, opening⟩, inner⟩, closing⟩

theorem inLine_methods (routes : List Route) :
    ∀ line ∈ methods (routes.map Command.ofRoute), InLine line := by
  have arms (arm : Command → String) (whole : ∀ route, InLine (arm (Command.ofRoute route))) :
      ∀ line ∈ (routes.map Command.ofRoute).map arm, InLine line := by
    intro line member
    rw [List.map_map] at member
    obtain ⟨route, _, rfl⟩ := List.mem_map.mp member
    exact whole route
  have nothing : InLine "" := inLine_literal _ rfl
  have ids := arms Command.idLine fun route =>
    Command.inLine_armLine route _ _ nothing (Quoted.inLine_quote route.operationId)
  have verbs := arms Command.methodLine fun route =>
    Command.inLine_armLine route _ _ nothing (Quoted.inLine_quote route.method.name)
  have paths := arms Command.pathLine Command.inLine_pathLine
  have bodies : ∀ line ∈ (routes.map Command.ofRoute).filterMap Command.bodyLine? ++
      ["            #[allow(unreachable_patterns)]", "            _ => None,"], InLine line := by
    rw [List.forall_mem_append]
    constructor
    · intro line member
      rw [List.filterMap_map] at member
      obtain ⟨route, _, held⟩ := List.mem_filterMap.mp member
      exact Command.inLine_bodyLine? route line held
    · decide
  have opening : ∀ line ∈ ["", "impl Command \x7b"], InLine line := by decide
  have between : ∀ line ∈ [""], InLine line := by decide
  have closing : ∀ line ∈ ["\x7d"], InLine line := by decide
  have idMethod := inLine_method ["    pub fn operation_id(&self) -> &'static str \x7b"] _
    (by decide) ids
  have verbMethod := inLine_method ["    pub fn method(&self) -> &'static str \x7b"] _ (by decide) verbs
  have pathMethod := inLine_method ["    /// Request path with path parameters substituted.",
      "    pub fn path(&self) -> String \x7b"] _ (by decide) paths
  have bodyMethod := inLine_method ["    /// Raw JSON request body, if one was given.",
      "    pub fn body(&self) -> Option<&str> \x7b"] _ (by decide) bodies
  rw [methods]
  simp only [List.forall_mem_append]
  exact ⟨⟨⟨⟨⟨⟨⟨⟨opening, idMethod⟩, between⟩, verbMethod⟩, between⟩, pathMethod⟩, between⟩, bodyMethod⟩,
    closing⟩

/-! What stands in front of the variants, and what stands behind them. -/

def settings (info : Info) : List String := [
  "    name = " ++ Quoted.quote (programBase info ++ "-cli") ++ ",",
  "    version = " ++ Quoted.quote (oneLine info.version) ++ ",",
  "    about = " ++ Quoted.quote (programAbout info) ++ ","]

def environment (info : Info) : String :=
  "    #[arg(long, env = " ++
    Quoted.quote (upperAscii (Identifier.snake (programBase info)) ++ "_BASE_URL") ++
    ", default_value = \"http://localhost:8080\")]"

def opening (info : Info) : List String :=
  ("// " ++ notice (oneLine info.title) (oneLine info.version)) :: introduction ++ settings info ++
    attributes ++ [environment info] ++ declarations

def tableOpening : List String := [
  "\x7d", "", "/// `(subcommand, operationId, positional arity)` for every subcommand.",
  "pub const SUBCOMMANDS: &[(&str, &str, usize)] = &["]

def closing (commands : List Command) : List String :=
  tableOpening ++ commands.map Command.tableLine ++ ["];"] ++
    if commands.isEmpty then [] else methods commands

theorem lines_eq (info : Info) (commands : List Command) :
    lines info commands =
      opening info ++ (commands.flatMap Command.variantLines ++ closing commands) := by
  unfold closing
  rw [← List.append_assoc, ← List.append_assoc, ← List.append_assoc, ← List.append_assoc]
  rfl

/-- The settings of the program are quoted, so no title gets out of them. -/
theorem inLine_settings (info : Info) : ∀ line ∈ settings info, InLine line := by
  have comma : InLine "," := inLine_literal _ rfl
  unfold settings
  refine List.forall_mem_cons.mpr ⟨?_, List.forall_mem_cons.mpr ⟨?_,
    List.forall_mem_singleton.mpr ?_⟩⟩
  · exact inLine_quoting _ _ _ (inLine_literal _ rfl) comma
  · exact inLine_quoting _ _ _ (inLine_literal _ rfl) comma
  · exact inLine_quoting _ _ _ (inLine_literal _ rfl) comma

theorem inLine_opening (info : Info) : ∀ line ∈ opening info, InLine line := by
  have program : InLine (environment info) :=
    inLine_quoting _ _ _ (inLine_literal _ rfl) (inLine_literal _ rfl)
  unfold opening
  rw [List.forall_mem_append, List.forall_mem_append, List.forall_mem_append, List.forall_mem_append,
    List.forall_mem_cons, List.forall_mem_singleton]
  exact ⟨⟨⟨⟨⟨Router.inLine_title info, inLine_introduction⟩, inLine_settings info⟩, inLine_attributes⟩,
    program⟩, inLine_declarations⟩

theorem inLine_closing (routes : List Route) :
    ∀ line ∈ closing (routes.map Command.ofRoute), InLine line := by
  have table : ∀ line ∈ (routes.map Command.ofRoute).map Command.tableLine, InLine line := by
    intro line member
    rw [List.map_map] at member
    obtain ⟨route, _, rfl⟩ := List.mem_map.mp member
    exact Command.inLine_tableLine route
  have fixed : ∀ line ∈ tableOpening, InLine line := by decide
  have bracket : ∀ line ∈ ["];"], InLine line := by decide
  have implementation : ∀ line ∈ (if (routes.map Command.ofRoute).isEmpty then []
      else methods (routes.map Command.ofRoute)), InLine line := by
    split
    · exact List.forall_mem_nil _
    · exact inLine_methods routes
  rw [closing, List.forall_mem_append, List.forall_mem_append, List.forall_mem_append]
  exact ⟨⟨⟨fixed, table⟩, bracket⟩, implementation⟩

theorem inLine_lines_iff (info : Info) (routes : List Route) :
    (∀ line ∈ lines info (routes.map Command.ofRoute), InLine line) ↔
      ∀ route ∈ routes, Command.summarized route = false → InLine route.path := by
  rw [lines_eq, List.forall_mem_append, List.forall_mem_append, List.forall_mem_flatMap,
    List.forall_mem_map]
  simp only [Command.inLine_variantLines_iff]
  exact ⟨fun held => held.2.1, fun held => ⟨inLine_opening info, held, inLine_closing routes⟩⟩

/-! How many lines there are is a matter of shapes. -/

namespace Command

theorem isSome_bodyField? (route : Route) :
    (ofRoute route).bodyField?.isSome = (CommandShape.ofRoute route).body.isSome := by
  rw [bodyField?, CommandShape.ofRoute, Option.isSome_map]
  change (if route.hasBody then _ else none : Option String).isSome = route.hasBody
  cases route.hasBody with
  | false => rfl
  | true => rfl

theorem length_bodyLines (route : Route) :
    (ofRoute route).bodyLines.length = (CommandShape.ofRoute route).bodyLines := by
  cases body : route.body with
  | none => simp [bodyLines, bodyField?, CommandShape.bodyLines, CommandShape.ofRoute, ofRoute,
      Route.hasBody, body]
  | some held =>
    cases required : held.required <;>
      simp [bodyLines, bodyField?, CommandShape.bodyLines, CommandShape.ofRoute, ofRoute,
        Route.hasBody, Route.bodyRequired, body, required]

theorem length_variantLines (route : Route) :
    (ofRoute route).variantLines.length = (CommandShape.ofRoute route).variantLines := by
  have fieldless : (ofRoute route).fields.isEmpty = true ↔
      (CommandShape.ofRoute route).parameters = 0 ∧ (CommandShape.ofRoute route).body = none := by
    have body := isSome_bodyField? route
    rw [fields, List.isEmpty_iff, List.append_eq_nil_iff, Option.toList_eq_nil_iff,
      ← Option.not_isSome_iff_eq_none, body, Option.not_isSome_iff_eq_none, pathFields,
      List.map_eq_nil_iff, ← List.length_eq_zero_iff]
    rfl
  rw [variantLines, List.length_append, CommandShape.variantLines, apply_ite List.length]
  simp only [fieldless, List.length_append, List.length_cons, List.length_map, List.length_nil,
    length_bodyLines]
  have parameters : (ofRoute route).pathFields.length = (CommandShape.ofRoute route).parameters :=
    List.length_map _
  split
  · rfl
  · omega

theorem length_allVariantLines (routes : List Route) :
    ((routes.map ofRoute).flatMap variantLines).length =
      CommandShape.allVariantLines (routes.map CommandShape.ofRoute) := by
  induction routes with
  | nil => rfl
  | cons route rest ih =>
    rw [List.map_cons, List.flatMap_cons, List.length_append, ih, length_variantLines]
    rfl

end Command

/-- How many lines there are for commands of these shapes. -/
def lineCount (shapes : List CommandShape) : Nat :=
  1 + introduction.length + 3 + attributes.length + 1 + declarations.length +
    CommandShape.allVariantLines shapes + 4 + shapes.length + 1 +
    if shapes.isEmpty then 0
    else 26 + 3 * shapes.length + shapes.countP fun shape => shape.body.isSome

theorem length_methods (routes : List Route) :
    (methods (routes.map Command.ofRoute)).length =
      26 + 3 * routes.length +
        (routes.map CommandShape.ofRoute).countP fun shape => shape.body.isSome := by
  have bodies : ((routes.map Command.ofRoute).filterMap Command.bodyLine?).length =
      (routes.map CommandShape.ofRoute).countP fun shape => shape.body.isSome := by
    rw [List.length_filterMap_eq_countP, List.countP_map, List.countP_map]
    congr 1
    funext route
    exact (Option.isSome_map ..).trans (Command.isSome_bodyField? route)
  simp only [methods, method, List.length_append, List.length_cons, List.length_map,
    List.length_nil, bodies]
  omega

theorem length_lines (info : Info) (routes : List Route) :
    (lines info (routes.map Command.ofRoute)).length =
      lineCount (routes.map CommandShape.ofRoute) := by
  have silent : (routes.map Command.ofRoute).isEmpty =
      (routes.map CommandShape.ofRoute).isEmpty := by
    rw [List.isEmpty_map, List.isEmpty_map]
  simp only [lines, lineCount, List.length_append, List.length_cons, List.length_map, List.length_nil,
    Command.length_allVariantLines, apply_ite List.length, length_methods, silent]
  omega

end ApiAssembly.CommandLine
