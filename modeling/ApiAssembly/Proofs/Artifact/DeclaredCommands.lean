import ApiAssembly.Proofs.Artifact.CommandLines
import ApiAssembly.Proofs.Artifact.GeneratedNames
import ApiAssembly.Proofs.Text.Pieces
/-! The subcommands that a command line declares, read from its lines: an attribute with the name, the
variant in the line behind it, and the fields of the variant up to its closing brace. -/
namespace ApiAssembly.CommandLine
open Text

structure DeclaredCommand where
  subcommand : String
  variant : String
  fields : List String
deriving DecidableEq

def DeclaredCommand.ofRoute (route : Route) : DeclaredCommand where
  subcommand := (Command.ofRoute route).names.subcommand
  variant := (Command.ofRoute route).names.variant
  fields := (Command.ofRoute route).fields

def attributeStart : String := "    #[command(name = \""

/-- The subcommand that an attribute names. -/
def subcommand? (line : String) : Option String := do
  let quoted ← afterStart? attributeStart line
  let (name, rest) ← Quoted.body? quoted.toList
  if rest = ")]".toList then some (String.ofList (Quoted.unescape name)) else none

def fieldName? (line : String) : Option String := do
  let named ← afterStart? "        " line
  if ':' ∈ named.toList then some (String.ofList (beforeMark ':' named.toList)) else none

def variantName : List String → String
  | [] => ""
  | opening :: _ => String.ofList (beforeMark ' ' (beforeMark ',' (opening.toList.drop 4)))

def variantEnd : String := "    \x7d,"

/-- The fields between the braces of a variant. A variant without braces has none. -/
def variantFields : List String → List String
  | [] => []
  | opening :: rest =>
    if opening.toList.getLast? = some '\x7b' then
      (rest.takeWhile fun line => line != variantEnd).filterMap fieldName?
    else []

def commandsIn : List String → List DeclaredCommand
  | [] => []
  | line :: rest =>
    match subcommand? line with
    | some name => ⟨name, variantName rest, variantFields rest⟩ :: commandsIn rest
    | none => commandsIn rest

/-- The subcommands of a command line, in order. -/
def declaredCommands (text : String) : List DeclaredCommand := commandsIn (linesOf text)

/-! Lines that name no subcommand. -/

theorem commandsIn_skip (lines rest : List String)
    (plain : ∀ line ∈ lines, subcommand? line = none) :
    commandsIn (lines ++ rest) = commandsIn rest := by
  induction lines with
  | nil => rfl
  | cons line more ih =>
    rw [List.cons_append, commandsIn, plain line List.mem_cons_self]
    exact ih fun other member => plain other (List.mem_cons_of_mem line member)

theorem subcommand?_of_start (line : String) (other : afterStart? attributeStart line = none) :
    subcommand? line = none := by
  rw [subcommand?, other]
  rfl

/-- One letter that differs from the start of the attribute is enough. -/
theorem subcommand?_other (start rest : String) (index : Nat) (inside : index < start.toList.length)
    (early : index < attributeStart.toList.length)
    (differ : start.toList[index]? ≠ attributeStart.toList[index]?) :
    subcommand? (start ++ rest) = none := by
  apply subcommand?_of_start
  cases found : afterStart? attributeStart (start ++ rest) with
  | none => rfl
  | some quoted =>
    have same := congrArg String.toList ((afterStart?_eq_some_iff _ _ _).mp found)
    have letters := congrArg (fun cs : List Char => cs[index]?) same
    simp only [String.toList_append, List.getElem?_append_left inside,
      List.getElem?_append_left early] at letters
    exact absurd letters differ

theorem subcommand?_literal (cs : List Char) (other : attributeStart.toList.isPrefixOf cs = false) :
    subcommand? (String.ofList cs) = none := by
  apply subcommand?_of_start
  rw [afterStart?, startsWith, String.toList_ofList, other]
  rfl

theorem subcommand?_absent (line : String) (absent : '[' ∉ line.toList) : subcommand? line = none := by
  apply subcommand?_of_start
  cases found : afterStart? attributeStart line with
  | none => rfl
  | some quoted =>
    rw [(afterStart?_eq_some_iff _ _ _).mp found, String.toList_append, List.mem_append, not_or]
      at absent
    exact absurd (by decide) absent.1

/-! One command. -/

section Command
variable (route : Route)

theorem fieldName?_fieldLine (name type : String) (named : Identifier.Wordlike name) :
    fieldName? (Command.fieldLine name type) = some name := by
  have spelled : Command.fieldLine name type = "        " ++ (name ++ (": " ++ (type ++ ","))) := by
    simp only [Command.fieldLine, String.append_assoc]
  have letters : (name ++ (": " ++ (type ++ ","))).toList =
      name.toList ++ ':' :: (' ' :: (type ++ ",").toList) := by
    rw [String.toList_append, String.toList_append]
    rfl
  have held : ':' ∈ name.toList ++ ':' :: (' ' :: (type ++ ",").toList) := by simp
  rw [fieldName?, spelled, afterStart?_append, Option.bind_eq_bind, Option.bind_some, letters,
    if_pos held, beforeMark_append ':' _ _ (named.not_mem ':' (by decide)), String.ofList_toList]

theorem fieldNames_of_wordlike (names : List String)
    (wordlike : ∀ name ∈ names, Identifier.Wordlike name) :
    (names.map fun name => Command.fieldLine name "String").filterMap fieldName? = names := by
  induction names with
  | nil => rfl
  | cons name rest ih =>
    rw [List.map_cons, List.filterMap_cons_some
      (fieldName?_fieldLine name "String" (wordlike name List.mem_cons_self)),
      ih fun other member => wordlike other (List.mem_cons_of_mem name member)]

theorem fieldNames_bodyLines :
    (Command.ofRoute route).bodyLines.filterMap fieldName? =
      (Command.ofRoute route).bodyField?.toList := by
  have comment : fieldName? "        /// JSON request body" = none := by decide
  have flag : fieldName? "        #[arg(long)]" = none := by decide
  unfold Command.bodyLines
  cases held : (Command.ofRoute route).bodyField? with
  | none => rfl
  | some name =>
    have wordlike := Command.wordlike_of_mem_bodyField? _ name held
    simp only
    split
    · rw [List.filterMap_cons_none comment,
        List.filterMap_cons_some (fieldName?_fieldLine name _ wordlike)]
      rfl
    · rw [List.filterMap_cons_none comment, List.filterMap_cons_none flag,
        List.filterMap_cons_some (fieldName?_fieldLine name _ wordlike)]
      rfl

/-- The lines between the braces of a variant. -/
def fieldLines : List String :=
  (Command.ofRoute route).pathFields.map (fun name => Command.fieldLine name "String") ++
    (Command.ofRoute route).bodyLines

theorem fieldLine_ne_variantEnd (name type : String) :
    (Command.fieldLine name type != variantEnd) = true := by
  rw [bne_iff_ne]
  intro same
  -- A field is indented further than the brace behind all fields.
  have letters := congrArg (fun text => text.toList[4]?) same
  simp only [Command.fieldLine, String.append_assoc] at letters
  rw [String.toList_append, List.getElem?_append_left (by decide)] at letters
  exact absurd letters (by decide)

/-- What holds of every field, and of the lines in front of the body, holds between the braces. -/
theorem forall_mem_fieldLines (holds : String → Prop)
    (field : ∀ name type, holds (Command.fieldLine name type))
    (comment : holds "        /// JSON request body") (flag : holds "        #[arg(long)]") :
    ∀ line ∈ fieldLines route, holds line := by
  rw [fieldLines, List.forall_mem_append]
  constructor
  · intro line member
    obtain ⟨name, _, rfl⟩ := List.mem_map.mp member
    exact field name "String"
  · unfold Command.bodyLines
    split
    · exact List.forall_mem_nil _
    · rename_i name _
      split
      · exact List.forall_mem_cons.mpr ⟨comment, List.forall_mem_singleton.mpr (field name _)⟩
      · exact List.forall_mem_cons.mpr ⟨comment, List.forall_mem_cons.mpr ⟨flag,
          List.forall_mem_singleton.mpr (field name _)⟩⟩

theorem ne_variantEnd_of_mem_fieldLines : ∀ line ∈ fieldLines route, (line != variantEnd) = true :=
  forall_mem_fieldLines route _ fieldLine_ne_variantEnd (by decide) (by decide)

theorem fieldNames_fieldLines :
    (fieldLines route).filterMap fieldName? = (Command.ofRoute route).fields := by
  rw [fieldLines, List.filterMap_append, fieldNames_bodyLines,
    fieldNames_of_wordlike _ (Command.wordlike_pathFields _)]
  rfl

theorem subcommand?_attribute (name : String) :
    subcommand? ("    #[command(name = " ++ Quoted.quote name ++ ")]") = some name := by
  have start : attributeStart.toList = "    #[command(name = ".toList ++ ['"'] := by decide
  have spelled : "    #[command(name = " ++ Quoted.quote name ++ ")]" =
      attributeStart ++ String.ofList (Quoted.escaped name ++ '"' :: ")]".toList) := by
    apply String.toList_injective
    simp only [String.toList_append, String.toList_ofList, Quoted.toList_quote, start,
      List.append_assoc, List.cons_append, List.nil_append]
  rw [subcommand?, spelled, afterStart?_append, Option.bind_eq_bind, Option.bind_some,
    String.toList_ofList, Quoted.escaped, Quoted.body?_escapeWith, Option.bind_eq_bind,
    Option.bind_some]
  simp only [if_true, Quoted.unescape_escapeWith, String.ofList_toList]

theorem subcommand?_fieldLine (name type : String) :
    subcommand? (Command.fieldLine name type) = none := by
  unfold Command.fieldLine
  rw [String.append_assoc, String.append_assoc, String.append_assoc]
  exact subcommand?_other _ _ 4 (by decide) (by decide) (by decide)

theorem subcommand?_of_mem_fieldLines : ∀ line ∈ fieldLines route, subcommand? line = none :=
  forall_mem_fieldLines route _ subcommand?_fieldLine (by decide) (by decide)

/-! The line of a variant. -/

theorem toList_opening (variant closing : String) :
    ("    " ++ variant ++ closing).toList.drop 4 = variant.toList ++ closing.toList := by
  rw [String.toList_append, String.toList_append]
  rfl

theorem variantName_bare (variant : String) (rest : List String)
    (wordlike : Identifier.Wordlike variant) :
    variantName (("    " ++ variant ++ ",") :: rest) = variant := by
  have comma := wordlike.not_mem ',' (by decide)
  have blank := wordlike.not_mem ' ' (by decide)
  have closing : ",".toList = ',' :: [] := by decide
  rw [variantName, toList_opening, closing, beforeMark_append ',' _ _ comma,
    beforeMark_absent ' ' _ blank, String.ofList_toList]

theorem variantName_braced (variant : String) (rest : List String)
    (wordlike : Identifier.Wordlike variant) :
    variantName (("    " ++ variant ++ " \x7b") :: rest) = variant := by
  have comma : ',' ∉ variant.toList ++ " \x7b".toList := by
    rw [List.mem_append, not_or]
    exact ⟨wordlike.not_mem ',' (by decide), by decide⟩
  have opening : " \x7b".toList = ' ' :: ['\x7b'] := by decide
  rw [variantName, toList_opening, beforeMark_absent ',' _ comma, opening,
    beforeMark_append ' ' _ _ (wordlike.not_mem ' ' (by decide)), String.ofList_toList]

theorem variantFields_bare (variant : String) (rest : List String) :
    variantFields (("    " ++ variant ++ ",") :: rest) = [] := by
  have last : ("    " ++ variant ++ ",").toList.getLast? = some ',' := by
    rw [String.toList_append]
    exact List.getLast?_concat
  rw [variantFields, last, if_neg (by decide)]

theorem variantFields_braced (variant : String) (rest : List String) :
    variantFields (("    " ++ variant ++ " \x7b") :: (fieldLines route ++ variantEnd :: rest)) =
      (Command.ofRoute route).fields := by
  have last : ("    " ++ variant ++ " \x7b").toList.getLast? = some '\x7b' := by
    rw [String.toList_append, List.getLast?_append]
    rfl
  rw [variantFields, last, if_pos rfl,
    List.takeWhile_append_of_pos (ne_variantEnd_of_mem_fieldLines route),
    List.takeWhile_cons_of_neg (by decide), List.append_nil, fieldNames_fieldLines]

theorem subcommand?_comment (command : Command) : subcommand? command.comment = none :=
  subcommand?_other _ _ 4 (by decide) (by decide) (by decide)

theorem subcommand?_opening (closing : String) (plain : '[' ∉ closing.toList) :
    subcommand? ("    " ++ (Command.ofRoute route).names.variant ++ closing) = none := by
  have wordlike := Identifier.wordlike_variant route.operationId
  apply subcommand?_absent
  exact not_mem_toList_append _ _
    (not_mem_toList_append _ _ (by decide) (wordlike.not_mem '[' (by decide))) plain

/-- The braces of a variant, and what stands between them. -/
def bracedLines : List String :=
  ("    " ++ (Command.ofRoute route).names.variant ++ " \x7b") :: (fieldLines route ++ [variantEnd])

theorem variantCode_eq :
    (Command.ofRoute route).variantCode =
      ("    #[command(name = " ++ Quoted.quote (Command.ofRoute route).names.subcommand ++ ")]") ::
        if (Command.ofRoute route).fields.isEmpty then
          ["    " ++ (Command.ofRoute route).names.variant ++ ","]
        else bracedLines route := by
  have braced : bracedLines route =
      ["    " ++ (Command.ofRoute route).names.variant ++ " \x7b"] ++
        (Command.ofRoute route).pathFields.map (fun name => Command.fieldLine name "String") ++
        (Command.ofRoute route).bodyLines ++ ["    \x7d,"] := by
    unfold bracedLines fieldLines
    rw [List.append_assoc, List.append_assoc, List.append_assoc]
    rfl
  rw [braced]
  rfl

theorem commandsIn_variantCode (rest : List String) :
    commandsIn ((Command.ofRoute route).variantCode ++ rest) =
      DeclaredCommand.ofRoute route :: commandsIn rest := by
  have wordlike : Identifier.Wordlike (Command.ofRoute route).names.variant :=
    Identifier.wordlike_variant route.operationId
  have closing : subcommand? variantEnd = none := by decide
  rw [variantCode_eq, List.cons_append, commandsIn, subcommand?_attribute]
  simp only
  by_cases fieldless : (Command.ofRoute route).fields.isEmpty = true
  · rw [if_pos fieldless, List.singleton_append, variantName_bare _ _ wordlike, variantFields_bare,
      commandsIn, subcommand?_opening route "," (by decide), DeclaredCommand.ofRoute,
      List.isEmpty_iff.mp fieldless]
  · have split : bracedLines route ++ rest =
        ("    " ++ (Command.ofRoute route).names.variant ++ " \x7b") ::
          (fieldLines route ++ variantEnd :: rest) := by
      rw [bracedLines, List.cons_append, List.append_assoc, List.singleton_append]
    rw [if_neg fieldless, split, variantName_braced _ _ wordlike, variantFields_braced, commandsIn,
      subcommand?_opening route " \x7b" (by decide)]
    simp only
    -- The search goes on inside the braces, where it finds nothing.
    rw [commandsIn_skip _ _ (subcommand?_of_mem_fieldLines route), commandsIn, closing]
    rfl

end Command

/-! The lines around the variants. -/

theorem subcommand?_of_mem_introduction : ∀ line ∈ introduction, subcommand? line = none := by
  rw [introduction]
  repeat refine List.forall_mem_cons.mpr ⟨subcommand?_literal _ rfl, ?_⟩
  exact List.forall_mem_nil _

theorem subcommand?_of_mem_attributes : ∀ line ∈ attributes, subcommand? line = none := by
  rw [attributes]
  repeat refine List.forall_mem_cons.mpr ⟨subcommand?_literal _ rfl, ?_⟩
  exact List.forall_mem_nil _

theorem subcommand?_of_mem_declarations : ∀ line ∈ declarations, subcommand? line = none := by
  rw [declarations]
  repeat refine List.forall_mem_cons.mpr ⟨subcommand?_literal _ rfl, ?_⟩
  exact List.forall_mem_nil _

theorem subcommand?_armLine (command : Command) (bound value : String) :
    subcommand? (command.armLine bound value) = none := by
  unfold Command.armLine
  rw [String.append_assoc, String.append_assoc, String.append_assoc, String.append_assoc,
    String.append_assoc]
  exact subcommand?_other _ _ 4 (by decide) (by decide) (by decide)

theorem subcommand?_tableLine (command : Command) : subcommand? command.tableLine = none := by
  unfold Command.tableLine
  rw [String.append_assoc, String.append_assoc, String.append_assoc, String.append_assoc,
    String.append_assoc]
  exact subcommand?_other _ _ 4 (by decide) (by decide) (by decide)

theorem subcommand?_of_mem_method (signature arms : List String)
    (first : ∀ line ∈ signature, subcommand? line = none)
    (inner : ∀ line ∈ arms, subcommand? line = none) :
    ∀ line ∈ method signature arms, subcommand? line = none := by
  rw [method, List.forall_mem_append, List.forall_mem_append, List.forall_mem_append]
  exact ⟨⟨⟨first, by decide⟩, inner⟩, by decide⟩

theorem subcommand?_of_mem_methods (commands : List Command) :
    ∀ line ∈ methods commands, subcommand? line = none := by
  have arms (arm : Command → String) (plain : ∀ command, subcommand? (arm command) = none) :
      ∀ line ∈ commands.map arm, subcommand? line = none := by
    intro line member
    obtain ⟨command, _, rfl⟩ := List.mem_map.mp member
    exact plain command
  have ids := arms Command.idLine fun command => subcommand?_armLine command _ _
  have verbs := arms Command.methodLine fun command => subcommand?_armLine command _ _
  have paths := arms Command.pathLine fun command => subcommand?_armLine command _ _
  have bodies : ∀ line ∈ commands.filterMap Command.bodyLine? ++
      ["            #[allow(unreachable_patterns)]", "            _ => None,"],
        subcommand? line = none := by
    rw [List.forall_mem_append]
    refine ⟨?_, by decide⟩
    intro line member
    obtain ⟨command, _, held⟩ := List.mem_filterMap.mp member
    obtain ⟨name, _, rfl⟩ := Option.map_eq_some_iff.mp held
    exact subcommand?_armLine command _ _
  rw [methods]
  simp only [List.forall_mem_append]
  exact ⟨⟨⟨⟨⟨⟨⟨⟨by decide, subcommand?_of_mem_method _ _ (by decide) ids⟩, by decide⟩,
    subcommand?_of_mem_method _ _ (by decide) verbs⟩, by decide⟩,
    subcommand?_of_mem_method _ _ (by decide) paths⟩, by decide⟩,
    subcommand?_of_mem_method _ _ (by decide) bodies⟩, by decide⟩

theorem subcommand?_of_mem_settings (info : Info) :
    ∀ line ∈ settings info, subcommand? line = none := by
  have setting (start text : String) (inside : 4 < start.toList.length)
      (other : start.toList[4]? ≠ attributeStart.toList[4]?) :
      subcommand? (start ++ Quoted.quote text ++ ",") = none := by
    rw [String.append_assoc]
    exact subcommand?_other _ _ 4 inside (by decide) other
  exact List.forall_mem_cons.mpr ⟨setting _ _ (by decide) (by decide),
    List.forall_mem_cons.mpr ⟨setting _ _ (by decide) (by decide),
      List.forall_mem_singleton.mpr (setting _ _ (by decide) (by decide))⟩⟩

theorem subcommand?_of_mem_opening (info : Info) :
    ∀ line ∈ opening info, subcommand? line = none := by
  have title : subcommand? ("// " ++ notice (oneLine info.title) (oneLine info.version)) = none :=
    subcommand?_other _ _ 0 (by decide) (by decide) (by decide)
  have program : subcommand? (environment info) = none := by
    unfold environment
    rw [String.append_assoc]
    exact subcommand?_other _ _ 6 (by decide) (by decide) (by decide)
  unfold opening
  rw [List.forall_mem_append, List.forall_mem_append, List.forall_mem_append, List.forall_mem_append,
    List.forall_mem_cons, List.forall_mem_singleton]
  exact ⟨⟨⟨⟨⟨title, subcommand?_of_mem_introduction⟩, subcommand?_of_mem_settings info⟩,
    subcommand?_of_mem_attributes⟩, program⟩, subcommand?_of_mem_declarations⟩

theorem subcommand?_of_mem_closing (commands : List Command) :
    ∀ line ∈ closing commands, subcommand? line = none := by
  have fixed : ∀ line ∈ tableOpening, subcommand? line = none := by decide
  have table : ∀ line ∈ commands.map Command.tableLine, subcommand? line = none := by
    intro line member
    obtain ⟨command, _, rfl⟩ := List.mem_map.mp member
    exact subcommand?_tableLine command
  have bracket : ∀ line ∈ ["];"], subcommand? line = none := by decide
  have implementation : ∀ line ∈ (if commands.isEmpty then [] else methods commands),
      subcommand? line = none := by
    split
    · exact List.forall_mem_nil _
    · exact subcommand?_of_mem_methods commands
  rw [closing, List.forall_mem_append, List.forall_mem_append, List.forall_mem_append]
  exact ⟨⟨⟨fixed, table⟩, bracket⟩, implementation⟩

/-! The text as a whole. -/

theorem subcommands_commandsIn (lines : List String) :
    (commandsIn lines).map DeclaredCommand.subcommand = lines.filterMap subcommand? := by
  induction lines with
  | nil => rfl
  | cons line rest ih =>
    rw [commandsIn]
    cases named : subcommand? line with
    | none => rw [List.filterMap_cons_none named, ← ih]
    | some name => rw [List.filterMap_cons_some named, ← ih, List.map_cons]

/-- The subcommands that the comment of a variant breaks into. -/
def strayCommands (route : Route) : List String :=
  (linesOf (unlines [(Command.ofRoute route).comment])).filterMap subcommand?

theorem subcommands_variant (route : Route) :
    (linesOf (unlines (Command.ofRoute route).variantLines)).filterMap subcommand? =
      strayCommands route ++ [(Command.ofRoute route).names.subcommand] := by
  have code : (Command.ofRoute route).variantCode.filterMap subcommand? =
      [(Command.ofRoute route).names.subcommand] := by
    have declared := commandsIn_variantCode route []
    rw [List.append_nil] at declared
    rw [← subcommands_commandsIn, declared]
    rfl
  rw [Command.variantLines_eq, linesOf_unlines_cons, List.filterMap_append,
    linesOf_unlines _ (Command.inLine_variantCode route), code]
  rfl

theorem linesOf_render (spec : Specification) (routes : List Route) :
    linesOf (render spec routes) = opening spec.info ++
      (linesOf (unlines ((routes.map Command.ofRoute).flatMap Command.variantLines)) ++
        closing (routes.map Command.ofRoute)) := by
  rw [render, lines_eq, linesOf_unlines_append, linesOf_unlines_append,
    linesOf_unlines _ (inLine_opening spec.info), linesOf_unlines _ (inLine_closing routes)]

/-- A command line declares the subcommands of its routes, each behind what its comment breaks into. -/
theorem subcommands_render (spec : Specification) (routes : List Route) :
    (declaredCommands (render spec routes)).map DeclaredCommand.subcommand =
      routes.flatMap fun route =>
        strayCommands route ++ [(Command.ofRoute route).names.subcommand] := by
  have variants : (linesOf (unlines ((routes.map Command.ofRoute).flatMap
      Command.variantLines))).filterMap subcommand? = routes.flatMap fun route =>
        strayCommands route ++ [(Command.ofRoute route).names.subcommand] := by
    induction routes with
    | nil => rfl
    | cons route rest ih =>
      rw [List.map_cons, List.flatMap_cons, linesOf_unlines_append, List.filterMap_append,
        subcommands_variant, ih, List.flatMap_cons]
  have before := List.filterMap_eq_nil_iff.mpr (subcommand?_of_mem_opening spec.info)
  have behind := List.filterMap_eq_nil_iff.mpr
    (subcommand?_of_mem_closing (routes.map Command.ofRoute))
  rw [declaredCommands, subcommands_commandsIn, linesOf_render, List.filterMap_append,
    List.filterMap_append, before, behind, variants, List.nil_append, List.append_nil]

theorem commandsIn_variants (routes : List Route) (rest : List String)
    (none : ∀ route ∈ routes, strayCommands route = []) :
    commandsIn (linesOf (unlines ((routes.map Command.ofRoute).flatMap Command.variantLines)) ++
      rest) = routes.map DeclaredCommand.ofRoute ++ commandsIn rest := by
  induction routes with
  | nil => rfl
  | cons route more ih =>
    have comment := List.filterMap_eq_nil_iff.mp (none route List.mem_cons_self)
    rw [List.map_cons, List.flatMap_cons, linesOf_unlines_append, Command.variantLines_eq,
      linesOf_unlines_cons, linesOf_unlines _ (Command.inLine_variantCode route), List.append_assoc,
      List.append_assoc, commandsIn_skip _ _ comment, commandsIn_variantCode,
      ih fun other member => none other (List.mem_cons_of_mem route member), List.map_cons,
      List.cons_append]

/-- The command line declares one subcommand for each route, with the names that the route was given,
exactly when no comment of a variant breaks into another subcommand. -/
theorem declaredCommands_render_iff (spec : Specification) (routes : List Route) :
    declaredCommands (render spec routes) = routes.map DeclaredCommand.ofRoute ↔
      ∀ route ∈ routes, strayCommands route = [] := by
  constructor
  · intro same
    have names := subcommands_render spec routes
    rw [same, List.map_map] at names
    exact (flatMap_concat_eq_map_iff strayCommands _ routes).mp names.symm
  · intro none
    have nothing := commandsIn_skip _ [] (subcommand?_of_mem_closing (routes.map Command.ofRoute))
    rw [List.append_nil, commandsIn] at nothing
    rw [declaredCommands, linesOf_render, commandsIn_skip _ _ (subcommand?_of_mem_opening spec.info),
      commandsIn_variants routes _ none, nothing, List.append_nil]

theorem strayCommands_inLine (route : Route)
    (inLine : Command.summarized route = false → InLine route.path) : strayCommands route = [] := by
  have whole := (Command.inLine_comment_iff route).mpr inLine
  rw [strayCommands, linesOf_unlines _ (List.forall_mem_singleton.mpr whole),
    List.filterMap_cons_none (subcommand?_comment _), List.filterMap_nil]

end ApiAssembly.CommandLine
