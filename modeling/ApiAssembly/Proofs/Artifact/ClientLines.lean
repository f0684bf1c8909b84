import ApiAssembly.Artifact.ScriptingClient
import ApiAssembly.Proofs.Artifact.RouterLines
/-! The lines of the scripting client. Every text that comes into it is put on one line, or is written
as a literal, and a documentation text is read up to the quotes that the client puts behind it. -/
namespace ApiAssembly
open Text

/-! Literals have no line end, for they escape it. -/

section Literals

theorem Decimal.inLine_powerText (style : Decimal.Style) (power : Int) :
    ∀ c ∈ Decimal.powerText style power, endsLine c = false := by
  have digits := endsLine_of_mem_digits power.natAbs
  unfold Decimal.powerText
  split
  · exact List.forall_mem_cons.mpr ⟨by decide, digits⟩
  split
  · exact List.forall_mem_cons.mpr ⟨by decide, digits⟩
  · exact digits

theorem Decimal.inLine_magnitudeText (style : Decimal.Style) (digits : Nat) (exponent : Int) :
    ∀ c ∈ Decimal.magnitudeText style digits exponent, endsLine c = false := by
  have text := endsLine_of_mem_digits digits
  have zeros (count : Nat) : ∀ c ∈ List.replicate count '0', endsLine c = false := by
    intro c member
    rw [List.eq_of_mem_replicate member]
    decide
  have taken (count : Nat) : ∀ c ∈ (Nat.toDigits 10 digits).take count, endsLine c = false :=
    fun c member => text c (List.mem_of_mem_take member)
  have dropped (count : Nat) : ∀ c ∈ (Nat.toDigits 10 digits).drop count, endsLine c = false :=
    fun c member => text c (List.mem_of_mem_drop member)
  unfold Decimal.magnitudeText
  simp only
  split
  · rw [List.forall_mem_append, List.forall_mem_append]
    exact ⟨⟨text, zeros _⟩, inLine_chars _ rfl⟩
  split
  · rw [List.forall_mem_append, List.forall_mem_cons]
    exact ⟨taken _, by decide, dropped _⟩
  split
  · rw [List.cons_append, List.cons_append, List.forall_mem_cons, List.forall_mem_cons,
      List.forall_mem_append]
    exact ⟨by decide, by decide, zeros _, text⟩
  · have fraction : ∀ c ∈ (if (Nat.toDigits 10 digits).length = 1 then []
        else '.' :: (Nat.toDigits 10 digits).drop 1), endsLine c = false := by
      split
      · exact List.forall_mem_nil _
      · exact List.forall_mem_cons.mpr ⟨by decide, dropped 1⟩
    rw [List.forall_mem_append, List.forall_mem_append, List.forall_mem_cons]
    exact ⟨⟨taken 1, fraction⟩, by decide, inLine_powerText style _⟩

theorem Number.inLine_render (number : Number) : ∀ c ∈ number.render, endsLine c = false := by
  cases number with
  | int value =>
    cases value with
    | ofNat natural => exact inLine_natural natural
    | negSucc natural =>
      have sign : InLine "-" := by decide
      exact sign.append (inLine_natural (natural + 1))
  | real value =>
    unfold Number.render Decimal.render
    have magnitude : ∀ c ∈ (if value.isZero then ['0', '.', '0']
        else Decimal.magnitudeText Number.style value.digits value.exponent), endsLine c = false := by
      split
      · exact inLine_chars _ rfl
      · exact Decimal.inLine_magnitudeText _ _ _
    simp only
    split
    · exact List.forall_mem_cons.mpr ⟨by decide, magnitude⟩
    · exact magnitude

theorem Json.endsLine_hexDigit (value : Nat) : endsLine (Json.hexDigit value) = false := by
  rw [Bool.eq_false_iff]
  intro ends
  unfold Json.hexDigit at ends
  cases digits : Nat.toDigits 16 value with
  | nil => exact absurd digits Nat.toDigits_ne_nil
  | cons digit rest =>
    rw [digits, List.headD_cons] at ends
    have member : digit ∈ Nat.toDigits 16 value := digits ▸ List.mem_cons_self
    rcases endsLine_cases digit ends with rfl | rfl
    · exact Quoted.not_mem_digits value '\n' (by decide) member
    · exact Quoted.not_mem_digits value '\r' (by decide) member

theorem Json.inLine_escapeChar (c : Char) : ∀ d ∈ Json.escapeChar c, endsLine d = false := by
  unfold Json.escapeChar
  split
  · exact inLine_chars _ rfl
  split
  · exact inLine_chars _ rfl
  split
  · exact inLine_chars _ rfl
  split
  · exact inLine_chars _ rfl
  split
  · exact inLine_chars _ rfl
  split
  · exact inLine_chars _ rfl
  split
  · exact inLine_chars _ rfl
  split
  · simp only [List.forall_mem_cons]
    refine ⟨by decide, by decide, by decide, by decide, endsLine_hexDigit _, endsLine_hexDigit _, ?_⟩
    exact List.forall_mem_nil _
  · -- What is written as it is has been told from both line ends.
    rename_i newline carriage _ _ _ _
    intro d member
    rw [List.mem_singleton.mp member]
    simp [endsLine, newline, carriage]

theorem Json.inLine_quote (text : String) : ∀ c ∈ Json.quote text, endsLine c = false := by
  unfold Json.quote
  rw [List.cons_append, List.forall_mem_cons, List.forall_mem_append, List.forall_mem_flatMap]
  exact ⟨by decide, fun c _ => inLine_escapeChar c, inLine_chars _ rfl⟩

namespace PythonLiteral

mutual
theorem inLine_render : (value : Json) → ∀ c ∈ render value, endsLine c = false
  | .null => inLine_chars _ rfl
  | .bool true => inLine_chars _ rfl
  | .bool false => inLine_chars _ rfl
  | .num value => by
    rw [render]
    exact value.inLine_render
  | .str value => by
    rw [render]
    exact Json.inLine_quote value
  | .arr items => by
    rw [render, List.cons_append, List.forall_mem_cons, List.forall_mem_append]
    exact ⟨by decide, inLine_renderItems items, inLine_chars _ rfl⟩
  | .obj fields => by
    rw [render, List.cons_append, List.forall_mem_cons, List.forall_mem_append]
    exact ⟨by decide, inLine_renderFields fields, inLine_chars _ rfl⟩
theorem inLine_renderItems : (items : List Json) → ∀ c ∈ renderItems items, endsLine c = false
  | [] => by
    rw [renderItems]
    exact List.forall_mem_nil _
  | [item] => by
    rw [renderItems]
    exact inLine_render item
  | item :: next :: rest => by
    rw [renderItems, List.forall_mem_append, List.forall_mem_cons, List.forall_mem_cons]
    · exact ⟨inLine_render item, by decide, by decide, inLine_renderItems (next :: rest)⟩
    · exact nofun
theorem inLine_renderFields : (fields : List (String × Json)) →
    ∀ c ∈ renderFields fields, endsLine c = false
  | [] => by
    rw [renderFields]
    exact List.forall_mem_nil _
  | [(name, value)] => by
    rw [renderFields, List.forall_mem_append, List.forall_mem_cons, List.forall_mem_cons]
    exact ⟨Json.inLine_quote name, by decide, by decide, inLine_render value⟩
  | (name, value) :: next :: rest => by
    rw [renderFields, List.forall_mem_append, List.forall_mem_append, List.forall_mem_cons,
      List.forall_mem_cons, List.forall_mem_cons, List.forall_mem_cons]
    · exact ⟨⟨Json.inLine_quote name, by decide, by decide, inLine_render value⟩, by decide,
        by decide, inLine_renderFields (next :: rest)⟩
    · exact nofun
end

end PythonLiteral
end Literals

namespace ScriptingClient

theorem inLine_introduction : ∀ line ∈ introduction, InLine line := by
  rw [introduction]
  repeat refine List.forall_mem_cons.mpr ⟨inLine_literal _ rfl, ?_⟩
  exact List.forall_mem_nil _

theorem inLine_support : ∀ line ∈ support, InLine line := by
  rw [support]
  repeat refine List.forall_mem_cons.mpr ⟨inLine_literal _ rfl, ?_⟩
  exact List.forall_mem_nil _

theorem inLine_docText (text : String) : InLine (docText text) := by
  rw [docText, inLine_ofList, List.forall_mem_flatMap]
  intro c member
  have plain := inLine_oneLine text c member
  split
  · exact inLine_chars _ rfl
  split
  · exact inLine_chars _ rfl
  · exact List.forall_mem_singleton.mpr plain

theorem inLine_quoted (text : String) : InLine (quoted text) := by
  rw [quoted, inLine_ofList]
  exact Json.inLine_quote text

theorem inLine_componentLine (entry : String × Component) : InLine (componentLine entry) := by
  have indent : InLine "    " := inLine_literal _ rfl
  have colon : InLine ": " := inLine_literal _ rfl
  have comma : InLine "," := inLine_literal _ rfl
  have value : InLine (PythonLiteral.text (componentEntry entry.2)) := by
    rw [PythonLiteral.text, inLine_ofList]
    exact PythonLiteral.inLine_render _
  exact (((indent.append (inLine_quoted entry.1)).append colon).append value).append comma

theorem inLine_componentLines (spec : Specification) :
    ∀ line ∈ componentLines spec, InLine line := by
  have entries : ∀ line ∈ (components spec).entries.map componentLine, InLine line := by
    intro line member
    obtain ⟨entry, _, rfl⟩ := List.mem_map.mp member
    exact inLine_componentLine entry
  have opening : ∀ line ∈ ["COMPONENTS = \x7b"], InLine line := by decide
  have closing : ∀ line ∈ ["\x7d"], InLine line := by decide
  unfold componentLines
  simp only
  split
  · decide
  · rw [List.forall_mem_append, List.forall_mem_append]
    exact ⟨⟨opening, entries⟩, closing⟩

theorem wordlike_methodName (operationId : String) : Identifier.Wordlike (methodName operationId) := by
  have name := Identifier.wordlike_clientMethod operationId
  have mark : Identifier.Wordlike "_" := by decide
  unfold methodName
  simp only
  split
  · exact name.append mark
  · exact name

theorem inLine_signature (route : Route) : InLine (signature route) := by
  have receiver : InLine "self" := by decide
  have separator : InLine ", " := by decide
  have arguments : InLine
      (String.join ("self" :: (arguments route).map fun name => ", " ++ name)) := by
    apply inLine_join
    refine List.forall_mem_cons.mpr ⟨receiver, ?_⟩
    intro text member
    obtain ⟨name, listed, rfl⟩ := List.mem_map.mp member
    obtain ⟨parameter, _, rfl⟩ := List.mem_map.mp listed
    exact separator.append (Identifier.wordlike_clientArgument parameter).inLine
  refine arguments.append ?_
  split
  · exact inLine_literal _ rfl
  · exact inLine_literal _ rfl

/-- The path that stands in for a summary is put on one line like the summary. -/
theorem inLine_doc (route : Route) : InLine (doc route) := by
  unfold doc
  cases route.summary with
  | none => exact inLine_docText _
  | some text =>
    rw [Option.map_some]
    simp only
    split
    · exact inLine_docText _
    · exact inLine_docText _

theorem inLine_substitution (parameter : String) : InLine (substitution parameter) := by
  have opening : InLine ".replace(" := inLine_literal _ rfl
  have between : InLine ", _segment(" := inLine_literal _ rfl
  have closing : InLine "))" := inLine_literal _ rfl
  exact (((opening.append (inLine_quoted _)).append between).append
    (Identifier.wordlike_clientArgument parameter).inLine).append closing

theorem inLine_method (route : Route) : ∀ line ∈ method route, InLine line := by
  have definition : InLine ("    def " ++ methodName route.operationId ++ "(" ++ signature route ++
      "):") := by
    have opening : InLine "    def " := inLine_literal _ rfl
    have bracket : InLine "(" := inLine_literal _ rfl
    have closing : InLine "):" := inLine_literal _ rfl
    exact (((opening.append (wordlike_methodName _).inLine).append bracket).append
      (inLine_signature route)).append closing
  have documentation : InLine ("        \"\"\"" ++ doc route ++ "\"\"\"") := by
    have opening : InLine "        \"\"\"" := inLine_literal _ rfl
    have closing : InLine "\"\"\"" := inLine_literal _ rfl
    exact (opening.append (inLine_doc route)).append closing
  have request : InLine ("        return self._request(" ++ quoted route.method.name ++ ", " ++
      quoted route.path ++ String.join (route.pathParameters.map substitution) ++
      (if route.hasBody then ", payload" else "") ++ ")") := by
    have opening : InLine "        return self._request(" := inLine_literal _ rfl
    have comma : InLine ", " := inLine_literal _ rfl
    have closing : InLine ")" := inLine_literal _ rfl
    have substituted : InLine (String.join (route.pathParameters.map substitution)) := by
      apply inLine_join
      intro text member
      obtain ⟨parameter, _, rfl⟩ := List.mem_map.mp member
      exact inLine_substitution parameter
    have payload : InLine (if route.hasBody then ", payload" else "") := by
      split
      · exact inLine_literal _ rfl
      · exact inLine_literal _ rfl
    have called := ((opening.append (inLine_quoted route.method.name)).append comma).append
      (inLine_quoted route.path)
    exact ((called.append substituted).append payload).append closing
  have empty : InLine "" := inLine_literal _ rfl
  rw [method, List.forall_mem_cons, List.forall_mem_cons, List.forall_mem_cons,
    List.forall_mem_singleton]
  exact ⟨empty, definition, documentation, request⟩

theorem inLine_lines (spec : Specification) (routes : List Route) :
    ∀ line ∈ lines spec routes, InLine line := by
  have notice : InLine ("# " ++ notice (docText spec.info.title) (docText spec.info.version)) := by
    have mark : InLine "# " := inLine_literal _ rfl
    exact mark.append (inLine_notice _ _ (inLine_docText _) (inLine_docText _))
  have summary : InLine ("\"\"\"Client for " ++ docText spec.info.title ++ " " ++
      docText spec.info.version ++ ".") := by
    have opening : InLine "\"\"\"Client for " := inLine_literal _ rfl
    have space : InLine " " := inLine_literal _ rfl
    have closing : InLine "." := inLine_literal _ rfl
    exact (((opening.append (inLine_docText _)).append space).append (inLine_docText _)).append
      closing
  have methods : ∀ line ∈ routes.flatMap method, InLine line :=
    List.forall_mem_flatMap.mpr fun route _ => inLine_method route
  rw [lines]
  simp only [List.forall_mem_append]
  exact ⟨⟨⟨⟨List.forall_mem_cons.mpr ⟨notice, List.forall_mem_singleton.mpr summary⟩,
    inLine_introduction⟩, inLine_componentLines spec⟩, inLine_support⟩, methods⟩

/-- How many lines there are for so many routes and components. -/
def lineCount (routes components : Nat) : Nat :=
  2 + introduction.length + (if components = 0 then 1 else components + 2) + support.length +
    4 * routes

theorem length_lines (spec : Specification) (routes : List Route) :
    (lines spec routes).length = lineCount routes.length (components spec).size := by
  have methods : (routes.flatMap method).length = 4 * routes.length := by
    induction routes with
    | nil => rfl
    | cons route rest ih =>
      rw [List.flatMap_cons, List.length_append, ih, List.length_cons]
      have one : (method route).length = 4 := rfl
      omega
  have literal : (componentLines spec).length =
      if (components spec).size = 0 then 1 else (components spec).size + 2 := by
    unfold componentLines Dict.size
    simp only
    cases (components spec).entries with
    | nil => rfl
    | cons entry rest => simp
  simp only [lines, List.length_append, List.length_cons, List.length_nil, methods, literal, lineCount]

/-! Documentation texts. -/

/-- What stands before the closing quotes of a documentation text, and what follows them. A backslash
takes the character behind it along. -/
def docstring? : List Char → Option (List Char × List Char)
  | '"' :: '"' :: '"' :: rest => some ([], rest)
  | '\\' :: c :: rest => (docstring? rest).map fun found => ('\\' :: c :: found.1, found.2)
  | c :: rest => (docstring? rest).map fun found => (c :: found.1, found.2)
  | [] => none

/-- The reader goes on behind the text as if it had started there. -/
def ReadsOn (text : List Char) : Prop :=
  ∀ rest, docstring? (text ++ rest) = (docstring? rest).map fun found => (text ++ found.1, found.2)

/-- The quotes that are put behind the text close it, and nothing inside does. -/
def ClosesBehind (text : String) : Prop :=
  ∀ rest, docstring? (text.toList ++ '"' :: '"' :: '"' :: rest) = some (text.toList, rest)

theorem closesBehind (text : String) (readsOn : ReadsOn text.toList) : ClosesBehind text := by
  intro rest
  rw [readsOn, docstring?, Option.map_some, List.append_nil]

theorem readsOn_nil : ReadsOn [] := by
  intro rest
  simp

theorem ReadsOn.append {first second : List Char} (left : ReadsOn first) (right : ReadsOn second) :
    ReadsOn (first ++ second) := by
  intro rest
  rw [List.append_assoc, left, right, Option.map_map]
  simp [Function.comp_def]

theorem readsOn_plain (c : Char) (quote : c ≠ '"') (backslash : c ≠ '\\') : ReadsOn [c] := by
  intro rest
  rw [List.singleton_append, docstring?]
  · rfl
  · intro more same
    exact absurd same quote
  · intro d more same
    exact absurd same backslash

theorem readsOn_backslash : ReadsOn ['\\', '\\'] := fun _ => rfl

/-- Text without quotes and backslashes means nothing to the reader. -/
theorem readsOn_of_plain (text : List Char)
    (plain : text.all (fun c => c != '"' && c != '\\') = true) : ReadsOn text := by
  induction text with
  | nil => exact readsOn_nil
  | cons c rest ih =>
    rw [List.all_cons, Bool.and_eq_true, Bool.and_eq_true, bne_iff_ne, bne_iff_ne] at plain
    exact (readsOn_plain c plain.1.1 plain.1.2).append (ih plain.2)

theorem readsOn_literal (cs : List Char)
    (plain : cs.all (fun c => c != '"' && c != '\\') = true) : ReadsOn (String.ofList cs).toList := by
  rw [String.toList_ofList]
  exact readsOn_of_plain cs plain

theorem readsOn_unlines (lines : List String) (readsOn : ∀ line ∈ lines, ReadsOn line.toList) :
    ReadsOn (unlines lines).toList := by
  rw [toList_unlines]
  induction lines with
  | nil => exact readsOn_nil
  | cons line rest ih =>
    rw [List.flatMap_cons]
    exact ((readsOn line List.mem_cons_self).append (readsOn_plain '\n' (by decide) (by decide))).append
      (ih fun other member => readsOn other (List.mem_cons_of_mem line member))

theorem readsOn_docText (text : String) : ReadsOn (docText text).toList := by
  rw [docText, String.toList_ofList]
  induction (oneLine text).toList with
  | nil => exact readsOn_nil
  | cons c rest ih =>
    rw [List.flatMap_cons]
    refine ReadsOn.append ?_ ih
    -- Backslashes come in twos, so that none is left to take a closing quote along.
    split
    · exact readsOn_backslash
    split
    · exact readsOn_plain '\'' (by decide) (by decide)
    · rename_i backslash quote
      exact readsOn_plain c quote backslash

theorem closesBehind_doc (route : Route) : ClosesBehind (doc route) := by
  apply closesBehind
  unfold doc
  cases route.summary with
  | none => exact readsOn_docText _
  | some text =>
    rw [Option.map_some]
    simp only
    split
    · exact readsOn_docText _
    · exact readsOn_docText _

/-- What the client says of itself as a whole. -/
def moduleText (info : Info) : String :=
  "Client for " ++ docText info.title ++ " " ++ docText info.version ++ ".\n" ++
    unlines (introduction.take 3)

theorem closesBehind_moduleText (info : Info) : ClosesBehind (moduleText info) := by
  have opening : ReadsOn "Client for ".toList := readsOn_literal _ rfl
  have space : ReadsOn " ".toList := readsOn_literal _ rfl
  have closing : ReadsOn ".\n".toList := readsOn_literal _ rfl
  have fixed : ReadsOn (unlines (introduction.take 3)).toList := by
    apply readsOn_unlines
    rw [introduction]
    simp only [List.take_succ_cons, List.take_zero]
    repeat refine List.forall_mem_cons.mpr ⟨readsOn_literal _ rfl, ?_⟩
    exact List.forall_mem_nil _
  apply closesBehind
  rw [moduleText, String.toList_append, String.toList_append, String.toList_append,
    String.toList_append, String.toList_append]
  exact ((((opening.append (readsOn_docText _)).append space).append (readsOn_docText _)).append
    closing).append fixed

theorem unlines_quoted (first title space version stop : String) (before behind : List String) :
    unlines ([first, "\"\"\"Client for " ++ title ++ space ++ version ++ stop] ++
        (before ++ "\"\"\"" :: behind)) =
      first ++ "\n\"\"\"" ++ ("Client for " ++ title ++ space ++ version ++ (stop ++ "\n") ++
        unlines before) ++ "\"\"\"" ++ ("\n" ++ unlines behind) := by
  apply String.toList_injective
  simp [toList_unlines]

/-- The module's text stands behind the quotes that open it in the second line. -/
theorem render_moduleText (spec : Specification) (routes : List Route) :
    ∃ rest, render spec routes = "# " ++ notice (docText spec.info.title) (docText spec.info.version) ++
      "\n\"\"\"" ++ moduleText spec.info ++ "\"\"\"" ++ rest := by
  have parts : lines spec routes =
      ["# " ++ notice (docText spec.info.title) (docText spec.info.version),
        "\"\"\"Client for " ++ docText spec.info.title ++ " " ++ docText spec.info.version ++ "."] ++
      (introduction.take 3 ++ "\"\"\"" :: (introduction.drop 4 ++ (componentLines spec ++ (support ++
        routes.flatMap method)))) := by
    simp only [lines, List.append_assoc]
    rfl
  rw [render, parts]
  exact ⟨_, unlines_quoted _ _ _ _ _ _ _⟩

end ScriptingClient
end ApiAssembly
