import ApiAssembly.Proofs.Component.Markers
import ApiAssembly.Proofs.Scan.Passing
import ApiAssembly.Proofs.Scan.Writing
/-! Schemas in which a default stands directly. The schema describes one property, called `value`, for
every literal but one that starts with a brace: this is read as the block of a property called
`default`. Both readings need the scanner to end the literal where the reader ends it. -/
namespace ApiAssembly
open Scan Text

/-! One entry in a block. -/

namespace Scan
variable (key : Key) (value : List Char)

def field : List Char := key.text ++ [':', ' '] ++ value

def braces (inside : List Char) : List Char := '\x7b' :: (inside ++ ['\x7d'])

theorem isTrim_braces (inside : List Char) : IsTrim (braces inside) :=
  ⟨⟨'\x7b', _, rfl, by decide⟩, ⟨'\x7b' :: inside, '\x7d', rfl, by decide⟩⟩

theorem keyValue?_trim (cs : List Char) : keyValue? (trim cs) = keyValue? cs := by
  rw [keyValue?, keyValue?, trim_trim]

theorem trim_field : trim (field key value) = key.text ++ ':' :: trimEnd (' ' :: value) := by
  rw [field, List.append_assoc]
  exact trim_of_start key.whole.trimmed.first ':' (' ' :: value) (by decide)

theorem keyValue?_field : keyValue? (field key value) = some (key.value, trim value) := by
  have entry := key.entry [] (' ' :: value) nofun
  have blank : trim (' ' :: value) = trim value :=
    trim_gap_append [' '] value (by simp [IsGap, isBlank])
  rw [blank] at entry
  rwa [field, List.append_assoc]

theorem bare_field : bare (field key value) = trim (field key value) := by
  apply bare_of_trim _ _ rfl
  rw [trim_field, List.head?_append_of_ne_nil _ key.whole.filled]
  exact key.whole.start

variable {value}

theorem IsPiece.field (piece : IsPiece value) : IsPiece (field key value) := by
  have colon : Balanced false [':', ' '] :=
    .plain (by decide) (by decide) (.plain (by decide) (by decide) .nil)
  exact piece.behind (.of_balanced (key.whole.balanced.append colon))

theorem IsPiece.braces (piece : IsPiece value) : IsPassed (braces value) := .of_block value piece.1

/-- The entry is the only one of its block. -/
theorem pieces?_field (piece : IsPiece value) :
    (pieces? (Scan.field key value)).map markersOf = some [(key.value, trim value)] := by
  have filled : trim (Scan.field key value) ≠ [] := by simp [trim_field]
  have entry : keyValue? (trim (Scan.field key value)) = some (key.value, trim value) := by
    rw [keyValue?_trim, keyValue?_field]
  rw [pieces?, (piece.field key).2]
  simp [markersOf, bare_field, filled, entry]

end Scan

/-! One default marker. -/

theorem Property.inferType?_isSome (value : Json) (filled : value ≠ .null) :
    ∃ type, inferType? value = some type := by
  cases value with
  | null => exact absurd rfl filled
  | _ => exact ⟨_, rfl⟩

theorem Property.ofMarkers_default (text : List Char) (value : Json) (type : String)
    (read : literal? text = some value) (inferred : inferType? value = some type) :
    ofMarkers [("default".toList, text)] = .ok ⟨type, some value, none, none, none⟩ := by
  have marked : marker? "default" [("default".toList, text)] = some text := by simp [marker?]
  have unmarked (key : String) (other : key ≠ "default") :
      marker? key [("default".toList, text)] = none := by
    apply marker?_eq_none
    rintro entry member same
    rw [List.mem_singleton.mp member, String.toList_inj] at same
    exact other same.symm
  rw [ofMarkers_ok_iff, readDefault_ok_iff, readType_untyped _ _ (unmarked "type" (by decide)),
    readBound_ok_iff, readBound_ok_iff, marked, unmarked "min" (by decide), unmarked "max" (by decide),
    readChoices, unmarked "oneOf" (by decide), unmarked "enum" (by decide)]
  exact ⟨congrArg some read, inferred, rfl, rfl, rfl⟩

theorem propertyBlocks_default (text : List Char) :
    propertyBlocks [("default".toList, text)] =
      if text.head? = some '\x7b' then .ok (PropertyBlocks.add {} ("default".toList, text))
      else (Property.ofMarkers [("default".toList, text)]).map fun property =>
        ⟨Dict.empty.insert "value" property, []⟩ := by
  unfold propertyBlocks isSingle
  by_cases opens : text.head? = some '\x7b'
  · simp [opens]
  · simp [opens]

/-! The registration of one default. -/

namespace Registration

def schemaKey : Key := .name "schema".toList ⟨by decide, List.all_eq_true.mp (by decide)⟩

def defaultKey : Key := .name "default".toList ⟨by decide, List.all_eq_true.mp (by decide)⟩

def schemaText (initial : List Char) : List Char := braces (field defaultKey initial)

/-- What stands behind the comma of the call. -/
def definition (initial : List Char) : List Char :=
  ' ' :: (braces (field schemaKey (schemaText initial)) ++ [')'])

theorem schemaProperties_schemaText (initial : List Char) (piece : IsPiece initial) :
    schemaProperties (schemaText initial) = propertyBlocks [("default".toList, trim initial)] := by
  have braced : braced? (schemaText initial) = some (field defaultKey initial) := by
    simp [schemaText, braces, braced?]
  obtain ⟨pieces, found, markers⟩ := Option.map_eq_some_iff.mp (pieces?_field defaultKey piece)
  rw [schemaProperties, braced]
  simp only [found, markers]
  rfl

theorem blocks_definition (name : String) (initial : List Char) (piece : IsPiece initial) :
    blocks ⟨name, definition initial⟩ = propertyBlocks [("default".toList, trim initial)] := by
  -- Where the default ends is settled inside of the schema; from there on only closed blocks matter.
  have schema : IsPiece (schemaText initial) := (piece.field defaultKey).braces.isPiece
  have trimmed : trim (schemaText initial) = schemaText initial := (isTrim_braces _).trim
  have closed : block? (braces (field schemaKey (schemaText initial)) ++ [')']) =
      some (field schemaKey (schemaText initial), [')']) :=
    block?_continued _ _ [] [')'] (schema.field schemaKey).1
  have start : trimStart (definition initial) = braces (field schemaKey (schemaText initial)) ++ [')'] :=
    trimStart_gap [' '] _ '\x7b' (by simp [IsGap, isBlank]) (by decide)
  obtain ⟨pieces, found, markers⟩ := Option.map_eq_some_iff.mp (pieces?_field schemaKey schema)
  have inside : definitionProperties (field schemaKey (schemaText initial)) =
      propertyBlocks [("default".toList, trim initial)] := by
    rw [definitionProperties, found]
    simp only [markers, trimmed]
    exact schemaProperties_schemaText initial piece
  rw [blocks, start]
  simp only [braces, List.cons_append] at closed ⊢
  simp only [closed, if_true, inside]

/-- Before the default there is no call, so those behind the first one are spelled in the default. -/
theorem all_definition (initial : List Char) :
    all (definition initial) = all (initial ++ ['\x7d', '\x7d', ')']) := by
  have parts : definition initial =
      " \x7bschema: \x7bdefault: ".toList ++ (initial ++ ['\x7d', '\x7d', ')']) := by
    simp [definition, schemaText, braces, field, schemaKey, defaultKey, Key.text]
  rw [parts, all_behind_passed _ _ (by decide)]

end Registration

namespace Extraction
variable (label : String) (classifier : Classifier) (call : Registration.Spelling)
  (initial : List Char)

/-- The text `registerComponent('n', {schema: {default: v}})`, with any spelling of the call. -/
def singleText : String := String.ofList (call.text ++ Registration.definition initial)

/-- What a component with these properties gives. -/
def ofBlocks (name : String) (blocks : PropertyBlocks) : Extraction :=
  ⟨[⟨name, classifier.classify name, blocks.properties⟩],
    blocks.faults.map (propertyWarning label name)⟩

/-- The call registers the component with these properties. What else is extracted comes from calls that
are spelled in the default itself, and when there are none the component is all. -/
structure Registers (blocks : PropertyBlocks) : Prop where
  first : ofText label classifier (singleText call initial) =
    (ofBlocks label classifier (String.ofList call.name) blocks).append
      (ofText label classifier (String.ofList (initial ++ ['\x7d', '\x7d', ')'])))
  alone : Registration.all initial = [] → ofText label classifier (singleText call initial) =
    ofBlocks label classifier (String.ofList call.name) blocks

theorem registers_of_blocks (blocks : PropertyBlocks)
    (read : Registration.blocks ⟨String.ofList call.name, Registration.definition initial⟩ =
      .ok blocks) : Registers label classifier call initial blocks := by
  have own : ofCall label classifier ⟨String.ofList call.name, Registration.definition initial⟩ =
      ofBlocks label classifier (String.ofList call.name) blocks := by
    rw [ofCall, read]
    rfl
  have first : ofText label classifier (singleText call initial) =
      (ofBlocks label classifier (String.ofList call.name) blocks).append
        (ofText label classifier (String.ofList (initial ++ ['\x7d', '\x7d', ')']))) := by
    have starts := Registration.ofStart?_text call (Registration.definition initial)
    rw [ofText_eq, ofText_eq, singleText, String.toList_ofList, String.toList_ofList,
      Registration.all_of_starts _ _ starts, Registration.all_definition, List.map_cons, own]
    rfl
  refine ⟨first, ?_⟩
  intro none
  have nothing := Registration.all_before_plain initial ['\x7d', '\x7d', ')'] none (by decide)
  rw [first, ofText_eq, String.toList_ofList, nothing]
  simp [append, join]

/-- A default that stands directly in a schema makes the schema that of one property called `value`, with
this default and without a warning, unless it starts with a brace: then it is taken for the block of a
property called `default`. Both hold of every literal that is one piece of the text, which a literal is
whose comments and strings scanner and reader see alike. -/
theorem single_property_of_default (value : Json) (read : literal? initial = some value)
    (filled : value ≠ .null) :
    (SeenAlike initial → IsPiece initial) ∧
    (IsPiece initial → (trim initial).head? ≠ some '\x7b' →
      ∃ type, Property.inferType? value = some type ∧ Registers label classifier call initial
        ⟨Dict.empty.insert "value" ⟨type, some value, none, none, none⟩, []⟩) ∧
    (IsPiece initial → (trim initial).head? = some '\x7b' →
      Registers label classifier call initial
        (PropertyBlocks.add {} ("default".toList, trim initial))) := by
  refine ⟨fun alike => (alike.isPassed value read).isPiece, ?_, ?_⟩
  · intro piece other
    obtain ⟨type, inferred⟩ := Property.inferType?_isSome value filled
    refine ⟨type, inferred, registers_of_blocks label classifier call initial _ ?_⟩
    -- The marker's text has lost the blanks around it, but no comment.
    have marker : literal? (trim initial) = some value :=
      (literal?_congr _ _ (bare_congr _ _ (trim_trim initial))).trans read
    rw [Registration.blocks_definition _ initial piece, propertyBlocks_default, if_neg other,
      Property.ofMarkers_default _ value type marker inferred]
    rfl
  · intro piece opens
    apply registers_of_blocks
    rw [Registration.blocks_definition _ initial piece, propertyBlocks_default, if_pos opens]

def plainCall : Registration.Spelling where
  beforeParenthesis := []
  beforeName := []
  opening := '\''
  name := ['n']
  closing := '\''
  beforeComma := []
  blank := by simp
  quoted := ⟨rfl, rfl⟩
  filled := List.cons_ne_nil _ _
  plain := by simp [Registration.isNameChar]

/-- A color with a comment in front of it, which stays a part of the default's text. -/
theorem single_property_of_color :
    let initial := "/* red */ '#f00'".toList
    literal? initial = some (.str "#f00") ∧ SeenAlike initial ∧
    singleText plainCall initial =
      "registerComponent('n', \x7bschema: \x7bdefault: /* red */ '#f00'\x7d\x7d)" ∧
    ofText "lib.js" .builtin (singleText plainCall initial) = ⟨[⟨"n", "misc",
      Dict.empty.insert "value" ⟨"color", some (.str "#f00"), none, none, none⟩⟩], []⟩ := by
  intro initial
  have read : literal? initial = some (.str "#f00") := by decide +kernel
  have bared : bare initial = "'#f00'".toList := by decide +kernel
  have comment : Filler IsComment "/* red */ ".toList :=
    .comment _ [' '] (isComment_block " red */".toList (by decide +kernel))
      (.of_gap (by simp [IsGap, isBlank]))
  have seen : SeenAlike initial := by
    refine ⟨⟨"/* red */ ".toList, [], by rw [bared]; decide, comment, by simp [IsGap]⟩, ?_⟩
    rw [bared]
    exact fun _ _ => ⟨'\'', "#f00'".toList, rfl, rfl, rfl⟩
  obtain ⟨alike, single, _⟩ :=
    single_property_of_default "lib.js" .builtin plainCall initial (.str "#f00") read (by decide)
  obtain ⟨type, inferred, registers⟩ := single (alike seen) (by decide +kernel)
  cases inferred
  exact ⟨read, seen, by decide +kernel, registers.alone (by decide +kernel)⟩

/-- An object is taken for the block of a property called `default`, which has no marker. -/
theorem single_property_of_object :
    let initial := "\x7bx: 1, y: 2\x7d".toList
    literal? initial = some (.obj [("x", .num (.int 1)), ("y", .num (.int 2))]) ∧ SeenAlike initial ∧
    singleText plainCall initial =
      "registerComponent('n', \x7bschema: \x7bdefault: \x7bx: 1, y: 2\x7d\x7d\x7d)" ∧
    (ofText "lib.js" .builtin (singleText plainCall initial)).components =
      [⟨"n", "misc", Dict.empty⟩] ∧
    (ofText "lib.js" .builtin (singleText plainCall initial)).warnings =
      ["lib.js: skipped property 'n.default': neither type nor default marker"] := by
  intro initial
  have read : literal? initial = some (.obj [("x", .num (.int 1)), ("y", .num (.int 2))]) := by
    decide +kernel
  have bared : bare initial = initial := by decide +kernel
  refine ⟨read, ⟨⟨[], [], ?_, .nil, by simp [IsGap]⟩, ?_⟩, by decide +kernel, by decide +kernel,
    by decide +kernel⟩
  · rw [bared]
    rfl
  · intro content same
    rw [read] at same
    cases same

end Extraction
end ApiAssembly
