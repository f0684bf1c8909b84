import ApiAssembly.Proofs.Artifact.ClientLines
import ApiAssembly.Proofs.Dict.Lookup
import ApiAssembly.Proofs.Json.Quoted
import ApiAssembly.Proofs.Merge.SchemaNames
import ApiAssembly.Proofs.Text.Pieces
import Mathlib.Data.List.TakeWhile
/-! The components of the scripting client, read from its text. Shared schemas have names of their own
in a specification, but the literal knows components by the names they give themselves. So of
components with one name only the last is there, and the others are lost unless they are written
alike. -/
namespace ApiAssembly.ScriptingClient
open Text

def literalOpening : String := "COMPONENTS = \x7b"

/-- The lines of a text between the one that opens the literal and the one that closes it. -/
def literalLines (text : String) : List String :=
  (((linesOf text).dropWhile fun line => line != literalOpening).drop 1).takeWhile fun line =>
    line != "\x7d"

/-- A line of the literal has the component under its own name, with its category and properties. -/
def IsListed (text : String) (component : Component) : Prop :=
  componentLine (component.name, component) ∈ literalLines text

/-- The components of a specification, under whatever name it keeps their schemas. -/
def recognised (spec : Specification) : List Component :=
  spec.components.values.filterMap Component.ofSchema?

/-! The literal in the text. -/

theorem ne_literalOpening_of_mem_introduction :
    ∀ line ∈ introduction, (line != literalOpening) = true := by
  decide

theorem ne_literalOpening_of_mem_support :
    ∀ line ∈ support, (line != literalOpening) = true := by
  decide +kernel

theorem ne_literalOpening_of_mem_method (route : Route) :
    ∀ line ∈ method route, (line != literalOpening) = true := by
  rw [method, List.forall_mem_cons, List.forall_mem_cons, List.forall_mem_cons,
    List.forall_mem_singleton]
  refine ⟨by decide, ?_, ?_, ?_⟩
  · exact bne_of_head? _ _ (by simp [String.toList_append, literalOpening])
  · exact bne_of_head? _ _ (by simp [String.toList_append, literalOpening])
  · exact bne_of_head? _ _ (by simp [String.toList_append, literalOpening])

theorem componentLine_ne_closing (entry : String × Component) :
    (componentLine entry != "\x7d") = true := by
  apply bne_of_head?
  simp [componentLine, String.toList_append]

theorem literalLines_render (spec : Specification) (routes : List Route) :
    literalLines (render spec routes) = (components spec).entries.map componentLine := by
  let title := docText spec.info.title
  let version := docText spec.info.version
  let before := ["# " ++ notice title version, "\"\"\"Client for " ++ title ++ " " ++ version ++ "."] ++
    introduction
  let behind := support ++ routes.flatMap method
  have parts : lines spec routes = before ++ (componentLines spec ++ behind) := by
    simp only [lines, before, behind, title, version, List.append_assoc]
  have fixed : ∀ line ∈ before, (line != literalOpening) = true := by
    refine List.forall_mem_append.mpr ⟨?_, ne_literalOpening_of_mem_introduction⟩
    refine List.forall_mem_cons.mpr ⟨?_, List.forall_mem_singleton.mpr ?_⟩
    · exact bne_of_head? _ _ (by simp [String.toList_append, literalOpening])
    · exact bne_of_head? _ _ (by simp [String.toList_append, literalOpening])
  have later : ∀ line ∈ behind, (line != literalOpening) = true :=
    List.forall_mem_append.mpr ⟨ne_literalOpening_of_mem_support,
      List.forall_mem_flatMap.mpr fun route _ => ne_literalOpening_of_mem_method route⟩
  have entries : ∀ line ∈ (components spec).entries.map componentLine, (line != "\x7d") = true := by
    intro line member
    obtain ⟨entry, _, rfl⟩ := List.mem_map.mp member
    exact componentLine_ne_closing entry
  rw [literalLines, render, linesOf_unlines _ (inLine_lines spec routes), parts,
    List.dropWhile_append_of_pos fixed, componentLines]
  cases held : (components spec).entries with
  | nil =>
    -- The empty literal is closed on the line that opens it, and no other line opens one.
    have empty : ∀ line ∈ ["COMPONENTS = \x7b\x7d"] ++ behind, (line != literalOpening) = true :=
      List.forall_mem_append.mpr ⟨by decide, later⟩
    simp only [List.isEmpty_nil, if_true]
    rw [List.dropWhile_eq_nil_iff.mpr empty]
    rfl
  | cons entry rest =>
    rw [held] at entries
    simp only [List.isEmpty_cons, Bool.false_eq_true, if_false]
    rw [List.append_assoc, List.append_assoc, List.singleton_append,
      List.dropWhile_cons_of_neg (by decide), List.drop_one, List.tail_cons,
      List.takeWhile_append_of_pos entries, List.singleton_append,
      List.takeWhile_cons_of_neg (by decide), List.append_nil]

/-! One line a name. -/

theorem componentLine_inj {left right : String × Component}
    (same : componentLine left = componentLine right) :
    left.1 = right.1 ∧
      PythonLiteral.text (componentEntry left.2) = PythonLiteral.text (componentEntry right.2) := by
  have spelled (entry : String × Component) : (componentLine entry).toList =
      "    ".toList ++ (Json.quote entry.1 ++
        (": ".toList ++ ((PythonLiteral.text (componentEntry entry.2)).toList ++ ",".toList))) := by
    simp only [componentLine, String.toList_append, String.toList_ofList, List.append_assoc]
  have texts := congrArg String.toList same
  rw [spelled, spelled] at texts
  obtain ⟨names, rest⟩ := Json.quote_append_inj (List.append_cancel_left texts)
  have values := List.append_cancel_right (List.append_cancel_left rest)
  exact ⟨names, String.toList_injective values⟩

theorem find?_components (spec : Specification) (name : String) (held : Component)
    (found : (components spec).find? name = some held) :
    held ∈ recognised spec ∧ held.name = name := by
  rw [components, Dict.find?_ofList] at found
  have member := List.mem_reverse.mp (Entries.mem_of_find? name held _ found)
  obtain ⟨component, listed, same⟩ := List.mem_map.mp member
  cases same
  exact ⟨listed, rfl⟩

theorem exists_component (spec : Specification) (component : Component)
    (listed : component ∈ recognised spec) :
    ∃ held, (components spec).find? component.name = some held := by
  rw [← Option.isSome_iff_exists, ← Dict.mem_keys_iff, components, Dict.mem_keys_ofList,
    List.map_map]
  exact List.mem_map_of_mem (f := fun component => component.name) listed

theorem isListed_iff (spec : Specification) (routes : List Route) (component : Component) :
    IsListed (render spec routes) component ↔
      ∃ held, (components spec).find? component.name = some held ∧
        PythonLiteral.text (componentEntry held) =
          PythonLiteral.text (componentEntry component) := by
  rw [IsListed, literalLines_render, List.mem_map]
  constructor
  · rintro ⟨⟨name, held⟩, member, same⟩
    obtain ⟨names, values⟩ := componentLine_inj same
    cases names
    exact ⟨held, Entries.find?_of_mem _ _ _ (components spec).keys_nodup member, values⟩
  · rintro ⟨held, found, values⟩
    refine ⟨(component.name, held), Entries.mem_of_find? _ _ _ found, ?_⟩
    rw [componentLine, componentLine, values]

/-- Every component of a specification is in the literal of the client exactly when components with
one name are written alike. -/
theorem components_listed_iff (spec : Specification) (routes : List Route) :
    (∀ component ∈ recognised spec, IsListed (render spec routes) component) ↔
      ∀ first ∈ recognised spec, ∀ second ∈ recognised spec, first.name = second.name →
        PythonLiteral.text (componentEntry first) = PythonLiteral.text (componentEntry second) := by
  constructor
  · intro listed first firstMember second secondMember names
    obtain ⟨held, found, firstAlike⟩ := (isListed_iff spec routes first).mp (listed first firstMember)
    obtain ⟨other, again, secondAlike⟩ :=
      (isListed_iff spec routes second).mp (listed second secondMember)
    rw [← names, found] at again
    cases again
    exact firstAlike.symm.trans secondAlike
  · intro alike component member
    -- The one line of the name was made of some component of that name.
    obtain ⟨held, found⟩ := exists_component spec component member
    obtain ⟨heldMember, named⟩ := find?_components spec _ held found
    exact (isListed_iff spec routes component).mpr
      ⟨held, found, alike held heldMember component member named⟩

/-- A schema of a library and one that is written by hand call themselves `lamp`. The specification has
both under names of their own, and the literal has the later one only. -/
theorem component_unlisted :
    let lamp (category : String) : Component := ⟨"lamp", category, Dict.empty⟩
    let library := Merge.schemaFragment "components" [("lamp", (lamp "light").toSchema)]
    let core := Merge.schemaFragment "core" [("lamp", (lamp "custom").toSchema)]
    let spec := (Merge.ofFragments .lastWriterWins [library, core]).specification
    ([library, core].map Fragment.name).Nodup ∧
    spec.components.keys = ["components_lamp", "core_lamp"] ∧
    recognised spec = [lamp "light", lamp "custom"] ∧
    literalLines (render spec []) =
      ["    \"lamp\": \x7b\"category\": \"custom\", \"properties\": \x7b\x7d\x7d,"] ∧
    ¬ IsListed (render spec []) (lamp "light") := by
  intro lamp library core spec
  have line : literalLines (render spec []) =
      ["    \"lamp\": \x7b\"category\": \"custom\", \"properties\": \x7b\x7d\x7d,"] := by
    rw [literalLines_render]
    decide +kernel
  refine ⟨by decide, by decide +kernel, by decide +kernel, line, ?_⟩
  rw [IsListed, line]
  decide +kernel

end ApiAssembly.ScriptingClient
