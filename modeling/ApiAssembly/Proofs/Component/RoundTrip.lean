import ApiAssembly.Proofs.Component.Markers
import ApiAssembly.Proofs.Component.Schema
import ApiAssembly.Proofs.Decimal.Range
import ApiAssembly.Proofs.Scan.Reading
/-! Components and their schemas. A schema keeps all of a component, and what a schema says of a property
is kept when the property is written again. Bounds are decimals, so none of them is beyond all numbers;
those that were read from a text are floating point numbers of 64 bits, which a schema can hold. -/
namespace ApiAssembly
open Scan

/-! Numbers of a text. -/

theorem Scan.isFinite_number (text : List Char) (value : Number) (read : number? text = some value) :
    value.toReal.IsFinite := by
  have fraction (found : (Decimal.read? text).map Number.real = some value) :
      value.toReal.IsFinite := by
    obtain ⟨decimal, given, rfl⟩ := Option.map_eq_some_iff.mp found
    obtain ⟨parts, _, rounded⟩ := Option.bind_eq_some_iff.mp given
    exact .of_rounded rounded
  unfold number? at read
  split at read
  · rename_i whole _
    split at read
    · rename_i fits
      cases read
      exact Decimal.isFinite_ofInt whole (by omega)
    · exact fraction read
  · exact fraction read

theorem Scan.number_of_literal (text : List Char) (value : Number)
    (read : literal? text = some (.num value)) : number? (bare text) = some value := by
  obtain ⟨list, object⟩ := not_block_of_read text rfl read ⟨nofun, nofun⟩
  rw [literal?_scalar text rfl list object] at read
  rcases scalar?_cases _ _ read with ⟨_, named⟩ | ⟨inner, _, same⟩ | ⟨number, found, same⟩
  · simp at named
  · cases same
  · cases same
    exact found

namespace Property

theorem isFinite_readBound (key : String) (markers : Markers) (bound : Decimal)
    (read : readBound key markers = .ok (some bound)) : bound.IsFinite := by
  obtain ⟨text, _, numeric⟩ := Option.map_eq_some_iff.mp ((readBound_ok_iff markers key _).mp read)
  obtain ⟨literal, found, real⟩ := Option.bind_eq_some_iff.mp numeric
  cases literal with
  | num value =>
    cases real
    exact isFinite_number _ value (number_of_literal text value found)
  | _ => cases real

def bounds (property : Property) : List Decimal :=
  property.least.toList ++ property.greatest.toList

theorem isFinite_bounds (markers : Markers) (property : Property)
    (accepted : ofMarkers markers = .ok property) : ∀ bound ∈ property.bounds, bound.IsFinite := by
  obtain ⟨_, _, _, least, greatest⟩ := (ofMarkers_ok_iff markers property).mp accepted
  intro bound member
  rcases List.mem_append.mp member with lower | upper
  · rw [Option.mem_toList.mp lower] at least
    exact isFinite_readBound "min" markers bound least
  · rw [Option.mem_toList.mp upper] at greatest
    exact isFinite_readBound "max" markers bound greatest

end Property

namespace Component

def HasFiniteBounds (component : Component) : Prop :=
  ∀ entry ∈ component.properties.entries, ∀ bound ∈ entry.2.bounds, bound.IsFinite

/-- Every component is read back from its schema. A property that any value describes is read back from
the schema written for it, and all bounds of the components of a text are finite. -/
theorem schema_round_trip :
    (∀ component : Component, ofSchema? component.toSchema = some component) ∧
    (∀ (schema : Json) (property : Property), Property.ofSchema? schema = some property →
      Property.ofSchema? property.toSchema = some property) ∧
    (∀ (label : String) (classifier : Classifier) (text : String),
      ∀ component ∈ (Extraction.ofText label classifier text).components,
        component.HasFiniteBounds) := by
  refine ⟨ofSchema?_toSchema, fun _ property _ => property.ofSchema?_toSchema, ?_⟩
  intro label classifier text component member entry held
  obtain ⟨markers, accepted⟩ :=
    Extraction.areRead_of_mem label classifier text component member entry held
  exact Property.isFinite_bounds markers entry.2 accepted

def dimmerText : String :=
  "registerComponent('dimmer', \x7bschema: \x7blevel: \x7bdefault: .5, min: -0, max: 1e3\x7d\x7d\x7d)"

def dimmer : Component := ⟨"dimmer", "misc", Dict.ofList [("level", ⟨"number",
  some (.num (.real (Decimal.ofScientific false 5 (-1)))), some (Decimal.ofInt 0),
  some (Decimal.ofScientific false 1 3), none⟩)]⟩

/-- Without the mark of the property type its JSON type is taken, and a bound that is no number is
none. -/
theorem schema_round_trip_dimmer :
    let schema : Json := .obj [("default", .null), ("maximum", .str "many"), ("minimum", .num (.int 1)),
      ("type", .str "array")]
    let property : Property := ⟨"array", some .null, some (Decimal.ofInt 1), none, none⟩
    Property.ofSchema? schema = some property ∧ Property.ofSchema? property.toSchema = some property ∧
    dimmer ∈ (Extraction.ofText "lib.js" .builtin dimmerText).components ∧ dimmer.HasFiniteBounds := by
  intro schema property
  have described : Property.ofSchema? schema = some property := by decide +kernel
  have extracted : dimmer ∈ (Extraction.ofText "lib.js" .builtin dimmerText).components := by
    decide +kernel
  obtain ⟨_, properties, finite⟩ := schema_round_trip
  exact ⟨described, properties schema property described, extracted,
    finite "lib.js" .builtin dimmerText dimmer extracted⟩

end Component
end ApiAssembly
