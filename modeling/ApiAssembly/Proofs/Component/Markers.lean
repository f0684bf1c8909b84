import ApiAssembly.Proofs.Component.Locality
/-! What properties are read from. Each part of a property comes from one marker of its block, and all
properties of an extracted component are read in this way, whether their markers stand in a block of
their own or directly in the schema. -/
namespace ApiAssembly
open Scan

theorem bind_ok_iff {ε α β : Type} (first : Except ε α) (next : α → Except ε β) (value : β) :
    first.bind next = .ok value ↔ ∃ given, first = .ok given ∧ next given = .ok value := by
  cases first with
  | error fault => simp [Except.bind]
  | ok given => simp [Except.bind]

namespace Property
variable (markers : Markers)

/-! One marker. A marker that is there must be readable. -/

theorem readDefault_ok_iff (initial : Option Json) :
    readDefault markers = .ok initial ↔
      (marker? "default" markers).map literal? = initial.map some := by
  unfold readDefault
  cases marker? "default" markers with
  | none => cases initial <;> simp
  | some text => cases found : literal? text <;> cases initial <;> simp [found]

theorem readBound_ok_iff (key : String) (bound : Option Decimal) :
    readBound key markers = .ok bound ↔
      (marker? key markers).map (fun text => (literal? text).bind Json.real?) = bound.map some := by
  unfold readBound
  cases marker? key markers with
  | none => cases bound <;> simp
  | some text => cases found : (literal? text).bind Json.real? <;> cases bound <;> simp [found]

/-- Without a type marker the initial value decides. -/
theorem readType_untyped (initial : Option Json) (untyped : marker? "type" markers = none)
    (type : String) :
    readType markers initial = .ok type ↔ initial.bind inferType? = some type := by
  rw [readType, untyped]
  cases initial.bind inferType? <;> simp

theorem marker?_eq_none (key : String) (absent : ∀ entry ∈ markers, entry.1 ≠ key.toList) :
    marker? key markers = none := by
  rw [marker?, Option.map_eq_none_iff, List.findRev?_eq_find?_reverse, List.find?_eq_none]
  intro entry member
  simpa using absent entry (List.mem_reverse.mp member)

/-! All of them. -/

theorem ofMarkers_ok_iff (property : Property) :
    ofMarkers markers = .ok property ↔
      readDefault markers = .ok property.initial ∧
      readType markers property.initial = .ok property.type ∧
      readChoices markers = .ok property.choices ∧
      readBound "min" markers = .ok property.least ∧
      readBound "max" markers = .ok property.greatest := by
  have steps : ofMarkers markers = (readDefault markers).bind fun initial =>
      (readType markers initial).bind fun type => (readChoices markers).bind fun choices =>
        (readBound "min" markers).bind fun least => (readBound "max" markers).bind fun greatest =>
          .ok ⟨type, initial, least, greatest, choices⟩ := rfl
  rw [steps]
  simp only [bind_ok_iff, Except.ok.injEq]
  constructor
  · rintro ⟨initial, first, type, second, choices, third, least, fourth, greatest, fifth, rfl⟩
    exact ⟨first, second, third, fourth, fifth⟩
  · rintro ⟨first, second, third, fourth, fifth⟩
    exact ⟨_, first, _, second, _, third, _, fourth, _, fifth, rfl⟩

/-- The markers of a text, when it is a block. -/
def blockMarkers? (block : List Char) : Option Markers :=
  (braced? block).bind fun inside => (pieces? inside).map markersOf

theorem ofBlock_ok_iff (block : List Char) (property : Property) :
    ofBlock block = .ok property ↔
      ∃ markers, blockMarkers? block = some markers ∧ ofMarkers markers = .ok property := by
  unfold ofBlock blockMarkers?
  cases braced? block with
  | none => simp
  | some inside =>
    cases found : pieces? inside with
    | none => simp [found]
    | some pieces => simp [found]

end Property

/-! Where the properties of a component come from. -/

/-- Each property was read from markers. -/
def AreRead (properties : Dict String Property) : Prop :=
  ∀ entry ∈ properties.entries, ∃ markers, Property.ofMarkers markers = .ok entry.2

theorem areRead_empty : AreRead Dict.empty := nofun

theorem AreRead.insert {properties : Dict String Property} (read : AreRead properties) (name : String)
    (property : Property) (markers : Markers) (accepted : Property.ofMarkers markers = .ok property) :
    AreRead (properties.insert name property) := by
  intro entry member
  rcases Entries.mem_insert name property properties.entries entry member with rfl | earlier
  · exact ⟨markers, accepted⟩
  · exact read entry earlier

theorem areRead_add (blocks : PropertyBlocks) (entry : List Char × List Char)
    (read : AreRead blocks.properties) : AreRead (blocks.add entry).properties := by
  unfold PropertyBlocks.add
  cases accepted : Property.ofBlock entry.2 with
  | error fault => exact read
  | ok property =>
    obtain ⟨markers, _, given⟩ := (Property.ofBlock_ok_iff entry.2 property).mp accepted
    exact read.insert _ property markers given

theorem areRead_foldl (entries : Markers) (blocks : PropertyBlocks)
    (read : AreRead blocks.properties) :
    AreRead (entries.foldl PropertyBlocks.add blocks).properties := by
  induction entries generalizing blocks with
  | nil => exact read
  | cons entry rest ih => exact ih (blocks.add entry) (areRead_add blocks entry read)

theorem areRead_propertyBlocks (entries : Markers) (blocks : PropertyBlocks)
    (found : propertyBlocks entries = .ok blocks) : AreRead blocks.properties := by
  unfold propertyBlocks at found
  split at found
  · cases accepted : Property.ofMarkers entries with
    | error fault =>
      rw [accepted] at found
      cases found
    | ok property =>
      rw [accepted] at found
      cases found
      exact areRead_empty.insert "value" property entries accepted
  · cases found
    exact areRead_foldl entries {} areRead_empty

theorem areRead_schemaProperties (block : List Char) (blocks : PropertyBlocks)
    (found : schemaProperties block = .ok blocks) : AreRead blocks.properties := by
  unfold schemaProperties at found
  split at found
  · cases found
  · split at found
    · cases found
    · exact areRead_propertyBlocks _ blocks found

theorem areRead_blocks (call : Registration) (blocks : PropertyBlocks)
    (found : call.blocks = .ok blocks) : AreRead blocks.properties := by
  have definition (inside : List Char) (found : definitionProperties inside = .ok blocks) :
      AreRead blocks.properties := by
    unfold definitionProperties at found
    split at found
    · cases found
    · split at found
      · cases found
        exact areRead_empty
      · split at found
        · exact areRead_schemaProperties _ blocks found
        · cases found
  unfold Registration.blocks at found
  split at found
  · cases found
  · split at found
    · split at found
      · cases found
      · exact definition _ found
    · cases found

namespace Extraction

theorem component_of_mem (label : String) (classifier : Classifier) (text : String)
    (component : Component) (member : component ∈ (ofText label classifier text).components) :
    ∃ call blocks, Registration.blocks call = .ok blocks ∧
      component = ⟨call.name, classifier.classify call.name, blocks.properties⟩ := by
  rw [ofText_eq] at member
  obtain ⟨part, among, held⟩ := List.mem_flatMap.mp member
  obtain ⟨call, _, rfl⟩ := List.mem_map.mp among
  cases outcome : call.blocks with
  | error fault =>
    rw [ofCall, outcome] at held
    cases held
  | ok blocks =>
    rw [ofCall, outcome] at held
    exact ⟨call, blocks, outcome, List.mem_singleton.mp held⟩

theorem areRead_of_mem (label : String) (classifier : Classifier) (text : String)
    (component : Component) (member : component ∈ (ofText label classifier text).components) :
    AreRead component.properties := by
  obtain ⟨call, blocks, found, rfl⟩ := component_of_mem label classifier text component member
  exact areRead_blocks call blocks found

end Extraction
end ApiAssembly
