import ApiAssembly.Proofs.Component.Markers
import ApiAssembly.Proofs.Component.Schema
import ApiAssembly.Proofs.Scan.Reading
/-! Types of properties that name none. The type is inferred from the initial value, and the schema that
is written for it always has the JSON type of that value. Objects are told for vectors by their
number of fields and by some names: two axes are looked at for a pair of numbers, but only the last
one for three and four, and the values are not looked at. -/
namespace ApiAssembly
open Scan

/-! What a schema asks of a value. -/

def Json.typeName : Json → String
  | .null => "null"
  | .bool _ => "boolean"
  | .num _ => "number"
  | .str _ => "string"
  | .arr _ => "array"
  | .obj _ => "object"

/-- The value has the JSON type of the schema. -/
def HasType (schema value : Json) : Prop := schema.get? "type" = some (.str value.typeName)

/-- Where a schema lists axes, the fields of the value are these axes, and each holds a number. -/
def HasAxes (schema value : Json) : Prop :=
  ∀ axes, schema.getObj? "properties" = some axes → ∃ fields, value = .obj fields ∧
    (∀ name, name ∈ fields.map Prod.fst ↔ name ∈ axes.map Prod.fst) ∧
    ∀ field ∈ fields, field.2.typeName = "number"

/-! Vectors. -/

/-- A property type with axes, and those among them that inference looks for. -/
structure VectorType where
  name : String
  axes : List String
  told : List String
deriving DecidableEq

def vec2 : VectorType := ⟨"vec2", ["x", "y"], ["x", "y"]⟩

def vec3 : VectorType := ⟨"vec3", ["x", "y", "z"], ["z"]⟩

def vec4 : VectorType := ⟨"vec4", ["w", "x", "y", "z"], ["w"]⟩

def vectorTypes : List VectorType := [vec2, vec3, vec4]

namespace VectorType

/-- An object is taken for a vector by the number of its fields and the names that are looked for. -/
def TakenFor (vector : VectorType) (fields : List (String × Json)) : Prop :=
  fields.length = vector.axes.length ∧ vector.told ⊆ fields.map Prod.fst

theorem eq_of_takenFor (vector other : VectorType) (fields : List (String × Json))
    (among : vector ∈ vectorTypes) (alsoAmong : other ∈ vectorTypes)
    (taken : vector.TakenFor fields) (alsoTaken : other.TakenFor fields) : vector = other := by
  have apart : ∀ vector ∈ vectorTypes, ∀ other ∈ vectorTypes,
      vector.axes.length = other.axes.length → vector = other := by decide
  exact apart vector among other alsoAmong (taken.1.symm.trans alsoTaken.1)

/-- At most one vector has as many axes as there are fields, so the order of tests does not matter. -/
theorem inferType?_obj (fields : List (String × Json)) :
    (∃ vector ∈ vectorTypes, vector.TakenFor fields ∧
      Property.inferType? (.obj fields) = some vector.name) ∨
    (∀ vector ∈ vectorTypes, ¬ vector.TakenFor fields) ∧
      Property.inferType? (.obj fields) = some "object" := by
  have present (axis : String) : Entries.contains axis fields = true ↔ axis ∈ fields.map Prod.fst :=
    Entries.find?_isSome_iff axis fields
  have two : (fields.length = 2 ∧ Entries.contains "x" fields ∧ Entries.contains "y" fields) ↔
      vec2.TakenFor fields := by
    rw [present, present]
    simp [TakenFor, vec2]
  have three : (fields.length = 3 ∧ Entries.contains "z" fields) ↔ vec3.TakenFor fields := by
    rw [present]
    simp [TakenFor, vec3]
  have four : (fields.length = 4 ∧ Entries.contains "w" fields) ↔ vec4.TakenFor fields := by
    rw [present]
    simp [TakenFor, vec4]
  unfold Property.inferType?
  dsimp only
  split
  · exact .inl ⟨vec2, by decide, two.mp ‹_›, rfl⟩
  split
  · exact .inl ⟨vec3, by decide, three.mp ‹_›, rfl⟩
  split
  · exact .inl ⟨vec4, by decide, four.mp ‹_›, rfl⟩
  · refine .inr ⟨?_, rfl⟩
    simp only [vectorTypes, List.forall_mem_cons]
    exact ⟨mt two.mpr ‹_›, mt three.mpr ‹_›, mt four.mpr ‹_›, nofun⟩

end VectorType

/-! The schema of an inferred type. -/

namespace Property

theorem toSchema_typeField (property : Property) (type name : String) (typed : property.type = type)
    (among : name ∈ ["format", "properties", "type"]) :
    property.toSchema.get? name = Entries.find? name (typeFields type).reverse := by
  rw [property.toSchema_get?_typeField name among, typed]

/-- The property types without axes that are inferred, and their JSON types. -/
theorem typeFields_plain : ∀ names ∈ [("boolean", "boolean"), ("number", "number"),
      ("color", "string"), ("string", "string"), ("array", "array"), ("object", "object")],
    Entries.find? "type" (typeFields names.1).reverse = some (.str names.2) ∧
      Entries.find? "properties" (typeFields names.1).reverse = none := by
  decide +kernel

/-- Values other than objects are of the JSON type that is inferred for them. -/
theorem inferType?_plain (value : Json) (type : String) (inferred : inferType? value = some type)
    (plain : ∀ fields, value ≠ .obj fields) :
    Entries.find? "type" (typeFields type).reverse = some (.str value.typeName) ∧
      Entries.find? "properties" (typeFields type).reverse = none := by
  cases value with
  | null => cases inferred
  | bool value =>
    cases inferred
    exact typeFields_plain ("boolean", "boolean") (by decide)
  | num value =>
    cases inferred
    exact typeFields_plain ("number", "number") (by decide)
  | str text =>
    by_cases color : text.toList.head? = some '#'
    · rw [inferType?, if_pos color] at inferred
      cases inferred
      exact typeFields_plain ("color", "string") (by decide)
    · rw [inferType?, if_neg color] at inferred
      cases inferred
      exact typeFields_plain ("string", "string") (by decide)
  | arr items =>
    cases inferred
    exact typeFields_plain ("array", "array") (by decide)
  | obj fields => exact absurd rfl (plain fields)

theorem typeFields_vector : ∀ vector ∈ vectorTypes,
    Entries.find? "type" (typeFields vector.name).reverse = some (.str "object") ∧
    ((Entries.find? "properties" (typeFields vector.name).reverse).bind Json.obj?).map
      (List.map Prod.fst) = some vector.axes := by
  decide +kernel

end Property

theorem getObj?_vector (property : Property) (vector : VectorType) (among : vector ∈ vectorTypes)
    (typed : property.type = vector.name) :
    ∃ axes, property.toSchema.getObj? "properties" = some axes ∧ axes.map Prod.fst = vector.axes := by
  obtain ⟨axes, found, names⟩ :=
    Option.map_eq_some_iff.mp (Property.typeFields_vector vector among).2
  refine ⟨axes, ?_, names⟩
  rw [Json.getObj?, property.toSchema_typeField _ "properties" typed (by decide)]
  exact found

theorem getObj?_plain (property : Property) (type : String) (typed : property.type = type)
    (absent : Entries.find? "properties" (Property.typeFields type).reverse = none) :
    property.toSchema.getObj? "properties" = none := by
  rw [Json.getObj?, property.toSchema_typeField type "properties" typed (by decide), absent]
  rfl

namespace VectorType

/-- Each axis is a field, and all fields hold numbers. -/
def Filled (vector : VectorType) (fields : List (String × Json)) : Prop :=
  vector.axes ⊆ fields.map Prod.fst ∧ ∀ field ∈ fields, field.2.typeName = "number"

/-- As many fields as axes, each axis among them: then there are no others. -/
theorem mem_fields_iff (vector : VectorType) (fields : List (String × Json))
    (among : vector ∈ vectorTypes) (same : fields.length = vector.axes.length)
    (within : vector.axes ⊆ fields.map Prod.fst) (name : String) :
    name ∈ fields.map Prod.fst ↔ name ∈ vector.axes := by
  have once : ∀ vector ∈ vectorTypes, vector.axes.Nodup := by decide
  have lengths : (fields.map Prod.fst).length ≤ vector.axes.length := by rw [List.length_map, same]
  exact ((once vector among).subperm within |>.perm_of_length_le lengths).mem_iff.symm

theorem hasAxes_iff (property : Property) (vector : VectorType) (fields : List (String × Json))
    (among : vector ∈ vectorTypes) (typed : property.type = vector.name)
    (taken : vector.TakenFor fields) :
    HasAxes property.toSchema (.obj fields) ↔ vector.Filled fields := by
  obtain ⟨axes, listed, names⟩ := getObj?_vector property vector among typed
  constructor
  · intro fits
    obtain ⟨_, same, keys, numbers⟩ := fits axes listed
    cases same
    exact ⟨fun name axis => (keys name).mpr (names ▸ axis), numbers⟩
  · rintro ⟨within, numbers⟩ others also
    rw [listed] at also
    cases also
    refine ⟨fields, rfl, ?_, numbers⟩
    rw [names]
    exact vector.mem_fields_iff fields among taken.1 within

end VectorType

/-- An object fits unless it is taken for a vector without being one, and all other values fit. -/
theorem fits_of_inferred (property : Property) (value : Json)
    (inferred : Property.inferType? value = some property.type) :
    HasType property.toSchema value ∧
      (HasAxes property.toSchema value ↔ ∀ fields, value = .obj fields →
        ∀ vector ∈ vectorTypes, vector.TakenFor fields → vector.Filled fields) := by
  have typeOf := property.toSchema_typeField _ "type" rfl (by decide)
  have unlisted
      (absent : Entries.find? "properties" (Property.typeFields property.type).reverse = none) :
      HasAxes property.toSchema value := by
    intro axes listed
    rw [getObj?_plain property _ rfl absent] at listed
    cases listed
  by_cases object : ∃ fields, value = .obj fields
  · obtain ⟨fields, rfl⟩ := object
    rcases VectorType.inferType?_obj fields with ⟨vector, among, taken, named⟩ | ⟨none, named⟩
    · have typed : property.type = vector.name := Option.some.inj (inferred.symm.trans named)
      refine ⟨typeOf.trans (typed ▸ (Property.typeFields_vector vector among).1), ?_⟩
      rw [vector.hasAxes_iff property fields among typed taken]
      constructor
      · rintro filled _ same other alsoAmong alsoTaken
        cases same
        rwa [← vector.eq_of_takenFor other fields among alsoAmong taken alsoTaken]
      · exact fun all => all fields rfl vector among taken
    · have typed : property.type = "object" := Option.some.inj (inferred.symm.trans named)
      obtain ⟨isObject, absent⟩ := Property.typeFields_plain ("object", "object") (by decide)
      refine ⟨typeOf.trans (typed ▸ isObject), iff_of_true (unlisted (typed ▸ absent)) ?_⟩
      rintro _ same vector among taken
      cases same
      exact absurd taken (none vector among)
  · have plain : ∀ fields, value ≠ .obj fields := fun fields same => object ⟨fields, same⟩
    obtain ⟨typed, absent⟩ := Property.inferType?_plain value _ inferred plain
    exact ⟨typeOf.trans typed,
      iff_of_true (unlisted absent) fun fields same => absurd same (plain fields)⟩

/-- A property block without a type marker has an initial value when it is accepted, and that is of the
JSON type of its schema. It has the axes of the schema, if there are any, exactly when it is no object that
is taken for a vector while an axis is missing or a field holds no number. -/
theorem inferred_type_fits_iff (block : List Char) (markers : Markers) (property : Property)
    (marked : Property.blockMarkers? block = some markers)
    (untyped : ∀ entry ∈ markers, entry.1 ≠ "type".toList)
    (accepted : Property.ofBlock block = .ok property) :
    ∃ value, property.initial = some value ∧ HasType property.toSchema value ∧
      (HasAxes property.toSchema value ↔ ∀ fields, value = .obj fields →
        ∀ vector ∈ vectorTypes, vector.TakenFor fields → vector.Filled fields) := by
  obtain ⟨found, same, given⟩ := (Property.ofBlock_ok_iff block property).mp accepted
  rw [marked] at same
  cases same
  obtain ⟨_, type, _⟩ := (Property.ofMarkers_ok_iff markers property).mp given
  rw [Property.readType_untyped _ _ (Property.marker?_eq_none markers "type" untyped)] at type
  obtain ⟨value, initial, inferred⟩ := Option.bind_eq_some_iff.mp type
  exact ⟨value, initial, fits_of_inferred property value inferred⟩

/-- Three axes in another order, with a whole number, a fraction and a negative number. -/
theorem inferred_type_fits_position :
    let block := "\x7bdefault: \x7bz: 0, y: 1.5, x: -2\x7d\x7d".toList
    let property : Property := ⟨"vec3", some (.obj [("x", .num (.int (-2))),
      ("y", .num (.real (Decimal.ofScientific false 15 (-1)))), ("z", .num (.int 0))]), none, none, none⟩
    Property.blockMarkers? block = some [("default".toList, "\x7bz: 0, y: 1.5, x: -2\x7d".toList)] ∧
    Property.ofBlock block = .ok property ∧
    ∃ value, property.initial = some value ∧ HasType property.toSchema value ∧
      HasAxes property.toSchema value := by
  intro block property
  have marked : Property.blockMarkers? block =
      some [("default".toList, "\x7bz: 0, y: 1.5, x: -2\x7d".toList)] := by decide +kernel
  have accepted : Property.ofBlock block = .ok property := by decide +kernel
  obtain ⟨value, initial, type, axes⟩ :=
    inferred_type_fits_iff block _ property marked (by simp) accepted
  refine ⟨marked, accepted, value, initial, type, axes.mpr ?_⟩
  cases initial
  rintro _ same vector among taken
  cases same
  refine ⟨?_, by simp [Json.typeName]⟩
  simp only [vectorTypes, List.mem_cons, List.not_mem_nil, or_false] at among
  rcases among with rfl | rfl | rfl
  · cases taken.1
  · simp [vec3]
  · cases taken.1

/-- Three fields with `z` among them are taken for the three axes, and texts for numbers. -/
theorem inferred_type_misfits :
    let other : Property := ⟨"vec3", some (.obj [("a", .num (.int 2)), ("b", .num (.int 3)),
      ("z", .num (.int 1))]), none, none, none⟩
    let texts : Property := ⟨"vec2", some (.obj [("x", .str "a"), ("y", .str "b")]), none, none, none⟩
    Property.ofBlock "\x7bdefault: \x7bz: 1, a: 2, b: 3\x7d\x7d".toList = .ok other ∧
    Property.ofBlock "\x7bdefault: \x7bx: 'a', y: 'b'\x7d\x7d".toList = .ok texts ∧
    (∀ value, other.initial = some value → ¬ HasAxes other.toSchema value) ∧
    ∀ value, texts.initial = some value → ¬ HasAxes texts.toSchema value := by
  intro other texts
  refine ⟨by decide +kernel, by decide +kernel, ?_, ?_⟩
  · rintro _ initial fits
    cases initial
    rw [vec3.hasAxes_iff other _ (by decide) rfl ⟨rfl, by simp [vec3]⟩] at fits
    have axis := fits.1 (List.mem_cons_self : "x" ∈ vec3.axes)
    simp at axis
  · rintro _ initial fits
    cases initial
    rw [vec2.hasAxes_iff texts _ (by decide) rfl ⟨rfl, by simp [vec2]⟩] at fits
    have number := fits.2 _ List.mem_cons_self
    simp [Json.typeName] at number

end ApiAssembly
