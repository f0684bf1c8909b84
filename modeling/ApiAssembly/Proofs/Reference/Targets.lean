import ApiAssembly.Proofs.Reference.Fields
import ApiAssembly.Proofs.Text.Pieces
/-! The schemas that a document refers to. Qualifying renames the references that it reaches and no
others. It turns back at the object under a field `discriminator`: there it reaches the texts of
the mapping, and passes over whatever else refers to a schema. -/
namespace ApiAssembly.Reference

def targetOf : Json → List String
  | .str text => (Text.afterStart? start text).toList
  | _ => []

def mappedTargets : Json → List String
  | .obj fields => fields.flatMap fun field => targetOf field.2
  | _ => []

def mappingTargets (fields : List (String × Json)) : List String :=
  fields.flatMap fun field => if field.1 = "mapping" then mappedTargets field.2 else []

/-- The schemas that a field itself refers to, whatever lies below it. -/
def ownTargets (name : String) (value : Json) : List String :=
  if name = "$ref" then targetOf value
  else if name = "discriminator" then mappingTargets (value.obj?.getD [])
  else []

mutual
/-- The schemas that a value refers to, at any depth. -/
def targets : Json → List String
  | .arr items => itemTargets items
  | .obj fields => fieldTargets fields
  | _ => []
def itemTargets : List Json → List String
  | [] => []
  | item :: rest => targets item ++ itemTargets rest
def fieldTargets : List (String × Json) → List String
  | [] => []
  | (name, value) :: rest => ownTargets name value ++ targets value ++ fieldTargets rest
end

def withoutTexts : Json → Json
  | .obj fields => .obj (fields.filter fun field => field.2.str?.isNone)
  | value => value

/-- A discriminator without the texts of its mapping. -/
def besideMapping (fields : List (String × Json)) : List (String × Json) :=
  fields.map fun field =>
    if field.1 = "mapping" then (field.1, withoutTexts field.2) else field

mutual
/-- The schemas that a value refers to where qualifying does not look. -/
def passedOver : Json → List String
  | .arr items => passedOverItems items
  | .obj fields => passedOverFields fields
  | _ => []
def passedOverItems : List Json → List String
  | [] => []
  | item :: rest => passedOver item ++ passedOverItems rest
def passedOverFields : List (String × Json) → List String
  | [] => []
  | ("discriminator", .obj fields) :: rest =>
    fieldTargets (besideMapping fields) ++ passedOverFields rest
  | (_, value) :: rest => passedOver value ++ passedOverFields rest
end

theorem mem_fieldTargets (target : String) (fields : List (String × Json)) :
    target ∈ fieldTargets fields ↔
      ∃ field ∈ fields, target ∈ ownTargets field.1 field.2 ∨ target ∈ targets field.2 := by
  induction fields with
  | nil => simp [fieldTargets]
  | cons field rest ih => simp [fieldTargets, ih, or_assoc]

theorem mem_itemTargets (target : String) (items : List Json) :
    target ∈ itemTargets items ↔ ∃ item ∈ items, target ∈ targets item := by
  induction items with
  | nil => simp [itemTargets]
  | cons item rest ih => simp [itemTargets, ih]

/-- What is found in a value refers to nothing that the value does not refer to. -/
theorem targets_get? (name : String) (value inner : Json) (found : value.get? name = some inner) :
    targets inner ⊆ targets value := by
  cases value with
  | obj fields =>
    intro target member
    have present : (name, inner) ∈ fields := Entries.mem_of_find? name inner fields found
    rw [targets, mem_fieldTargets]
    exact ⟨_, present, Or.inr member⟩
  | arr items => cases found
  | null => cases found
  | bool value => cases found
  | num value => cases found
  | str value => cases found

theorem targets_getObj? (name : String) (value : Json) (fields : List (String × Json))
    (found : value.getObj? name = some fields) : fieldTargets fields ⊆ targets value := by
  obtain ⟨inner, present, object⟩ := Option.bind_eq_some_iff.mp found
  cases inner with
  | obj inner =>
    cases object
    have below := targets_get? name value _ present
    rw [targets] at below
    exact below
  | _ => cases object

theorem targets_field (fields : List (String × Json)) (name : String) (value : Json)
    (present : (name, value) ∈ fields) : targets value ⊆ fieldTargets fields := by
  intro target member
  exact (mem_fieldTargets target fields).mpr ⟨_, present, Or.inr member⟩

theorem targets_find? (fields : List (String × Json)) (name : String) (value : Json)
    (found : Entries.find? name fields = some value) : targets value ⊆ fieldTargets fields :=
  targets_field fields name value (Entries.mem_of_find? name value fields found)

/-! Where qualifying reaches a reference it renames it. -/

theorem targetOf_qualifyTarget (source : String) (value : Json) :
    targetOf (qualifyTarget source value) = (targetOf value).map (qualifiedName source) := by
  cases value with
  | str text =>
    rw [qualifyTarget, targetOf, targetOf, qualifyText]
    cases found : Text.afterStart? start text with
    | none => rw [found]; rfl
    | some name => rw [Text.afterStart?_append]; rfl
  | null => rfl
  | bool value => rfl
  | num value => rfl
  | arr items => rfl
  | obj fields => rfl

def qualifyTargets (source : String) : Json → Json
  | .obj fields => .obj (fields.map fun field => (field.1, qualifyTarget source field.2))
  | value => value

theorem qualifyMapping_eq (source : String) (fields : List (String × Json)) :
    qualifyMapping source fields = fields.map fun field =>
      if field.1 = "mapping" then (field.1, qualifyTargets source field.2) else field := by
  apply List.map_congr_left
  intro field _
  split
  · rfl
  · rename_i other
    obtain ⟨name, value⟩ := field
    by_cases mapping : name = "mapping"
    · subst mapping
      cases value with
      | obj targets => exact absurd rfl (other targets)
      | _ => rfl
    · rw [if_neg mapping]

theorem mappedTargets_qualifyTargets (source : String) (value : Json) :
    mappedTargets (qualifyTargets source value) =
      (mappedTargets value).map (qualifiedName source) := by
  cases value with
  | obj fields =>
    simp only [qualifyTargets, mappedTargets, List.flatMap_map, targetOf_qualifyTarget,
      List.map_flatMap]
  | null => rfl
  | bool value => rfl
  | num value => rfl
  | str text => rfl
  | arr items => rfl

theorem mappingTargets_qualifyMapping (source : String) (fields : List (String × Json)) :
    mappingTargets (qualifyMapping source fields) =
      (mappingTargets fields).map (qualifiedName source) := by
  rw [qualifyMapping_eq, mappingTargets, mappingTargets, List.flatMap_map, List.map_flatMap]
  congr 1
  funext field
  by_cases mapping : field.1 = "mapping"
  · rw [if_pos mapping, if_pos mapping, if_pos mapping, mappedTargets_qualifyTargets]
  · rw [if_neg mapping, if_neg mapping, List.map_nil]

/-! What a rewritten value refers to was renamed, or passed over. -/

theorem mem_ownTargets_text (source target name text : String)
    (member : target ∈ ownTargets name (qualifyTarget source (.str text))) :
    target ∈ (ownTargets name (.str text)).map (qualifiedName source) := by
  by_cases reference : name = "$ref"
  · rw [ownTargets, if_pos reference, targetOf_qualifyTarget] at member
    rw [ownTargets, if_pos reference]
    exact member
  · simp [ownTargets, reference, qualifyTarget, Json.obj?, mappingTargets] at member

-- A field that is not rewritten itself refers to nothing by itself.
theorem ownTargets_plain (source name : String) (value : Json)
    (plain : ∀ text, name = "$ref" → value = .str text → False)
    (apart : ∀ fields, name = "discriminator" → value = .obj fields → False) :
    ownTargets name (qualify source value) = [] := by
  unfold ownTargets
  split
  · rename_i reference
    cases value with
    | str text => exact (plain text reference rfl).elim
    | arr items => rw [qualify]; rfl
    | obj fields => rw [qualify]; rfl
    | _ => rfl
  · split
    · rename_i discriminator
      rw [obj?_qualify]
      cases value with
      | obj fields => exact (apart fields discriminator rfl).elim
      | _ => rfl
    · rfl

theorem mem_targets_qualifyTargets (source target : String) (value : Json)
    (member : target ∈ targets (qualifyTargets source value)) :
    target ∈ (targets value).map (qualifiedName source) ∨ target ∈ targets (withoutTexts value) := by
  cases value with
  | obj fields =>
    rw [qualifyTargets, targets, mem_fieldTargets] at member
    obtain ⟨changed, present, inside⟩ := member
    obtain ⟨⟨name, value⟩, original, rfl⟩ := List.mem_map.mp present
    cases value with
    | str text =>
      left
      rcases inside with own | below
      · obtain ⟨before, named, same⟩ := List.mem_map.mp (mem_ownTargets_text source target name text own)
        rw [targets]
        exact List.mem_map.mpr ⟨before, (mem_fieldTargets _ _).mpr ⟨_, original, Or.inl named⟩, same⟩
      · simp [qualifyTarget, targets] at below
    | _ =>
      right
      rw [withoutTexts, targets, mem_fieldTargets]
      exact ⟨_, List.mem_filter.mpr ⟨original, rfl⟩, inside⟩
  | _ => exact Or.inr member

theorem mem_fieldTargets_qualifyMapping (source target : String) (fields : List (String × Json))
    (member : target ∈ fieldTargets (qualifyMapping source fields)) :
    target ∈ (fieldTargets fields).map (qualifiedName source) ∨
      target ∈ fieldTargets (besideMapping fields) := by
  rw [qualifyMapping_eq, mem_fieldTargets] at member
  obtain ⟨changed, present, inside⟩ := member
  obtain ⟨⟨name, value⟩, original, rfl⟩ := List.mem_map.mp present
  by_cases mapping : name = "mapping"
  · subst mapping
    have below : target ∈ targets (qualifyTargets source value) := by
      simpa [ownTargets] using inside
    rcases mem_targets_qualifyTargets source target value below with renamed | other
    · obtain ⟨before, named, same⟩ := List.mem_map.mp renamed
      exact Or.inl (List.mem_map.mpr
        ⟨before, (mem_fieldTargets _ _).mpr ⟨_, original, Or.inr named⟩, same⟩)
    · exact Or.inr ((mem_fieldTargets _ _).mpr ⟨_, List.mem_map.mpr ⟨_, original, rfl⟩, Or.inr other⟩)
  · rw [if_neg mapping] at inside
    refine Or.inr ((mem_fieldTargets _ _).mpr ⟨_, List.mem_map.mpr ⟨_, original, rfl⟩, ?_⟩)
    rw [if_neg mapping]
    exact inside

mutual
theorem mem_targets_qualify (source target : String) (value : Json)
    (member : target ∈ targets (qualify source value)) :
    target ∈ (targets value).map (qualifiedName source) ∨ target ∈ passedOver value := by
  match value with
  | .arr items =>
    rw [qualify, targets] at member
    rw [targets, passedOver]
    exact mem_itemTargets_qualifyItems source target items member
  | .obj fields =>
    rw [qualify, targets] at member
    rw [targets, passedOver]
    exact mem_fieldTargets_qualifyFields source target fields member
  | .null | .bool _ | .num _ | .str _ => simp [qualify, targets] at member
theorem mem_itemTargets_qualifyItems (source target : String) (items : List Json)
    (member : target ∈ itemTargets (qualifyItems source items)) :
    target ∈ (itemTargets items).map (qualifiedName source) ∨ target ∈ passedOverItems items := by
  match items with
  | [] => simp [qualifyItems, itemTargets] at member
  | item :: rest =>
    rw [qualifyItems, itemTargets, List.mem_append] at member
    rw [itemTargets, List.map_append, List.mem_append, passedOverItems, List.mem_append]
    rcases member with head | tail
    · exact (mem_targets_qualify source target item head).imp Or.inl Or.inl
    · exact (mem_itemTargets_qualifyItems source target rest tail).imp Or.inr Or.inr
theorem mem_fieldTargets_qualifyFields (source target : String) (fields : List (String × Json))
    (member : target ∈ fieldTargets (qualifyFields source fields)) :
    target ∈ (fieldTargets fields).map (qualifiedName source) ∨
      target ∈ passedOverFields fields := by
  match fields with
  | [] => simp [qualifyFields, fieldTargets] at member
  | field :: rest =>
    have tail (later : target ∈ fieldTargets (qualifyFields source rest)) :=
      mem_fieldTargets_qualifyFields source target rest later
    unfold qualifyFields at member
    split at member
    · rename_i empty
      cases empty
    · rename_i text others same
      cases same
      simp only [fieldTargets, List.mem_append, List.map_append] at member ⊢
      rcases member with (own | below) | later
      · exact Or.inl (Or.inl (Or.inl (mem_ownTargets_text source target "$ref" text own)))
      · simp [targets] at below
      · rw [passedOverFields, List.mem_append]
        · exact (tail later).imp Or.inr Or.inr
        · nofun
    · rename_i inner others same
      cases same
      simp only [fieldTargets, passedOverFields, List.mem_append, List.map_append] at member ⊢
      rcases member with (own | below) | later
      · rw [ownTargets, if_neg (by decide), if_pos rfl] at own ⊢
        exact Or.inl (Or.inl (Or.inl (mappingTargets_qualifyMapping source inner ▸ own)))
      · rw [targets] at below ⊢
        exact (mem_fieldTargets_qualifyMapping source target inner below).imp
          (fun renamed => Or.inl (Or.inr renamed)) Or.inl
      · exact (tail later).imp Or.inr Or.inr
    · rename_i name value others plain apart same
      cases same
      rw [passedOverFields, List.mem_append]
      · simp only [fieldTargets, List.mem_append, List.map_append] at member ⊢
        rcases member with (own | below) | later
        · rw [ownTargets_plain source name value plain apart] at own
          cases own
        · exact (mem_targets_qualify source target value below).imp
            (fun renamed => Or.inl (Or.inr renamed)) Or.inl
        · exact (tail later).imp Or.inr Or.inr
      · exact apart
end

end ApiAssembly.Reference
