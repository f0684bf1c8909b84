import ApiAssembly.Proofs.Reference.Targets
/-! The references that qualifying reaches, wherever they stand. A value is left as it is exactly when
there are none. Qualifying does not tell schemas from data: an initial value with a field `$ref` is
rewritten like a reference. -/
namespace ApiAssembly.Reference

mutual
/-- The names of schemas that qualifying a value puts another name in front of. -/
def reached : Json → List String
  | .arr items => reachedItems items
  | .obj fields => reachedFields fields
  | _ => []
def reachedItems : List Json → List String
  | [] => []
  | item :: rest => reached item ++ reachedItems rest
def reachedFields : List (String × Json) → List String
  | [] => []
  | ("$ref", .str text) :: rest => targetOf (.str text) ++ reachedFields rest
  | ("discriminator", .obj fields) :: rest => mappingTargets fields ++ reachedFields rest
  | (_, value) :: rest => reached value ++ reachedFields rest
end

theorem qualifiedName_ne (source name : String) : qualifiedName source name ≠ name := by
  intro same
  have lengths := congrArg String.length same
  simp only [qualifiedName, String.length_append] at lengths
  have mark : "_".length = 1 := rfl
  omega

theorem qualifyTarget_eq_iff (source : String) (value : Json) :
    qualifyTarget source value = value ↔ targetOf value = [] := by
  cases value with
  | str text =>
    rw [qualifyTarget, targetOf, qualifyText]
    cases found : Text.afterStart? start text with
    | none => simp
    | some name =>
      have parts := (Text.afterStart?_eq_some_iff _ text name).mp found
      have changed : start ++ qualifiedName source name ≠ text := by
        rw [parts]
        intro same
        exact qualifiedName_ne source name ((String.append_right_inj start).mp same)
      simp [changed]
  | _ => simp [qualifyTarget, targetOf]

theorem map_eq_self_iff {α : Type} (change : α → α) (items : List α) :
    items.map change = items ↔ ∀ item ∈ items, change item = item := by
  induction items with
  | nil => simp
  | cons item rest ih => simp [ih]

theorem qualifyTargets_eq_iff (source : String) (value : Json) :
    qualifyTargets source value = value ↔ mappedTargets value = [] := by
  cases value with
  | obj fields =>
    rw [qualifyTargets, mappedTargets, Json.obj.injEq, map_eq_self_iff, List.flatMap_eq_nil_iff]
    refine forall₂_congr fun field _ => ?_
    rw [← qualifyTarget_eq_iff source field.2]
    simp [Prod.ext_iff]
  | _ => simp [qualifyTargets, mappedTargets]

theorem qualifyMapping_eq_iff (source : String) (fields : List (String × Json)) :
    qualifyMapping source fields = fields ↔ mappingTargets fields = [] := by
  rw [qualifyMapping_eq, mappingTargets, map_eq_self_iff, List.flatMap_eq_nil_iff]
  refine forall₂_congr fun field _ => ?_
  by_cases mapping : field.1 = "mapping"
  · rw [if_pos mapping, if_pos mapping, ← qualifyTargets_eq_iff source field.2]
    simp [Prod.ext_iff]
  · simp [mapping]

mutual
/-- Qualifying leaves a value as it is exactly when it reaches no reference. -/
theorem qualify_eq_iff (source : String) (value : Json) :
    qualify source value = value ↔ reached value = [] := by
  match value with
  | .arr items =>
    rw [qualify, reached, Json.arr.injEq]
    exact qualifyItems_eq_iff source items
  | .obj fields =>
    rw [qualify, reached, Json.obj.injEq]
    exact qualifyFields_eq_iff source fields
  | .null | .bool _ | .num _ | .str _ => simp [qualify, reached]
theorem qualifyItems_eq_iff (source : String) (items : List Json) :
    qualifyItems source items = items ↔ reachedItems items = [] := by
  match items with
  | [] => simp [qualifyItems, reachedItems]
  | item :: rest =>
    rw [qualifyItems, reachedItems, List.cons.injEq, List.append_eq_nil_iff,
      qualify_eq_iff source item, qualifyItems_eq_iff source rest]
theorem qualifyFields_eq_iff (source : String) (fields : List (String × Json)) :
    qualifyFields source fields = fields ↔ reachedFields fields = [] := by
  match fields with
  | [] => simp [qualifyFields, reachedFields]
  | field :: rest =>
    have tail := qualifyFields_eq_iff source rest
    unfold qualifyFields
    split
    · rename_i empty
      cases empty
    · rename_i text others same
      cases same
      have own := qualifyTarget_eq_iff source (.str text)
      rw [qualifyTarget, Json.str.injEq] at own
      simp [reachedFields, own, tail]
    · rename_i inner others same
      cases same
      simp [reachedFields, qualifyMapping_eq_iff, tail]
    · rename_i name value others plain apart same
      cases same
      rw [reachedFields, List.append_eq_nil_iff, ← qualify_eq_iff source value, ← tail]
      · simp
      · exact plain
      · exact apart
end

end ApiAssembly.Reference
