import ApiAssembly.Fragment.Reference
import ApiAssembly.Proofs.Dict.Lookup
/-! Rewriting the references of a document changes no name of a field. Below every field but the two
that hold references, it is the rewriting of the value. -/
namespace ApiAssembly.Reference

theorem qualifyFields_names (source : String) (fields : List (String × Json)) :
    (qualifyFields source fields).map Prod.fst = fields.map Prod.fst := by
  induction fields with
  | nil => simp [qualifyFields]
  | cons field rest ih =>
    unfold qualifyFields
    split
    · rename_i empty
      cases empty
    all_goals
      rename_i same
      cases same
      exact congrArg (List.cons _) ih

theorem find?_qualifyFields (source name : String) (fields : List (String × Json))
    (target : name ≠ "$ref") (discriminator : name ≠ "discriminator") :
    Entries.find? name (qualifyFields source fields) =
      (Entries.find? name fields).map (qualify source) := by
  induction fields with
  | nil => simp [qualifyFields, Entries.find?]
  | cons field rest ih =>
    unfold qualifyFields
    split
    · rename_i empty
      cases empty
    · rename_i text others same
      cases same
      rw [Entries.find?_cons, Entries.find?_cons, if_neg target, if_neg target]
      exact ih
    · rename_i inner others same
      cases same
      rw [Entries.find?_cons, Entries.find?_cons, if_neg discriminator, if_neg discriminator]
      exact ih
    · rename_i other value others _ _ same
      cases same
      rw [Entries.find?_cons, Entries.find?_cons, ih]
      split <;> rfl

theorem get?_qualify (source name : String) (value : Json)
    (target : name ≠ "$ref") (discriminator : name ≠ "discriminator") :
    (qualify source value).get? name = (value.get? name).map (qualify source) := by
  cases value with
  | obj fields =>
    rw [qualify]
    exact find?_qualifyFields source name fields target discriminator
  | arr items => rw [qualify]; rfl
  | null => rfl
  | bool value => rfl
  | num value => rfl
  | str value => rfl

theorem obj?_qualify (source : String) (value : Json) :
    (qualify source value).obj? = value.obj?.map (qualifyFields source) := by
  cases value with
  | obj fields => rw [qualify]; rfl
  | arr items => rw [qualify]; rfl
  | null => rfl
  | bool value => rfl
  | num value => rfl
  | str value => rfl

theorem arr?_qualify (source : String) (value : Json) :
    (qualify source value).arr? = value.arr?.map (qualifyItems source) := by
  cases value with
  | arr items => rw [qualify]; rfl
  | obj fields => rw [qualify]; rfl
  | _ => rfl

theorem str?_qualify (source : String) (value : Json) :
    (qualify source value).str? = value.str? := by
  cases value with
  | arr items => rw [qualify]; rfl
  | obj fields => rw [qualify]; rfl
  | _ => rfl

theorem bool?_qualify (source : String) (value : Json) :
    (qualify source value).bool? = value.bool? := by
  cases value with
  | arr items => rw [qualify]; rfl
  | obj fields => rw [qualify]; rfl
  | _ => rfl

theorem real?_qualify (source : String) (value : Json) :
    (qualify source value).real? = value.real? := by
  cases value with
  | arr items => rw [qualify]; rfl
  | obj fields => rw [qualify]; rfl
  | _ => rfl

theorem getStr?_qualify (source name : String) (value : Json)
    (target : name ≠ "$ref") (discriminator : name ≠ "discriminator") :
    (qualify source value).getStr? name = value.getStr? name := by
  rw [Json.getStr?, Json.getStr?, get?_qualify source name value target discriminator]
  cases value.get? name with
  | none => rfl
  | some inner => exact str?_qualify source inner

theorem qualify_field (source name : String) (value : Json)
    (target : name ≠ "$ref") (discriminator : name ≠ "discriminator") :
    qualify source (.obj [(name, value)]) = .obj [(name, qualify source value)] := by
  rw [qualify, qualifyFields]
  · rw [qualifyFields]
  · intro text same
    exact absurd same target
  · intro fields same
    exact absurd same discriminator

theorem qualifyItems_eq (source : String) (items : List Json) :
    qualifyItems source items = items.map (qualify source) := by
  induction items with
  | nil => rw [qualifyItems]; rfl
  | cons item rest ih => rw [qualifyItems, ih, List.map_cons]

end ApiAssembly.Reference
