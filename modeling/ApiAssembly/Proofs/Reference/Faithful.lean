import ApiAssembly.Proofs.Reference.Places
/-! Rewritten documents are as different as they were. No two texts that refer to schemas become one,
and none becomes a text that is left alone; from there it goes up through lists and objects. -/
namespace ApiAssembly.Reference
open Json

theorem qualifyText_injective (source : String) : Function.Injective (qualifyText source) := by
  -- A text that is not rewritten does not start as the rewritten ones do.
  have apart (text name : String) (plain : Text.afterStart? start text = none) :
      text ≠ start ++ name := by
    rintro rfl
    rw [Text.afterStart?_append] at plain
    cases plain
  intro text other same
  unfold qualifyText at same
  cases found : Text.afterStart? start text with
  | none =>
    cases known : Text.afterStart? start other with
    | none => simpa only [found, known] using same
    | some title =>
      simp only [found, known] at same
      exact absurd same (apart text _ found)
  | some name =>
    cases known : Text.afterStart? start other with
    | none =>
      simp only [found, known] at same
      exact absurd same.symm (apart other _ known)
    | some title =>
      simp only [found, known] at same
      have names := qualifiedName_injective source ((String.append_right_inj start).mp same)
      rw [(Text.afterStart?_eq_some_iff _ _ _).mp found, (Text.afterStart?_eq_some_iff _ _ _).mp known,
        names]

theorem qualifyTarget_injective (source : String) : Function.Injective (qualifyTarget source) := by
  intro value other same
  cases value with
  | str text =>
    cases other with
    | str title => exact congrArg Json.str (qualifyText_injective source (Json.str.inj same))
    | _ => cases same
  | _ =>
    cases other with
    | str title => cases same
    | _ => exact same

theorem eq_of_map_eq {α β : Type} {change : α → β} {items others : List α}
    (apart : ∀ item ∈ items, ∀ other, change item = change other → item = other)
    (same : items.map change = others.map change) : items = others := by
  induction items generalizing others with
  | nil => exact (List.map_eq_nil_iff.mp same.symm).symm
  | cons item rest ih =>
    cases others with
    | nil => cases same
    | cons other more =>
      obtain ⟨head, tail⟩ := List.cons.inj same
      rw [apart item List.mem_cons_self other head,
        ih (fun later member => apart later (List.mem_cons_of_mem item member)) tail]

/-- Fields stay apart whose values do, each changed as its name asks for. -/
theorem eq_of_fields_eq (change : String → Json → Json) {fields others : List (String × Json)}
    (apart : ∀ field ∈ fields, ∀ other,
      change field.1 field.2 = change field.1 other → field.2 = other)
    (same : fields.map (fun field => (field.1, change field.1 field.2)) =
      others.map fun field => (field.1, change field.1 field.2)) : fields = others := by
  refine eq_of_map_eq ?_ same
  rintro ⟨name, value⟩ member ⟨title, other⟩ equal
  obtain ⟨rfl, values⟩ := Prod.mk.inj equal
  exact congrArg (Prod.mk name) (apart (name, value) member other values)

theorem qualifyTargets_injective (source : String) : Function.Injective (qualifyTargets source) := by
  intro value other same
  cases value with
  | obj fields =>
    cases other with
    | obj others =>
      refine congrArg Json.obj (eq_of_fields_eq (fun _ => qualifyTarget source) ?_
        (Json.obj.inj same))
      exact fun field _ target equal => qualifyTarget_injective source equal
    | _ => cases same
  | _ =>
    cases other with
    | obj others => cases same
    | _ => exact same

theorem qualifyMapping_injective (source : String) : Function.Injective (qualifyMapping source) := by
  intro fields others same
  rw [qualifyMapping_fields, qualifyMapping_fields] at same
  refine eq_of_fields_eq (fun name =>
    qualifyIn source (if name = "mapping" then .mapping else .beside)) ?_ same
  intro field _ other equal
  by_cases mapping : field.1 = "mapping"
  · rw [if_pos mapping] at equal
    exact qualifyTargets_injective source equal
  · rw [if_neg mapping] at equal
    exact equal

theorem str_ne_qualify {source text : String} {value : Json} (other : value.str? = none) :
    Json.str text ≠ qualify source value := by
  intro same
  have texts := congrArg Json.str? same
  rw [str?_qualify, other] at texts
  cases texts

theorem obj_ne_qualify {source : String} {fields : List (String × Json)} {value : Json}
    (other : value.obj? = none) : Json.obj fields ≠ qualify source value := by
  intro same
  have objects := congrArg Json.obj? same
  rw [obj?_qualify, other] at objects
  cases objects

/-- In every zone values stay apart that the rewriting of documents keeps apart. -/
theorem eq_of_qualifyIn_eq {source : String} {zone : Zone} {value other : Json}
    (inner : qualify source value = qualify source other → value = other)
    (same : qualifyIn source zone value = qualifyIn source zone other) : value = other := by
  cases zone with
  | plain => exact inner same
  | reference =>
    cases value with
    | str text =>
      cases other with
      | str title => exact congrArg Json.str (qualifyText_injective source (Json.str.inj same))
      | _ => exact absurd same (str_ne_qualify rfl)
    | _ =>
      cases other with
      | str title => exact absurd same.symm (str_ne_qualify rfl)
      | _ => exact inner same
  | discriminator =>
    cases value with
    | obj fields =>
      cases other with
      | obj others => exact congrArg Json.obj (qualifyMapping_injective source (Json.obj.inj same))
      | _ => exact absurd same (obj_ne_qualify rfl)
    | _ =>
      cases other with
      | obj others => exact absurd same.symm (obj_ne_qualify rfl)
      | _ => exact inner same
  | mapping => exact qualifyTargets_injective source same
  | target => exact qualifyTarget_injective source same
  | beside => exact same

theorem qualify_injective (source : String) : Function.Injective (qualify source) := by
  intro value
  induction value using Json.induct with
  | null | bool | num | str =>
    intro other same
    cases other <;> simp_all [qualify]
  | arr items ih =>
    intro other same
    cases other with
    | arr others =>
      rw [qualify, qualify, qualifyItems_eq, qualifyItems_eq] at same
      exact congrArg Json.arr (eq_of_map_eq (fun item member _ equal => ih item member equal)
        (Json.arr.inj same))
    | _ => simp [qualify] at same
  | obj fields ih =>
    intro other same
    cases other with
    | obj others =>
      rw [qualify, qualify, qualifyFields_eq, qualifyFields_eq] at same
      refine congrArg Json.obj (eq_of_fields_eq
        (fun name => qualifyIn source (.ofName name)) ?_ (Json.obj.inj same))
      intro field member other equal
      exact eq_of_qualifyIn_eq (fun inner => ih field member inner) equal
    | _ => simp [qualify] at same

/-- Rewriting the references of a document changes nothing but texts that refer to schemas, under
`$ref` or in the mapping of a discriminator, and keeps different documents apart. -/
theorem rewriting_confined (source : String) :
    (∀ value place,
      ((qualify source value).at? place).map head = (value.at? place).map head ∨
        Refers place ∧ ∃ name, value.at? place = some (.str (start ++ name)) ∧
          (qualify source value).at? place = some (.str (start ++ qualifiedName source name))) ∧
      (∀ value place, (qualify source value).at? place =
        (value.at? place).map (qualifyIn source (.ofPlace place))) ∧
      Function.Injective (qualify source) := by
  refine ⟨?_, at?_qualify source, qualify_injective source⟩
  intro value place
  rw [at?_qualify]
  cases value.at? place with
  | none => exact Or.inl rfl
  | some inner =>
    rcases head_qualifyIn source (.ofPlace place) inner with kept | ⟨zone, name, text, rewritten⟩
    · exact Or.inl (congrArg some kept)
    · refine Or.inr ⟨refers_of_zone place zone, name, congrArg some text, ?_⟩
      rw [Option.map_some, rewritten]

end ApiAssembly.Reference
