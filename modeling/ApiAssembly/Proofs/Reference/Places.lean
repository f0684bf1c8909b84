import ApiAssembly.Proofs.Reference.QualifiedName
import ApiAssembly.Proofs.Reference.Reached
/-! Where references are rewritten. A place in a document is given by the steps that lead to it, and
the steps tell which rewriting the value there undergoes. By itself a value changes only as a text
under `$ref` or in the mapping of a discriminator. -/
namespace ApiAssembly

namespace Json

/-- A step into a value. -/
inductive Step where
  | item (index : Nat)
  | field (name : String)

def step? (value : Json) : Step → Option Json
  | .item index => value.arr?.bind fun items => items[index]?
  | .field name => value.get? name

def at? (value : Json) (place : List Step) : Option Json := place.foldlM step? value

/-- What a value is by itself, whatever the values inside are. -/
inductive Head where
  | null
  | bool (value : Bool)
  | num (value : Number)
  | str (value : String)
  | arr (length : Nat)
  | obj (names : List String)

def head : Json → Head
  | .null => .null
  | .bool value => .bool value
  | .num value => .num value
  | .str value => .str value
  | .arr items => .arr items.length
  | .obj fields => .obj (fields.map Prod.fst)

end Json

namespace Reference
open Json

/-- How a value is met: as part of a document, under `$ref`, under `discriminator`, as the mapping of
a discriminator, as one of its targets, or elsewhere inside a discriminator. -/
inductive Zone where
  | plain | reference | discriminator | mapping | target | beside

namespace Zone

def ofName (name : String) : Zone :=
  if name = "$ref" then .reference
  else if name = "discriminator" then .discriminator
  else .plain

def next : Zone → Step → Zone
  | .discriminator, .field name => if name = "mapping" then .mapping else .beside
  | .mapping, .field _ => .target
  | .mapping, .item _ | .target, _ | .beside, _ => .beside
  | _, .field name => .ofName name
  | _, .item _ => .plain

def ofPlace (place : List Step) : Zone := place.foldl next .plain

end Zone

/-- The rewriting of a value that is met in a zone. -/
def qualifyIn (source : String) : Zone → Json → Json
  | .reference, .str text => .str (qualifyText source text)
  | .discriminator, .obj fields => .obj (qualifyMapping source fields)
  | .mapping, value => qualifyTargets source value
  | .target, value => qualifyTarget source value
  | .beside, value => value
  | _, value => qualify source value

/-- Under other names, and for values of another kind, the rewriting is that of a document. -/
theorem qualifyIn_ofName (source name : String) (value : Json)
    (text : ∀ text, name = "$ref" → value = .str text → False)
    (object : ∀ fields, name = "discriminator" → value = .obj fields → False) :
    qualifyIn source (.ofName name) value = qualify source value := by
  unfold Zone.ofName
  split
  · rename_i reference
    cases value with
    | str inner => exact (text inner reference rfl).elim
    | _ => rfl
  · split
    · rename_i discriminator
      cases value with
      | obj fields => exact (object fields discriminator rfl).elim
      | _ => rfl
    · rfl

theorem qualifyFields_eq (source : String) (fields : List (String × Json)) :
    qualifyFields source fields =
      fields.map fun field => (field.1, qualifyIn source (.ofName field.1) field.2) := by
  induction fields with
  | nil => rw [qualifyFields, List.map_nil]
  | cons field rest ih =>
    unfold qualifyFields
    split
    · rename_i empty
      cases empty
    · rename_i same
      cases same
      rw [ih]
      rfl
    · rename_i same
      cases same
      rw [ih]
      rfl
    · rename_i name value others text object same
      cases same
      rw [ih, List.map_cons, qualifyIn_ofName source name value text object]

theorem qualifyMapping_fields (source : String) (fields : List (String × Json)) :
    qualifyMapping source fields = fields.map fun field =>
      (field.1, qualifyIn source (if field.1 = "mapping" then .mapping else .beside) field.2) := by
  rw [qualifyMapping_eq]
  apply List.map_congr_left
  intro field _
  split <;> rfl

theorem step?_qualify (source : String) (value : Json) (step : Step) :
    (qualify source value).step? step =
      (value.step? step).map (qualifyIn source (Zone.plain.next step)) := by
  cases step with
  | item index =>
    cases value with
    | arr items =>
      rw [qualify, qualifyItems_eq]
      exact List.getElem?_map
    | obj fields => rw [qualify]; rfl
    | _ => rfl
  | field name =>
    cases value with
    | obj fields =>
      rw [qualify, qualifyFields_eq]
      exact Entries.find?_mapValues (fun name => qualifyIn source (.ofName name)) name fields
    | arr items => rw [qualify]; rfl
    | _ => rfl

/-- One step into a rewritten value leads to a value that is rewritten as its zone asks for. -/
theorem step?_qualifyIn (source : String) (zone : Zone) (value : Json) (step : Step) :
    (qualifyIn source zone value).step? step =
      (value.step? step).map (qualifyIn source (zone.next step)) := by
  have kept : (value.step? step).map (qualifyIn source .beside) = value.step? step :=
    congrFun Option.map_id (value.step? step)
  cases zone with
  | plain => exact step?_qualify source value step
  | reference =>
    cases value with
    | str text => cases step <;> rfl
    | _ => cases step <;> exact step?_qualify source _ _
  | discriminator =>
    cases value with
    | obj fields =>
      cases step with
      | item index => rfl
      | field name =>
        change Entries.find? name (qualifyMapping source fields) = _
        rw [qualifyMapping_fields]
        refine (Entries.find?_mapValues (fun name =>
          qualifyIn source (if name = "mapping" then .mapping else .beside)) name fields).trans ?_
        rfl
    | arr items =>
      -- A discriminator that is a list is a part of the document like any other.
      cases step with
      | item index => exact step?_qualify source _ (.item index)
      | field name =>
        change (qualify source (.arr items)).get? name = none
        rw [qualify]
        rfl
    | _ => cases step <;> rfl
  | mapping =>
    cases value with
    | obj fields =>
      cases step with
      | item index => rfl
      | field name =>
        exact Entries.find?_mapValues (fun _ => qualifyTarget source) name fields
    | arr items =>
      cases step with
      | item index => exact kept.symm
      | field name => rfl
    | _ => cases step <;> rfl
  | target =>
    -- No step leads into a text, and nothing but texts is rewritten.
    cases value with
    | str text => cases step <;> rfl
    | _ => exact kept.symm
  | beside => exact kept.symm

/-- Every place in a rewritten value holds what the zone of the place makes of the value there. -/
theorem at?_qualifyIn (source : String) (place : List Step) (zone : Zone) (value : Json) :
    (qualifyIn source zone value).at? place =
      (value.at? place).map (qualifyIn source (place.foldl Zone.next zone)) := by
  induction place generalizing zone value with
  | nil => rfl
  | cons step rest ih =>
    rw [at?, at?, List.foldlM_cons, List.foldlM_cons, step?_qualifyIn, List.foldl_cons]
    cases value.step? step with
    | none => rfl
    | some inner => exact ih (zone.next step) inner

theorem at?_qualify (source : String) (value : Json) (place : List Step) :
    (qualify source value).at? place =
      (value.at? place).map (qualifyIn source (.ofPlace place)) :=
  at?_qualifyIn source place .plain value

-- A reference among the other fields of a discriminator is passed over.
example : Zone.ofPlace [.field "discriminator", .field "$ref"] = .beside := rfl

/-! Which places are rewritten. -/

/-- Under `$ref`, or directly in the mapping of a discriminator. -/
def Refers (place : List Step) : Prop :=
  (∃ before, place = before ++ [.field "$ref"]) ∨
    ∃ before name, place = before ++ [.field "discriminator", .field "mapping", .field name]

namespace Zone

theorem ofName_cases (name : String) :
    (name = "$ref" ∧ ofName name = .reference) ∨
      (name = "discriminator" ∧ ofName name = .discriminator) ∨ ofName name = .plain := by
  unfold ofName
  split
  · exact Or.inl ⟨‹_›, rfl⟩
  · split
    · exact Or.inr (Or.inl ⟨‹_›, rfl⟩)
    · exact Or.inr (Or.inr rfl)

/-- The steps that lead towards a reference. -/
theorem next_cases (zone : Zone) (step : Step) :
    (step = .field "$ref" ∧ zone.next step = .reference) ∨
      (step = .field "discriminator" ∧ zone.next step = .discriminator) ∨
      (zone = .discriminator ∧ step = .field "mapping" ∧ zone.next step = .mapping) ∨
      (zone = .mapping ∧ (∃ name, step = .field name) ∧ zone.next step = .target) ∨
      zone.next step = .plain ∨ zone.next step = .beside := by
  cases step with
  | item index => cases zone <;> simp [next]
  | field name =>
    cases zone with
    | plain | reference =>
      rcases ofName_cases name with ⟨rfl, zone⟩ | ⟨rfl, zone⟩ | zone <;> simp [next, zone]
    | discriminator => by_cases mapping : name = "mapping" <;> simp [next, mapping]
    | mapping | target | beside => simp [next]

/-- What a place ends with is known from its zone. -/
def Ends : Zone → List Step → Prop
  | .reference, place => ∃ before, place = before ++ [.field "$ref"]
  | .discriminator, place => ∃ before, place = before ++ [.field "discriminator"]
  | .mapping, place => ∃ before, place = before ++ [.field "discriminator", .field "mapping"]
  | .target, place =>
    ∃ before name, place = before ++ [.field "discriminator", .field "mapping", .field name]
  | .plain, _ | .beside, _ => True

theorem Ends.next {zone : Zone} {place : List Step} (ends : zone.Ends place) (step : Step) :
    (zone.next step).Ends (place ++ [step]) := by
  rcases next_cases zone step with ⟨rfl, met⟩ | ⟨rfl, met⟩ | ⟨rfl, rfl, met⟩ |
    ⟨rfl, ⟨name, rfl⟩, met⟩ | met | met
  · rw [met]
    exact ⟨place, rfl⟩
  · rw [met]
    exact ⟨place, rfl⟩
  · rw [met]
    obtain ⟨before, rfl⟩ := ends
    exact ⟨before, by simp⟩
  · rw [met]
    obtain ⟨before, rfl⟩ := ends
    exact ⟨before, name, by simp⟩
  · rw [met]
    trivial
  · rw [met]
    trivial

theorem Ends.run {zone : Zone} {before : List Step} (ends : zone.Ends before)
    (rest : List Step) : (rest.foldl Zone.next zone).Ends (before ++ rest) := by
  induction rest generalizing zone before with
  | nil => rwa [List.append_nil]
  | cons step rest ih =>
    rw [List.foldl_cons, List.append_cons]
    exact ih (ends.next step)

theorem ends_ofPlace (place : List Step) : (ofPlace place).Ends place :=
  have root : plain.Ends [] := trivial
  root.run place

end Zone

theorem refers_of_zone (place : List Step)
    (zone : Zone.ofPlace place = .reference ∨ Zone.ofPlace place = .target) : Refers place := by
  have ends := Zone.ends_ofPlace place
  rcases zone with reference | target
  · rw [reference] at ends
    exact Or.inl ends
  · rw [target] at ends
    exact Or.inr ends

/-! What rewriting makes of a value by itself. -/

theorem head_qualify (source : String) (value : Json) :
    (qualify source value).head = value.head := by
  cases value with
  | arr items => rw [qualify, qualifyItems_eq, head, head, List.length_map]
  | obj fields => rw [qualify, head, head, qualifyFields_names]
  | _ => rfl

theorem qualifyTarget_cases (source : String) (value : Json) :
    qualifyTarget source value = value ∨ ∃ name, value = .str (start ++ name) ∧
      qualifyTarget source value = .str (start ++ qualifiedName source name) := by
  cases value with
  | str text =>
    rw [qualifyTarget, qualifyText]
    cases found : Text.afterStart? start text with
    | none => exact Or.inl rfl
    | some name => exact Or.inr ⟨name, (Text.afterStart?_eq_some_iff _ text name).mp found ▸ rfl, rfl⟩
  | _ => exact Or.inl rfl

theorem head_qualifyTargets (source : String) (value : Json) :
    (qualifyTargets source value).head = value.head := by
  cases value with
  | obj fields => simp [qualifyTargets, head]
  | _ => rfl

theorem head_qualifyIn (source : String) (zone : Zone) (value : Json) :
    (qualifyIn source zone value).head = value.head ∨
      (zone = .reference ∨ zone = .target) ∧ ∃ name, value = .str (start ++ name) ∧
        qualifyIn source zone value = .str (start ++ qualifiedName source name) := by
  have rewritten : (qualifyTarget source value).head = value.head ∨ ∃ name,
      value = .str (start ++ name) ∧
        qualifyTarget source value = .str (start ++ qualifiedName source name) :=
    (qualifyTarget_cases source value).imp_left (congrArg head)
  cases zone with
  | plain => exact Or.inl (head_qualify source value)
  | reference =>
    cases value with
    | str text => exact rewritten.imp_right fun changed => ⟨Or.inl rfl, changed⟩
    | _ => exact Or.inl (head_qualify source _)
  | discriminator =>
    cases value with
    | obj fields =>
      left
      change Head.obj ((qualifyMapping source fields).map Prod.fst) = _
      rw [qualifyMapping_fields, List.map_map]
      rfl
    | _ => exact Or.inl (head_qualify source _)
  | mapping => exact Or.inl (head_qualifyTargets source value)
  | target => exact rewritten.imp_right fun changed => ⟨Or.inr rfl, changed⟩
  | beside => exact Or.inl rfl

end Reference
end ApiAssembly
