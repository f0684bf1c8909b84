import ApiAssembly.Proofs.Operation.Entries
import ApiAssembly.Route
/-! Which parameters an operation has, and in which order. In front stands one parameter for each
placeholder of the path. A placeholder that comes up again takes the next declaration of its name,
and a plain text when none is left. Behind them the parameters of other places keep their order,
those of the path before those of the operation. -/
namespace ApiAssembly
namespace Parameter

/-- The declarations of one path parameter. -/
def named (name : String) (declared : List Parameter) : List Parameter :=
  declared.filter fun parameter => parameter.place = .path && parameter.name = name

/-- The parameters that do not stand in the path. -/
def beside (declared : List Parameter) : List Parameter :=
  declared.filter fun parameter => parameter.place ≠ .path

/-- The declarations that count for a path parameter. Those of the operation replace all those of its
path. -/
def declarations (inherited own : List Parameter) (name : String) : List Parameter :=
  if named name own = [] then named name inherited else named name own

/-- The parameter at one placeholder. Every earlier one of the same name has used up a declaration. -/
def atPlaceholder (names : List String) (declared : String → List Parameter) (index : Nat)
    (name : String) : Parameter :=
  ((declared name)[(names.take index).count name]?).getD (plain name)

def front (names : List String) (declared : String → List Parameter) : List Parameter :=
  names.mapIdx (atPlaceholder names declared)

theorem mem_named_iff (name : String) (declared : List Parameter) (parameter : Parameter) :
    parameter ∈ named name declared ↔
      parameter ∈ declared ∧ parameter.place = .path ∧ parameter.name = name := by
  simp [named]

theorem named_append (name : String) (left right : List Parameter) :
    named name (left ++ right) = named name left ++ named name right :=
  List.filter_append left right

theorem named_cons (name : String) (parameter : Parameter) (rest : List Parameter) :
    named name (parameter :: rest) =
      if parameter.place = .path ∧ parameter.name = name then parameter :: named name rest
      else named name rest := by
  simp only [named, List.filter_cons, Bool.and_eq_true, decide_eq_true_eq]

theorem beside_append (left right : List Parameter) :
    beside (left ++ right) = beside left ++ beside right :=
  List.filter_append left right

theorem take?_cons (name : String) (parameter : Parameter) (rest : List Parameter) :
    take? name (parameter :: rest) =
      if parameter.place = .path ∧ parameter.name = name then some (parameter, rest)
      else (take? name rest).map fun taken => (taken.1, parameter :: taken.2) := by
  simp [take?]

theorem take?_none (name : String) (declared : List Parameter)
    (missing : take? name declared = none) : named name declared = [] := by
  induction declared with
  | nil => rfl
  | cons parameter rest ih =>
    rw [take?_cons] at missing
    split at missing
    · cases missing
    · rename_i differs
      rw [named_cons, if_neg differs, ih (Option.map_eq_none_iff.mp missing)]

/-- What is taken is the first declaration of its name. -/
theorem take?_some (name : String) (declared rest : List Parameter) (parameter : Parameter)
    (taken : take? name declared = some (parameter, rest)) :
    (parameter.place = .path ∧ parameter.name = name) ∧
      ∃ before after, declared = before ++ parameter :: after ∧ rest = before ++ after ∧
        named name before = [] := by
  induction declared generalizing rest with
  | nil => cases taken
  | cons head tail ih =>
    rw [take?_cons] at taken
    split at taken
    · rename_i hit
      cases taken
      exact ⟨hit, [], tail, rfl, rfl, rfl⟩
    · rename_i differs
      obtain ⟨⟨found, others⟩, inner, same⟩ := Option.map_eq_some_iff.mp taken
      cases same
      obtain ⟨hit, before, after, parts, left, none⟩ := ih others inner
      refine ⟨hit, head :: before, after, ?_, ?_, ?_⟩
      · rw [parts, List.cons_append]
      · rw [left, List.cons_append]
      · rw [named_cons, if_neg differs, none]

/-- Taking a declaration shortens the list of its own name and leaves all else alone. -/
theorem take?_leaves (name : String) (declared rest : List Parameter) (parameter : Parameter)
    (taken : take? name declared = some (parameter, rest)) :
    named name declared = parameter :: named name rest ∧
      (∀ other, other ≠ name → named other rest = named other declared) ∧
      beside rest = beside declared := by
  obtain ⟨hit, before, after, rfl, rfl, none⟩ := take?_some name declared rest parameter taken
  refine ⟨?_, ?_, ?_⟩
  · rw [named_append, named_append, none, named_cons, if_pos hit, List.nil_append, List.nil_append]
  · intro other differ
    rw [named_append, named_append, named_cons, if_neg fun same => differ (same.2.symm.trans hit.2)]
  · rw [beside_append, beside_append]
    simp [beside, hit.1]

/-- The first placeholder takes the first declaration, and the others share what is left. -/
theorem front_cons (name : String) (names : List String) (declared : String → List Parameter) :
    front (name :: names) declared =
      (declared name).head?.getD (plain name) ::
        front names fun other => if other = name then (declared name).tail else declared other := by
  unfold front
  rw [List.mapIdx_cons]
  congr 1
  · simp [atPlaceholder, List.head?_eq_getElem?]
  · congr 1
    funext index other
    by_cases same : other = name
    · subst same
      simp [atPlaceholder]
    · simp [atPlaceholder, same, Ne.symm same]

theorem arrange_eq (names : List String) (declared : List Parameter) :
    arrange names declared =
      front names (fun name => named name declared) ++ beside declared := by
  induction names generalizing declared with
  | nil => rfl
  | cons name names ih =>
    rw [arrange, front_cons]
    cases taken : take? name declared with
    | none =>
      -- Without a declaration the name stays so for all the placeholders that follow.
      have none := take?_none name declared taken
      have same : (fun other => if other = name then (named name declared).tail
          else named other declared) = fun other => named other declared := by
        funext other
        by_cases hit : other = name <;> simp [hit, none]
      rw [same, none, List.head?_nil, Option.getD_none, ih, List.cons_append]
    | some pair =>
      obtain ⟨parameter, rest⟩ := pair
      -- The later placeholders of the name see what is left of its declarations.
      obtain ⟨own, others, kept⟩ := take?_leaves name declared rest parameter taken
      have same : (fun other => if other = name then (named name declared).tail
          else named other declared) = fun other => named other rest := by
        funext other
        by_cases hit : other = name
        · simp [hit, own]
        · simp [hit, others other hit]
      rw [same, own, List.head?_cons, Option.getD_some, List.cons_append, ← kept, ← ih]

theorem any_sameSlot_iff (own : List Parameter) (parameter : Parameter) :
    own.any (sameSlot parameter) = true ↔
      ∃ other ∈ own, parameter.name = other.name ∧ parameter.place = other.place := by
  simp [sameSlot]

theorem named_overridden (inherited own : List Parameter) (name : String) :
    named name (overridden inherited own) = declarations inherited own name := by
  -- One declaration of the operation removes all those that its path has for the name.
  have kept : named name (inherited.filter fun parameter => !own.any (sameSlot parameter)) =
      if named name own = [] then named name inherited else [] := by
    unfold named
    rw [List.filter_filter]
    split
    · rename_i none
      refine List.filter_congr fun parameter _ => ?_
      by_cases hit : parameter.place = .path ∧ parameter.name = name
      · have free : own.any (sameSlot parameter) = false := by
          rw [Bool.eq_false_iff, ne_eq, any_sameSlot_iff]
          rintro ⟨other, member, spelled, placed⟩
          have listed : other ∈ named name own :=
            (mem_named_iff name own other).mpr
              ⟨member, placed.symm.trans hit.1, spelled.symm.trans hit.2⟩
          rw [named, none] at listed
          cases listed
        simp [free]
      · simp [hit]
    · rename_i some
      obtain ⟨other, listed⟩ := List.exists_mem_of_ne_nil _ some
      obtain ⟨member, placed, spelled⟩ := (mem_named_iff name own other).mp listed
      rw [List.filter_eq_nil_iff]
      intro parameter _ hit
      simp only [Bool.and_eq_true, decide_eq_true_eq] at hit
      have taken := (any_sameSlot_iff own parameter).mpr
        ⟨other, member, hit.1.2.trans spelled.symm, hit.1.1.trans placed.symm⟩
      rw [taken] at hit
      cases hit.2
  rw [overridden, named_append, declarations, kept]
  split
  · rename_i none
    rw [none, List.append_nil]
  · rfl

theorem beside_overridden (inherited own : List Parameter) :
    beside (overridden inherited own) =
      ((beside inherited).filter fun parameter =>
        ∀ other ∈ own, ¬(parameter.name = other.name ∧ parameter.place = other.place)) ++
      beside own := by
  rw [overridden, beside_append]
  congr 1
  rw [beside, beside, List.filter_filter, List.filter_filter]
  refine List.filter_congr fun parameter _ => ?_
  have free : (!own.any (sameSlot parameter)) = decide (∀ other ∈ own,
      ¬(parameter.name = other.name ∧ parameter.place = other.place)) := by
    rw [Bool.eq_iff_iff, Bool.not_eq_true', Bool.eq_false_iff, ne_eq, any_sameSlot_iff,
      decide_eq_true_eq]
    simp only [not_exists, not_and]
  rw [free, Bool.and_comm]

theorem merge_eq (path : String) (inherited own : List Parameter) :
    merge path inherited own =
      front (PathTemplate.placeholders path) (declarations inherited own) ++
        beside (overridden inherited own) := by
  rw [merge, arrange_eq]
  congr 2
  funext name
  exact named_overridden inherited own name

theorem front_length (names : List String) (declared : String → List Parameter) :
    (front names declared).length = names.length :=
  List.length_mapIdx

theorem front_at (before after : List String) (name : String)
    (declared : String → List Parameter) :
    (front (before ++ name :: after) declared)[before.length]? =
      some (((declared name)[before.count name]?).getD (plain name)) := by
  simp [front, atPlaceholder]

theorem mem_front (names : List String) (declared : String → List Parameter)
    (parameter : Parameter) (member : parameter ∈ front names declared) :
    ∃ name, parameter ∈ declared name ∨ parameter = plain name := by
  obtain ⟨index, inside, rfl⟩ := List.mem_mapIdx.mp member
  refine ⟨names[index], ?_⟩
  unfold atPlaceholder
  cases held : (declared names[index])[(names.take index).count names[index]]? with
  | none => exact Or.inr rfl
  | some found => exact Or.inl (List.mem_of_getElem? held)

section Declarations
variable (inherited own : List Parameter)

theorem mem_declarations (name : String) (parameter : Parameter)
    (member : parameter ∈ declarations inherited own name) :
    (parameter ∈ inherited ∨ parameter ∈ own) ∧ parameter.place = .path ∧ parameter.name = name := by
  unfold declarations at member
  split at member
  · obtain ⟨declared, fits⟩ := (mem_named_iff name inherited parameter).mp member
    exact ⟨Or.inl declared, fits⟩
  · obtain ⟨declared, fits⟩ := (mem_named_iff name own parameter).mp member
    exact ⟨Or.inr declared, fits⟩

theorem atPlaceholder_name (names : List String) (index : Nat) (name : String) :
    (atPlaceholder names (declarations inherited own) index name).name = name := by
  unfold atPlaceholder
  cases held : (declarations inherited own name)[(names.take index).count name]? with
  | none => rfl
  | some found =>
    exact (mem_declarations inherited own name found (List.mem_of_getElem? held)).2.2

theorem front_names (names : List String) :
    (front names (declarations inherited own)).map Parameter.name = names := by
  apply List.ext_getElem
  · rw [List.length_map, front_length]
  · intro index _ inside
    simp only [front, List.getElem_map, List.getElem_mapIdx, atPlaceholder_name]

theorem front_path (names : List String) (parameter : Parameter)
    (member : parameter ∈ front names (declarations inherited own)) : parameter.place = .path := by
  obtain ⟨name, declared | rfl⟩ := mem_front names _ parameter member
  · exact (mem_declarations inherited own name parameter declared).2.1
  · rfl

theorem front_required (names : List String) (parameter : Parameter)
    (required : ∀ declared, declared ∈ inherited ∨ declared ∈ own →
      declared.place = .path → declared.required = true)
    (member : parameter ∈ front names (declarations inherited own)) : parameter.required = true := by
  obtain ⟨name, declared | rfl⟩ := mem_front names _ parameter member
  · obtain ⟨stated, path, _⟩ := mem_declarations inherited own name parameter declared
    exact required parameter stated path
  · rfl

end Declarations

theorem readAll_required (value : Option Json) (parameter : Parameter)
    (member : parameter ∈ readAll value) (path : parameter.place = .path) :
    parameter.required = true := by
  obtain ⟨_, item, _, _, read⟩ := mem_readAll value parameter member
  unfold ofJson? at read
  obtain ⟨name, _, later⟩ := Option.bind_eq_some_iff.mp read
  obtain ⟨place, _, made⟩ := Option.bind_eq_some_iff.mp later
  cases made
  simp only at path
  simp [path]

theorem pathParameters_append (front rest : List Parameter)
    (leading : ∀ parameter ∈ front, parameter.place = .path) :
    ((front ++ beside rest).filter fun parameter => parameter.place = .path) = front := by
  have none : (beside rest).filter (fun parameter => parameter.place = .path) = [] := by
    rw [List.filter_eq_nil_iff]
    intro parameter member path
    have outside := (List.mem_filter.mp member).2
    rw [of_decide_eq_true path] at outside
    cases outside
  have all : front.filter (fun parameter => parameter.place = .path) = front :=
    List.filter_eq_self.mpr fun parameter member => decide_eq_true (leading parameter member)
  rw [List.filter_append, none, all, List.append_nil]

end Parameter

namespace Operation
open Parameter

section Reading
variable (source path : String) (item : List (String × Json)) (method : Method) (value : Json)

/-- What the two lists of an operation declare for a path parameter. -/
def declarationsOf (name : String) : List Parameter :=
  declarations (readAll (Entries.find? "parameters" item)) (readAll (value.get? "parameters")) name

theorem parameters_ofJson :
    (ofJson source path item method value).parameters =
      front (PathTemplate.placeholders path) (declarationsOf item value) ++
        beside (overridden (readAll (Entries.find? "parameters" item))
          (readAll (value.get? "parameters"))) :=
  merge_eq path _ _

theorem pathParameters_ofJson :
    (ofJson source path item method value).pathParameters =
      front (PathTemplate.placeholders path) (declarationsOf item value) := by
  rw [pathParameters, parameters_ofJson]
  exact pathParameters_append _ _ (front_path _ _ _)

theorem names_ofJson :
    (ofJson source path item method value).pathParameters.map Parameter.name =
      PathTemplate.placeholders path := by
  rw [pathParameters_ofJson]
  exact front_names _ _ _

theorem required_of_front (parameter : Parameter)
    (member : parameter ∈ front (PathTemplate.placeholders path) (declarationsOf item value)) :
    parameter.required = true := by
  refine front_required _ _ _ parameter ?_ member
  rintro declared (inherited | own)
  · exact readAll_required _ declared inherited
  · exact readAll_required _ declared own

theorem arity_ofJson (stubs : List OperationKey) :
    (Route.ofOperation stubs (ofJson source path item method value)).arity =
      (PathTemplate.placeholders path).length +
        if (ofJson source path item method value).body.any RequestBody.required then 1 else 0 := by
  rw [Route.arity, Route.ofOperation, names_ofJson, Route.bodyRequired]
  cases (ofJson source path item method value).body with
  | none => rfl
  | some body => rfl

end Reading

/-- The parameters of an operation, whatever its path, its own list and the list of its path are. -/
theorem parameters_inherited (source path : String) (item : List (String × Json)) (method : Method)
    (value : Json) (stubs : List OperationKey) :
    let names := PathTemplate.placeholders path
    let inherited := readAll (Entries.find? "parameters" item)
    let own := readAll (value.get? "parameters")
    let operation := ofJson source path item method value
    ∃ leading,
      operation.parameters = leading ++
        (((beside inherited).filter fun parameter =>
          ∀ other ∈ own, ¬(parameter.name = other.name ∧ parameter.place = other.place)) ++
        beside own) ∧
      leading.map Parameter.name = names ∧
      (∀ parameter ∈ leading, parameter.place = .path ∧ parameter.required = true) ∧
      (∀ before name after, names = before ++ name :: after →
        leading[before.length]? =
          some (((declarations inherited own name)[before.count name]?).getD (plain name))) ∧
      (∀ parameter ∈ operation.parameters, parameter.place = .path → parameter.name ∈ names) ∧
      (Route.ofOperation stubs operation).arity =
        names.length + if operation.body.any RequestBody.required then 1 else 0 := by
  intro names inherited own operation
  refine ⟨front names (declarations inherited own), ?_, front_names inherited own names, ?_, ?_, ?_,
    arity_ofJson source path item method value stubs⟩
  · exact (parameters_ofJson source path item method value).trans
      (congrArg _ (beside_overridden inherited own))
  · intro parameter member
    exact ⟨front_path inherited own names parameter member,
      required_of_front path item value parameter member⟩
  · intro before name after parts
    rw [parts]
    exact front_at before after name _
  · intro parameter member inPath
    have kept : parameter ∈ operation.pathParameters :=
      List.mem_filter.mpr ⟨member, decide_eq_true inPath⟩
    have spelled : operation.pathParameters.map Parameter.name = names :=
      names_ofJson source path item method value
    rw [← spelled]
    exact List.mem_map_of_mem kept

end Operation
end ApiAssembly
