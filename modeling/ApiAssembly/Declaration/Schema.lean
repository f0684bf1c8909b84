import ApiAssembly.Declaration.Basic
import ApiAssembly.Scan.Literal
/-! Schemas of types of another language. A union of quoted texts is an enumeration; absence among
the members of a union does not count. Types that are not known keep their text. -/
namespace ApiAssembly.TypeSchema
open Scan Text

def typed (name : String) : Json := .obj [("type", .str name)]

def foreignMark : String := "x-foreign-type"

/-- Without a type the initial value tells as much as it can. -/
def ofInitial : Option Json → Json
  | some (.bool _) => typed "boolean"
  | some (.num _) => typed "number"
  | some (.arr _) => typed "array"
  | some (.obj _) => typed "object"
  | _ => typed "string"

def splitOn (separator : Char) : List Char → List (List Char)
  | [] => [[]]
  | c :: rest =>
    if c = separator then [] :: splitOn separator rest
    else
      match splitOn separator rest with
      | [] => [[c]]
      | piece :: more => (c :: piece) :: more

def members (type : List Char) : List (List Char) :=
  ((splitOn '|' type).map trim).filter fun member =>
    member ≠ "undefined".toList && member ≠ "null".toList

def literalText? (member : List Char) : Option Json :=
  match literal? member with
  | some (.str text) => some (.str text)
  | _ => none

/-- The element type of an array type, in either way of writing it. -/
def element? (type : List Char) : Option (List Char) :=
  match type.reverse with
  | ']' :: '[' :: inner => some inner.reverse
  | '>' :: inner =>
    let start := "Array<".toList
    if start.isPrefixOf inner.reverse then some (inner.reverse.drop start.length) else none
  | _ => none

def named (type : List Char) : Json :=
  let name := String.ofList type
  if name = "number" ∨ name = "float" ∨ name = "double" then typed "number"
  else if name = "integer" ∨ name = "int" then typed "integer"
  else if name = "boolean" ∨ name = "bool" then typed "boolean"
  else if name = "string" then typed "string"
  else .obj [("type", .str "object"), (foreignMark, .str name)]

theorem element?_length (type inner : List Char) (found : element? type = some inner) :
    inner.length < type.length := by
  unfold element? at found
  split at found
  · rename_i rest shape
    have := congrArg List.length shape
    simp at this found
    rw [← found]
    simp
    omega
  · rename_i rest shape
    have := congrArg List.length shape
    simp only at found
    split at found
    · simp only [Option.some.injEq] at found
      rw [← found]
      simp at this ⊢
      omega
    · simp at found
  · simp at found

theorem splitOn_length (separator : Char) (cs : List Char) :
    ∀ piece ∈ splitOn separator cs, piece.length ≤ cs.length := by
  induction cs with
  | nil => simp [splitOn]
  | cons c rest ih =>
    intro piece member
    unfold splitOn at member
    split at member
    · rcases List.mem_cons.mp member with first | later
      · simp [first]
      · have := ih piece later
        simp
        omega
    · split at member
      · simp_all
      · rename_i head more shape
        rcases List.mem_cons.mp member with first | later
        · have := ih head (by simp [shape])
          simp [first]
          omega
        · have := ih piece (by simp [shape, later])
          simp
          omega

def single (type : List Char) : List Char := ((members type).head?).getD type

theorem single_length (type : List Char) : (single type).length ≤ type.length := by
  unfold single
  cases first : (members type).head? with
  | none => simp
  | some member =>
    have inside := (List.mem_filter.mp (List.mem_of_mem_head? first)).1
    obtain ⟨piece, mem, same⟩ := List.mem_map.mp inside
    have := splitOn_length '|' type piece mem
    have := trim_length piece
    simp [← same]
    omega

/-- The schema of a type text without blanks around it. -/
def ofText (cs : List Char) : Json :=
  let type := trim cs
  if type.isEmpty then typed "string"
  else if (members type).length > 1 then
    match (members type).mapM literalText? with
    | some values => .obj [("enum", .arr values), ("type", .str "string")]
    | none => .obj [(foreignMark, .str (String.ofList type))]
  else
    match _element : element? (single type) with
    | some inner => .obj [("items", ofText inner), ("type", .str "array")]
    | none => named (single type)
termination_by cs.length
decreasing_by
  have shorter := element?_length _ inner _element
  have whole := single_length type
  have outer : type.length ≤ cs.length := trim_length cs
  omega

def ofType (type : Option String) (initial : Option Json) : Json :=
  match type with
  | some text => if isBlankText text then ofInitial initial else ofText text.toList
  | none => ofInitial initial

end ApiAssembly.TypeSchema
