import ApiAssembly.Dict.Basic
import ApiAssembly.Decimal.Nearest
/-! JSON values. A number is an integer as written, or a decimal when it has a fraction, an
exponent or too many digits. The fields of an object are ordered by name. -/
namespace ApiAssembly

inductive Number where
  | int (value : Int)
  | real (value : Decimal)
deriving DecidableEq

inductive Json where
  | null
  | bool (value : Bool)
  | num (value : Number)
  | str (value : String)
  | arr (items : List Json)
  | obj (fields : List (String × Json))
deriving Inhabited

namespace Number

/-- Integers are kept exactly while they fit 64 bits, with or without a sign. -/
def fitsWord (value : Int) : Bool :=
  -0x8000000000000000 ≤ value && value < 0x10000000000000000

def toReal : Number → Decimal
  | .int value => Decimal.ofInt value
  | .real value => value

end Number

namespace Json

mutual
def decEq : (left right : Json) → Decidable (left = right)
  | .null, .null => isTrue rfl
  | .bool left, .bool right => decidable_of_iff (left = right) (by simp)
  | .num left, .num right => decidable_of_iff (left = right) (by simp)
  | .str left, .str right => decidable_of_iff (left = right) (by simp)
  | .arr left, .arr right => @decidable_of_iff _ (left = right) (by simp) (decEqItems left right)
  | .obj left, .obj right => @decidable_of_iff _ (left = right) (by simp) (decEqFields left right)
  | .null, .bool _ | .null, .num _ | .null, .str _ | .null, .arr _ | .null, .obj _
  | .bool _, .null | .bool _, .num _ | .bool _, .str _ | .bool _, .arr _ | .bool _, .obj _
  | .num _, .null | .num _, .bool _ | .num _, .str _ | .num _, .arr _ | .num _, .obj _
  | .str _, .null | .str _, .bool _ | .str _, .num _ | .str _, .arr _ | .str _, .obj _
  | .arr _, .null | .arr _, .bool _ | .arr _, .num _ | .arr _, .str _ | .arr _, .obj _
  | .obj _, .null | .obj _, .bool _ | .obj _, .num _ | .obj _, .str _ | .obj _, .arr _ =>
    isFalse (by simp)
def decEqItems : (left right : List Json) → Decidable (left = right)
  | [], [] => isTrue rfl
  | [], _ :: _ | _ :: _, [] => isFalse (by simp)
  | left :: lefts, right :: rights =>
    match decEq left right, decEqItems lefts rights with
    | isTrue head, isTrue tail => isTrue (by rw [head, tail])
    | isFalse differ, _ | _, isFalse differ => isFalse (by grind)
def decEqFields : (left right : List (String × Json)) → Decidable (left = right)
  | [], [] => isTrue rfl
  | [], _ :: _ | _ :: _, [] => isFalse (by simp)
  | (leftName, left) :: lefts, (rightName, right) :: rights =>
    match (inferInstance : Decidable (leftName = rightName)), decEq left right,
      decEqFields lefts rights with
    | isTrue name, isTrue head, isTrue tail => isTrue (by rw [name, head, tail])
    | isFalse differ, _, _ | _, isFalse differ, _ | _, _, isFalse differ => isFalse (by grind)
end

instance : DecidableEq Json := decEq

/-- What holds of a value whenever it holds of its parts holds of every value. -/
theorem induct {motive : Json → Prop} (null : motive .null) (bool : ∀ value, motive (.bool value))
    (num : ∀ value, motive (.num value)) (str : ∀ value, motive (.str value))
    (arr : ∀ items, (∀ item ∈ items, motive item) → motive (.arr items))
    (obj : ∀ fields, (∀ field ∈ fields, motive field.2) → motive (.obj fields)) (value : Json) :
    motive value :=
  @Json.rec motive (fun items => ∀ item ∈ items, motive item)
    (fun fields => ∀ field ∈ fields, motive field.2) (fun field => motive field.2) null bool num str
    arr obj nofun (fun _ _ first later => List.forall_mem_cons.mpr ⟨first, later⟩) nofun
    (fun _ _ first later => List.forall_mem_cons.mpr ⟨first, later⟩) (fun _ _ inner => inner) value

/-- A repeated name keeps its last value. -/
def ofFields (pairs : List (String × Json)) : Json := .obj (Entries.ofList pairs)

def get? (name : String) : Json → Option Json
  | .obj fields => Entries.find? name fields
  | _ => none

def str? : Json → Option String
  | .str value => some value
  | _ => none

def bool? : Json → Option Bool
  | .bool value => some value
  | _ => none

def arr? : Json → Option (List Json)
  | .arr items => some items
  | _ => none

def obj? : Json → Option (List (String × Json))
  | .obj fields => some fields
  | _ => none

def real? : Json → Option Decimal
  | .num value => some value.toReal
  | _ => none

def isObject (value : Json) : Bool := value.obj?.isSome

def isNull : Json → Bool
  | .null => true
  | _ => false

def getStr? (name : String) (value : Json) : Option String := (value.get? name).bind str?

def getObj? (name : String) (value : Json) : Option (List (String × Json)) :=
  (value.get? name).bind obj?

end Json
end ApiAssembly
