import ApiAssembly.Content
import ApiAssembly.Declaration.Basic
/-! Type declarations in structured documents. A declaration is an object with named fields, or a list
of its fields in order; fields of other names are passed over, and a field that is given twice is
refused. A document holds a list of declarations, an object with such a list, or one of them. -/
namespace ApiAssembly.DeclarationDocument

/-- A field is given by its name or by its place, counted from zero. Other names are refused. -/
def fieldIndex? (names : List String) : Content → Option (Option Nat)
  | .str name => some (names.findIdx? (· = name))
  | .num (.int (.ofNat index)) => some (if index < names.length then some index else none)
  | _ => none

/-- The values of the named fields, absent ones included. -/
def fieldsOf? (names : List String) : Content → Option (List (Option Content))
  | .arr items =>
    if items.length ≤ names.length then
      some ((List.range names.length).map fun index => items[index]?)
    else none
  | .obj entries => do
    let placed ← entries.mapM fun entry => do pure (← fieldIndex? names entry.1, entry.2)
    (List.range names.length).mapM fun index =>
      match placed.filter fun entry => entry.1 = some index with
      | [] => some none
      | [(_, value)] => some (some value)
      | _ => none
  | _ => none

/-- A text that may be absent. Null stands for absence. -/
def optionalText? : Option Content → Option (Option String)
  | none => some none
  | some .null => some none
  | some (.str text) => some (some text)
  | some _ => none

def optionalValue? : Option Content → Option (Option Json)
  | none => some none
  | some .null => some none
  | some value => value.json?.map some

def parameter? (value : Content) : Option TypeParameter := do
  match ← fieldsOf? ["name", "type", "default", "description"] value with
  | [some (.str name), type, initial, description] =>
    pure ⟨name, ← optionalText? type, ← optionalValue? initial, ← optionalText? description⟩
  | _ => none

def parameters? : Option Content → Option (List TypeParameter)
  | none => some []
  | some (.arr items) => items.mapM parameter?
  | some _ => none

def declaration? (value : Content) : Option TypeDeclaration := do
  match ← fieldsOf? ["name", "params"] value with
  | [some (.str name), parameters] => pure ⟨name, ← parameters? parameters⟩
  | _ => none

def list? : Content → Option (List TypeDeclaration)
  | .arr items => items.mapM declaration?
  | _ => none

/-- The object around a list has names, and cannot be a list itself. -/
def wrapped? : Content → Option (List TypeDeclaration)
  | .obj entries => do
    match ← fieldsOf? ["types"] (.obj entries) with
    | [some types] => list? types
    | _ => none
  | _ => none

def read? (value : Content) : Option (List TypeDeclaration) :=
  ((list? value).or (wrapped? value)).or ((declaration? value).map fun single => [single])

end ApiAssembly.DeclarationDocument
