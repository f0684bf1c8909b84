import ApiAssembly.Declaration.Basic
import ApiAssembly.Declaration.DocComment
import ApiAssembly.Declaration.InitialValue
/-! Classes in declaration files. Each class starts on a line of its own and reaches up to the next
one. Its first constructor gives the parameters; a class without constructor has none. -/
namespace ApiAssembly
open Scan Text

namespace ClassText

def afterKeyword? (word cs : List Char) : Option (List Char) :=
  if word.isPrefixOf cs && ((cs.drop word.length).head?.any isBlank) then
    some (trimStart (cs.drop word.length))
  else none

def skipKeyword (word cs : List Char) : List Char := (afterKeyword? word cs).getD cs

/-- The name of the class that the text starts with, and what follows the name. -/
def head? (cs : List Char) : Option (List Char × List Char) := do
  let rest := skipKeyword "export".toList (trimStart cs)
  let rest := skipKeyword "declare".toList rest
  let rest := skipKeyword "abstract".toList rest
  DocComment.name? (← afterKeyword? "class".toList rest)

theorem afterKeyword?_length (word cs rest : List Char)
    (found : afterKeyword? word cs = some rest) : rest.length ≤ cs.length := by
  unfold afterKeyword? at found
  split at found
  · simp only [Option.some.injEq] at found
    have := (List.dropWhile_suffix isBlank (l := cs.drop word.length)).length_le
    rw [← found]
    simp only [trimStart, List.length_drop] at *
    omega
  · simp at found

theorem skipKeyword_length (word cs : List Char) :
    (skipKeyword word cs).length ≤ cs.length := by
  unfold skipKeyword
  cases found : afterKeyword? word cs with
  | none => simp
  | some rest => exact afterKeyword?_length word cs rest found

theorem name?_length (cs name rest : List Char)
    (found : DocComment.name? cs = some (name, rest)) : rest.length < cs.length := by
  cases cs with
  | nil => simp [DocComment.name?] at found
  | cons c tail =>
    simp only [DocComment.name?] at found
    split at found
    · simp only [Option.some.injEq, Prod.mk.injEq] at found
      have := (List.dropWhile_suffix DocComment.isNameChar (l := tail)).length_le
      rw [← found.2]
      simp
      omega
    · simp at found

theorem head?_length (cs name rest : List Char) (found : head? cs = some (name, rest)) :
    rest.length < cs.length := by
  obtain ⟨behind, keyword, named⟩ := Option.bind_eq_some_iff.mp found
  have := afterKeyword?_length _ _ _ keyword
  have := name?_length _ _ _ named
  have := (List.dropWhile_suffix isBlank (l := cs)).length_le
  have first := skipKeyword_length "export".toList (trimStart cs)
  have second := skipKeyword_length "declare".toList (skipKeyword "export".toList (trimStart cs))
  have third := skipKeyword_length "abstract".toList
    (skipKeyword "declare".toList (skipKeyword "export".toList (trimStart cs)))
  simp only [trimStart] at *
  omega

def close : Option (List Char × List Char) → List (List Char × List Char)
  | some (name, text) => [(name, text.reverse)]
  | none => []

/-- The classes of a text with their texts. The current one is kept last character first. -/
def regionsFrom (lineStart : Bool) (current : Option (List Char × List Char)) (cs : List Char) :
    List (List Char × List Char) :=
  match _head : if lineStart then head? cs else none with
  | some (name, rest) =>
    close current ++
      regionsFrom false (some (name, (cs.take (cs.length - rest.length)).reverse)) rest
  | none =>
    match cs with
    | [] => close current
    | c :: rest => regionsFrom (c = '\n') (current.map fun (name, text) => (name, c :: text)) rest
termination_by cs.length
decreasing_by
  · split at _head
    · exact head?_length cs name rest _head
    · simp at _head
  · simp

/-- The reversed text before the first constructor, and the text from its bracket on. -/
def constructorFrom (before : List Char) (cs : List Char) : Option (List Char × List Char) :=
  let word := "constructor".toList
  let behind := trimStart (cs.drop word.length)
  if word.isPrefixOf cs && behind.head? = some '(' && !before.head?.any isWordChar then
    some (before, behind)
  else
    match cs with
    | [] => none
    | c :: rest => constructorFrom (c :: before) rest

def modifiers : List (List Char) :=
  ["public".toList, "private".toList, "protected".toList, "readonly".toList]

/-- A modifier counts as one only when a name follows it. -/
def afterModifier? (cs : List Char) : Option (List Char) :=
  modifiers.findSome? fun word =>
    (afterKeyword? word cs).filter fun rest => rest.head?.any DocComment.isNameStart

def skipModifiers : Nat → List Char → List Char
  | 0, cs => cs
  | fuel + 1, cs =>
    match afterModifier? cs with
    | some rest => skipModifiers fuel rest
    | none => cs

/-- What may follow a type: nothing, or an equals sign and a default. -/
def ending? (cs : List Char) : Option (Option (List Char)) :=
  match trimStart cs with
  | [] => some none
  | '=' :: value => if value.isEmpty then none else some (some (trimStart value))
  | _ => none

/-- The type is the shortest text behind which the parameter can end. -/
def typeFrom (type : List Char) (cs : List Char) : List Char × Option (List Char) :=
  match ending? cs with
  | some initial => (type.reverse, initial)
  | none =>
    match cs with
    | [] => (type.reverse, none)
    | c :: rest => typeFrom (c :: type) rest

structure RawParameter where
  name : List Char
  type : Option (List Char)
  initial : Option (List Char)
deriving DecidableEq

def rawParameter? (cs : List Char) : Option RawParameter := do
  let (name, rest) ← DocComment.name? (skipModifiers cs.length cs)
  match trimStart (DocComment.dropOne '?' rest) with
  | [] => pure ⟨name, none, none⟩
  | ':' :: behind =>
    match trimStart behind with
    | [] => none
    | c :: rest =>
      let (type, initial) := typeFrom [c] rest
      pure ⟨name, some (trim type), initial⟩
  | rest => (ending? rest).map fun initial => ⟨name, none, initial⟩

def describedAs (docs : List ParameterDoc) (name : String) : Option (List Char) × Option String :=
  match docs.find? fun doc => doc.name = name with
  | some doc => (doc.initial, if doc.description.isEmpty then none else some doc.description)
  | none => (none, none)

def parameter (docs : List ParameterDoc) (raw : RawParameter) : TypeParameter :=
  let name := String.ofList raw.name
  let (bracketed, description) := describedAs docs name
  let stated := (raw.initial.or bracketed).or (description.bind DocComment.defaultIn?)
  ⟨name, raw.type.map String.ofList, stated.bind InitialValue.read?, description⟩

inductive ClassFault where
  | unbalanced
  | unreadable
  | parameter (text : String)
deriving DecidableEq

def ClassFault.message : ClassFault → String
  | unbalanced => "unbalanced constructor signature; skipped"
  | unreadable => "unreadable constructor parameters; skipped"
  | parameter text => "unrecognised parameter `" ++ text ++ "`"

/-- The declaration of a class, unless it is passed over, and what could not be read of it. -/
structure Reading where
  declaration : Option TypeDeclaration
  faults : List ClassFault

/-- Rest parameters are left out. -/
def addParameter (docs : List ParameterDoc) (piece : List Char)
    (found : List TypeParameter × List ClassFault) : List TypeParameter × List ClassFault :=
  if ['.', '.', '.'].isPrefixOf piece then found
  else
    match rawParameter? piece with
    | some raw => (parameter docs raw :: found.1, found.2)
    | none => (found.1, .parameter (String.ofList piece) :: found.2)

def ofRegion (name : String) (region : List Char) : Reading :=
  match constructorFrom [] region with
  | none => ⟨some ⟨name, []⟩, []⟩
  | some (before, signature) =>
    match block? signature with
    | none => ⟨none, [.unbalanced]⟩
    | some (inside, _) =>
      match pieces? inside with
      | none => ⟨none, [.unreadable]⟩
      | some pieces =>
        let docs := ((DocComment.ofReversed? before).map DocComment.ofText).getD []
        let found := pieces.foldr (addParameter docs) ([], [])
        ⟨some ⟨name, found.1⟩, found.2⟩

def readings (text : String) : List (String × Reading) :=
  (regionsFrom true none text.toList).map fun (name, region) =>
    (String.ofList name, ofRegion (String.ofList name) region)

def declarations (text : String) : List TypeDeclaration :=
  (readings text).filterMap fun entry => entry.2.declaration

def warnings (label text : String) : List String :=
  (readings text).flatMap fun (name, reading) =>
    reading.faults.map fun fault => label ++ ": class '" ++ name ++ "': " ++ fault.message

end ClassText
end ApiAssembly
