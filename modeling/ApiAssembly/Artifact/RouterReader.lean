import ApiAssembly.Artifact.Router
/-! Reading the route table back from the text of a router. A row starts its line, blanks apart, and
gives method, path and operation as quoted texts. Rows of unknown methods are passed over. -/
namespace ApiAssembly.Router
open Text

structure Row where
  method : Method
  path : String
  operationId : String
deriving DecidableEq

def Row.ofRoute (route : Route) : Row := ⟨route.method, route.path, route.operationId⟩

def after? (text cs : List Char) : Option (List Char) :=
  if text.isPrefixOf cs then some (cs.drop text.length) else none

/-- The quoted parts of a row as written, and what follows the last of them. -/
structure RawRow where
  method : List Char
  path : List Char
  operationId : List Char
  rest : List Char

def rawRow? (cs : List Char) : Option RawRow := do
  let cs ← after? (rowStart ++ "\"").toList (trimStart cs)
  let method := cs.takeWhile Char.isUpper
  if method.isEmpty then none
  else
    let cs ← after? "\", path: \"".toList (cs.dropWhile Char.isUpper)
    let (path, cs) ← Quoted.body? cs
    let cs ← after? ", operation_id: \"".toList cs
    let (operationId, cs) ← Quoted.body? cs
    pure ⟨method, path, operationId, cs⟩

def Row.ofRaw? (raw : RawRow) : Option Row :=
  (Method.parse? (String.ofList raw.method)).map fun method =>
    ⟨method, String.ofList (Quoted.unescape raw.path),
      String.ofList (Quoted.unescape raw.operationId)⟩

theorem after?_length (text cs rest : List Char) (found : after? text cs = some rest) :
    rest.length ≤ cs.length := by
  unfold after? at found
  split at found
  · simp only [Option.some.injEq] at found
    simp [← found]
  · simp at found

theorem rawRow?_length (cs : List Char) (raw : RawRow) (found : rawRow? cs = some raw) :
    raw.rest.length < cs.length := by
  unfold rawRow? at found
  obtain ⟨first, starts, found⟩ := Option.bind_eq_some_iff.mp found
  simp only at found
  split at found
  · simp at found
  · obtain ⟨second, between, found⟩ := Option.bind_eq_some_iff.mp found
    obtain ⟨path, pathBody, found⟩ := Option.bind_eq_some_iff.mp found
    obtain ⟨third, behind, found⟩ := Option.bind_eq_some_iff.mp found
    obtain ⟨id, idBody, found⟩ := Option.bind_eq_some_iff.mp found
    simp only [Option.pure_def, Option.some.injEq] at found
    have := after?_length _ _ _ starts
    have := after?_length _ _ _ between
    have := Quoted.body?_length _ _ _ pathBody
    have := after?_length _ _ _ behind
    have := Quoted.body?_length _ _ _ idBody
    have : (trimStart cs).length ≤ cs.length := (List.dropWhile_suffix isBlank).length_le
    have := (List.dropWhile_suffix Char.isUpper (l := first)).length_le
    rw [← found]
    show id.2.length < cs.length
    omega

/-- The rows of a text in order. The search goes on behind each row. -/
def rawRows (lineStart : Bool) (cs : List Char) : List RawRow :=
  match _row : if lineStart then rawRow? cs else none with
  | some raw => raw :: rawRows false raw.rest
  | none =>
    match cs with
    | [] => []
    | c :: rest => rawRows (c = '\n') rest
termination_by cs.length
decreasing_by
  · split at _row
    · exact rawRow?_length cs raw _row
    · simp at _row
  · simp

def rows (text : String) : List Row := (rawRows true text.toList).filterMap Row.ofRaw?

end ApiAssembly.Router
