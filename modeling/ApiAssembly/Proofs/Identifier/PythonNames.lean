import ApiAssembly.Proofs.Artifact.NamesApart
import ApiAssembly.Proofs.Identifier.CapitalizedNames
import ApiAssembly.Proofs.Identifier.RustNames
/-! Which generated names are identifiers of a Python program. A digit in front and an empty name get an
underscore, which is a name by itself there, and each keyword gets one behind. The marks that keep the
names of a client free come after those, and make no keyword out of another name. -/
namespace ApiAssembly.Identifier
open Text

/-- The keywords of the language. The receiver of a method is not among them. -/
def reservedPython : List String := [
  "False", "None", "True", "and", "as", "assert", "async", "await", "break", "class", "continue",
  "def", "del", "elif", "else", "except", "finally", "for", "from", "global", "if", "import", "in",
  "is", "lambda", "nonlocal", "not", "or", "pass", "raise", "return", "try", "while", "with", "yield"]

/-- A word of letters, digits and underscores without a digit in front, and no keyword. -/
def isPythonName (name : String) : Bool :=
  (name.toList.head?.any fun c => !c.isDigit) && name.toList.all continuesName &&
    !reservedPython.contains name

theorem isPythonName_iff (name : String) :
    isPythonName name = true ↔
      (name.toList.head?.any fun c => !c.isDigit) = true ∧ name.toList.all continuesName = true ∧
        name ∉ reservedPython := by
  simp [isPythonName, and_assoc]

theorem head?_any_of_headed (name : String) (headed : lacksHead name = false) :
    (name.toList.head?.any fun c => !c.isDigit) = true := by
  unfold lacksHead at headed
  cases shape : name.toList.head? with
  | none => simp [shape] at headed
  | some c => simpa [shape] using headed

/-- A name of letters, digits and underscores is made usable in all cases. -/
theorem isPythonName_python (name : String) (spelled : name.toList.all continuesName = true) :
    isPythonName (python name) = true := by
  by_cases headless : lacksHead name = true
  · -- No keyword starts with the mark.
    have marked : python name = "_" ++ name := if_pos headless
    have shape : (python name).toList = '_' :: name.toList := toList_of_marked marked.symm
    rw [isPythonName_iff]
    refine ⟨by rw [shape]; rfl, ?_, toList_ne_of_head _ _ '_' _ shape (by decide)⟩
    rw [shape, List.all_cons, spelled]
    rfl
  · rcases python_cases name with ⟨lacks, -⟩ | ⟨keyword, same⟩ | ⟨free, same⟩
    · exact absurd lacks headless
    · have table : ∀ keyword ∈ pythonKeywords, isPythonName (keyword ++ "_") = true := by decide
      exact same ▸ table name keyword
    · have known : ∀ word ∈ reservedPython, word ∈ pythonKeywords := by decide
      rw [same, isPythonName_iff]
      exact ⟨head?_any_of_headed name (Bool.eq_false_iff.mpr headless), spelled,
        fun member => free (known name member)⟩

section Ascii
variable {text : String} (ascii : IsAscii text)
include ascii

theorem camel_spelled : (camel text).toList.all continuesName = true := by
  rw [List.all_eq_true]
  intro c member
  simp [continuesName, isAlphanum_camel ascii c member]

theorem isPythonName_methodName : isPythonName (ScriptingClient.methodName text) = true := by
  rw [ScriptingClient.methodName_eq]
  split
  · decide
  · exact isPythonName_python _ (camel_spelled ascii)

theorem isPythonName_clientArgument : isPythonName (clientArgument text) = true := by
  have named := isPythonName_python (snake text) (snake_spelled ascii)
  unfold clientArgument
  by_cases payload : python (snake text) = "payload"
  · simp only [payload, if_true]
    decide
  · simpa only [payload, if_false] using named

end Ascii

/-- The class of a client defines a method for each route behind its own two, and the name is usable
whatever ASCII text names the operation. So is the argument of each parameter, which is neither the
receiver nor the body, in any script. -/
theorem python_names_usable (spec : Specification) (routes : List Route) :
    ScriptingClient.definedMethods (ScriptingClient.render spec routes) =
      ["__init__", "_request"] ++
        routes.map (fun route => ScriptingClient.methodName route.operationId) ∧
    (∀ route ∈ routes, IsAscii route.operationId →
      isPythonName (ScriptingClient.methodName route.operationId) = true) ∧
    ∀ parameter, clientArgument parameter ∉ ["self", "payload"] ∧
      (IsAscii parameter → isPythonName (clientArgument parameter) = true) :=
  ⟨ScriptingClient.definedMethods_render spec routes,
    fun _ _ ascii => isPythonName_methodName ascii,
    fun parameter => ⟨clientArgument_not_mem parameter, isPythonName_clientArgument⟩⟩

/-- Operations and parameters that carry each of the marks. -/
theorem python_names_usable_marked :
    let spec := (Merge.ofFragments .lastWriterWins [renamedFragment]).specification
    let routes := Route.table spec []
    (∀ route ∈ routes, IsAscii route.operationId) ∧
    routes.map (fun route => ScriptingClient.methodName route.operationId) =
      ["_2faVerify", "class_", "timeout_"] ∧
    (∀ route ∈ routes, isPythonName (ScriptingClient.methodName route.operationId) = true) ∧
    IsAscii "payload" ∧ IsAscii "\x7b\x7d" ∧ clientArgument "payload" = "payload_" ∧
    clientArgument "\x7b\x7d" = "_" ∧ isPythonName (clientArgument "payload") = true ∧
    isPythonName (clientArgument "\x7b\x7d") = true := by
  intro spec routes
  have ids : ∀ route ∈ routes, IsAscii route.operationId := by decide +kernel
  have word : IsAscii "payload" := by decide
  have bare : IsAscii "\x7b\x7d" := by decide
  obtain ⟨-, methods, parameters⟩ := python_names_usable spec routes
  exact ⟨ids, by decide +kernel, fun route member => methods route member (ids route member), word,
    bare, by decide, by decide, (parameters "payload").2 word, (parameters "\x7b\x7d").2 bare⟩

end ApiAssembly.Identifier
