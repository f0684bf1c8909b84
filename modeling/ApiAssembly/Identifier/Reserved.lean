import ApiAssembly.Identifier.Words
/-! Names that a generated program can use. A name that starts with a digit, or is empty, gets an
underscore in front; a reserved word is written in the way its language allows. Names that the
generated programs use themselves get an underscore behind. -/
namespace ApiAssembly.Identifier

def rustKeywords : List String := [
  "as", "break", "const", "continue", "else", "enum", "extern", "false", "fn", "for", "if",
  "impl", "in", "let", "loop", "match", "mod", "move", "mut", "pub", "ref", "return", "static",
  "struct", "trait", "true", "type", "unsafe", "use", "where", "while", "async", "await", "dyn"]

/-- Keywords that no raw identifier can stand for. -/
def rustPathWords : List String := ["crate", "self", "Self", "super", "_"]

def pythonKeywords : List String := [
  "False", "None", "True", "and", "as", "assert", "async", "await", "break", "class",
  "continue", "def", "del", "elif", "else", "except", "finally", "for", "from", "global", "if",
  "import", "in", "is", "lambda", "nonlocal", "not", "or", "pass", "raise", "return", "try",
  "while", "with", "yield", "self"]

def lacksHead (name : String) : Bool :=
  match name.toList.head? with
  | some c => c.isDigit
  | none => true

def rust (name : String) : String :=
  if lacksHead name then "_" ++ name
  else if rustPathWords.contains name then name ++ "_"
  else if rustKeywords.contains name then "r#" ++ name
  else name

def python (name : String) : String :=
  if lacksHead name then "_" ++ name
  else if pythonKeywords.contains name then name ++ "_"
  else name

/-- The command line has a help flag of its own. -/
def commandField (parameter : String) : String :=
  let name := rust (snake parameter)
  if name = "help" then name ++ "_" else name

/-- The request body arrives as the payload. -/
def clientArgument (parameter : String) : String :=
  let name := python (snake parameter)
  if name = "payload" then name ++ "_" else name

end ApiAssembly.Identifier
