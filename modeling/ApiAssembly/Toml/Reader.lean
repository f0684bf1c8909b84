import ApiAssembly.Toml.Scalar
/-! Reading TOML documents. A line holds a key with its value, or a header that opens a table, or
nothing; comments may end any line. Inside brackets line breaks and comments are blanks, other than
within a key, and a comma may follow the last item. Brackets nest to a given depth, which is also
the greatest length of a key. -/
namespace ApiAssembly.Toml

def isBareKeyChar (c : Char) : Bool := c.isAlphanum || c = '_' || c = '-'

def keyPart? (cs : List Char) : Option (String × List Char) :=
  match cs with
  | '"' :: rest => line? '"' (rest.length + 1) [] rest
  | '\'' :: rest => line? '\'' (rest.length + 1) [] rest
  | cs =>
    let name := cs.takeWhile isBareKeyChar
    if name.isEmpty then none else some (String.ofList name, cs.drop name.length)

/-- A key is a path of names with points between them. -/
def key? : Nat → List Char → Option (List String × List Char)
  | 0, _ => none
  | fuel + 1, cs => do
    let (name, rest) ← keyPart? (cs.dropWhile isBlank)
    match rest.dropWhile isBlank with
    | '.' :: rest =>
      let (names, rest) ← key? fuel rest
      pure (name :: names, rest)
    | rest => pure ([name], rest)

def depthLimit : Nat := 80

def keyAt? (cs : List Char) : Option (List String × List Char) :=
  (key? (cs.length + 1) cs).filter fun key => key.1.length ≤ depthLimit

/-- What stands behind a comment, which ends at a break or at the end of the text. -/
def afterComment? (cs : List Char) : Option (List Char) :=
  let rest := cs.dropWhile (! isControl ·)
  if rest.isEmpty || (newline? rest).isSome then some rest else none

def skipGaps? : Nat → List Char → Option (List Char)
  | 0, cs => some cs
  | fuel + 1, cs =>
    match cs.dropWhile isBlank with
    | '#' :: rest => (afterComment? rest).bind (skipGaps? fuel)
    | cs =>
      match newline? cs with
      | some rest => skipGaps? fuel rest
      | none => some cs

def afterGaps? (cs : List Char) : Option (List Char) := skipGaps? (cs.length + 1) cs

mutual
def value? (fuel depth : Nat) (cs : List Char) : Option (Value × List Char) :=
  match fuel, depth, cs with
  | 0, _, _ => none
  | _, 0, '[' :: _ => none
  | _, 0, '\x7b' :: _ => none
  | fuel + 1, depth + 1, '[' :: rest => do
    let (items, rest) ← items? fuel depth [] rest
    pure (.list items, rest)
  | fuel + 1, depth + 1, '\x7b' :: rest => do
    let (entries, rest) ← entries? fuel depth [] rest
    pure (.table (closeEntries entries), rest)
  | _, _, '"' :: rest => (quoted? ('"' :: rest)).map fun read => (.text read.1, read.2)
  | _, _, '\'' :: rest => (quoted? ('\'' :: rest)).map fun read => (.text read.1, read.2)
  | _, _, cs => bare? cs
def items? (fuel depth : Nat) (kept : List Value) (cs : List Char) :
    Option (List Value × List Char) :=
  match fuel with
  | 0 => none
  | fuel + 1 => do
    match ← afterGaps? cs with
    | ']' :: rest => pure (kept.reverse, rest)
    | cs =>
      let (item, rest) ← value? fuel depth cs
      match ← afterGaps? rest with
      | ',' :: rest => items? fuel depth (item :: kept) rest
      | ']' :: rest => pure ((item :: kept).reverse, rest)
      | _ => none
def entries? (fuel depth : Nat) (kept : Entries) (cs : List Char) :
    Option (Entries × List Char) :=
  match fuel with
  | 0 => none
  | fuel + 1 => do
    match ← afterGaps? cs with
    | '\x7d' :: rest => pure (kept, rest)
    | cs =>
      let (path, rest) ← keyAt? cs
      match ← afterGaps? rest with
      | '=' :: rest =>
        let (value, rest) ← value? fuel depth (← afterGaps? rest)
        let kept ← Entries.setValue? value path kept
        match ← afterGaps? rest with
        | ',' :: rest => entries? fuel depth kept rest
        | '\x7d' :: rest => pure (kept, rest)
        | _ => none
      | _ => none
end

/-- What has been read of a document: its entries, and the path of the last header. -/
structure Progress where
  entries : Entries := []
  path : List String := []

/-- A header in single brackets opens a table, one in double brackets adds a table to a list. -/
def header? (progress : Progress) (cs : List Char) : Option (Progress × List Char) := do
  match cs with
  | '[' :: cs =>
    match ← keyAt? cs with
    | (path, ']' :: ']' :: rest) => pure (⟨← Entries.openRow? path progress.entries, path⟩, rest)
    | _ => none
  | cs =>
    match ← keyAt? cs with
    | (path, ']' :: rest) => pure (⟨← Entries.openTable? path progress.entries, path⟩, rest)
    | _ => none

def entry? (progress : Progress) (cs : List Char) : Option (Progress × List Char) := do
  match ← keyAt? cs with
  | (path, '=' :: rest) =>
    let (value, rest) ← value? (2 * rest.length + 2) depthLimit (rest.dropWhile isBlank)
    let entries ← Entries.modify? (Entries.setValue? value path) progress.path progress.entries
    pure ({ progress with entries }, rest)
  | _ => none

/-- Nothing but a comment may stand behind an entry on its line. -/
def lineEnd? (cs : List Char) : Option (List Char) := do
  let rest ← match cs.dropWhile isBlank with
    | '#' :: rest => afterComment? rest
    | rest => some rest
  if rest.isEmpty then some [] else newline? rest

def document? : Nat → Progress → List Char → Option Entries
  | 0, _, _ => none
  | fuel + 1, progress, cs => do
    match ← afterGaps? cs with
    | [] => pure progress.entries
    | '[' :: rest =>
      let (progress, rest) ← header? progress rest
      document? fuel progress (← lineEnd? rest)
    | cs =>
      let (progress, rest) ← entry? progress cs
      document? fuel progress (← lineEnd? rest)

def withoutMark (cs : List Char) : List Char :=
  match cs with
  | '\ufeff' :: rest => rest
  | cs => cs

/-- The entries of a document. A byte order mark may lead the text. -/
def read? (text : String) : Option (List (String × Value)) :=
  let cs := withoutMark text.toList
  (document? (cs.length + 1) {} cs).map closeEntries

end ApiAssembly.Toml
