import ApiAssembly.Yaml.ScalarValue
import ApiAssembly.Yaml.Token
/-! The nodes of a YAML document, as its tokens nest them. Anchors and aliases are known by number; a
tag is known by the address that its handle stands for. -/
namespace ApiAssembly.Yaml

inductive Node where
  | scalar (scalar : Scalar)
  | sequence (tag : Option TagBytes) (items : List Node)
  | mapping (tag : Option TagBytes) (entries : List (Node × Node))
  | anchored (number : Nat) (node : Node)
  | alias (number : Nat)

namespace Node

def empty (tag : Option TagBytes) : Node := .scalar ⟨tag, "", true⟩

structure State where
  tokens : List Token
  handles : List (String × TagBytes) := []
  numbers : List (String × Nat) := []

abbrev Reading := StateT State Option

def peek : Reading Token := do (← get).tokens.head?

def skip : Reading Unit := modify fun state => { state with tokens := state.tokens.drop 1 }

def takeAnchor : Reading (Option String) := do
  match ← peek with
  | .anchor name => skip; pure (some name)
  | _ => pure none

def takeTag : Reading (Option TagBytes) := do
  match ← peek with
  | .tag "" suffix => skip; pure (some suffix)
  | .tag handle suffix =>
    skip
    let start ← (← get).handles.lookup handle
    pure (some (start ++ suffix))
  | _ => pure none

/-- An anchor and a tag may stand in front of a node, in either order. -/
def takeProperties : Reading (Option String × Option TagBytes) := do
  match ← takeAnchor with
  | some anchor => pure (some anchor, ← takeTag)
  | none =>
    match ← takeTag with
    | some tag => pure (← takeAnchor, some tag)
    | none => pure (none, none)

/-- The number of an anchor is the count of names that are known when it is met. -/
def numberOf (anchor : String) : Reading Nat := do
  let state ← get
  let number := state.numbers.length
  let others := state.numbers.filter fun entry => entry.1 != anchor
  set { state with numbers := (anchor, number) :: others }
  pure number

def isBlockGap (token : Token) : Bool :=
  token = .entry || token = .key || token = .value || token = .blockEnd

def isEntryGap (token : Token) : Bool := token = .key || token = .value || token = .blockEnd

mutual
/-- Blocks can stand in blocks only. A list need not be indented below its key. -/
def node (block indentless : Bool) : Nat → Reading Node
  | 0 => failure
  | fuel + 1 => do
    match ← peek with
    | .alias name =>
      skip
      pure (.alias (← (← get).numbers.lookup name))
    | _ =>
      let (anchor, tag) ← takeProperties
      match anchor with
      | some anchor =>
        let number ← numberOf anchor
        pure (.anchored number (← content block indentless true tag fuel))
      | none => content block indentless tag.isSome tag fuel
def content (block indentless mayBeEmpty : Bool) (tag : Option TagBytes) : Nat → Reading Node
  | 0 => failure
  | fuel + 1 => do
    let nothing : Reading Node := if mayBeEmpty then pure (.empty tag) else failure
    match ← peek with
    | .scalar text plain => skip; pure (.scalar ⟨tag, text, plain⟩)
    | .flowSequenceStart => skip; pure (.sequence tag (← flowItems true [] fuel))
    | .flowMappingStart => skip; pure (.mapping tag (← flowEntries true [] fuel))
    | .entry => if indentless then pure (.sequence tag (← looseItems [] fuel)) else nothing
    | .sequenceStart =>
      if block then do skip; pure (.sequence tag (← blockItems [] fuel)) else nothing
    | .mappingStart =>
      if block then do skip; pure (.mapping tag (← blockEntries [] fuel)) else nothing
    | _ => nothing
def looseItems (kept : List Node) : Nat → Reading (List Node)
  | 0 => failure
  | fuel + 1 => do
    match ← peek with
    | .entry =>
      skip
      let item ← if isBlockGap (← peek) then pure (.empty none) else node true false fuel
      looseItems (item :: kept) fuel
    | _ => pure kept.reverse
def blockItems (kept : List Node) : Nat → Reading (List Node)
  | 0 => failure
  | fuel + 1 => do
    match ← peek with
    | .entry =>
      skip
      let next ← peek
      let item ←
        if next = .entry || next = .blockEnd then pure (.empty none) else node true false fuel
      blockItems (item :: kept) fuel
    | .blockEnd => skip; pure kept.reverse
    | _ => failure
def blockEntries (kept : List (Node × Node)) : Nat → Reading (List (Node × Node))
  | 0 => failure
  | fuel + 1 => do
    match ← peek with
    | .key =>
      skip
      let key ← if isEntryGap (← peek) then pure (.empty none) else node true true fuel
      let value ←
        if (← peek) = .value then do
          skip
          if isEntryGap (← peek) then pure (.empty none) else node true true fuel
        else pure (.empty none)
      blockEntries ((key, value) :: kept) fuel
    | .blockEnd => skip; pure kept.reverse
    | _ => failure
/-- The value behind a key in a flow collection that ends with the given token. -/
def flowValue (closing : Token) : Nat → Reading Node
  | 0 => failure
  | fuel + 1 => do
    if (← peek) = .value then
      skip
      let next ← peek
      if next = .flowEntry || next = closing then pure (.empty none) else node false false fuel
    else pure (.empty none)
def flowItems (first : Bool) (kept : List Node) : Nat → Reading (List Node)
  | 0 => failure
  | fuel + 1 => do
    if (← peek) = .flowSequenceEnd then
      skip
      pure kept.reverse
    else
      if !first then if (← peek) = .flowEntry then skip else failure
      match ← peek with
      | .flowSequenceEnd => skip; pure kept.reverse
      | .key =>
        skip
        let next ← peek
        let key ←
          if next = .value || next = .flowEntry || next = .flowSequenceEnd then do
            skip
            pure (.empty none)
          else node false false fuel
        let value ← flowValue .flowSequenceEnd fuel
        flowItems false (.mapping none [(key, value)] :: kept) fuel
      | _ =>
        let item ← node false false fuel
        flowItems false (item :: kept) fuel
def flowEntries (first : Bool) (kept : List (Node × Node)) : Nat → Reading (List (Node × Node))
  | 0 => failure
  | fuel + 1 => do
    if (← peek) = .flowMappingEnd then
      skip
      pure kept.reverse
    else
      if !first then if (← peek) = .flowEntry then skip else failure
      match ← peek with
      | .flowMappingEnd => skip; pure kept.reverse
      | .key =>
        skip
        let next ← peek
        let key ←
          if next = .value || next = .flowEntry || next = .flowMappingEnd then pure (.empty none)
          else node false false fuel
        let value ← flowValue .flowMappingEnd fuel
        flowEntries false ((key, value) :: kept) fuel
      | _ =>
        let key ← node false false fuel
        flowEntries false ((key, .empty none) :: kept) fuel
end

def defaultHandles : List (String × TagBytes) :=
  [("!", "!".toUTF8.toList), ("!!", Scalar.coreTag.toUTF8.toList)]

/-- A version is given once, and so is each handle. -/
def directives (versioned : Bool) (handles : List (String × TagBytes)) : Nat → Reading Unit
  | 0 => failure
  | fuel + 1 => do
    match ← peek with
    | .version major minor =>
      if versioned || major ≠ 1 || !(minor = 1 || minor = 2) then failure
      else
        skip
        directives true handles fuel
    | .tagHandle handle start =>
      if (handles.lookup handle).isSome then failure
      else
        skip
        directives versioned ((handle, start) :: handles) fuel
    | .documentStart =>
      skip
      modify fun state => { state with handles := handles ++ defaultHandles }
    | _ => failure

def skipDocumentEnds : Nat → Reading Unit
  | 0 => pure ()
  | fuel + 1 => do
    if (← peek) = .documentEnd then
      skip
      skipDocumentEnds fuel

/-- The one document of a stream, or none when the stream is empty. -/
def document (fuel : Nat) : Reading (Option Node) := do
  let first ← peek
  if first = .streamEnd then pure none
  else
    let root ←
      if first.isDirective || first = .documentStart then do
        directives false [] fuel
        if (← peek).endsContent then pure (.empty none) else node true false fuel
      else node true false fuel
    skipDocumentEnds fuel
    if (← peek) = .streamEnd then pure (some root) else failure

/-- No token is read by more than four steps. -/
def ofTokens? (tokens : List Token) : Option (Option Node) :=
  (document (4 * tokens.length + 4)).run' { tokens, handles := defaultHandles }

end Node
end ApiAssembly.Yaml
