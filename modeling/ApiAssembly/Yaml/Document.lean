import ApiAssembly.Yaml.Lexer
import ApiAssembly.Yaml.Node
/-! What a YAML document says. An alias stands for the node of its anchor, wherever that is; how often
aliases are followed is bounded by the size of the document, and how deep lists and mappings nest
is bounded too. In a fragment names are texts, whatever they look like. -/
namespace ApiAssembly.Yaml

/-- A node without aliases. -/
inductive Tree where
  | scalar (scalar : Scalar)
  | sequence (tag : Option TagBytes) (items : List Tree)
  | mapping (tag : Option TagBytes) (entries : List (Tree × Tree))

namespace Node

mutual
def size : Node → Nat
  | .scalar _ => 1
  | .alias _ => 1
  | .anchored _ node => size node
  | .sequence _ items => 2 + sizeItems items
  | .mapping _ entries => 2 + sizeEntries entries
def sizeItems : List Node → Nat
  | [] => 0
  | item :: rest => size item + sizeItems rest
def sizeEntries : List (Node × Node) → Nat
  | [] => 0
  | (key, value) :: rest => size key + size value + sizeEntries rest
end

mutual
/-- The nodes that have a number, in the order in which they start. -/
def anchors : Node → List (Nat × Node)
  | .scalar _ => []
  | .alias _ => []
  | .anchored number node => (number, node) :: anchors node
  | .sequence _ items => anchorsItems items
  | .mapping _ entries => anchorsEntries entries
def anchorsItems : List Node → List (Nat × Node)
  | [] => []
  | item :: rest => anchors item ++ anchorsItems rest
def anchorsEntries : List (Node × Node) → List (Nat × Node)
  | [] => []
  | (key, value) :: rest => anchors key ++ anchors value ++ anchorsEntries rest
end

/-- The state is the number of times that aliases can still be followed. -/
abbrev Expansion := StateT Nat Option

def follow (anchors : List (Nat × Node)) (number : Nat) : Expansion Node := do
  match ← get with
  | 0 => failure
  | jumps + 1 =>
    set jumps
    anchors.lookup number

/-- The node behind anchors and at most one alias. -/
def target (anchors : List (Nat × Node)) : Node → Expansion Node
  | .alias number => follow anchors number
  | .anchored _ node => pure node
  | node => pure node

/-- Writes out what aliases stand for; `depth` is the number of collections that
can still be entered. -/
def expand (anchors : List (Nat × Node)) : Nat → Node → Expansion Tree
  | depth, node => do
    match ← target anchors node, depth with
    | .scalar value, _ => pure (.scalar value)
    | .sequence tag items, depth + 1 => pure (.sequence tag (← items.mapM (expand anchors depth)))
    | .mapping tag entries, depth + 1 =>
      let entries ← entries.mapM fun entry => do
        pure (← expand anchors depth entry.1, ← expand anchors depth entry.2)
      pure (.mapping tag entries)
    | _, _ => failure

def depthLimit : Nat := 128

/-- The last node of a number is the one that aliases stand for. -/
def tree? (node : Node) : Option Tree :=
  (expand node.anchors.reverse depthLimit node).run' (100 * node.size)

end Node

namespace Tree

mutual
/-- Tags of collections do not matter unless they are private. -/
def content? : Tree → Option Content
  | .scalar value => value.content?
  | .sequence tag items =>
    if Scalar.isPrivateTag tag then none else (contentItems? items).map .arr
  | .mapping tag entries =>
    if Scalar.isPrivateTag tag then none else (contentEntries? entries).map .obj
def contentItems? : List Tree → Option (List Content)
  | [] => some []
  | item :: rest => do pure ((← content? item) :: (← contentItems? rest))
def contentEntries? : List (Tree × Tree) → Option (List (Content × Content))
  | [] => some []
  | (key, value) :: rest => do
    pure ((← content? key, ← content? value) :: (← contentEntries? rest))
end

def asText : Tree → Tree
  | .scalar value => .scalar { value with tag := none, plain := false }
  | tree => tree

mutual
def withTextNames : Tree → Tree
  | .scalar value => .scalar value
  | .sequence tag items => .sequence tag (itemsWithTextNames items)
  | .mapping tag entries => .mapping tag (entriesWithTextNames entries)
def itemsWithTextNames : List Tree → List Tree
  | [] => []
  | item :: rest => withTextNames item :: itemsWithTextNames rest
def entriesWithTextNames : List (Tree × Tree) → List (Tree × Tree)
  | [] => []
  | (key, value) :: rest => (key.asText, withTextNames value) :: entriesWithTextNames rest
end

end Tree

/-- An empty document is null. -/
def tree? (text : String) : Option Tree := do
  match ← Node.ofTokens? (← tokens? text) with
  | some node => node.tree?
  | none => pure (.scalar ⟨none, "", true⟩)

def content? (text : String) : Option Content := (tree? text).bind Tree.content?

def json? (text : String) : Option Json := do
  (← (← tree? text).withTextNames.content?).json?

end ApiAssembly.Yaml
