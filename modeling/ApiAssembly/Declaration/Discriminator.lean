import ApiAssembly.Text.Basic
/-! Discriminators: short names that tell the types of a union apart. A type name in lower case loses
the longest of the given endings, unless nothing would be left of it. -/
namespace ApiAssembly.Discriminator

def dropEnd? (ending text : List Char) : Option (List Char) :=
  if ending.reverse.isPrefixOf text.reverse then some (text.take (text.length - ending.length))
  else none

/-- Longer endings first, endings of one length in order. -/
def endingBefore (left right : String) : Bool :=
  right.utf8ByteSize < left.utf8ByteSize ||
    (left.utf8ByteSize = right.utf8ByteSize && left ≤ right)

def ofTypeName (endings : List String) (name : String) : String :=
  let lower := Text.lowerAscii name
  let shortened := (endings.mergeSort endingBefore).findSome? fun ending =>
    (dropEnd? (Text.lowerAscii ending).toList lower.toList).filter (! ·.isEmpty)
  match shortened with
  | some rest => String.ofList rest
  | none => lower

end ApiAssembly.Discriminator
