import ApiAssembly.Json.Basic
/-! Declarations of types in another language: a name and the parameters of its constructor, each
with as much as the source tells about it. -/
namespace ApiAssembly

structure TypeParameter where
  name : String
  type : Option String
  initial : Option Json
  description : Option String
deriving DecidableEq

structure TypeDeclaration where
  name : String
  parameters : List TypeParameter
deriving DecidableEq

end ApiAssembly
