import ApiAssembly.Identifier.Reserved
/-! The names that one operation gets in the generated programs. -/
namespace ApiAssembly.Identifier

structure Names where
  subcommand : String
  variant : String
  clientMethod : String
  routerStub : String
deriving DecidableEq

def Names.ofOperation (id : String) : Names where
  subcommand := kebab id
  variant := rust (pascal id)
  clientMethod := python (camel id)
  routerStub := "stub_" ++ snake id

end ApiAssembly.Identifier
