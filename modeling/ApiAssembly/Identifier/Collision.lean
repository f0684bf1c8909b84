import ApiAssembly.BuildError
import ApiAssembly.Identifier.Names
/-! Collisions of generated names. Names are grouped in their order; each name that stands for more
than one source is one error, and lists all its sources in order. -/
namespace ApiAssembly.Identifier

/-- A list in order, equal elements beside each other. -/
def sortTexts (texts : List String) : List String := texts.mergeSort fun left right => left ≤ right

def distinctTexts (texts : List String) : List String := (sortTexts texts).eraseReps

def sourcesOf (name : String) (names : List (String × String)) : List String :=
  sortTexts ((names.filter fun entry => entry.1 = name).map Prod.snd)

def collisions (artifact : String) (names : List (String × String)) : List BuildError :=
  (distinctTexts (names.map Prod.fst)).filterMap fun name =>
    let sources := sourcesOf name names
    if sources.length > 1 then some (.nameCollision artifact name sources) else none

def operationCollisions (ids : List String) : List BuildError :=
  let family (name : Names → String) := ids.map fun id => (name (Names.ofOperation id), id)
  collisions "cli subcommand" (family Names.subcommand) ++
    collisions "cli command variant" (family Names.variant) ++
    collisions "client method" (family Names.clientMethod) ++
    collisions "router handler" (family Names.routerStub)

/-- The path parameters of one operation, in both programs that take them as arguments. -/
def parameterCollisions (id : String) (parameters : List String) : List BuildError :=
  let family (name : String → String) :=
    parameters.map fun parameter => (name parameter, "path parameter '" ++ parameter ++ "'")
  collisions ("cli argument of " ++ id) (family commandField) ++
    collisions ("client argument of " ++ id) (family clientArgument)

end ApiAssembly.Identifier
