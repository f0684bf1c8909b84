import ApiAssembly.Build.Collection
import ApiAssembly.Build.Emission
import ApiAssembly.Handler
/-! A build from its fragments to its artifacts: they are put together, handlers are looked for, the
names of the generated programs are checked, and the artifacts are written. All findings are
collected; once there is an error nothing is written. -/
namespace ApiAssembly

inductive RunMode where
  | generate | validate
deriving DecidableEq

structure BuildOutcome where
  report : Report := {}
  specification : Option Specification := none
  routes : List Route := []
  collisions : List Collision := []
  artifacts : List EmittedArtifact := []

def Collision.warning (collision : Collision) : String :=
  collision.method.name ++ " " ++ collision.path ++ " from '" ++ collision.later ++
    "' overrides '" ++ collision.earlier ++ "'"

namespace Build

def addMerge (merge : Merge) (report : Report) : Report :=
  ((report.addWarnings merge.warnings).addErrors merge.errors).addWarnings
    (merge.collisions.map Collision.warning)

/-- The report with the findings about handlers, and the operations to stub. -/
def addHandlers (config : Config) (tree : FileTree) (spec : Specification) (report : Report) :
    Report × List OperationKey :=
  if config.handlerValidation then
    match MissingHandler.check config.handlerRules tree spec with
    | .ok missing =>
      (report.addWarnings (missing.map MissingHandler.warning), missing.map MissingHandler.key)
    | .error error => (report.addErrors [error], [])
  else (report, [])

def addNames (spec : Specification) (routes : List Route) (report : Report) : Report :=
  (report.addErrors (Identifier.operationCollisions (spec.operations.map Operation.id))).addErrors
    (Route.parameterCollisions routes)

/-- What a build comes to before anything is written. -/
def outcome (config : Config) (tree : FileTree) : BuildOutcome :=
  match collect config tree with
  | (report, none) => { report }
  | (report, some fragments) =>
    let merge := Merge.ofFragments config.collisionPolicy fragments
    let spec := merge.specification
    let (report, stubs) :=
      addHandlers config tree spec (addMerge merge report)
    let routes := Route.table spec stubs
    { report := addNames spec routes report
      specification := some spec
      routes
      collisions := merge.collisions }

/-- A build whose writes meet no faults but those that the tree gives rise to. -/
def run (render : Renderer) (config : Config) (mode : RunMode) (tree : FileTree) :
    FileTree × BuildOutcome :=
  let outcome := outcome config tree
  match mode, outcome.specification with
  | .generate, some spec =>
    if outcome.report.hasErrors then (tree, outcome)
    else
      let emission :=
        Emission.ofArtifacts (fun _ _ => none) config
          (fun kind => render kind spec outcome.routes) tree
      (emission.tree, { outcome with
        report := outcome.report.addErrors emission.errors
        artifacts := emission.artifacts })
  | _, _ => (tree, outcome)

end Build
end ApiAssembly
