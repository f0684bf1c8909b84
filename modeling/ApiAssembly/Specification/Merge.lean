import ApiAssembly.BuildError
import ApiAssembly.Fragment
import ApiAssembly.Fragment.Reference
import ApiAssembly.Identifier.Collision
import ApiAssembly.Operation.Reader
import ApiAssembly.Specification.Basic
/-! Putting fragments together. The first fragment that says what the API is called names it. A later
operation takes the place of an earlier one of the same path and method, and each such step is
logged. Schemas carry the name of their fragment, so they do not meet. Whether a collision is an
error is a matter of policy and changes nothing else. -/
namespace ApiAssembly

inductive CollisionPolicy where
  | lastWriterWins | error
deriving DecidableEq

namespace CollisionPolicy

def name : CollisionPolicy → String
  | lastWriterWins => "last-writer-wins"
  | error => "error"

def parse? (text : String) : Option CollisionPolicy :=
  [lastWriterWins, error].find? fun policy => policy.name = text

def conflict? (policy : CollisionPolicy) (collision : Collision) : Option BuildError :=
  match policy with
  | lastWriterWins => none
  | error => some (.pathConflict collision)

end CollisionPolicy

def Info.ofDocument? (document : Json) : Option Info := do
  let fields ← document.getObj? "info"
  let title ← (Entries.find? "title" fields).bind Json.str?
  pure {
    title := title
    version := match Entries.find? "version" fields with
      | some (.str text) => text
      | some value => value.text
      | none => "0.0.0"
    description := (Entries.find? "description" fields).bind Json.str? }

structure Merge where
  info : Option Info := none
  paths : Dict String PathItem := Dict.empty
  components : Dict String Json := Dict.empty
  collisions : List Collision := []
  warnings : List String := []
  -- The collisions that the policy takes for errors.
  conflicts : List BuildError := []

namespace Merge

def operation? (merge : Merge) (key : OperationKey) : Option Operation :=
  (merge.paths.find? key.path).bind fun item => item.operations.find? key.method

def collision? (merge : Merge) (operation : Operation) : Option Collision :=
  (merge.operation? operation.key).map fun previous =>
    ⟨operation.method, operation.path, previous.source, operation.source⟩

def addOperation (policy : CollisionPolicy) (merge : Merge) (operation : Operation) : Merge :=
  let present := ((merge.paths.find? operation.path).map PathItem.operations).getD Dict.empty
  let collision := merge.collision? operation
  { merge with
    paths := merge.paths.insert operation.path ⟨present.insert operation.method operation⟩
    collisions := merge.collisions ++ collision.toList
    conflicts := merge.conflicts ++ (collision.bind policy.conflict?).toList }

def schemasOf (document : Json) : List (String × Json) :=
  ((document.get? "components").bind fun components => components.getObj? "schemas").getD []

def addSchemas (source : String) (schemas : List (String × Json)) (merge : Merge) : Merge :=
  { merge with components := schemas.foldl (fun components entry =>
      components.insert (Reference.qualifiedName source entry.1) entry.2) merge.components }

def addFragment (policy : CollisionPolicy) (merge : Merge) (fragment : Fragment) : Merge :=
  let document := Reference.qualify fragment.name fragment.document
  let declared := Operations.ofDocument fragment.name document
  let named := { merge with
    info := merge.info.or (Info.ofDocument? document)
    warnings := merge.warnings ++ declared.warnings }
  declared.operations.foldl (addOperation policy)
    (named.addSchemas fragment.name (schemasOf document))

def ofFragments (policy : CollisionPolicy) (fragments : List Fragment) : Merge :=
  fragments.foldl (addFragment policy) {}

def specification (merge : Merge) : Specification :=
  ⟨merge.info.getD {}, merge.paths, merge.components⟩

end Merge

namespace Specification

/-- Identifiers that more than one operation carries, with all that carry them in route order. -/
def duplicateIds (spec : Specification) : List BuildError :=
  (Identifier.distinctTexts (spec.operations.map Operation.id)).filterMap fun id =>
    let carriers := spec.operations.filter fun operation => operation.id = id
    if carriers.length > 1 then some (.duplicateOperationId id (carriers.map Operation.label))
    else none

end Specification

def Merge.errors (merge : Merge) : List BuildError :=
  merge.conflicts ++ merge.specification.duplicateIds

end ApiAssembly
