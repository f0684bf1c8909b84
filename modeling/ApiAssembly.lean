import ApiAssembly.Artifact.RouterReader
import ApiAssembly.Main
import ApiAssembly.Proofs.Artifact.RouteTable
import ApiAssembly.Proofs.Build.Regeneration
import ApiAssembly.Proofs.Fragment.LoadOrder
import ApiAssembly.Proofs.Identifier.Words
import ApiAssembly.Proofs.Merge.ClosedReferences
import ApiAssembly.Proofs.Merge.CollisionLog
import ApiAssembly.Proofs.Merge.Concatenation
import ApiAssembly.Proofs.Merge.SchemaNames
import ApiAssembly.Proofs.Merge.FiledOperations
import ApiAssembly.Proofs.Handler.Violations
import ApiAssembly.Proofs.Build.Isolation
import ApiAssembly.Proofs.Identifier.Collision
import ApiAssembly.Proofs.Identifier.Reserved
import ApiAssembly.Proofs.Artifact.GeneratedNames
import ApiAssembly.Proofs.Component.Locality
import ApiAssembly.Proofs.Declaration.Groups
import ApiAssembly.Proofs.Declaration.Union
import ApiAssembly.Proofs.Artifact.RouterLines
import ApiAssembly.Proofs.Artifact.CommandLines
import ApiAssembly.Proofs.Artifact.ClientLines
import ApiAssembly.Proofs.Artifact.Containment
import ApiAssembly.Proofs.Artifact.ClientMethods
import ApiAssembly.Proofs.Artifact.DeclaredCommands
import ApiAssembly.Proofs.Artifact.NamesApart
import ApiAssembly.Proofs.Artifact.Placeholders
import ApiAssembly.Proofs.FileTree.EntryNames
import ApiAssembly.Proofs.Declaration.Reading
import ApiAssembly.Proofs.Fragment.Loading
import ApiAssembly.Proofs.Reference.Reached
import ApiAssembly.Proofs.Component.Merged
import ApiAssembly.Proofs.Artifact.ComponentTable
import ApiAssembly.Proofs.Declaration.Permutation
import ApiAssembly.Proofs.Scan.Writing
import ApiAssembly.Proofs.Scan.Surroundings
import ApiAssembly.Proofs.Scan.QuotedKey
import ApiAssembly.Proofs.Component.RoundTrip
import ApiAssembly.Proofs.Component.Inference
import ApiAssembly.Proofs.Component.SingleProperty
import ApiAssembly.Proofs.Operation.Declared
import ApiAssembly.Proofs.Operation.Parameters
import ApiAssembly.Proofs.Specification.DuplicateIds
import ApiAssembly.Proofs.Identifier.RustNames
import ApiAssembly.Proofs.Identifier.SeparatedNames
import ApiAssembly.Proofs.Identifier.StableNames
import ApiAssembly.Proofs.Identifier.NameFamilies
import ApiAssembly.Proofs.Identifier.PythonNames
import ApiAssembly.Proofs.Declaration.Endings
import ApiAssembly.Proofs.Declaration.Enumerations
import ApiAssembly.Proofs.Declaration.Constructors
import ApiAssembly.Proofs.Artifact.LiteralValues
import ApiAssembly.Proofs.Reference.Faithful
import ApiAssembly.Proofs.Text.QuotedBody
import ApiAssembly.Proofs.Bytewise.ClassText
