import ApiAssembly.Declaration.ClassText
import ApiAssembly.Declaration.Document
import ApiAssembly.Declaration.Union
import ApiAssembly.FileTree.SourceFile
import ApiAssembly.Json.Reader
import ApiAssembly.Yaml.Document
/-! The type declarations of a directory. The extension of a file tells how it is read; files of other
kinds declare nothing. A file that cannot be read is left out with a warning. -/
namespace ApiAssembly.TypeSources

inductive Fault where
  | notText | malformed | shapeless
deriving DecidableEq

def Fault.message : Fault → String
  | notText => FileFault.notText.message
  | malformed => Content.malformed
  | shapeless => "data did not match any variant of untagged enum DeclarationFile"

structure Reading where
  declarations : List TypeDeclaration := []
  warnings : List String := []

def ofContent (content : Option Content) : Except Fault Reading :=
  match content with
  | none => .error .malformed
  | some content =>
    match DeclarationDocument.read? content with
    | some declarations => .ok { declarations }
    | none => .error .shapeless

def ofText (path : FilePath) (text : String) : Except Fault Reading :=
  match path.extension? with
  | some "ts" => .ok ⟨ClassText.declarations text, ClassText.warnings path.text text⟩
  | some "yaml" | some "yml" => ofContent (Yaml.content? text)
  | some "json" => ofContent (Json.content? Json.depthLimit text)
  | _ => .ok {}

def ofFile (file : SourceFile) : Except Fault Reading :=
  match file.text? with
  | some text => ofText file.path text
  | none => .error .notText

def reading (file : SourceFile) : Reading :=
  match ofFile file with
  | .ok reading => reading
  | .error fault =>
    { warnings := [file.path.text ++ ": unreadable type declarations: " ++ fault.message] }

def scan (tree : FileTree) (directory : FilePath) (options : TypeUnion.Options) : Synthesis :=
  match SourceFile.all tree directory with
  | .error error => { errors := [error] }
  | .ok files =>
    let readings := files.map reading
    let declarations := readings.flatMap Reading.declarations
    { fragment := some (TypeUnion.fragment options directory declarations)
      warnings := readings.flatMap Reading.warnings ++
        TypeUnion.warnings options directory declarations
      errors := TypeUnion.errors options declarations }

end ApiAssembly.TypeSources
