import ApiAssembly.Console.Program
/-! The command line. What is in the working directory is taken as a tree of files, the program is run
over it, and what has changed is written back, each file in one step. -/
namespace ApiAssembly
namespace WorkingDirectory

def pathText (location : Location) : String := "/" ++ "/".intercalate location

/-- A link counts when it leads to a file. What cannot be read is not there. -/
partial def addEntry (tree : FileTree) (directory : Location) (found : IO.FS.DirEntry) :
    IO FileTree := do
  let location := directory ++ [found.fileName]
  try
    match (← found.path.symlinkMetadata).type with
    | .dir =>
      let inner ← found.path.readDir
      inner.foldlM (fun tree found => addEntry tree location found) (tree.set location .directory)
    | _ =>
      match (← found.path.metadata).type with
      | .file => pure (tree.set location (.file (← IO.FS.readBinFile found.path)))
      | _ => pure tree
  catch _ => pure tree

def read : IO FileTree := do
  let directory ← IO.currentDir
  let here := directory.components.filter fun name => name != ""
  (← directory.readDir).foldlM (fun tree found => addEntry tree here found) (.workingIn here)

def writeFile (path : String) (content : ByteArray) : IO Unit := do
  let temporary := path ++ ".tmp"
  IO.FS.writeBinFile temporary content
  IO.FS.rename temporary path

/-- Directories come before what is in them. -/
def write (before after : FileTree) : IO Unit :=
  after.entries.entries.forM fun (location, entry) =>
    if before.entryAt? location = some entry then pure ()
    else
      match entry with
      | .directory => IO.FS.createDirAll (pathText location)
      | .file content => writeFile (pathText location) content

end WorkingDirectory

def Console.Environment.read : IO Console.Environment := do
  let level ← IO.getEnv "SPECWEAVE_LOG_LEVEL"
  let format ← IO.getEnv "SPECWEAVE_LOG_FORMAT"
  pure {
    configFile := ← IO.getEnv "SPECWEAVE_CONFIG"
    log := {
      level := level.getD "info"
      format := LogFormat.parse (format.getD "compact")
      filters := ← IO.getEnv "SPECWEAVE_LOG_TARGET_FILTER" } }

end ApiAssembly

open ApiAssembly

def main (arguments : List String) : IO UInt32 := do
  let before ← WorkingDirectory.read
  let (after, response) := Console.run (← Console.Environment.read) arguments before
  WorkingDirectory.write before after
  IO.print response.output
  IO.eprint response.errors
  pure response.exitCode.toUInt32
