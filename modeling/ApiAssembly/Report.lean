import ApiAssembly.BuildError
/-! The report of a build: errors and warnings of all its stages, in the order in which they came
up. Warnings leave a build successful, a single error does not. -/
namespace ApiAssembly

structure Report where
  errors : List BuildError := []
  warnings : List String := []
deriving DecidableEq

namespace Report

def addErrors (report : Report) (errors : List BuildError) : Report :=
  { report with errors := report.errors ++ errors }

def addWarnings (report : Report) (warnings : List String) : Report :=
  { report with warnings := report.warnings ++ warnings }

def hasErrors (report : Report) : Bool := !report.errors.isEmpty

def exitCode (report : Report) : Nat := if report.hasErrors then 1 else 0

def warningLines (report : Report) : List String :=
  if report.warnings.isEmpty then []
  else (toString report.warnings.length ++ " warning(s):") ::
    report.warnings.map fun warning => "  - " ++ warning

def resultLines (report : Report) : List String :=
  if report.errors.isEmpty then ["generation succeeded"]
  else ("generation failed with " ++ toString report.errors.length ++ " error(s):") ::
    report.errors.map fun error => "[" ++ error.kind ++ "] " ++ error.message

def text (report : Report) : String :=
  String.join ((report.warningLines ++ report.resultLines).map fun line => line ++ "\n")

end Report
end ApiAssembly
