import ApiAssembly.Decimal.Reader
import ApiAssembly.Text.Alphanumeric
import ApiAssembly.Text.Basic
import ApiAssembly.Text.Whitespace
/-! How much is logged, and in which form. A level that is given for a run takes the place of the one
that is set up. Filters are listed with commas between them; one that cannot be read is passed
over with a warning. -/
namespace ApiAssembly

inductive LogFormat where
  | compact | pretty | json
deriving DecidableEq

namespace LogFormat

/-- Whatever is no other format is the compact one. -/
def parse (text : String) : LogFormat :=
  if Text.lowerAscii text = "pretty" then pretty
  else if Text.lowerAscii text = "json" then json
  else compact

def name : LogFormat → String
  | compact => "Compact"
  | pretty => "Pretty"
  | json => "Json"

end LogFormat

structure LogSettings where
  level : String := "info"
  format : LogFormat := .compact
  filters : Option String := none

namespace LogSettings

def withLevel (level : Option String) (settings : LogSettings) : LogSettings :=
  { settings with level := level.getD settings.level }

def filterLevels : List String := ["trace", "debug", "info", "warn", "error", "off"]

/-- A level is a name or a number from zero to five; it may be left empty. -/
def isFilterLevel (cs : List Char) : Bool :=
  let digits := match cs with
    | '+' :: rest => rest
    | _ => cs
  cs.isEmpty || filterLevels.contains (Text.lowerAscii (String.ofList cs)) ||
    !digits.isEmpty && digits.all Char.isDigit && Decimal.digitsOf digits ≤ 5

def isFilterEnd : List Char → Bool
  | [] => true
  | '=' :: level => isFilterLevel level
  | _ => false

/-- A span in brackets may name fields in braces. -/
def isFilterSpan (cs : List Char) : Bool :=
  match cs.dropWhile fun c => c ≠ ']' && c ≠ '\x7b' with
  | ']' :: rest => isFilterEnd rest
  | _ :: '\x7d' :: _ => false
  | _ :: fields =>
    match fields.dropWhile (· ≠ '\x7d') with
    | _ :: ']' :: rest => isFilterEnd rest
    | _ => false
  | [] => false

/-- A target, a span or both, with or without a level. -/
def isFilter : List Char → Bool
  | [] => false
  | '[' :: rest => isFilterSpan rest
  | c :: cs =>
    (c = '-' || c = ':' || c = '_' || Text.isAlphanumeric c) &&
      match cs.dropWhile fun c => c ≠ '=' && c ≠ '[' with
      | '=' :: level => isFilterLevel level
      | _ :: rest => isFilterSpan rest
      | [] => true

def warnings (settings : LogSettings) : List String :=
  let filters := (Text.runsFrom (· = ',') [] (settings.filters.getD "").toList).map Text.trim
  (filters.filter fun filter => !filter.isEmpty && !isFilter filter).map fun filter =>
    "Warning: invalid log filter directive: " ++ String.ofList filter

end LogSettings
end ApiAssembly
