import ApiAssembly.BuildError
import ApiAssembly.Fragment
/-! The order in which fragments are put together. Synthesized fragments come before hand-written ones,
so that the latter can override them; within these groups names and places decide. A name can
be used once: of fragments with one name the first in this order is kept. -/
namespace ApiAssembly.Fragment

def isHandWritten (fragment : Fragment) : Bool := fragment.origin = .handWritten

/-- Hand-written fragments are known by their file, the others by their name. -/
def label (fragment : Fragment) : String :=
  if fragment.isHandWritten then fragment.path.fileName?.getD "" else fragment.name

def compareOrder : Fragment → Fragment → Ordering :=
  compareLex (compareOn isHandWritten) (compareLex (compareOn fun fragment => fragment.origin.rank)
    (compareLex (compareOn label) (compareOn fun fragment => fragment.path.parts)))

def sort (fragments : List Fragment) : List Fragment :=
  fragments.mergeSort fun left right => (compareOrder left right).isLE

structure Ordered where
  fragments : List Fragment := []
  errors : List BuildError := []

/-- Keeps the first of each name, those of `earlier` included. -/
def keepFirst (earlier : List Fragment) : List Fragment → Ordered
  | [] => {}
  | fragment :: rest =>
    match earlier.find? fun other => other.name = fragment.name with
    | some first =>
      let later := keepFirst earlier rest
      { later with errors :=
          .fragment fragment.path (.nameTaken fragment.name first.path) :: later.errors }
    | none =>
      let later := keepFirst (fragment :: earlier) rest
      { later with fragments := fragment :: later.fragments }

def order (fragments : List Fragment) : Ordered := keepFirst [] (sort fragments)

end ApiAssembly.Fragment
