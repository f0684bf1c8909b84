import ApiAssembly.Text.Basic
/-! The methods under which an operation can be declared, in the order in which the routes of one
path are listed. -/
namespace ApiAssembly

inductive Method where
  | get | put | post | delete | options | head | patch | trace
deriving DecidableEq, Inhabited

namespace Method

def all : List Method := [get, put, post, delete, options, head, patch, trace]

def rank : Method → Nat
  | get => 0 | put => 1 | post => 2 | delete => 3
  | options => 4 | head => 5 | patch => 6 | trace => 7

instance : Ord Method := ⟨compareOn rank⟩

instance : Std.TransOrd Method := inferInstanceAs (Std.TransCmp (compareOn rank))

theorem rank_injective (left right : Method) (same : left.rank = right.rank) : left = right := by
  cases left <;> cases right <;> simp_all [rank]

instance : Std.LawfulEqOrd Method where
  eq_of_compare {left right} equal := rank_injective left right (Nat.compare_eq_eq.mp equal)

/-- The key of a method in a path item. -/
def key : Method → String
  | get => "get" | put => "put" | post => "post" | delete => "delete"
  | options => "options" | head => "head" | patch => "patch" | trace => "trace"

def name : Method → String
  | get => "GET" | put => "PUT" | post => "POST" | delete => "DELETE"
  | options => "OPTIONS" | head => "HEAD" | patch => "PATCH" | trace => "TRACE"

/-- ASCII letters of a key count in either case. -/
def parse? (text : String) : Option Method := all.find? fun method => method.key = Text.lowerAscii text

end Method
end ApiAssembly
