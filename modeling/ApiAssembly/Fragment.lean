import ApiAssembly.FilePath
import ApiAssembly.Json.Basic
/-! Fragments: the documents from which one specification is put together. The name of a fragment
sets its schemas apart from those of other fragments. -/
namespace ApiAssembly

inductive FragmentOrigin where
  | handWritten | typeDefinitions | componentLibrary
deriving DecidableEq, Inhabited

namespace FragmentOrigin

def name : FragmentOrigin → String
  | handWritten => "hand-written"
  | typeDefinitions => "type-definitions"
  | componentLibrary => "component-library"

def all : List FragmentOrigin := [handWritten, typeDefinitions, componentLibrary]

def rank : FragmentOrigin → Nat
  | handWritten => 0 | typeDefinitions => 1 | componentLibrary => 2

end FragmentOrigin

structure Fragment where
  name : String
  path : FilePath
  origin : FragmentOrigin
  document : Json
deriving DecidableEq

end ApiAssembly
