import ApiAssembly.Text.Basic
/-! Categories of components, guessed from their names: the first keyword found anywhere in a name
decides. Case does not matter. The guess is a hint for readers, not a type. -/
namespace ApiAssembly

structure KeywordRule where
  keyword : String
  category : String
deriving DecidableEq

structure Classifier where
  rules : List KeywordRule
  fallback : String
deriving DecidableEq

namespace Classifier

def builtinRules : List KeywordRule := [
  ⟨"light", "light"⟩, ⟨"camera", "camera"⟩, ⟨"sound", "audio"⟩, ⟨"audio", "audio"⟩,
  ⟨"physics", "physics"⟩, ⟨"collider", "physics"⟩, ⟨"body", "physics"⟩, ⟨"anim", "animation"⟩,
  ⟨"material", "material"⟩, ⟨"shader", "material"⟩, ⟨"texture", "material"⟩,
  ⟨"geometry", "geometry"⟩, ⟨"shape", "geometry"⟩, ⟨"mesh", "geometry"⟩,
  ⟨"controls", "interaction"⟩, ⟨"cursor", "interaction"⟩, ⟨"raycaster", "interaction"⟩,
  ⟨"grab", "interaction"⟩, ⟨"hand", "interaction"⟩, ⟨"particle", "effects"⟩,
  ⟨"fog", "effects"⟩, ⟨"text", "text"⟩]

def fallbackCategory : String := "misc"

/-- Further rules are asked before the built-in ones. -/
def withRules (rules : List KeywordRule) : Classifier := ⟨rules ++ builtinRules, fallbackCategory⟩

def builtin : Classifier := withRules []

def classify (classifier : Classifier) (name : String) : String :=
  match classifier.rules.find? fun rule =>
    Text.mentions (Text.lowerAscii name) (Text.lowerAscii rule.keyword) with
  | some rule => rule.category
  | none => classifier.fallback

end Classifier
end ApiAssembly
