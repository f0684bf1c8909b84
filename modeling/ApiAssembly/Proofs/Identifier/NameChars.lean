import ApiAssembly.Proofs.Identifier.Reserved
import ApiAssembly.Proofs.Text.Lines
/-! What names are written with. Words hold no mark of a program, and what is put before, between and
behind them is an underscore or the mark of a raw name. So a name ends where its program goes on. -/
namespace ApiAssembly.Identifier

def isNameChar (c : Char) : Bool := 128 ≤ c.toNat || c.isAlphanum || c = '_' || c = '#'

def Wordlike (text : String) : Prop := ∀ c ∈ text.toList, isNameChar c = true

theorem isNameChar_of_plain (c : Char) (plain : c.toNat < 128 → c.isAlphanum = true) :
    isNameChar c = true := by
  by_cases ascii : c.toNat < 128
  · simp [isNameChar, plain ascii]
  · simp [isNameChar, Nat.le_of_not_lt ascii]

theorem wordlike_iff_all (text : String) : Wordlike text ↔ text.toList.all isNameChar = true :=
  List.all_eq_true.symm

instance (text : String) : Decidable (Wordlike text) :=
  decidable_of_iff _ (wordlike_iff_all text).symm

theorem wordlike_ofList (cs : List Char) :
    Wordlike (String.ofList cs) ↔ ∀ c ∈ cs, isNameChar c = true := by
  rw [Wordlike, String.toList_ofList]

namespace Wordlike

theorem append {first second : String} (left : Wordlike first) (right : Wordlike second) :
    Wordlike (first ++ second) := by
  rw [Wordlike, String.toList_append, List.forall_mem_append]
  exact ⟨left, right⟩

theorem not_mem {text : String} (name : Wordlike text) (mark : Char) (other : isNameChar mark = false) :
    mark ∉ text.toList := by
  intro member
  rw [name mark member] at other
  cases other

end Wordlike

theorem wordlike_snake (text : String) : Wordlike (snake text) := by
  rw [snake, wordlike_ofList]
  intro c member
  rcases Text.mem_intercalate _ _ c member with between | ⟨word, isWord, inside⟩
  · rw [List.mem_singleton.mp between]
    decide
  · exact isNameChar_of_plain c (mem_word_ascii text.toList word c isWord inside)

theorem wordlike_camel (text : String) : Wordlike (camel text) := by
  intro c member
  exact isNameChar_of_plain c (mem_camel_ascii text c member)

theorem wordlike_pascal (text : String) : Wordlike (pascal text) := by
  rw [pascal, wordlike_ofList]
  intro c member
  apply isNameChar_of_plain
  intro ascii
  obtain ⟨word, inside, kept | ⟨first, held, raised⟩⟩ := mem_joinCapitalized _ c member
  · exact mem_word_ascii text.toList word c inside kept ascii
  · exact Text.mem_upper_ascii first c (mem_word_ascii text.toList word first inside held) raised ascii

theorem wordlike_rust (name : String) (named : Wordlike name) : Wordlike (rust name) := by
  have mark : Wordlike "_" := by decide
  have raw : Wordlike "r#" := by decide
  rcases rust_cases name with ⟨_, same⟩ | ⟨_, same⟩ | ⟨_, same⟩ | ⟨_, same⟩
  · exact same ▸ mark.append named
  · exact same ▸ named.append mark
  · exact same ▸ raw.append named
  · exact same.symm ▸ named

theorem wordlike_python (name : String) (named : Wordlike name) : Wordlike (python name) := by
  have mark : Wordlike "_" := by decide
  rcases python_cases name with ⟨_, same⟩ | ⟨_, same⟩ | ⟨_, same⟩
  · exact same ▸ mark.append named
  · exact same ▸ named.append mark
  · exact same.symm ▸ named

theorem wordlike_commandField (parameter : String) : Wordlike (commandField parameter) := by
  have name := wordlike_rust _ (wordlike_snake parameter)
  have mark : Wordlike "_" := by decide
  unfold commandField
  simp only
  split
  · exact name.append mark
  · exact name

theorem wordlike_clientArgument (parameter : String) : Wordlike (clientArgument parameter) := by
  have name := wordlike_python _ (wordlike_snake parameter)
  have mark : Wordlike "_" := by decide
  unfold clientArgument
  simp only
  split
  · exact name.append mark
  · exact name

/-- The names that the programs give to an operation. -/
theorem wordlike_variant (id : String) : Wordlike (Names.ofOperation id).variant :=
  wordlike_rust _ (wordlike_pascal id)

theorem wordlike_clientMethod (id : String) : Wordlike (Names.ofOperation id).clientMethod :=
  wordlike_python _ (wordlike_camel id)

theorem wordlike_routerStub (id : String) : Wordlike (Names.ofOperation id).routerStub := by
  have start : Wordlike "stub_" := by decide
  exact start.append (wordlike_snake id)

end ApiAssembly.Identifier
