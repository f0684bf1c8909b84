import ApiAssembly.Text.Basic
import Mathlib.Data.List.Basic
import Mathlib.Data.List.TakeWhile
/-! Cutting texts at marks. What was put around a mark is found before and behind it, as long as the mark
does not come up earlier. What is found in the parts of a text adds up to what is found in it. -/
namespace ApiAssembly.Text

theorem afterStart?_eq_some_iff (start text rest : String) :
    afterStart? start text = some rest ↔ text = start ++ rest := by
  rw [afterStart?, startsWith]
  constructor
  · intro found
    split at found
    · rename_i led
      cases found
      obtain ⟨behind, whole⟩ := List.isPrefixOf_iff_prefix.mp led
      apply String.toList_injective
      rw [String.toList_append, String.toList_ofList, ← whole, ← String.length_toList,
        List.drop_left]
    · cases found
  · rintro rfl
    rw [String.toList_append, if_pos (List.isPrefixOf_iff_prefix.mpr (List.prefix_append _ _)),
      ← String.length_toList, List.drop_left, String.ofList_toList]

theorem afterStart?_append (start rest : String) : afterStart? start (start ++ rest) = some rest :=
  (afterStart?_eq_some_iff start _ rest).mpr rfl

theorem bne_of_head? (line other : String) (differ : line.toList.head? ≠ other.toList.head?) :
    (line != other) = true := by
  rw [bne_iff_ne]
  rintro rfl
  exact differ rfl

/-- What stands before the first of the marks. -/
def beforeMark (mark : Char) (cs : List Char) : List Char := cs.takeWhile fun c => c != mark

/-- What stands behind the first of the marks. -/
def behindMark (mark : Char) (cs : List Char) : List Char := (cs.dropWhile fun c => c != mark).drop 1

section Marks
variable (mark : Char) (text : List Char)

theorem ne_of_absent (absent : mark ∉ text) : ∀ c ∈ text, (c != mark) = true := by
  intro c member
  rw [bne_iff_ne]
  exact fun same => absent (same ▸ member)

theorem beforeMark_absent (absent : mark ∉ text) : beforeMark mark text = text :=
  List.takeWhile_eq_self_iff.mpr (ne_of_absent mark text absent)

theorem beforeMark_append (rest : List Char) (absent : mark ∉ text) :
    beforeMark mark (text ++ mark :: rest) = text := by
  rw [beforeMark, List.takeWhile_append_of_pos (ne_of_absent mark text absent),
    List.takeWhile_cons_of_neg (by simp), List.append_nil]

theorem behindMark_append (rest : List Char) (absent : mark ∉ text) :
    behindMark mark (text ++ mark :: rest) = rest := by
  rw [behindMark, List.dropWhile_append_of_pos (ne_of_absent mark text absent),
    List.dropWhile_cons_of_neg (by simp), List.drop_one, List.tail_cons]

end Marks

/-! Lists in which each item may bring others along in front of its own. -/

section Strays
variable {item name : Type} (stray : item → List name) (own : item → name) (items : List item)

theorem length_flatMap_concat :
    (items.flatMap fun item => stray item ++ [own item]).length =
      (items.flatMap stray).length + items.length := by
  induction items with
  | nil => rfl
  | cons first rest ih =>
    rw [List.flatMap_cons, List.flatMap_cons, List.length_append, List.length_append,
      List.length_append, List.length_singleton, ih, List.length_cons]
    omega

theorem flatMap_concat_eq_map_iff :
    (items.flatMap fun item => stray item ++ [own item]) = items.map own ↔
      ∀ item ∈ items, stray item = [] := by
  constructor
  · intro same
    -- As many as there are own names leave no room for strays.
    have lengths := congrArg List.length same
    rw [length_flatMap_concat, List.length_map] at lengths
    exact List.flatMap_eq_nil_iff.mp (List.length_eq_zero_iff.mp (by omega))
  · intro none
    rw [List.map_eq_flatMap]
    apply List.flatMap_congr
    intro item member
    rw [none item member, List.nil_append]

end Strays
end ApiAssembly.Text
