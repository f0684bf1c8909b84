import Mathlib.Data.List.Nodup
/-! Sorting by a comparison that tells the items apart. The outcome is strictly ordered, and a list of
this kind is told by its members, so it does not depend on the order in which the items came. -/
namespace ApiAssembly.Sorting
variable {α : Type} {order : α → α → Ordering}

theorem nodup_of_strict [Std.ReflCmp order] {items : List α}
    (strict : items.Pairwise fun left right => order left right = .lt) : items.Nodup := by
  refine strict.imp ?_
  intro left right before same
  have itself : order right right = .eq := Std.ReflCmp.compare_self
  rw [same, itself] at before
  cases before

variable [Std.TransCmp order]

theorem differ_comm {left right : α} (differ : order left right ≠ .eq) : order right left ≠ .eq := by
  intro same
  exact differ (Std.OrientedCmp.eq_comm.mp same)

theorem mergeSort_ordered (items : List α) :
    (items.mergeSort fun left right => (order left right).isLE).Pairwise fun left right =>
      (order left right).isLE = true := by
  refine List.pairwise_mergeSort ?_ ?_ items
  · intro left middle right first second
    exact Std.TransCmp.isLE_trans first second
  · intro left right
    have swapped : order right left = (order left right).swap := Std.OrientedCmp.eq_swap
    rw [Bool.or_eq_true, swapped]
    cases order left right <;> simp

theorem mergeSort_strict {items : List α}
    (apart : items.Pairwise fun left right => order left right ≠ .eq) :
    (items.mergeSort fun left right => (order left right).isLE).Pairwise fun left right =>
      order left right = .lt := by
  have sorted : (items.mergeSort fun left right => (order left right).isLE).Pairwise
      fun left right => order left right ≠ .eq :=
    (List.mergeSort_perm items _).symm.pairwise apart differ_comm
  refine ((mergeSort_ordered items).and sorted).imp ?_
  rintro left right ⟨ordered, differ⟩
  cases compared : order left right with
  | lt => rfl
  | eq => exact absurd compared differ
  | gt =>
    rw [compared] at ordered
    cases ordered

theorem eq_of_mem_iff {left right : List α}
    (leftStrict : left.Pairwise fun first second => order first second = .lt)
    (rightStrict : right.Pairwise fun first second => order first second = .lt)
    (same : ∀ item, item ∈ left ↔ item ∈ right) : left = right := by
  have perm : left.Perm right :=
    (List.perm_ext_iff_of_nodup (nodup_of_strict leftStrict) (nodup_of_strict rightStrict)).mpr same
  refine List.Perm.eq_of_pairwise ?_ leftStrict rightStrict perm
  intro first second _ _ before after
  exact absurd after (Std.OrientedCmp.not_lt_of_lt before)

theorem mergeSort_eq_of_perm {shuffled items : List α} (shuffle : shuffled.Perm items)
    (apart : items.Pairwise fun left right => order left right ≠ .eq) :
    shuffled.mergeSort (fun left right => (order left right).isLE) =
      items.mergeSort fun left right => (order left right).isLE := by
  apply eq_of_mem_iff (mergeSort_strict (shuffle.symm.pairwise apart differ_comm))
    (mergeSort_strict apart)
  intro item
  rw [(List.mergeSort_perm shuffled _).mem_iff, (List.mergeSort_perm items _).mem_iff,
    shuffle.mem_iff]

end ApiAssembly.Sorting
