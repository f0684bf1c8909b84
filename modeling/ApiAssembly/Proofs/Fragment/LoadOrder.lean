import ApiAssembly.Fragment.LoadOrder
import ApiAssembly.Proofs.Sorting.Strict
/-! The load order. Fragments with different keys are put into one order, in whatever order they
arrive, and of the fragments of one name the first in this order is kept. -/
namespace ApiAssembly

theorem FragmentOrigin.rank_injective (left right : FragmentOrigin)
    (same : left.rank = right.rank) : left = right := by
  cases left <;> cases right <;> simp_all [rank]

namespace Fragment

/-- What decides the place of a fragment in the load order. -/
def loadKey (fragment : Fragment) : Bool × FragmentOrigin × String × List String :=
  (fragment.isHandWritten, fragment.origin, fragment.label, fragment.path.parts)

instance : Std.TransCmp compareOrder :=
  inferInstanceAs (Std.TransCmp (compareLex (compareOn isHandWritten)
    (compareLex (compareOn fun fragment => fragment.origin.rank)
      (compareLex (compareOn label) (compareOn fun fragment => fragment.path.parts)))))

theorem compareOrder_eq_iff (left right : Fragment) :
    compareOrder left right = .eq ↔ left.loadKey = right.loadKey := by
  simp only [compareOrder, compareLex_eq_eq, compareOn, Std.LawfulEqOrd.compare_eq_iff_eq, loadKey,
    Prod.mk.injEq]
  constructor
  · rintro ⟨written, ranks, labels, parts⟩
    exact ⟨written, FragmentOrigin.rank_injective _ _ ranks, labels, parts⟩
  · rintro ⟨written, origins, labels, parts⟩
    exact ⟨written, congrArg FragmentOrigin.rank origins, labels, parts⟩

theorem handWritten_of_before (left right : Fragment) (before : compareOrder left right = .lt)
    (written : left.isHandWritten = true) : right.isHandWritten = true := by
  unfold compareOrder compareLex compareOn at before
  rw [written] at before
  cases other : right.isHandWritten with
  | true => rfl
  | false =>
    rw [other] at before
    cases before

theorem sort_perm (fragments : List Fragment) : (sort fragments).Perm fragments :=
  List.mergeSort_perm fragments _

theorem pairwise_differ {fragments : List Fragment} (distinct : (fragments.map loadKey).Nodup) :
    fragments.Pairwise fun left right => compareOrder left right ≠ .eq := by
  refine (List.pairwise_map.mp distinct).imp ?_
  intro left right differ same
  exact differ ((compareOrder_eq_iff left right).mp same)

/-- Different keys leave no choice in sorting. -/
theorem sort_strict (fragments : List Fragment) (distinct : (fragments.map loadKey).Nodup) :
    (sort fragments).Pairwise fun left right => compareOrder left right = .lt :=
  Sorting.mergeSort_strict (pairwise_differ distinct)

theorem sort_eq_of_perm (shuffled fragments : List Fragment)
    (distinct : (fragments.map loadKey).Nodup) (shuffle : shuffled.Perm fragments) :
    sort shuffled = sort fragments :=
  Sorting.mergeSort_eq_of_perm shuffle (pairwise_differ distinct)

/-! Keeping the first of each name. -/

theorem keepFirst_sublist (earlier fragments : List Fragment) :
    (keepFirst earlier fragments).fragments.Sublist fragments := by
  induction fragments generalizing earlier with
  | nil => exact List.Sublist.slnil
  | cons fragment rest ih =>
    unfold keepFirst
    split
    · exact (ih earlier).cons fragment
    · exact (ih (fragment :: earlier)).cons_cons fragment

theorem keepFirst_length (earlier fragments : List Fragment) :
    (keepFirst earlier fragments).fragments.length + (keepFirst earlier fragments).errors.length =
      fragments.length := by
  induction fragments generalizing earlier with
  | nil => rfl
  | cons fragment rest ih =>
    unfold keepFirst
    split
    · have counted := ih earlier
      simp only [List.length_cons]
      omega
    · have counted := ih (fragment :: earlier)
      simp only [List.length_cons]
      omega

-- What stands before a list is what the names in it are measured against.
theorem keepFirst_fresh (earlier fragments : List Fragment) (kept other : Fragment)
    (member : kept ∈ (keepFirst earlier fragments).fragments) (before : other ∈ earlier) :
    other.name ≠ kept.name := by
  induction fragments generalizing earlier with
  | nil => cases member
  | cons fragment rest ih =>
    unfold keepFirst at member
    split at member
    · exact ih earlier member before
    · rename_i unused
      rcases List.mem_cons.mp member with head | later
      · rw [head]
        simpa using List.find?_eq_none.mp unused other before
      · exact ih (fragment :: earlier) later (List.mem_cons_of_mem fragment before)

theorem keepFirst_names (earlier fragments : List Fragment) :
    ((keepFirst earlier fragments).fragments.map Fragment.name).Nodup := by
  rw [List.Nodup, List.pairwise_map]
  induction fragments generalizing earlier with
  | nil => exact List.Pairwise.nil
  | cons fragment rest ih =>
    unfold keepFirst
    split
    · exact ih earlier
    · refine List.pairwise_cons.mpr ⟨?_, ih (fragment :: earlier)⟩
      intro later member
      exact keepFirst_fresh (fragment :: earlier) rest later fragment member List.mem_cons_self

theorem keepFirst_represents (earlier fragments : List Fragment) (fragment : Fragment)
    (member : fragment ∈ fragments) :
    (∃ other ∈ earlier, other.name = fragment.name) ∨
      ∃ kept ∈ (keepFirst earlier fragments).fragments, kept.name = fragment.name := by
  induction fragments generalizing earlier with
  | nil => cases member
  | cons head rest ih =>
    unfold keepFirst
    split
    · rename_i first found
      rcases List.mem_cons.mp member with same | later
      · left
        refine ⟨first, List.mem_of_find?_eq_some found, ?_⟩
        rw [same]
        simpa using List.find?_some found
      · exact ih earlier later
    · rcases List.mem_cons.mp member with same | later
      · exact Or.inr ⟨head, List.mem_cons_self, same ▸ rfl⟩
      · rcases ih (head :: earlier) later with ⟨other, before, same⟩ | ⟨kept, inside, same⟩
        · rcases List.mem_cons.mp before with first | earlier
          · exact Or.inr ⟨head, List.mem_cons_self, first ▸ same⟩
          · exact Or.inl ⟨other, earlier, same⟩
        · exact Or.inr ⟨kept, List.mem_cons_of_mem head inside, same⟩

/-- In an ordered list a fragment that is kept comes before all others of its name. -/
theorem keepFirst_least (before : Fragment → Fragment → Prop) (earlier fragments : List Fragment)
    (ordered : fragments.Pairwise before) (kept other : Fragment)
    (member : kept ∈ (keepFirst earlier fragments).fragments) (present : other ∈ fragments)
    (same : other.name = kept.name) : other = kept ∨ before kept other := by
  induction fragments generalizing earlier with
  | nil => cases present
  | cons head rest ih =>
    obtain ⟨leads, tail⟩ := List.pairwise_cons.mp ordered
    unfold keepFirst at member
    split at member
    · rename_i first found
      rcases List.mem_cons.mp present with taken | later
      · have named : first.name = head.name := by simpa using List.find?_some found
        have fresh := keepFirst_fresh earlier rest kept first member (List.mem_of_find?_eq_some found)
        exact absurd (named.trans (taken ▸ same)) fresh
      · exact ih earlier tail member later
    · rcases List.mem_cons.mp member with first | inside
      · subst first
        exact (List.mem_cons.mp present).imp id (leads other)
      · rcases List.mem_cons.mp present with taken | later
        · have fresh := keepFirst_fresh (head :: earlier) rest kept head inside List.mem_cons_self
          exact absurd (taken ▸ same) fresh
        · exact ih (head :: earlier) tail inside later

/-- Of the fragments of one name exactly the one with the least key is kept. -/
theorem mem_order_iff (fragments : List Fragment) (distinct : (fragments.map loadKey).Nodup)
    (fragment : Fragment) :
    fragment ∈ (order fragments).fragments ↔ fragment ∈ fragments ∧ ∀ other ∈ fragments,
      other.name = fragment.name → (compareOrder fragment other).isLE = true := by
  have strict := sort_strict fragments distinct
  constructor
  · intro kept
    refine ⟨(sort_perm fragments).subset ((keepFirst_sublist [] _).subset kept), ?_⟩
    intro other present same
    rcases keepFirst_least _ [] _ strict fragment other kept
      ((sort_perm fragments).symm.subset present) same with itself | before
    · have equal : compareOrder fragment fragment = .eq := Std.ReflCmp.compare_self
      rw [itself, equal]
      rfl
    · rw [before]
      rfl
  · rintro ⟨present, least⟩
    have sorted := (sort_perm fragments).symm.subset present
    rcases keepFirst_represents [] _ fragment sorted with ⟨_, none, _⟩ | ⟨kept, inside, same⟩
    · cases none
    · rcases keepFirst_least _ [] _ strict kept fragment inside sorted same.symm with itself | before
      · exact itself ▸ inside
      · have reached := least kept
          ((sort_perm fragments).subset ((keepFirst_sublist [] _).subset inside)) same
        have after : compareOrder fragment kept = .gt := Std.OrientedCmp.gt_of_lt before
        rw [after] at reached
        cases reached

/-- Fragments with different keys are ordered alike however they arrive. The order is that of their
keys, each name is kept for its least fragment, and each other fragment is an error. -/
theorem order_of_perm (shuffled fragments : List Fragment)
    (distinct : (fragments.map loadKey).Nodup) (shuffle : shuffled.Perm fragments) :
    order shuffled = order fragments ∧
    let kept := (order fragments).fragments
    (kept.Pairwise fun left right => compareOrder left right = .lt) ∧
    (kept.Pairwise fun left right => left.isHandWritten = true → right.isHandWritten = true) ∧
    (kept.map Fragment.name).Nodup ∧
    (∀ fragment, fragment ∈ kept ↔ fragment ∈ fragments ∧ ∀ other ∈ fragments,
      other.name = fragment.name → (compareOrder fragment other).isLE = true) ∧
    (∀ fragment ∈ fragments, ∃ first ∈ kept, first.name = fragment.name) ∧
    kept.length + (order fragments).errors.length = fragments.length := by
  have strict : (order fragments).fragments.Pairwise fun left right => compareOrder left right = .lt :=
    (sort_strict fragments distinct).sublist (keepFirst_sublist [] _)
  refine ⟨?_, strict, strict.imp ?_, keepFirst_names [] _, mem_order_iff fragments distinct, ?_, ?_⟩
  · rw [order, order, sort_eq_of_perm shuffled fragments distinct shuffle]
  · intro left right before
    exact handWritten_of_before left right before
  · intro fragment present
    rcases keepFirst_represents [] _ fragment ((sort_perm fragments).symm.subset present) with
      ⟨_, none, _⟩ | represented
    · cases none
    · exact represented
  · rw [order, keepFirst_length, (sort_perm fragments).length_eq]

/-- Two files of one name, and a fragment of type declarations, which goes first. -/
theorem order_of_perm_example :
    let json : Fragment := ⟨"core", ⟨"schemas/core.json"⟩, .handWritten, .obj []⟩
    let yaml : Fragment := ⟨"core", ⟨"schemas/core.yaml"⟩, .handWritten, .obj []⟩
    let types : Fragment := ⟨"geometries", ⟨"vendor/types"⟩, .typeDefinitions, .obj []⟩
    ([json, yaml, types].map loadKey).Nodup ∧ [yaml, types, json].Perm [json, yaml, types] ∧
    order [yaml, types, json] = order [json, yaml, types] ∧
    types ∈ (order [json, yaml, types]).fragments ∧ json ∈ (order [json, yaml, types]).fragments ∧
    yaml ∉ (order [json, yaml, types]).fragments ∧
    (order [json, yaml, types]).fragments.length + (order [json, yaml, types]).errors.length = 3 := by
  intro json yaml types
  have distinct : ([json, yaml, types].map loadKey).Nodup := by decide
  have shuffle : [yaml, types, json].Perm [json, yaml, types] := by decide
  obtain ⟨alike, _, _, _, least, _, counted⟩ :=
    order_of_perm [yaml, types, json] [json, yaml, types] distinct shuffle
  refine ⟨distinct, shuffle, alike, (least types).mpr (by decide), (least json).mpr (by decide), ?_,
    counted⟩
  intro kept
  exact absurd ((least yaml).mp kept) (by decide)

end Fragment
end ApiAssembly
