import ApiAssembly.Identifier.Collision
import Mathlib.Data.List.Nodup
/-! The check of generated names finds fault exactly when a name comes up twice, whichever sources it
comes from. -/
namespace ApiAssembly.Identifier

theorem mem_eraseRepsLoop (text first : String) (texts kept : List String) :
    text ∈ List.eraseRepsBy.loop (· == ·) first texts kept ↔
      text ∈ kept ∨ text = first ∨ text ∈ texts := by
  induction texts generalizing first kept with
  | nil =>
    rw [List.eraseRepsBy.loop]
    simp [or_comm]
  | cons next rest ih =>
    rw [List.eraseRepsBy.loop]
    by_cases same : first = next
    · subst same
      simp [ih]
    · rw [beq_eq_false_iff_ne.mpr same, ih]
      simp only [List.mem_cons]
      tauto

theorem mem_distinctTexts (text : String) (texts : List String) :
    text ∈ distinctTexts texts ↔ text ∈ texts := by
  have kept : ∀ sorted : List String, text ∈ sorted.eraseReps ↔ text ∈ sorted := by
    intro sorted
    cases sorted with
    | nil => rfl
    | cons first rest =>
      rw [List.eraseReps, List.eraseRepsBy, mem_eraseRepsLoop]
      simp
  rw [distinctTexts, kept, sortTexts, List.mem_mergeSort]

theorem pairwise_eraseRepsLoop (first : String) (texts kept : List String)
    (sorted : (first :: texts).Pairwise (· ≤ ·)) (strict : (first :: kept).Pairwise (· > ·)) :
    (List.eraseRepsBy.loop (· == ·) first texts kept).Pairwise (· < ·) := by
  induction texts generalizing first kept with
  | nil =>
    rw [List.eraseRepsBy.loop]
    exact List.pairwise_reverse.mpr strict
  | cons next rest ih =>
    obtain ⟨least, tail⟩ := List.pairwise_cons.mp sorted
    rw [List.eraseRepsBy.loop]
    by_cases same : first = next
    · rw [beq_iff_eq.mpr same]
      exact ih first kept (same ▸ tail) strict
    · rw [beq_eq_false_iff_ne.mpr same]
      have smaller : first < next := Std.lt_of_le_of_ne (least next List.mem_cons_self) same
      refine ih next (first :: kept) tail (List.pairwise_cons.mpr ⟨?_, strict⟩)
      intro text member
      rcases List.mem_cons.mp member with head | earlier
      · exact head ▸ smaller
      · exact Std.lt_trans ((List.pairwise_cons.mp strict).1 text earlier) smaller

theorem sortTexts_pairwise (texts : List String) : (sortTexts texts).Pairwise (· ≤ ·) := by
  have transitive : ∀ a b c : String, decide (a ≤ b) = true → decide (b ≤ c) = true →
      decide (a ≤ c) = true := by
    intro a b c first second
    exact decide_eq_true (Std.le_trans (of_decide_eq_true first) (of_decide_eq_true second))
  have total : ∀ a b : String, (decide (a ≤ b) || decide (b ≤ a)) = true := by
    intro a b
    simpa using Std.le_total
  have sorted := List.pairwise_mergeSort transitive total texts
  simpa [sortTexts] using sorted

theorem distinctTexts_pairwise (texts : List String) : (distinctTexts texts).Pairwise (· < ·) := by
  have sorted := sortTexts_pairwise texts
  rw [distinctTexts]
  cases shape : sortTexts texts with
  | nil => exact List.Pairwise.nil
  | cons first rest =>
    exact pairwise_eraseRepsLoop first rest [] (shape ▸ sorted) (List.pairwise_singleton _ _)

/-- As many items have a key as the key comes up. -/
theorem length_filter_key {α : Type} (key : α → String) (name : String) (items : List α) :
    (items.filter fun item => key item = name).length = (items.map key).count name := by
  rw [List.count, List.countP_map, List.countP_eq_length_filter]
  congr 1

theorem sourcesOf_length (name : String) (names : List (String × String)) :
    (sourcesOf name names).length = (names.map Prod.fst).count name := by
  rw [sourcesOf, sortTexts, List.length_mergeSort, List.length_map, length_filter_key]

theorem collisions_eq_nil_iff (artifact : String) (names : List (String × String)) :
    collisions artifact names = [] ↔ (names.map Prod.fst).Nodup := by
  rw [collisions, List.filterMap_eq_nil_iff, List.nodup_iff_count_le_one]
  constructor
  · intro silent name
    by_cases member : name ∈ names.map Prod.fst
    · have one := silent name ((mem_distinctTexts name _).mpr member)
      rw [← sourcesOf_length]
      by_contra many
      simp [Nat.not_le.mp many] at one
    · rw [List.count_eq_zero.mpr member]
      exact Nat.zero_le 1
  · intro once name _
    have one := once name
    rw [← sourcesOf_length] at one
    simp [Nat.not_lt.mpr one]

/-- What passes the check of the names of all operations. -/
theorem operationCollisions_eq_nil_iff (ids : List String) :
    operationCollisions ids = [] ↔
      (ids.map fun id => (Names.ofOperation id).subcommand).Nodup ∧
      (ids.map fun id => (Names.ofOperation id).variant).Nodup ∧
      (ids.map fun id => (Names.ofOperation id).clientMethod).Nodup ∧
      (ids.map fun id => (Names.ofOperation id).routerStub).Nodup := by
  simp only [operationCollisions, List.append_eq_nil_iff, collisions_eq_nil_iff, List.map_map,
    Function.comp_def, and_assoc]

/-- What passes the check of the parameters of one operation. -/
theorem parameterCollisions_eq_nil_iff (id : String) (parameters : List String) :
    parameterCollisions id parameters = [] ↔
      (parameters.map commandField).Nodup ∧ (parameters.map clientArgument).Nodup := by
  simp only [parameterCollisions, List.append_eq_nil_iff, collisions_eq_nil_iff, List.map_map,
    Function.comp_def]

end ApiAssembly.Identifier
