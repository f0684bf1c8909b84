import ApiAssembly.Proofs.Merge.Parts
/-! The log of collisions. Whoever declares a key takes it over from the one who declared it before,
and every such step is logged once, in order. The policy decides whether the steps are errors too;
a run under one policy follows a run under the other in everything else. -/
namespace ApiAssembly

def Collision.key (collision : Collision) : OperationKey := ⟨collision.path, collision.method⟩

namespace Merge

/-- The sources that declare a key, in the order in which they do. -/
def sourcesOf (key : OperationKey) (operations : List Operation) : List String :=
  (operations.filter fun operation => key = operation.key).map Operation.source

/-- Each source hands the key over to the next one. -/
def handovers (key : OperationKey) (sources : List String) : List Collision :=
  (sources.zip sources.tail).map fun pair => ⟨key.method, key.path, pair.1, pair.2⟩

def holder (merge : Merge) (key : OperationKey) : List String :=
  (merge.operation? key).toList.map Operation.source

def logOf (merge : Merge) (key : OperationKey) : List Collision :=
  merge.collisions.filter fun collision => key = collision.key

theorem logOf_addOperation (policy : CollisionPolicy) (merge : Merge) (operation : Operation)
    (key : OperationKey) :
    (addOperation policy merge operation).logOf key =
      merge.logOf key ++
        if key = operation.key then handovers key (merge.holder key ++ [operation.source]) else [] := by
  have appended : (addOperation policy merge operation).logOf key = merge.logOf key ++
      (merge.collision? operation).toList.filter fun collision => key = collision.key :=
    List.filter_append _ _
  rw [appended, collision?, holder]
  by_cases same : key = operation.key
  · rw [if_pos same, ← same]
    cases found : merge.operation? key with
    | none => rfl
    | some previous => simp [same, handovers, Collision.key, Operation.key]
  · rw [if_neg same]
    have other : key ≠ ⟨operation.path, operation.method⟩ := same
    cases merge.operation? operation.key with
    | none => rfl
    | some previous => simp [other, Collision.key]

-- The holder of the key is what ties the log so far to what is still to come.
theorem logOf_operations (policy : CollisionPolicy) (operations : List Operation) (merge : Merge)
    (key : OperationKey) :
    (operations.foldl (addOperation policy) merge).logOf key =
      merge.logOf key ++ handovers key (merge.holder key ++ sourcesOf key operations) := by
  induction operations generalizing merge with
  | nil =>
    rw [List.foldl_nil, sourcesOf, holder]
    cases merge.operation? key <;> simp [handovers]
  | cons operation rest ih =>
    rw [List.foldl_cons, ih, logOf_addOperation, List.append_assoc]
    congr 1
    have held := operation?_addOperation policy merge operation key
    by_cases same : key = operation.key
    · have next : (addOperation policy merge operation).holder key = [operation.source] := by
        rw [holder, held, if_pos same]
        rfl
      have declaring : sourcesOf key (operation :: rest) = operation.source :: sourcesOf key rest := by
        simp [sourcesOf, same]
      rw [if_pos same, next, declaring, holder]
      cases merge.operation? key <;> rfl
    · have next : (addOperation policy merge operation).holder key = merge.holder key := by
        rw [holder, held, if_neg same, holder]
      have declaring : sourcesOf key (operation :: rest) = sourcesOf key rest := by
        simp [sourcesOf, same]
      rw [if_neg same, next, declaring, List.nil_append]

theorem logOf_ofFragments (policy : CollisionPolicy) (fragments : List Fragment)
    (key : OperationKey) :
    (ofFragments policy fragments).logOf key = handovers key (sourcesOf key (declared fragments)) := by
  rw [logOf, ofFragments_collisions]
  exact logOf_operations policy (declared fragments) {} key

/-! Two runs over the same fragments, side by side. -/

/-- The strict run has an error for each collision and is like the lax one apart from that. -/
structure Alongside (lax strict : Merge) : Prop where
  none : lax.conflicts = []
  each : strict = { lax with conflicts := lax.collisions.map .pathConflict }

theorem alongside_addOperation (lax strict : Merge) (operation : Operation)
    (runs : Alongside lax strict) :
    Alongside (addOperation .lastWriterWins lax operation) (addOperation .error strict operation) := by
  obtain ⟨free, rfl⟩ := runs
  refine ⟨?_, ?_⟩
  · change lax.conflicts ++ ((lax.collision? operation).bind _).toList = []
    rw [free]
    cases lax.collision? operation <;> rfl
  · have logged : (lax.collisions ++ (lax.collision? operation).toList).map BuildError.pathConflict =
        lax.collisions.map .pathConflict ++
          ((lax.collision? operation).bind CollisionPolicy.error.conflict?).toList := by
      rw [List.map_append]
      cases lax.collision? operation <;> rfl
    change _ = { addOperation .lastWriterWins lax operation with
      conflicts := (lax.collisions ++ (lax.collision? operation).toList).map BuildError.pathConflict }
    rw [logged]
    rfl

theorem alongside_operations (operations : List Operation) (lax strict : Merge)
    (runs : Alongside lax strict) :
    Alongside (operations.foldl (addOperation .lastWriterWins) lax)
      (operations.foldl (addOperation .error) strict) := by
  induction operations generalizing lax strict with
  | nil => exact runs
  | cons operation rest ih => exact ih _ _ (alongside_addOperation lax strict operation runs)

theorem alongside_addFragment (lax strict : Merge) (fragment : Fragment)
    (runs : Alongside lax strict) :
    Alongside (addFragment .lastWriterWins lax fragment) (addFragment .error strict fragment) := by
  obtain ⟨free, rfl⟩ := runs
  exact alongside_operations _ _ _ ⟨free, rfl⟩

theorem alongside_fragments (fragments : List Fragment) (lax strict : Merge)
    (runs : Alongside lax strict) :
    Alongside (fragments.foldl (addFragment .lastWriterWins) lax)
      (fragments.foldl (addFragment .error) strict) := by
  induction fragments generalizing lax strict with
  | nil => exact runs
  | cons fragment rest ih => exact ih _ _ (alongside_addFragment lax strict fragment runs)

/-- The log of each key is its line of owners, and a strict run differs from a lax one only in the
errors that stand in front. -/
theorem collision_log_exact (fragments : List Fragment) :
    (∀ policy key, ((ofFragments policy fragments).collisions.filter fun collision =>
      key = collision.key) = handovers key (sourcesOf key (declared fragments))) ∧
    let lax := ofFragments .lastWriterWins fragments
    let strict := ofFragments .error fragments
    strict.specification = lax.specification ∧
    strict.collisions = lax.collisions ∧
    strict.warnings = lax.warnings ∧
    strict.errors = lax.collisions.map .pathConflict ++ lax.errors := by
  refine ⟨fun policy key => logOf_ofFragments policy fragments key, ?_⟩
  obtain ⟨free, each⟩ := alongside_fragments fragments {} {} ⟨rfl, rfl⟩
  intro lax strict
  have runs : strict = { lax with conflicts := lax.collisions.map .pathConflict } := each
  have none : lax.conflicts = [] := free
  refine ⟨?_, ?_, ?_, ?_⟩
  · rw [runs, specification, specification]
  · rw [runs]
  · rw [runs]
  · rw [errors, errors, none, runs]
    rfl

end Merge
end ApiAssembly
