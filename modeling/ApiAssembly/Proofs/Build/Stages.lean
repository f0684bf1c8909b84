import ApiAssembly.Build.Run
/-! A build taken apart into its stages. Each stage has its own findings, and looks at nothing but
what the stages before it have made. The report lists the errors stage by stage. -/
namespace ApiAssembly

/-- What a step that can fail as a whole has to report. -/
def errorsOf (errors : α → List BuildError) : Except BuildError α → List BuildError
  | .ok value => errors value
  | .error error => [error]

namespace Build

def loaded (config : Config) (tree : FileTree) : Except BuildError Fragment.Loaded :=
  match config.fragmentDirectory with
  | .ok directory => Fragment.load tree directory
  | .error fault => .error (.configuration fault)

/-- Without a directory of fragments no sources are read. -/
def syntheses (config : Config) (tree : FileTree) : Except BuildError (List Synthesis) :=
  match config.fragmentDirectory with
  | .ok _ => synthesize config tree
  | .error _ => .ok []

def gathered (config : Config) (tree : FileTree) : List Fragment :=
  ((loaded config tree).toOption.map Fragment.Loaded.fragments).getD [] ++
    ((syntheses config tree).toOption.getD []).flatMap fun synthesis => synthesis.fragment.toList

def ordered (config : Config) (tree : FileTree) : Fragment.Ordered :=
  Fragment.order (gathered config tree)

def merged (config : Config) (tree : FileTree) : Merge :=
  Merge.ofFragments config.collisionPolicy (ordered config tree).fragments

def specification (config : Config) (tree : FileTree) : Specification :=
  (merged config tree).specification

def handlersChecked (config : Config) (tree : FileTree) : Except BuildError (List MissingHandler) :=
  if config.handlerValidation then
    MissingHandler.check config.handlerRules tree (specification config tree)
  else .ok []

def routes (config : Config) (tree : FileTree) : List Route :=
  Route.table (specification config tree)
    (((handlersChecked config tree).toOption.getD []).map MissingHandler.key)

inductive Stage where
  | loading | synthesis | ordering | merging | handlers | names | parameters
deriving DecidableEq

namespace Stage

def all : List Stage := [loading, synthesis, ordering, merging, handlers, names, parameters]

def loadingErrors (config : Config) (tree : FileTree) : List BuildError :=
  errorsOf Fragment.Loaded.errors (loaded config tree)

def synthesisErrors (config : Config) (tree : FileTree) : List BuildError :=
  errorsOf (fun made => made.flatMap Synthesis.errors) (syntheses config tree)

/-- To be left without any fragment is an error unless something else is to blame. -/
def orderingErrors (config : Config) (tree : FileTree) : List BuildError :=
  let found := loadingErrors config tree ++ synthesisErrors config tree ++ (ordered config tree).errors
  (ordered config tree).errors ++
    if (ordered config tree).fragments.isEmpty && found.isEmpty then
      config.paths.fragments.toList.map fun directory => .configuration (.noFragments directory)
    else []

/-- What goes wrong in a stage. -/
def errors (config : Config) (tree : FileTree) : Stage → List BuildError
  | loading => loadingErrors config tree
  | synthesis => synthesisErrors config tree
  | ordering => orderingErrors config tree
  | merging => (merged config tree).errors
  | handlers => errorsOf (fun _ => []) (handlersChecked config tree)
  | names =>
    Identifier.operationCollisions ((specification config tree).operations.map Operation.id)
  | parameters => Route.parameterCollisions (routes config tree)

end Stage

/-! The fragments of a build, and what is reported until they are in order. -/

theorem addSyntheses_fold (syntheses : List Synthesis) (collection : Collection) :
    (syntheses.foldl Collection.addSynthesis collection).fragments =
        collection.fragments ++ syntheses.flatMap (fun synthesis => synthesis.fragment.toList) ∧
      (syntheses.foldl Collection.addSynthesis collection).report.errors =
        collection.report.errors ++ syntheses.flatMap Synthesis.errors := by
  induction syntheses generalizing collection with
  | nil => simp
  | cons synthesis rest ih =>
    obtain ⟨fragments, errors⟩ := ih (collection.addSynthesis synthesis)
    rw [List.foldl_cons, fragments, errors, List.flatMap_cons, List.flatMap_cons]
    exact ⟨List.append_assoc _ _ _, List.append_assoc _ _ _⟩

/-- The collection just before it is put into order. -/
def collection (config : Config) (tree : FileTree) : Collection :=
  (Collection.addLoaded (loaded config tree) {}).addSyntheses (syntheses config tree)

theorem collection_eq (config : Config) (tree : FileTree) :
    (collection config tree).fragments = gathered config tree ∧
      (collection config tree).report.errors =
        Stage.loadingErrors config tree ++ Stage.synthesisErrors config tree := by
  unfold collection gathered Stage.loadingErrors Stage.synthesisErrors
  cases loaded config tree with
  | error error =>
    cases syntheses config tree with
    | error fault => exact ⟨rfl, rfl⟩
    | ok made => exact addSyntheses_fold made _
  | ok loaded =>
    cases syntheses config tree with
    | error fault => exact ⟨(List.append_nil _).symm, rfl⟩
    | ok made => exact addSyntheses_fold made _

theorem fragmentDirectory_ok (config : Config) (directory : FilePath)
    (configured : config.fragmentDirectory = .ok directory) :
    config.paths.fragments = some directory := by
  unfold Config.fragmentDirectory at configured
  split at configured
  · rename_i found
    cases configured
    exact found
  · cases configured

theorem finish_eq (directory : FilePath) (collection : Collection) :
    (collection.finish directory).1.errors = collection.report.errors ++
        (if collection.fragments.isEmpty && collection.report.errors.isEmpty then
          [.configuration (.noFragments directory)] else []) ∧
      (collection.finish directory).2 =
        if collection.fragments.isEmpty then none else some collection.fragments := by
  unfold Collection.finish
  cases collection.fragments.isEmpty with
  | false => exact ⟨(List.append_nil _).symm, rfl⟩
  | true =>
    by_cases blamed : collection.report.errors.isEmpty = true
    · simp [Report.hasErrors, Report.addErrors, blamed]
    · simp [Report.hasErrors, blamed]

theorem collect_eq (config : Config) (tree : FileTree) :
    (collect config tree).1.errors = Stage.loadingErrors config tree ++
        Stage.synthesisErrors config tree ++ Stage.orderingErrors config tree ∧
      (collect config tree).2 = if (ordered config tree).fragments.isEmpty then none
        else some (ordered config tree).fragments := by
  cases configured : config.fragmentDirectory with
  | error fault =>
    have none : gathered config tree = [] := by
      simp [gathered, loaded, syntheses, configured, Except.toOption]
    have nothing : ordered config tree = {} := by
      rw [ordered, none, Fragment.order, Fragment.sort, List.mergeSort_nil]
      rfl
    simp [collect, configured, Stage.orderingErrors, Stage.loadingErrors, Stage.synthesisErrors,
      loaded, syntheses, errorsOf, nothing, Report.addErrors]
  | ok directory =>
    have built : collect config tree = (collection config tree).ordered.finish directory := by
      rw [collect, configured, collection, loaded, syntheses, configured]
    obtain ⟨fragments, errors⟩ := collection_eq config tree
    have put : (collection config tree).ordered.fragments = (ordered config tree).fragments := by
      rw [Collection.ordered, fragments, ordered]
    have reported : (collection config tree).ordered.report.errors =
        Stage.loadingErrors config tree ++ Stage.synthesisErrors config tree ++
          (ordered config tree).errors := by
      rw [Collection.ordered, Report.addErrors, errors, fragments, ordered]
    obtain ⟨found, kept⟩ := finish_eq directory (collection config tree).ordered
    rw [built, found, kept, put, reported, Stage.orderingErrors,
      fragmentDirectory_ok config directory configured]
    exact ⟨List.append_assoc _ _ _, rfl⟩

/-! The outcome of a build before anything is written. -/

theorem outcome_of_none (config : Config) (tree : FileTree) (none : (collect config tree).2 = none) :
    outcome config tree = { report := (collect config tree).1 } := by
  unfold outcome
  split
  · rename_i report collected
    rw [collected]
  · rename_i report fragments collected
    rw [collected] at none
    cases none

theorem addHandlers_eq (config : Config) (tree : FileTree) (report : Report) :
    (addHandlers config tree (specification config tree) report).1.errors =
        report.errors ++ Stage.handlers.errors config tree ∧
      (addHandlers config tree (specification config tree) report).2 =
        ((handlersChecked config tree).toOption.getD []).map MissingHandler.key := by
  rw [addHandlers, Stage.errors, handlersChecked]
  cases config.handlerValidation with
  | false => exact ⟨(List.append_nil _).symm, rfl⟩
  | true =>
    simp only [if_true]
    cases MissingHandler.check config.handlerRules tree (specification config tree) with
    | ok missing => exact ⟨(List.append_nil _).symm, rfl⟩
    | error error => exact ⟨rfl, rfl⟩

theorem addMerge_errors (merge : Merge) (report : Report) :
    (addMerge merge report).errors = report.errors ++ merge.errors := rfl

theorem addNames_errors (spec : Specification) (routes : List Route) (report : Report) :
    (addNames spec routes report).errors = report.errors ++
      Identifier.operationCollisions (spec.operations.map Operation.id) ++
      Route.parameterCollisions routes := rfl

theorem outcome_of_some (config : Config) (tree : FileTree)
    (some : (collect config tree).2 = some (ordered config tree).fragments) :
    (outcome config tree).specification = .some (specification config tree) ∧
      (outcome config tree).routes = routes config tree ∧
      (outcome config tree).report.errors = (collect config tree).1.errors ++
        (merged config tree).errors ++ Stage.handlers.errors config tree ++
        Stage.names.errors config tree ++ Stage.parameters.errors config tree := by
  unfold outcome
  split
  · rename_i report collected
    rw [collected] at some
    cases some
  · rename_i report fragments collected
    rw [collected] at some
    cases some
    have handlers := addHandlers_eq config tree (addMerge (merged config tree) report)
    have listed : (routes config tree) = Route.table (specification config tree)
      (addHandlers config tree (specification config tree) (addMerge (merged config tree) report)).2 := by
      rw [routes, handlers.2]
    refine ⟨rfl, listed.symm, ?_⟩
    change (addNames (specification config tree) (Route.table (specification config tree)
      (addHandlers config tree (specification config tree)
        (addMerge (merged config tree) report)).2)
      (addHandlers config tree (specification config tree)
        (addMerge (merged config tree) report)).1).errors = _
    rw [addNames_errors, ← listed, handlers.1, addMerge_errors, collected]
    rfl

-- Without fragments the later stages have nothing to object to.
theorem later_errors_of_none (config : Config) (tree : FileTree)
    (none : (ordered config tree).fragments = []) :
    (merged config tree).errors = [] ∧ Stage.handlers.errors config tree = [] ∧
      Stage.names.errors config tree = [] ∧ Stage.parameters.errors config tree = [] := by
  have empty : merged config tree = {} := by rw [merged, none]; rfl
  have spec : specification config tree = ⟨{}, Dict.empty, Dict.empty⟩ := by
    rw [specification, empty]
    rfl
  have operations : (specification config tree).operations = [] := by rw [spec]; rfl
  have distinct : Identifier.distinctTexts [] = [] := by
    rw [Identifier.distinctTexts, Identifier.sortTexts, List.mergeSort_nil]
    rfl
  refine ⟨?_, ?_, ?_, ?_⟩
  · rw [empty]
    change (Identifier.distinctTexts []).filterMap _ = []
    rw [distinct, List.filterMap_nil]
  · have checked : handlersChecked config tree = .ok [] := by
      unfold handlersChecked
      split
      · simp [MissingHandler.check, MissingHandler.all, operations]
      · rfl
    rw [Stage.errors, checked]
    rfl
  · rw [Stage.errors, operations]
    simp [Identifier.operationCollisions, Identifier.collisions, distinct]
  · rw [Stage.errors, routes, Route.table, operations]
    rfl

theorem outcome_specification (config : Config) (tree : FileTree) :
    (outcome config tree).specification =
      if (ordered config tree).fragments.isEmpty then none
      else some (specification config tree) := by
  have kept := (collect_eq config tree).2
  split
  · rename_i empty
    rw [if_pos empty] at kept
    rw [outcome_of_none config tree kept]
  · rename_i some
    rw [if_neg some] at kept
    exact (outcome_of_some config tree kept).1

/-- The report of a build before anything is written: the errors of all stages, in their order. -/
theorem outcome_errors (config : Config) (tree : FileTree) :
    (outcome config tree).report.errors = Stage.all.flatMap (Stage.errors config tree) := by
  obtain ⟨found, kept⟩ := collect_eq config tree
  split at kept
  · rename_i empty
    obtain ⟨merging, handlers, names, parameters⟩ :=
      later_errors_of_none config tree (List.isEmpty_iff.mp empty)
    rw [outcome_of_none config tree kept, found]
    simp only [Stage.all, List.flatMap_cons, List.flatMap_nil, handlers, names, parameters]
    simp [Stage.errors, merging]
  · rw [(outcome_of_some config tree kept).2.2, found]
    simp [Stage.all, Stage.errors]

end Build
end ApiAssembly
