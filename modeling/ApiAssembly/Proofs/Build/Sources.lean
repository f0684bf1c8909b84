import ApiAssembly.Proofs.Build.Gate
import ApiAssembly.Proofs.FileTree.Files
import ApiAssembly.Proofs.FileTree.Growth
/-! What a build looks into: the fragment files of its directory, the type declarations and the
component sources. Two trees that agree on these come to the same fragments. Whether handlers are
missing is the only other question that a build asks of a tree. -/
namespace ApiAssembly

namespace Fragment

/-- Whether a location is directly below the root of a directory and holds a fragment there. -/
def isFragmentAt (directory : FilePath) (root location : Location) : Bool :=
  location.dropLast = root &&
    location.getLast?.any fun name => isFragmentPath (directory.join ⟨name⟩)

theorem filter_filesIn (tree : FileTree) (directory : FilePath) (root : Location) :
    (filesIn tree directory root).filter (fun file => isFragmentPath file.path) =
      (tree.filesAt (isFragmentAt directory root)).filterMap fun entry =>
        entry.1.getLast?.bind fun name =>
          if FileTree.isPathTooLong (directory.join ⟨name⟩) then none
          else some ⟨directory.join ⟨name⟩, entry.2⟩ := by
  rw [filesIn, FileTree.names, FileTree.filesAt, Dict.keys, List.filterMap_map,
    List.filterMap_filterMap, List.filter_filterMap, List.filterMap_filterMap]
  apply List.filterMap_congr
  rintro ⟨location, entry⟩ member
  by_cases beneath : location.dropLast = root
  · cases last : location.getLast? with
    | none => simp [beneath, last, isFragmentAt]
    | some name =>
      have whole : root ++ [name] = location := by
        rw [← beneath]
        exact List.dropLast_append_getLast? name last
      have inside : location ≠ [] := by
        intro empty
        rw [empty] at last
        cases last
      have known : tree.content? (root ++ [name]) = entry.content? := by
        rw [FileTree.content?, whole, tree.entryAt?_of_mem location entry inside member]
        rfl
      cases entry with
      | directory => simp [beneath, last, isFragmentAt, fileAt?, known, FileEntry.content?]
      | file content =>
        -- Files of other extensions, and those with too long a path, are left out on both sides.
        by_cases fits : isFragmentPath (directory.join ⟨name⟩) = true
        · by_cases long : FileTree.isPathTooLong (directory.join ⟨name⟩) = true
          · simp [beneath, last, isFragmentAt, fileAt?, FileEntry.content?, fits, long]
          · simp [beneath, last, isFragmentAt, fileAt?, known, FileEntry.content?, fits, long]
        · by_cases long : FileTree.isPathTooLong (directory.join ⟨name⟩) = true
          · simp [beneath, last, isFragmentAt, fileAt?, fits, long]
          · simp [beneath, last, isFragmentAt, fileAt?, known, FileEntry.content?, fits, long]
  · simp [beneath, isFragmentAt]

theorem isFragmentAt_nil (directory : FilePath) (root : Location) :
    isFragmentAt directory root [] = false := by
  simp [isFragmentAt]

theorem loadFiles_congr {first second : List FragmentFile}
    (same : first.filter (fun file => isFragmentPath file.path) =
      second.filter fun file => isFragmentPath file.path) : loadFiles first = loadFiles second := by
  rw [loadFiles, same, loadFiles]

theorem load_ok {tree : FileTree} {directory : FilePath} {loaded : Loaded}
    (read : load tree directory = .ok loaded) :
    ∃ root, tree.locate directory = .ok root ∧ tree.entryAt? root = some .directory ∧
      loaded = loadFiles (filesIn tree directory root) := by
  unfold load at read
  cases reached : tree.locate directory with
  | error fault => rw [reached] at read; cases read
  | ok root =>
    rw [reached] at read
    simp only at read
    split at read
    · rename_i known
      cases read
      exact ⟨root, rfl, known, rfl⟩
    · cases read

theorem load_congr {before after : FileTree} (grows : before.Grows after) {directory : FilePath}
    {loaded : Loaded} (read : load before directory = .ok loaded)
    (same : ∀ root location, before.locate directory = .ok root →
      isFragmentAt directory root location = true →
        after.content? location = before.content? location) :
    load after directory = .ok loaded := by
  obtain ⟨root, reached, known, made⟩ := load_ok read
  have files : loadFiles (filesIn after directory root) = loaded := by
    rw [made]
    apply loadFiles_congr
    rw [filter_filesIn, filter_filesIn, FileTree.filesAt_congr (isFragmentAt_nil _ _)]
    intro location member
    exact same root location reached member
  rw [load, grows.locate directory root reached]
  simp only
  rw [if_pos (grows.directory root known), files]

end Fragment

/-- A synthesis without its warnings. -/
def Synthesis.muted (synthesis : Synthesis) : Synthesis := { synthesis with warnings := [] }

namespace TypeSources

/-- Whether a file is one that can declare types. -/
def declares (path : FilePath) : Bool := path.extension?.any ["ts", "yaml", "yml", "json"].contains

theorem ofText_of_other (path : FilePath) (text : String) (other : declares path = false) :
    ofText path text = .ok {} := by
  unfold ofText
  split
  · rename_i extension
    simp [declares, extension] at other
  · rename_i extension
    simp [declares, extension] at other
  · rename_i extension
    simp [declares, extension] at other
  · rename_i extension
    simp [declares, extension] at other
  · rfl

theorem declarations_of_other (file : SourceFile) (other : declares file.path = false) :
    (reading file).declarations = [] := by
  unfold reading ofFile
  cases file.text? with
  | none => rfl
  | some text => simp only [ofText_of_other file.path text other]

theorem declarations_filter (files : List SourceFile) :
    (files.map reading).flatMap Reading.declarations =
      ((files.filter fun file => declares file.path).map reading).flatMap Reading.declarations := by
  induction files with
  | nil => rfl
  | cons file rest ih =>
    rw [List.map_cons, List.flatMap_cons, ih, List.filter_cons]
    cases declared : declares file.path with
    | true => rfl
    | false =>
      rw [declarations_of_other file declared]
      rfl

theorem scan_congr {before after : FileTree} (grows : before.Grows after) (directory : FilePath)
    (options : TypeUnion.Options) (clean : (scan before directory options).errors = [])
    (same : ∀ root location, before.locate directory = .ok root →
      SourceFile.isMemberAt declares directory root location = true →
        after.content? location = before.content? location) :
    (scan after directory options).muted = (scan before directory options).muted := by
  unfold scan at clean ⊢
  cases read : SourceFile.all before directory with
  | error error => rw [read] at clean; cases clean
  | ok files =>
    obtain ⟨later, readAgain, chosen⟩ := SourceFile.all_congr grows read same
    simp only [readAgain, Synthesis.muted]
    rw [declarations_filter later, chosen, ← declarations_filter files]

end TypeSources

theorem ComponentSources.scan_congr {before after : FileTree} (grows : before.Grows after)
    (directory : FilePath) (name : String) (extensions : List String) (classifier : Classifier)
    (clean : (scan before directory name extensions classifier).errors = [])
    (same : ∀ root location, before.locate directory = .ok root →
      SourceFile.isMemberAt (fun path => path.extension?.any extensions.contains) directory root
        location = true → after.content? location = before.content? location) :
    scan after directory name extensions classifier =
      scan before directory name extensions classifier := by
  unfold scan at clean ⊢
  cases read : SourceFile.all before directory with
  | error error => rw [read] at clean; cases clean
  | ok files =>
    obtain ⟨later, readAgain, chosen⟩ := SourceFile.all_congr grows read same
    have sources : later.filter (isSource extensions) = files.filter (isSource extensions) := chosen
    simp only [readAgain, sources]

namespace Build

/-- Whether a location is asked for in a directory. -/
def isAskedFor (tree : FileTree) (asks : FilePath → Location → Location → Bool)
    (directory : FilePath) (location : Location) : Bool :=
  (tree.locate directory).toOption.any fun root => asks directory root location

theorem isAskedFor_of_located {tree : FileTree} {asks : FilePath → Location → Location → Bool}
    {directory : FilePath} {root location : Location} (reached : tree.locate directory = .ok root)
    (asked : asks directory root location = true) :
    isAskedFor tree asks directory location = true := by
  rw [isAskedFor, reached]
  exact asked

/-- Whether a build looks into the file at a location for the fragments that it puts together. -/
def readsAt (config : Config) (tree : FileTree) (location : Location) : Bool :=
  config.paths.fragments.any (fun directory =>
      isAskedFor tree Fragment.isFragmentAt directory location) ||
    config.paths.typeDefinitions.any (fun directory =>
      isAskedFor tree (SourceFile.isMemberAt TypeSources.declares) directory location) ||
    config.paths.componentSources.any fun directory =>
      isAskedFor tree (SourceFile.isMemberAt fun path =>
        path.extension?.any config.components.extensions.contains) directory location

def typeScans (config : Config) (tree : FileTree) (options : TypeUnion.Options) : List Synthesis :=
  (config.paths.typeDefinitions.map fun directory =>
    TypeSources.scan tree directory options).toList

def componentScans (config : Config) (tree : FileTree) : List Synthesis :=
  (config.paths.componentSources.map fun directory =>
    ComponentSources.scan tree directory config.components.fragmentName
      config.components.extensions config.classifier).toList

theorem synthesize_eq {config : Config} {options : TypeUnion.Options}
    (read : config.types.options = .ok options) (tree : FileTree) :
    synthesize config tree = .ok (typeScans config tree options ++ componentScans config tree) := by
  rw [synthesize, read]
  rfl

theorem specification_of_gathered {config : Config} {before after : FileTree}
    (same : gathered config after = gathered config before) :
    specification config after = specification config before := by
  unfold specification merged ordered
  rw [same]

section SameSources
variable {config : Config} {before after : FileTree} (grows : before.Grows after)
  (same : ∀ location, readsAt config before location = true →
    after.content? location = before.content? location)
include grows same

theorem loaded_congr (clean : Stage.loadingErrors config before = []) :
    loaded config after = loaded config before := by
  unfold Stage.loadingErrors loaded at clean
  unfold loaded
  cases configured : config.fragmentDirectory with
  | error fault => rfl
  | ok directory =>
    rw [configured] at clean
    have named := fragmentDirectory_ok config directory configured
    cases read : Fragment.load before directory with
    | error error => simp [read, errorsOf] at clean
    | ok loaded =>
      simp only [read]
      refine Fragment.load_congr grows read ?_
      intro root location reached member
      apply same
      have asked : isAskedFor before Fragment.isFragmentAt directory location = true :=
        isAskedFor_of_located reached member
      simp [readsAt, named, asked]

theorem typeScans_congr (options : TypeUnion.Options)
    (clean : (typeScans config before options).flatMap Synthesis.errors = []) :
    (typeScans config after options).map Synthesis.muted =
      (typeScans config before options).map Synthesis.muted := by
  unfold typeScans at clean ⊢
  cases configured : config.paths.typeDefinitions with
  | none => rfl
  | some directory =>
    have scanned : (TypeSources.scan before directory options).errors = [] := by
      simpa [configured] using clean
    have scan := TypeSources.scan_congr grows directory options scanned (by
      intro root location reached member
      apply same
      have asked : isAskedFor before (SourceFile.isMemberAt TypeSources.declares) directory
          location = true := isAskedFor_of_located reached member
      simp [readsAt, configured, asked])
    exact congrArg (fun synthesis => [synthesis]) scan

theorem componentScans_congr
    (clean : (componentScans config before).flatMap Synthesis.errors = []) :
    componentScans config after = componentScans config before := by
  unfold componentScans at clean ⊢
  cases configured : config.paths.componentSources with
  | none => rfl
  | some directory =>
    have scanned : (ComponentSources.scan before directory config.components.fragmentName
        config.components.extensions config.classifier).errors = [] := by
      simpa [configured] using clean
    have scan := ComponentSources.scan_congr grows directory _ _ _ scanned (by
      intro root location reached member
      apply same
      have asked : isAskedFor before (SourceFile.isMemberAt fun path =>
          path.extension?.any config.components.extensions.contains) directory location = true :=
        isAskedFor_of_located reached member
      simp [readsAt, configured, asked])
    exact congrArg (fun synthesis => [synthesis]) scan

theorem syntheses_congr (clean : Stage.synthesisErrors config before = []) :
    ∃ made again, syntheses config before = .ok made ∧ syntheses config after = .ok again ∧
      again.map Synthesis.muted = made.map Synthesis.muted := by
  unfold Stage.synthesisErrors at clean
  unfold syntheses at clean ⊢
  cases configured : config.fragmentDirectory with
  | error fault => exact ⟨[], [], rfl, rfl, rfl⟩
  | ok root =>
    rw [configured] at clean
    cases read : config.types.options with
    | error fault => simp [synthesize, read, errorsOf] at clean
    | ok options =>
      simp only [synthesize_eq read, errorsOf, List.flatMap_append, List.append_eq_nil_iff]
        at clean
      refine ⟨_, _, synthesize_eq read before, synthesize_eq read after, ?_⟩
      rw [List.map_append, List.map_append, typeScans_congr grows same options clean.1,
        componentScans_congr grows same clean.2]

theorem gathered_congr (loading : Stage.loadingErrors config before = [])
    (synthesis : Stage.synthesisErrors config before = []) :
    gathered config after = gathered config before := by
  obtain ⟨made, again, first, second, muted⟩ := syntheses_congr grows same synthesis
  have fragments : ∀ syntheses : List Synthesis,
      (syntheses.flatMap fun synthesis => synthesis.fragment.toList) =
        (syntheses.map Synthesis.muted).flatMap fun synthesis => synthesis.fragment.toList := by
    intro syntheses
    rw [List.flatMap_map]
    rfl
  unfold gathered
  rw [loaded_congr grows same loading, first, second]
  simp only [Except.toOption, Option.getD_some]
  rw [fragments again, muted, ← fragments made]

theorem synthesisErrors_congr (synthesis : Stage.synthesisErrors config before = []) :
    Stage.synthesisErrors config after = [] := by
  obtain ⟨made, again, first, second, muted⟩ := syntheses_congr grows same synthesis
  have errors : ∀ syntheses : List Synthesis, syntheses.flatMap Synthesis.errors =
      (syntheses.map Synthesis.muted).flatMap Synthesis.errors := by
    intro syntheses
    rw [List.flatMap_map]
    rfl
  unfold Stage.synthesisErrors at synthesis ⊢
  rw [first] at synthesis
  rw [second]
  exact (errors again).trans (muted ▸ (errors made).symm.trans synthesis)

/-- A build that has gone well goes well again, to the same end, over a grown tree with the same
sources and the same missing handlers. -/
theorem build_congr (clean : (outcome config before).report.errors = [])
    (handlers : config.handlerValidation = true →
      MissingHandler.all config.handlerRules after (specification config before) =
        MissingHandler.all config.handlerRules before (specification config before)) :
    (outcome config after).report.errors = [] ∧
      specification config after = specification config before ∧
      routes config after = routes config before := by
  have passed := (stages_clean_iff config before).mp clean
  have loading : Stage.loadingErrors config before = [] := passed .loading
  have synthesis : Stage.synthesisErrors config before = [] := passed .synthesis
  have ordering : Stage.orderingErrors config before = [] := passed .ordering
  have loadingAgain : Stage.loadingErrors config after = [] := by
    unfold Stage.loadingErrors at loading ⊢
    rw [loaded_congr grows same (passed .loading), loading]
  have synthesisAgain := synthesisErrors_congr grows same synthesis
  have orderedAgain : ordered config after = ordered config before := by
    rw [ordered, gathered_congr grows same loading synthesis, ordered]
  have mergedAgain : merged config after = merged config before := by
    rw [merged, orderedAgain, merged]
  have specAgain : specification config after = specification config before :=
    specification_of_gathered (gathered_congr grows same loading synthesis)
  have handlersAgain : handlersChecked config after = handlersChecked config before := by
    unfold handlersChecked
    cases validated : config.handlerValidation with
    | false => rfl
    | true => simp only [if_true, MissingHandler.check, specAgain, handlers validated]
  have routesAgain : routes config after = routes config before := by
    rw [routes, specAgain, handlersAgain, routes]
  refine ⟨(stages_clean_iff config after).mpr ?_, specAgain, routesAgain⟩
  intro stage
  cases stage with
  | loading => exact loadingAgain
  | synthesis => exact synthesisAgain
  | ordering =>
    unfold Stage.orderingErrors at ordering
    rw [Stage.errors, Stage.orderingErrors, loadingAgain, synthesisAgain, orderedAgain]
    rwa [loading, synthesis] at ordering
  | merging => rw [← passed .merging, Stage.errors, mergedAgain, Stage.errors]
  | handlers => rw [← passed .handlers, Stage.errors, handlersAgain, Stage.errors]
  | names => rw [← passed .names, Stage.errors, specAgain, Stage.errors]
  | parameters => rw [← passed .parameters, Stage.errors, routesAgain, Stage.errors]

end SameSources
end Build
end ApiAssembly
