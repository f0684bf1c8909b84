import ApiAssembly.Proofs.Build.Sources
import ApiAssembly.Proofs.FileTree.EntryNames
import ApiAssembly.Proofs.Fragment.Faults
/-! Loading a directory file by file. What becomes of a file is decided by its path and its content;
the other files only decide what stands before and behind it. So each file is answered for once,
the listing order does not matter, and a change to some files leaves what came of the others. -/
namespace ApiAssembly

/-- The fragment file that an error names. -/
def BuildError.fragmentFile? : BuildError → Option FilePath
  | fragment path _ => some path
  | _ => none

namespace Fragment

/-! One file. -/

theorem ofFile_cases (file : FragmentFile) :
    (∃ fragment, ofFile file = .ok fragment ∧ fragment.path = file.path ∧
      fragment.name = file.path.stem?.getD "") ∨
    ∃ fault, ofFile file = .error (.fragment file.path fault) := by
  unfold ofFile
  split
  · unfold parse
    split
    · exact Or.inr ⟨_, rfl⟩
    · split
      · exact Or.inr ⟨_, rfl⟩
      · exact Or.inl ⟨_, rfl, rfl, rfl⟩
  · exact Or.inr ⟨_, rfl⟩

def fragment? (file : FragmentFile) : Option Fragment := (ofFile file).toOption

def error? (file : FragmentFile) : Option BuildError :=
  match ofFile file with
  | .ok _ => none
  | .error error => some error

theorem fragment?_eq_some_iff (file : FragmentFile) (fragment : Fragment) :
    fragment? file = some fragment ↔ ofFile file = .ok fragment := by
  unfold fragment?
  cases ofFile file <;> simp [Except.toOption]

theorem error?_eq_some_iff (file : FragmentFile) (error : BuildError) :
    error? file = some error ↔ ofFile file = .error error := by
  unfold error?
  cases ofFile file <;> simp

theorem path_of_fragment? {file : FragmentFile} {fragment : Fragment}
    (made : fragment? file = some fragment) : fragment.path = file.path := by
  rw [fragment?_eq_some_iff] at made
  rcases ofFile_cases file with ⟨other, read, path, _⟩ | ⟨fault, failed⟩
  · rw [read] at made
    cases made
    exact path
  · rw [failed] at made
    cases made

theorem fragmentFile?_of_error? {file : FragmentFile} {error : BuildError}
    (made : error? file = some error) : error.fragmentFile? = some file.path := by
  rw [error?_eq_some_iff] at made
  rcases ofFile_cases file with ⟨fragment, read, _⟩ | ⟨fault, failed⟩
  · rw [read] at made
    cases made
  · rw [failed] at made
    cases made
    rfl

/-! All files, in the order in which they are read. -/

def readingOrder (files : List FragmentFile) : List FragmentFile :=
  (files.filter fun file => isFragmentPath file.path).mergeSort fileOrder

theorem foldr_add (files : List FragmentFile) :
    (files.map ofFile).foldr Loaded.add {} =
      ⟨files.filterMap fragment?, files.filterMap error?⟩ := by
  induction files with
  | nil => rfl
  | cons file rest ih =>
    rw [List.map_cons, List.foldr_cons, ih, List.filterMap_cons, List.filterMap_cons]
    cases outcome : ofFile file with
    | ok fragment => simp [Loaded.add, fragment?, error?, outcome, Except.toOption]
    | error error => simp [Loaded.add, fragment?, error?, outcome, Except.toOption]

theorem loadFiles_eq (files : List FragmentFile) :
    loadFiles files =
      ⟨(readingOrder files).filterMap fragment?, (readingOrder files).filterMap error?⟩ :=
  foldr_add (readingOrder files)

theorem mem_readingOrder_iff (files : List FragmentFile) (file : FragmentFile) :
    file ∈ readingOrder files ↔ file ∈ files ∧ isFragmentPath file.path = true := by
  rw [readingOrder, (List.mergeSort_perm _ _).mem_iff, List.mem_filter]

/-- What decides the place of a file. -/
def fileKey (file : FragmentFile) : Option String := file.path.fileName?

theorem differ_of_ne {files : List FragmentFile} (distinct : (files.map fileKey).Nodup) :
    (files.filter fun file => isFragmentPath file.path).Pairwise fun left right =>
      compareOn fileKey left right ≠ .eq := by
  refine ((List.pairwise_map.mp distinct).filter _).imp ?_
  intro left right differ same
  exact differ (Std.LawfulEqOrd.eq_of_compare same)

theorem readingOrder_strict {files : List FragmentFile} (distinct : (files.map fileKey).Nodup) :
    (readingOrder files).Pairwise fun left right => compareOn fileKey left right = .lt :=
  Sorting.mergeSort_strict (differ_of_ne distinct)

theorem loadFiles_of_perm {shuffled files : List FragmentFile} (shuffle : shuffled.Perm files)
    (distinct : (files.map fileKey).Nodup) : loadFiles shuffled = loadFiles files := by
  have alike : readingOrder shuffled = readingOrder files :=
    @Sorting.mergeSort_eq_of_perm _ (compareOn fileKey) _ _ _ (shuffle.filter _)
      (differ_of_ne distinct)
  rw [loadFiles_eq, loadFiles_eq, alike]

theorem countP_outcomes (path : FilePath) (files : List FragmentFile) :
    (files.filterMap fragment?).countP (fun fragment => fragment.path = path) +
        (files.filterMap error?).countP (fun error => error.fragmentFile? = some path) =
      files.countP fun file => file.path = path := by
  induction files with
  | nil => rfl
  | cons file rest ih =>
    rw [List.filterMap_cons, List.filterMap_cons, List.countP_cons, ← ih]
    rcases ofFile_cases file with ⟨fragment, read, same, _⟩ | ⟨fault, failed⟩
    · simp only [fragment?, error?, read, Except.toOption, List.countP_cons, same]
      omega
    · simp only [fragment?, error?, failed, Except.toOption, List.countP_cons,
        BuildError.fragmentFile?, Option.some.injEq]
      omega

theorem countP_path {files : List FragmentFile}
    (strict : files.Pairwise fun left right => compareOn fileKey left right = .lt)
    {file : FragmentFile} (member : file ∈ files) :
    files.countP (fun other => other.path = file.path) = 1 := by
  -- Names in a strict order differ, and then so do the paths that have them.
  have distinct : (files.map FragmentFile.path).Nodup := by
    refine List.pairwise_map.mpr (strict.imp ?_)
    intro left right before same
    have itself : compareOn fileKey left right = .eq := by
      rw [compareOn, fileKey, fileKey, same]
      exact Std.ReflCmp.compare_self
    rw [itself] at before
    cases before
  have counted := List.count_eq_one_of_mem distinct (List.mem_map_of_mem member)
  rw [List.count_eq_countP, List.countP_map] at counted
  rw [← counted]
  apply List.countP_congr
  intro other _
  simp

/-- What was made of the files of chosen names. -/
def Loaded.of (chosen : String → Bool) (loaded : Loaded) : Loaded where
  fragments := loaded.fragments.filter fun fragment => fragment.path.fileName?.any chosen
  errors := loaded.errors.filter fun error =>
    (error.fragmentFile?.bind FilePath.fileName?).any chosen

theorem outcomes_of (chosen : String → Bool) (files : List FragmentFile) :
    Loaded.of chosen ⟨files.filterMap fragment?, files.filterMap error?⟩ =
      ⟨(files.filter fun file => (fileKey file).any chosen).filterMap fragment?,
        (files.filter fun file => (fileKey file).any chosen).filterMap error?⟩ := by
  rw [Loaded.of, List.filter_filterMap, List.filter_filterMap, List.filterMap_filter,
    List.filterMap_filter]
  congr 1
  · apply List.filterMap_congr
    intro file _
    cases made : fragment? file with
    | none => simp
    | some fragment =>
      by_cases kept : file.path.fileName?.any chosen = true
      · simp [fileKey, path_of_fragment? made, kept]
      · simp [fileKey, path_of_fragment? made, kept]
  · apply List.filterMap_congr
    intro file _
    cases made : error? file with
    | none => simp
    | some error =>
      by_cases kept : file.path.fileName?.any chosen = true
      · simp [fileKey, fragmentFile?_of_error? made, kept]
      · simp [fileKey, fragmentFile?_of_error? made, kept]

/-! A directory. -/

/-- A fragment file of a directory, by its name there and with what it holds. -/
structure IsFragmentFile (tree : FileTree) (directory : FilePath) (root : Location) (name : String)
    (file : FragmentFile) : Prop where
  listed : name ∈ tree.names root
  path : file.path = directory.join ⟨name⟩
  held : tree.read file.path = .ok file.content
  fits : isFragmentPath file.path = true

/-- What loading makes of a directory. Each fragment file is answered for once, by a fragment or by
an error that names the file, and there is nothing else. Both are in the order of the file names. -/
structure FileByFile (tree : FileTree) (directory : FilePath) (root : Location)
    (loaded : Loaded) : Prop where
  present : ∀ name ∈ tree.names root, tree.isFile (directory.join ⟨name⟩) = true →
    isFragmentPath (directory.join ⟨name⟩) = true →
    ∃ content, IsFragmentFile tree directory root name ⟨directory.join ⟨name⟩, content⟩
  answered : ∀ name file, IsFragmentFile tree directory root name file →
    (∃ fragment ∈ loaded.fragments, ofFile file = .ok fragment ∧ fragment.path = file.path ∧
      fragment.name = file.path.stem?.getD "") ∨
    ∃ fault, .fragment file.path fault ∈ loaded.errors ∧
      ofFile file = .error (.fragment file.path fault)
  once : ∀ name file, IsFragmentFile tree directory root name file →
    loaded.fragments.countP (fun fragment => fragment.path = file.path) +
      loaded.errors.countP (fun error => error.fragmentFile? = some file.path) = 1
  fragments : ∀ fragment ∈ loaded.fragments, ∃ name file,
    IsFragmentFile tree directory root name file ∧ ofFile file = .ok fragment
  errors : ∀ error ∈ loaded.errors, ∃ name file,
    IsFragmentFile tree directory root name file ∧ ofFile file = .error error
  fragmentsOrdered : loaded.fragments.Pairwise fun left right =>
    compare left.path.fileName? right.path.fileName? = .lt
  errorsOrdered : loaded.errors.Pairwise fun left right =>
    compare (left.fragmentFile?.bind FilePath.fileName?)
      (right.fragmentFile?.bind FilePath.fileName?) = .lt

variable {tree : FileTree} {directory : FilePath} {root : Location}

theorem load_eq (reached : tree.locate directory = .ok root)
    (known : tree.entryAt? root = some .directory) :
    load tree directory = .ok (loadFiles (filesIn tree directory root)) := by
  rw [load, reached]
  exact if_pos known

theorem fileAt?_eq_some_iff (reached : tree.locate directory = .ok root)
    (known : tree.entryAt? root = some .directory) {name : String}
    (named : FileTree.IsEntryName name) (file : FragmentFile) :
    fileAt? tree directory root name = some file ↔
      file.path = directory.join ⟨name⟩ ∧ tree.read file.path = .ok file.content := by
  obtain ⟨path, content⟩ := file
  simp only [fileAt?]
  constructor
  · intro found
    split at found
    · cases found
    · rename_i short
      obtain ⟨bytes, held, made⟩ := Option.map_eq_some_iff.mp found
      cases made
      refine ⟨rfl, (FileTree.read_join_iff reached known named content).mpr ⟨?_, held⟩⟩
      simpa using short
  · rintro ⟨rfl, held⟩
    obtain ⟨short, there⟩ := (FileTree.read_join_iff reached known named content).mp held
    rw [short, there]
    rfl

theorem mem_readingOrder_filesIn_iff (named : tree.IsNamed)
    (reached : tree.locate directory = .ok root) (known : tree.entryAt? root = some .directory)
    (file : FragmentFile) : file ∈ readingOrder (filesIn tree directory root) ↔
      ∃ name, IsFragmentFile tree directory root name file := by
  rw [mem_readingOrder_iff, filesIn, List.mem_filterMap]
  constructor
  · rintro ⟨⟨name, listed, found⟩, fits⟩
    obtain ⟨path, held⟩ :=
      (fileAt?_eq_some_iff reached known (named.isEntryName listed) file).mp found
    exact ⟨name, listed, path, held, fits⟩
  · rintro ⟨name, listed, path, held, fits⟩
    have found := (fileAt?_eq_some_iff reached known (named.isEntryName listed) file).mpr ⟨path, held⟩
    exact ⟨⟨name, listed, found⟩, fits⟩

theorem fileKey_eq (reached : tree.locate directory = .ok root) {name : String}
    (named : FileTree.IsEntryName name) {file : FragmentFile}
    (path : file.path = directory.join ⟨name⟩) : fileKey file = some name := by
  rw [fileKey, path]
  exact FilePath.fileName?_join directory name (FileTree.isFollowed_of_locate reached).filled named

theorem filesIn_distinct (named : tree.IsNamed) (reached : tree.locate directory = .ok root)
    (known : tree.entryAt? root = some .directory) :
    ((filesIn tree directory root).map fileKey).Nodup := by
  rw [List.Nodup, List.pairwise_map, filesIn, List.pairwise_filterMap]
  refine (tree.names_nodup root).imp_of_mem ?_
  intro left right leftListed rightListed differ first firstFound second secondFound same
  have leftNamed := named.isEntryName leftListed
  have rightNamed := named.isEntryName rightListed
  have leftPath := ((fileAt?_eq_some_iff reached known leftNamed first).mp firstFound).1
  have rightPath := ((fileAt?_eq_some_iff reached known rightNamed second).mp secondFound).1
  rw [fileKey_eq reached leftNamed leftPath, fileKey_eq reached rightNamed rightPath] at same
  exact differ (Option.some.inj same)

theorem fileByFile_loadFiles (named : tree.IsNamed) (reached : tree.locate directory = .ok root)
    (known : tree.entryAt? root = some .directory) :
    FileByFile tree directory root (loadFiles (filesIn tree directory root)) := by
  have strict := readingOrder_strict (filesIn_distinct named reached known)
  have members := mem_readingOrder_filesIn_iff named reached known
  rw [loadFiles_eq]
  generalize readingOrder (filesIn tree directory root) = files at strict members
  constructor
  · intro name listed regular fits
    obtain ⟨content, held⟩ := (FileTree.isFile_iff tree _).mp regular
    exact ⟨content, listed, rfl, held, fits⟩
  · intro name file fitting
    have member := (members file).mpr ⟨name, fitting⟩
    rcases ofFile_cases file with ⟨fragment, read, parts⟩ | ⟨fault, failed⟩
    · left
      have made := (fragment?_eq_some_iff file fragment).mpr read
      exact ⟨fragment, List.mem_filterMap.mpr ⟨file, member, made⟩, read, parts⟩
    · right
      have made := (error?_eq_some_iff file _).mpr failed
      exact ⟨fault, List.mem_filterMap.mpr ⟨file, member, made⟩, failed⟩
  · intro name file fitting
    rw [countP_outcomes]
    exact countP_path strict ((members file).mpr ⟨name, fitting⟩)
  · intro fragment present
    obtain ⟨file, member, made⟩ := List.mem_filterMap.mp present
    obtain ⟨name, fitting⟩ := (members file).mp member
    exact ⟨name, file, fitting, (fragment?_eq_some_iff file fragment).mp made⟩
  · intro error present
    obtain ⟨file, member, made⟩ := List.mem_filterMap.mp present
    obtain ⟨name, fitting⟩ := (members file).mp member
    exact ⟨name, file, fitting, (error?_eq_some_iff file error).mp made⟩
  · refine List.pairwise_filterMap.mpr (strict.imp ?_)
    intro left right before first firstMade second secondMade
    rw [path_of_fragment? firstMade, path_of_fragment? secondMade]
    exact before
  · refine List.pairwise_filterMap.mpr (strict.imp ?_)
    intro left right before first firstMade second secondMade
    rw [fragmentFile?_of_error? firstMade, fragmentFile?_of_error? secondMade]
    exact before

/-- A fragment file is one in every tree that holds the same under its name. -/
theorem IsFragmentFile.moved {changed : FileTree} {other : Location} {name : String}
    {file : FragmentFile} (fitting : IsFragmentFile tree directory root name file)
    (reached : tree.locate directory = .ok root) (known : tree.entryAt? root = some .directory)
    (changedReached : changed.locate directory = .ok other)
    (changedKnown : changed.entryAt? other = some .directory) (named : FileTree.IsEntryName name)
    (same : changed.content? (other ++ [name]) = tree.content? (root ++ [name])) :
    IsFragmentFile changed directory other name file := by
  have held := fitting.held
  rw [fitting.path, FileTree.read_join_iff reached known named] at held
  have there := same.trans held.2
  refine ⟨?_, fitting.path, ?_, fitting.fits⟩
  · obtain ⟨entry, present, _⟩ := Option.bind_eq_some_iff.mp there
    rw [FileTree.mem_names_iff, present]
    rfl
  · rw [fitting.path, FileTree.read_join_iff changedReached changedKnown named]
    exact ⟨held.1, there⟩

/-- Two trees that hold the same under chosen names come to the same for the files of these names. -/
theorem loadFiles_of_chosen {changed : FileTree} {other : Location} (named : tree.IsNamed)
    (reached : tree.locate directory = .ok root) (known : tree.entryAt? root = some .directory)
    (changedNamed : changed.IsNamed) (changedReached : changed.locate directory = .ok other)
    (changedKnown : changed.entryAt? other = some .directory) (chosen : String → Bool)
    (same : ∀ name, chosen name = true →
      changed.content? (other ++ [name]) = tree.content? (root ++ [name])) :
    (loadFiles (filesIn changed directory other)).of chosen =
      (loadFiles (filesIn tree directory root)).of chosen := by
  have strict := readingOrder_strict (filesIn_distinct named reached known)
  have changedStrict := readingOrder_strict (filesIn_distinct changedNamed changedReached changedKnown)
  have files : (readingOrder (filesIn changed directory other)).filter
        (fun file => (fileKey file).any chosen) =
      (readingOrder (filesIn tree directory root)).filter fun file => (fileKey file).any chosen := by
    -- One strict order sorts both sides, so it is enough that they have the same members.
    apply Sorting.eq_of_mem_iff (changedStrict.filter _) (strict.filter _)
    intro file
    rw [List.mem_filter, List.mem_filter, mem_readingOrder_filesIn_iff named reached known,
      mem_readingOrder_filesIn_iff changedNamed changedReached changedKnown]
    constructor
    · rintro ⟨⟨name, fitting⟩, kept⟩
      have called := changedNamed.isEntryName fitting.listed
      have wanted := same name (by simpa [fileKey_eq changedReached called fitting.path] using kept)
      exact ⟨⟨name, fitting.moved changedReached changedKnown reached known called wanted.symm⟩, kept⟩
    · rintro ⟨⟨name, fitting⟩, kept⟩
      have called := named.isEntryName fitting.listed
      have wanted := same name (by simpa [fileKey_eq reached called fitting.path] using kept)
      exact ⟨⟨name, fitting.moved reached known changedReached changedKnown called wanted⟩, kept⟩
  rw [loadFiles_eq, loadFiles_eq, outcomes_of, outcomes_of, files]

/-- Loading goes file by file, in the order of the file names however the directory lists them, and
what comes of a file does not change with the other files. -/
theorem load_file_by_file (tree : FileTree) (directory : FilePath) (root : Location)
    (named : tree.IsNamed) (reached : tree.locate directory = .ok root)
    (known : tree.entryAt? root = some .directory) :
    ∃ loaded, load tree directory = .ok loaded ∧ FileByFile tree directory root loaded ∧
      (∀ listing : List String, listing.Perm (tree.names root) →
        loadFiles (listing.filterMap (fileAt? tree directory root)) = loaded) ∧
      ∀ changed other, changed.IsNamed → changed.locate directory = .ok other →
        changed.entryAt? other = some .directory → ∀ chosen : String → Bool,
        (∀ name, chosen name = true →
          changed.content? (other ++ [name]) = tree.content? (root ++ [name])) →
        ∃ reloaded, load changed directory = .ok reloaded ∧
          reloaded.of chosen = loaded.of chosen := by
  refine ⟨loadFiles (filesIn tree directory root), load_eq reached known,
    fileByFile_loadFiles named reached known, ?_, ?_⟩
  · intro listing shuffle
    exact loadFiles_of_perm (shuffle.filterMap _) (filesIn_distinct named reached known)
  · intro changed other changedNamed changedReached changedKnown chosen same
    exact ⟨loadFiles (filesIn changed directory other), load_eq changedReached changedKnown,
      loadFiles_of_chosen named reached known changedNamed changedReached changedKnown chosen same⟩

/-- A broken file beside a sound one, and the same directory without it. Work is done elsewhere, so the
path of the directory is absolute. -/
theorem load_file_by_file_broken :
    let core : Location × FileEntry := (["schemas", "core.json"], .file "{}".toUTF8)
    let broken : Location × FileEntry := (["schemas", "a.json"], .file "/".toUTF8)
    let around := [(["schemas"], FileEntry.directory), (["work"], .directory)]
    let tree : FileTree := ⟨Dict.ofList (core :: broken :: around), ["work"]⟩
    let mended : FileTree := ⟨Dict.ofList (core :: around), ["work"]⟩
    tree.IsNamed ∧ tree.locate ⟨"/schemas"⟩ = .ok ["schemas"] ∧
    tree.entryAt? ["schemas"] = some .directory ∧
    ∃ loaded reloaded,
      load tree ⟨"/schemas"⟩ = .ok loaded ∧ load mended ⟨"/schemas"⟩ = .ok reloaded ∧
      loaded.fragments.countP (fun fragment => fragment.path = ⟨"/schemas/a.json"⟩) +
        loaded.errors.countP (fun error => error.fragmentFile? = some ⟨"/schemas/a.json"⟩) = 1 ∧
      reloaded.of (· = "core.json") = loaded.of (· = "core.json") := by
  intro core broken around tree mended
  have named : tree.IsNamed := by decide +kernel
  have reached : tree.locate ⟨"/schemas"⟩ = .ok ["schemas"] := by decide +kernel
  have known : tree.entryAt? ["schemas"] = some .directory := by decide +kernel
  have kept : ∀ name, decide (name = "core.json") = true →
      mended.content? (["schemas"] ++ [name]) = tree.content? (["schemas"] ++ [name]) := by
    intro name chosen
    rw [of_decide_eq_true chosen]
    decide +kernel
  obtain ⟨loaded, made, each, _, again⟩ :=
    load_file_by_file tree ⟨"/schemas"⟩ ["schemas"] named reached known
  obtain ⟨reloaded, remade, same⟩ := again mended ["schemas"] (by decide +kernel)
    (by decide +kernel) (by decide +kernel) (· = "core.json") kept
  obtain ⟨content, fitting⟩ := each.present "a.json" (by decide +kernel) (by decide +kernel)
    (by decide +kernel)
  exact ⟨named, reached, known, loaded, reloaded, made, remade, each.once "a.json" _ fitting, same⟩

end Fragment
end ApiAssembly
