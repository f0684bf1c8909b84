import ApiAssembly.FileTree.Basic
import ApiAssembly.Proofs.Dict.Lookup
/-! How a tree grows. Making directories and putting files into place turns no file into a directory
and no directory into a file, so a path that leads somewhere goes on leading there. Making
directories changes no file at all, and putting a file into place no other. -/
namespace ApiAssembly.FileTree

theorem entryAt?_set (tree : FileTree) (location other : Location) (entry : FileEntry) :
    entryAt? (tree.set location entry) other =
      if other = [] then some .directory
      else if other = location then some entry else tree.entryAt? other := by
  unfold entryAt? set
  by_cases root : other = []
  · rw [if_pos root, if_pos root]
  · rw [if_neg root, if_neg root, if_neg root, Dict.find?_insert]

theorem content?_set (tree : FileTree) (location other : Location) (entry : FileEntry)
    (inside : location ≠ []) :
    (tree.set location entry).content? other =
      if other = location then entry.content? else tree.content? other := by
  unfold content?
  rw [entryAt?_set]
  by_cases root : other = []
  · rw [if_pos root, root, if_neg (Ne.symm inside)]
    rfl
  · rw [if_neg root]
    by_cases same : other = location
    · rw [if_pos same, if_pos same]
      rfl
    · rw [if_neg same, if_neg same]

/-- The step of a walk: where one segment leads. -/
def enter (tree : FileTree) (here : Location) (segment : String) : Except FileFault Location :=
  match tree.entryAt? here with
  | none => .error .notFound
  | some (.file _) => .error .notDirectory
  | some .directory =>
    if segment = "" || segment = "." then .ok here
    else if segment = ".." then .ok here.dropLast
    else if isNameTooLong segment then .error .nameTooLong
    else if (tree.entryAt? (here ++ [segment])).isSome then .ok (here ++ [segment])
    else .error .notFound

theorem walk_eq_foldlM (tree : FileTree) (segments : List String) (here : Location) :
    tree.walk here segments = segments.foldlM tree.enter here := by
  induction segments generalizing here with
  | nil => rfl
  | cons segment rest ih =>
    rw [walk, List.foldlM_cons, enter]
    cases tree.entryAt? here with
    | none => rfl
    | some entry =>
      cases entry with
      | file content => rfl
      | directory =>
        simp only [ih]
        repeat' split
        all_goals rfl

theorem walk_append (tree : FileTree) (first second : List String) (here : Location) :
    tree.walk here (first ++ second) = tree.walk here first >>= fun next => tree.walk next second := by
  simp only [walk_eq_foldlM, List.foldlM_append]

/-- A path that is followed at all is walked by way of its start, whichever segments are asked for. -/
theorem followed_ok {tree : FileTree} {path : FilePath} {segments : List String}
    {location : Location} (reached : tree.followed path segments = .ok location) :
    tree.walk [] (tree.start path ++ segments) = .ok location ∧
      ∀ (other : FileTree) (others : List String),
        other.followed path others = other.walk [] (other.start path ++ others) := by
  unfold followed at reached ⊢
  by_cases null : path.hasNull = true
  · rw [if_pos null] at reached
    cases reached
  · by_cases long : isPathTooLong path = true
    · rw [if_neg null, if_pos long] at reached
      cases reached
    · by_cases empty : path.text.isEmpty = true
      · rw [if_neg null, if_neg long, if_pos empty] at reached
        cases reached
      · rw [if_neg null, if_neg long, if_neg empty] at reached
        refine ⟨reached, ?_⟩
        intro other others
        rw [if_neg null, if_neg long, if_neg empty]

/-- Paths start where they did. What is a directory stays one, and what is a file stays one, though not
with the same content. -/
structure Grows (before after : FileTree) : Prop where
  workingDirectory : after.workingDirectory = before.workingDirectory
  forms : ∀ location form, (before.entryAt? location).map FileEntry.isFile = some form →
    (after.entryAt? location).map FileEntry.isFile = some form

namespace Grows

theorem refl (tree : FileTree) : Grows tree tree := ⟨rfl, fun _ _ same => same⟩

theorem trans {first second third : FileTree} (one : Grows first second)
    (two : Grows second third) : Grows first third where
  workingDirectory := two.workingDirectory.trans one.workingDirectory
  forms location form known := two.forms location form (one.forms location form known)

theorem start {before after : FileTree} (grows : Grows before after) (path : FilePath) :
    after.start path = before.start path := by
  rw [FileTree.start, FileTree.start, grows.workingDirectory]

theorem directory {before after : FileTree} (grows : Grows before after) (location : Location)
    (known : before.entryAt? location = some .directory) :
    after.entryAt? location = some .directory := by
  have stays := grows.forms location false (by rw [known]; rfl)
  cases later : after.entryAt? location with
  | none => rw [later] at stays; cases stays
  | some entry =>
    cases entry with
    | directory => rfl
    | file content => rw [later] at stays; cases stays

theorem present {before after : FileTree} (grows : Grows before after) (location : Location)
    (known : (before.entryAt? location).isSome) : (after.entryAt? location).isSome := by
  obtain ⟨entry, found⟩ := Option.isSome_iff_exists.mp known
  have stays := grows.forms location entry.isFile (by rw [found]; rfl)
  cases later : after.entryAt? location with
  | none => rw [later] at stays; cases stays
  | some entry => rfl

theorem ofSet (tree : FileTree) (location : Location) (entry : FileEntry)
    (fitting : ∀ present, tree.entryAt? location = some present → present.isFile = entry.isFile) :
    Grows tree (tree.set location entry) := by
  refine ⟨rfl, ?_⟩
  intro other form known
  rw [entryAt?_set]
  by_cases root : other = []
  · rw [if_pos root]
    rwa [root, entryAt?, if_pos rfl] at known
  · rw [if_neg root]
    by_cases same : other = location
    · rw [if_pos same]
      obtain ⟨present, found, formed⟩ := Option.map_eq_some_iff.mp known
      rw [Option.map_some, ← fitting present (same ▸ found), formed]
    · rwa [if_neg same]

theorem ofFile (tree : FileTree) (location : Location) (content : ByteArray)
    (free : tree.entryAt? location ≠ some .directory) :
    Grows tree (tree.set location (.file content)) := by
  apply ofSet
  intro present known
  cases present with
  | file content => rfl
  | directory => exact absurd known free

theorem enter {before after : FileTree} (grows : Grows before after) (here : Location)
    (segment : String) (location : Location) (reached : before.enter here segment = .ok location) :
    after.enter here segment = .ok location := by
  unfold FileTree.enter at reached ⊢
  split at reached
  · cases reached
  · cases reached
  · rename_i known
    rw [grows.directory here known]
    by_cases stay : (segment = "" || segment = ".") = true
    · rwa [if_pos stay] at reached ⊢
    · rw [if_neg stay] at reached
      simp only [if_neg stay]
      by_cases up : segment = ".."
      · rwa [if_pos up] at reached ⊢
      · rw [if_neg up] at reached ⊢
        by_cases long : isNameTooLong segment = true
        · rwa [if_pos long] at reached ⊢
        · rw [if_neg long] at reached ⊢
          split at reached
          · rename_i there
            rwa [if_pos (grows.present _ there)]
          · cases reached

theorem walk {before after : FileTree} (grows : Grows before after) (here : Location)
    (segments : List String) (location : Location)
    (reached : before.walk here segments = .ok location) :
    after.walk here segments = .ok location := by
  rw [walk_eq_foldlM] at reached ⊢
  induction segments generalizing here with
  | nil => exact reached
  | cons segment rest ih =>
    rw [List.foldlM_cons] at reached ⊢
    cases entered : before.enter here segment with
    | error fault => rw [entered] at reached; cases reached
    | ok next =>
      rw [entered] at reached
      rw [grows.enter here segment next entered]
      exact ih next reached

theorem followed {before after : FileTree} (grows : Grows before after) (path : FilePath)
    (segments : List String) (location : Location)
    (reached : before.followed path segments = .ok location) :
    after.followed path segments = .ok location := by
  obtain ⟨walked, followable⟩ := followed_ok reached
  rw [followable, grows.start]
  exact grows.walk [] (before.start path ++ segments) location walked

theorem locate {before after : FileTree} (grows : Grows before after) (path : FilePath)
    (location : Location) (reached : before.locate path = .ok location) :
    after.locate path = .ok location :=
  grows.followed path path.segments location reached

end Grows

theorem Place.location_ne_nil (place : Place) : place.location ≠ [] :=
  List.append_ne_nil_of_right_ne_nil _ (List.cons_ne_nil _ _)

/-! Making directories. -/

/-- More directories, and the same files. -/
structure Opens (before after : FileTree) : Prop where
  grows : Grows before after
  contents : ∀ location, after.content? location = before.content? location

namespace Opens

theorem refl (tree : FileTree) : Opens tree tree := ⟨Grows.refl tree, fun _ => rfl⟩

theorem trans {first second third : FileTree} (one : Opens first second)
    (two : Opens second third) : Opens first third :=
  ⟨one.grows.trans two.grows, fun location => (two.contents location).trans (one.contents location)⟩

theorem makeDirectory {tree made : FileTree} {path : FilePath}
    (done : tree.makeDirectory path = .ok made) : Opens tree made := by
  unfold FileTree.makeDirectory at done
  cases found : tree.place path with
  | error fault => rw [found] at done; cases done
  | ok place =>
    rw [found] at done
    change (if place.isStep || (tree.entryAt? place.location).isSome then Except.error _
      else Except.ok _) = _ at done
    split at done
    · cases done
    · rename_i free
      cases done
      have absent : tree.entryAt? place.location = none := by
        cases known : tree.entryAt? place.location with
        | none => rfl
        | some entry => simp [known] at free
      -- There was nothing at the place, so no form and no content is lost.
      constructor
      · apply Grows.ofSet
        intro present known
        rw [absent] at known
        cases known
      · intro location
        rw [content?_set _ _ _ _ place.location_ne_nil]
        split
        · rename_i same
          rw [content?, same, absent]
          rfl
        · rfl

end Opens

/-! Directories are made one by one, so what holds of a tree and is kept by making one directory holds
of the tree with all of them. -/
section MakeDirectories
variable {P : FileTree → Prop}
  (kept : ∀ {tree made path}, P tree → tree.makeDirectory path = .ok made → P made)
include kept

theorem ensureDirectory_keeps (tree : FileTree) (path : FilePath) (holds : P tree) :
    P (tree.ensureDirectory path).1 := by
  unfold ensureDirectory
  cases done : tree.makeDirectory path with
  | ok made => exact kept holds done
  | error fault => exact holds

theorem ensureWithin_keeps (levels : Nat) (tree : FileTree) (path : FilePath) (holds : P tree) :
    P (tree.ensureWithin levels path).1 := by
  induction levels generalizing tree path with
  | zero => exact ensureDirectory_keeps kept tree path holds
  | succ levels ih =>
    unfold ensureWithin
    split
    · rename_i parent _ _
      split
      · exact holds
      · have inner := ih tree parent holds
        split
        · rename_i made fault around
          rwa [around] at inner
        · rename_i made around
          rw [around] at inner
          exact ensureDirectory_keeps kept made path inner
    · exact ensureDirectory_keeps kept tree path holds

theorem makeDirectories_keeps (tree : FileTree) (path : FilePath) (holds : P tree) :
    P (tree.makeDirectories path).1 := by
  unfold makeDirectories
  split
  · exact holds
  · exact ensureWithin_keeps kept _ tree path holds

end MakeDirectories

theorem Opens.makeDirectories (tree : FileTree) (path : FilePath) :
    Opens tree (tree.makeDirectories path).1 :=
  makeDirectories_keeps (fun opens done => opens.trans (Opens.makeDirectory done)) tree path
    (Opens.refl tree)

/-! Putting a file into place. -/

theorem place_ok {tree : FileTree} {path : FilePath} {place : Place}
    (found : tree.place path = .ok place) (noStep : ¬ place.isStep = true) :
    tree.entryAt? place.directory = some .directory ∧ isNameTooLong place.name = false ∧
      place.slashed = (path.segments.getLast? = some "") ∧
      ∃ before, path.segments.reverse.dropWhile (· = "") = place.name :: before ∧
        tree.followed path before.reverse = .ok place.directory := by
  unfold FileTree.place at found
  split at found
  · -- Slashes alone name nothing, and the place of nothing is a step.
    cases around : tree.followed path [] with
    | error fault => rw [around] at found; cases found
    | ok root =>
      rw [around] at found
      cases found
      exact absurd rfl noStep
  · rename_i name before shape
    cases around : tree.followed path before.reverse with
    | error fault => rw [around] at found; cases found
    | ok directory =>
      rw [around] at found
      simp only [bind, Except.bind] at found
      split at found
      · rename_i known
        split at found
        · cases found
        · rename_i short
          cases found
          exact ⟨known, by simpa using short, by simp, before, shape, around⟩
      · cases found
      · cases found

/-- The segments of a path that no slash ends. -/
theorem segments_of_place {segments : List String} {name : String} {before : List String}
    (shape : segments.reverse.dropWhile (· = "") = name :: before)
    (bare : segments.getLast? ≠ some "") : segments = before.reverse ++ [name] ∧ name ≠ "" := by
  rw [← List.head?_reverse] at bare
  rw [← List.reverse_reverse segments]
  cases reversed : segments.reverse with
  | nil => rw [reversed] at shape; cases shape
  | cons last rest =>
    rw [reversed] at shape bare
    have named : last ≠ "" := by simpa using bare
    rw [List.dropWhile_cons_of_neg (by simpa using named)] at shape
    cases shape
    exact ⟨List.reverse_cons, named⟩

theorem walk_name {tree : FileTree} {place : Place}
    (inside : tree.entryAt? place.directory = some .directory) (named : place.name ≠ "")
    (noStep : ¬ place.isStep = true) (short : isNameTooLong place.name = false)
    (present : (tree.entryAt? place.location).isSome) :
    tree.walk place.directory [place.name] = .ok place.location := by
  obtain ⟨noDot, noDots⟩ : place.name ≠ "." ∧ place.name ≠ ".." := by
    simpa [Place.isStep] using noStep
  change (tree.entryAt? (place.directory ++ [place.name])).isSome at present
  simp [walk, inside, named, noDot, noDots, short, present, Place.location]

/-- The path to a place leads there as soon as there is something. -/
theorem locate_place {tree after : FileTree} (grows : Grows tree after) {path : FilePath}
    {place : Place} (found : tree.place path = .ok place) (noStep : ¬ place.isStep = true)
    (bare : ¬ place.slashed = true) (present : (after.entryAt? place.location).isSome) :
    after.locate path = .ok place.location := by
  obtain ⟨inside, short, slashed, before, shape, around⟩ := place_ok found noStep
  have unslashed : path.segments.getLast? ≠ some "" := by rwa [slashed] at bare
  obtain ⟨parted, named⟩ := segments_of_place shape unslashed
  -- The way to the directory is the one from before, and the name is one step more.
  obtain ⟨walked, followable⟩ := followed_ok (grows.followed path _ _ around)
  rw [locate, followable, parted, ← List.append_assoc, walk_append, walked]
  exact walk_name (grows.directory _ inside) named noStep short present

theorem putFile_cases {tree after : FileTree} {path : FilePath} {content : ByteArray}
    (done : tree.putFile path content = .ok after) :
    ∃ place, tree.place path = .ok place ∧ ¬ place.isStep = true ∧ ¬ place.slashed = true ∧
      tree.entryAt? place.location ≠ some .directory ∧
      after = tree.set place.location (.file content) := by
  unfold putFile at done
  split at done
  · cases done
  · cases found : tree.place path with
    | error fault => rw [found] at done; cases done
    | ok place =>
      rw [found] at done
      simp only [bind, Except.bind] at done
      split at done
      · cases done
      · rename_i noStep
        split at done
        · cases done
        · rename_i bare
          split at done
          · cases done
          · rename_i free
            cases done
            exact ⟨place, rfl, noStep, bare, free, rfl⟩

/-- A file that has been put into place is where its path leads. -/
theorem putFile_ok {tree after : FileTree} {path : FilePath} {content : ByteArray}
    (done : tree.putFile path content = .ok after) :
    Grows tree after ∧ ∃ location, after.locate path = .ok location ∧
      ∀ other, after.content? other =
        if other = location then some content else tree.content? other := by
  obtain ⟨place, found, noStep, bare, free, written⟩ := putFile_cases done
  have grows : Grows tree after := written ▸ Grows.ofFile tree place.location content free
  have present : (after.entryAt? place.location).isSome := by
    rw [written, entryAt?_set, if_neg place.location_ne_nil, if_pos rfl]
    rfl
  refine ⟨grows, place.location, locate_place grows found noStep bare present, ?_⟩
  intro other
  rw [written, content?_set _ _ _ _ place.location_ne_nil]
  rfl

end ApiAssembly.FileTree
