import ApiAssembly.Proofs.FileTree.AtomicWrite
/-! The names of entries. The path of an entry is that of its directory with the name behind it. It
leads to the entry as long as it is not too long, and the name can be read off it, so that the
entries of one directory have paths with different file names. -/
namespace ApiAssembly

/-- What a directory can call an entry. -/
structure FileTree.IsEntryName (name : String) : Prop where
  nonempty : name ≠ ""
  noDot : name ≠ "."
  noStep : name ≠ ".."
  noSlash : '/' ∉ name.toList
  noNull : '\x00' ∉ name.toList
  short : isNameTooLong name = false

instance (name : String) : Decidable (FileTree.IsEntryName name) :=
  decidable_of_iff
    (name ≠ "" ∧ name ≠ "." ∧ name ≠ ".." ∧ '/' ∉ name.toList ∧ '\x00' ∉ name.toList ∧
      FileTree.isNameTooLong name = false)
    ⟨fun ⟨nonempty, noDot, noStep, noSlash, noNull, short⟩ =>
      ⟨nonempty, noDot, noStep, noSlash, noNull, short⟩,
    fun named => ⟨named.nonempty, named.noDot, named.noStep, named.noSlash, named.noNull,
      named.short⟩⟩

/-- A tree in which every entry is called what a directory can call it. -/
def FileTree.IsNamed (tree : FileTree) : Prop :=
  ∀ location ∈ tree.entries.keys, ∀ name ∈ location, IsEntryName name

instance (tree : FileTree) : Decidable tree.IsNamed :=
  inferInstanceAs (Decidable (∀ location ∈ tree.entries.keys, ∀ name ∈ location,
    FileTree.IsEntryName name))

namespace FilePath
open FileTree (IsEntryName)

theorem splitSlashes_ne_nil (cs : List Char) : splitSlashes cs ≠ [] := by
  cases cs with
  | nil => exact List.cons_ne_nil _ _
  | cons c rest =>
    unfold splitSlashes
    split
    · exact List.cons_ne_nil _ _
    · split
      · exact List.cons_ne_nil _ _
      · exact List.cons_ne_nil _ _

theorem splitSlashes_append (front back : List Char) :
    splitSlashes (front ++ '/' :: back) = splitSlashes front ++ splitSlashes back := by
  induction front with
  | nil => rfl
  | cons c rest ih =>
    rw [List.cons_append, splitSlashes, splitSlashes, ih]
    by_cases slash : c = '/'
    · rw [if_pos slash, if_pos slash, List.cons_append]
    · rw [if_neg slash, if_neg slash]
      cases shape : splitSlashes rest with
      | nil => exact absurd shape (splitSlashes_ne_nil rest)
      | cons segment more => rfl

theorem splitSlashes_plain (cs : List Char) (plain : '/' ∉ cs) : splitSlashes cs = [cs] := by
  induction cs with
  | nil => rfl
  | cons c rest ih =>
    rw [List.mem_cons, not_or] at plain
    rw [splitSlashes, if_neg (Ne.symm plain.1), ih plain.2]

/-- What a directory's path and the path of an entry have in common ends at a slash. -/
theorem join_parts (directory : FilePath) (name : String) (filled : directory.text ≠ "")
    (noSlash : '/' ∉ name.toList) :
    ∃ front, (directory.text.toList = front ∨ directory.text.toList = front ++ ['/']) ∧
      (directory.join ⟨name⟩).text.toList = front ++ '/' :: name.toList := by
  have relative : ¬ (FilePath.mk name).isAbsolute = true := by
    intro absolute
    have opens : name.toList.head? = some '/' := of_decide_eq_true absolute
    exact noSlash (List.mem_of_mem_head? opens)
  have kept : ¬ ((FilePath.mk name).isAbsolute || directory.text.isEmpty) = true := by
    simpa [relative] using filled
  rw [join, if_neg kept]
  by_cases slashed : directory.text.toList.getLast? = some '/'
  · have whole := List.dropLast_append_getLast? '/' slashed
    refine ⟨directory.text.toList.dropLast, Or.inr whole.symm, ?_⟩
    rw [if_pos slashed, String.toList_append, ← List.singleton_append, ← List.append_assoc, whole]
  · refine ⟨directory.text.toList, Or.inl rfl, ?_⟩
    rw [if_neg slashed, String.toList_append, String.toList_append, List.append_assoc]
    rfl

/-- An entry's path starts where that of its directory does. -/
theorem isAbsolute_join (directory : FilePath) (name : String) (filled : directory.text ≠ "")
    (noSlash : '/' ∉ name.toList) : (directory.join ⟨name⟩).isAbsolute = directory.isAbsolute := by
  obtain ⟨front, whole, joined⟩ := join_parts directory name filled noSlash
  rw [isAbsolute, isAbsolute, joined]
  cases front with
  | nil =>
    rcases whole with bare | slashed
    · exact absurd (String.toList_injective bare) filled
    · rw [slashed]
      rfl
  | cons c rest =>
    rcases whole with bare | slashed
    · rw [bare]
      rfl
    · rw [slashed]
      rfl

theorem trimReversed_eq (cs : List Char) (noSlash : cs.head? ≠ some '/')
    (noDot : ∀ rest, cs ≠ '.' :: '/' :: rest) : trimReversed cs = cs := by
  unfold trimReversed
  split
  · exact absurd rfl noSlash
  · exact absurd rfl noSlash
  · exact absurd rfl (noDot _)
  · exact absurd rfl (noDot _)
  · rfl

/-- The name of an entry is the file name of its path. -/
theorem fileName?_join (directory : FilePath) (name : String) (filled : directory.text ≠ "")
    (named : IsEntryName name) : (directory.join ⟨name⟩).fileName? = some name := by
  obtain ⟨front, -, joined⟩ := join_parts directory name filled named.noSlash
  have reversed : (directory.join ⟨name⟩).text.toList.reverse =
      name.toList.reverse ++ '/' :: front.reverse := by
    rw [joined, List.reverse_append, List.reverse_cons, List.append_assoc]
    rfl
  have plain : ∀ c ∈ name.toList.reverse, c ≠ '/' := by
    intro c member same
    exact named.noSlash (same ▸ List.mem_reverse.mp member)
  have untrimmed : trimReversed (name.toList.reverse ++ '/' :: front.reverse) =
      name.toList.reverse ++ '/' :: front.reverse := by
    cases shape : name.toList.reverse with
    | nil => exact absurd (by simpa using shape) named.nonempty
    | cons last rest =>
      rw [shape] at plain
      apply trimReversed_eq
      · simpa using plain last List.mem_cons_self
      · intro more same
        obtain ⟨dot, behind⟩ := List.cons.inj same
        cases rest with
        | nil =>
          -- A dot right behind the slash would be the whole name.
          have single : name.toList = ['.'] := by
            rw [← List.reverse_reverse name.toList, shape, dot]
            rfl
          exact named.noDot (String.toList_injective single)
        | cons next others => exact plain next (by simp) (List.cons.inj behind).1
  have taken : (name.toList.reverse ++ '/' :: front.reverse).takeWhile (· ≠ '/') =
      name.toList.reverse := by
    rw [List.takeWhile_append_of_pos (by simpa using plain)]
    simp
  have visible : ¬ (name.toList = [] ∨ name.toList = ['.'] ∨ name.toList = ['.', '.']) := by
    rintro (empty | dot | step)
    · exact named.nonempty (String.toList_injective empty)
    · exact named.noDot (String.toList_injective dot)
    · exact named.noStep (String.toList_injective step)
  rw [fileName?, reversed, untrimmed, taken, List.reverse_reverse]
  simp only [Bool.or_eq_true, decide_eq_true_eq, or_assoc, visible, if_false, String.ofList_toList]

end FilePath

namespace FileTree

/-- A path that can be followed at all. -/
structure IsFollowed (path : FilePath) : Prop where
  noNull : path.hasNull = false
  short : isPathTooLong path = false
  filled : path.text ≠ ""

theorem isFollowed_of_followed {tree : FileTree} {path : FilePath} {segments : List String}
    {location : Location} (reached : tree.followed path segments = .ok location) :
    IsFollowed path := by
  unfold followed at reached
  split at reached
  · cases reached
  · rename_i noNull
    split at reached
    · cases reached
    · rename_i short
      split at reached
      · cases reached
      · rename_i filled
        exact ⟨by simpa using noNull, by simpa using short, by simpa using filled⟩

theorem isFollowed_of_locate {tree : FileTree} {path : FilePath} {location : Location}
    (reached : tree.locate path = .ok location) : IsFollowed path :=
  isFollowed_of_followed reached

theorem IsFollowed.locate_eq {path : FilePath} (able : IsFollowed path) (tree : FileTree) :
    tree.locate path = tree.walk [] (tree.start path ++ path.segments) := by
  simp [locate, followed, able.noNull, able.short, able.filled]

theorem isFollowed_join {directory : FilePath} {name : String} (able : IsFollowed directory)
    (named : IsEntryName name) (short : isPathTooLong (directory.join ⟨name⟩) = false) :
    IsFollowed (directory.join ⟨name⟩) := by
  obtain ⟨front, whole, joined⟩ :=
    FilePath.join_parts directory name able.filled named.noSlash
  have noNull := able.noNull
  rw [FilePath.hasNull, List.contains_eq_mem, decide_eq_false_iff_not] at noNull
  refine ⟨?_, short, ?_⟩
  · rw [FilePath.hasNull, List.contains_eq_mem, decide_eq_false_iff_not, joined]
    have clear : '\x00' ∉ front := by
      rcases whole with bare | slashed
      · exact bare ▸ noNull
      · exact fun member => noNull (slashed ▸ List.mem_append_left _ member)
    simp [clear, named.noNull]
  · intro empty
    rw [empty] at joined
    simp at joined

/-- A walk does not notice a slash at the end of a directory's path. -/
theorem walk_segments_join {tree : FileTree} {directory : FilePath} {start root : Location}
    {name : String} (able : IsFollowed directory) (named : IsEntryName name)
    (reached : tree.walk [] (start ++ directory.segments) = .ok root) :
    tree.walk [] (start ++ (directory.join ⟨name⟩).segments) = tree.walk root [name] := by
  obtain ⟨front, whole, joined⟩ :=
    FilePath.join_parts directory name able.filled named.noSlash
  have parted : (directory.join ⟨name⟩).segments =
      (FilePath.splitSlashes front).map String.ofList ++ [name] := by
    rw [FilePath.segments, joined, FilePath.splitSlashes_append,
      FilePath.splitSlashes_plain _ named.noSlash, List.map_append]
    simp
  have before :
      tree.walk [] (start ++ (FilePath.splitSlashes front).map String.ofList) = .ok root := by
    rcases whole with bare | slashed
    · rwa [FilePath.segments, bare] at reached
    · rw [FilePath.segments, slashed, FilePath.splitSlashes_append, List.map_append,
        ← List.append_assoc, walk_append] at reached
      cases walked : tree.walk [] (start ++ (FilePath.splitSlashes front).map String.ofList) with
      | error fault => rw [walked] at reached; cases reached
      | ok here =>
        rw [walked] at reached
        change tree.walk here [""] = .ok root at reached
        rw [walk] at reached
        split at reached
        · cases reached
        · cases reached
        · simpa [walk] using reached
  rw [parted, ← List.append_assoc, walk_append, before]
  rfl

theorem walk_entry {tree : FileTree} {root : Location} {name : String}
    (known : tree.entryAt? root = some .directory) (named : IsEntryName name) :
    tree.walk root [name] =
      if (tree.entryAt? (root ++ [name])).isSome then .ok (root ++ [name]) else .error .notFound := by
  simp [walk, known, named.nonempty, named.noDot, named.noStep, named.short]

/-- The path of an entry leads to it from the directory, unless it is too long. -/
theorem locate_join {tree : FileTree} {directory : FilePath} {root : Location} {name : String}
    (reached : tree.locate directory = .ok root) (known : tree.entryAt? root = some .directory)
    (named : IsEntryName name) (short : isPathTooLong (directory.join ⟨name⟩) = false) :
    tree.locate (directory.join ⟨name⟩) =
      if (tree.entryAt? (root ++ [name])).isSome then .ok (root ++ [name]) else .error .notFound := by
  have able := isFollowed_of_locate reached
  have started : tree.start (directory.join ⟨name⟩) = tree.start directory := by
    rw [start, FilePath.isAbsolute_join directory name able.filled named.noSlash, start]
  rw [able.locate_eq] at reached
  rw [(isFollowed_join able named short).locate_eq, started,
    walk_segments_join able named reached, walk_entry known named]

/-- What the path of an entry holds is what the directory holds under its name. -/
theorem read_join_iff {tree : FileTree} {directory : FilePath} {root : Location} {name : String}
    (reached : tree.locate directory = .ok root) (known : tree.entryAt? root = some .directory)
    (named : IsEntryName name) (content : ByteArray) :
    tree.read (directory.join ⟨name⟩) = .ok content ↔
      isPathTooLong (directory.join ⟨name⟩) = false ∧
        tree.content? (root ++ [name]) = some content := by
  rw [read_ok_iff]
  constructor
  · rintro ⟨location, found, held⟩
    have short := (isFollowed_of_locate found).short
    rw [locate_join reached known named short] at found
    split at found
    · cases found
      exact ⟨short, held⟩
    · cases found
  · rintro ⟨short, held⟩
    have present : (tree.entryAt? (root ++ [name])).isSome := by
      obtain ⟨entry, there, _⟩ := Option.bind_eq_some_iff.mp held
      rw [there]
      rfl
    exact ⟨root ++ [name], by rw [locate_join reached known named short, if_pos present], held⟩

theorem mem_names_iff (tree : FileTree) (root : Location) (name : String) :
    name ∈ tree.names root ↔ (tree.entryAt? (root ++ [name])).isSome := by
  have inside : root ++ [name] ≠ [] := by simp
  rw [names, List.mem_filterMap, entryAt?, if_neg inside, ← Dict.mem_keys_iff]
  constructor
  · rintro ⟨location, member, called⟩
    split at called
    · rename_i beneath
      have whole := List.dropLast_append_getLast? name called
      rw [beneath] at whole
      exact whole.symm ▸ member
    · cases called
  · intro member
    exact ⟨root ++ [name], member, by simp⟩

theorem names_nodup (tree : FileTree) (root : Location) : (tree.names root).Nodup := by
  refine List.Nodup.filterMap ?_ tree.entries.keys_nodup
  intro first second name firstCalled secondCalled
  have whole : ∀ location : Location, name ∈ (if location.dropLast = root then location.getLast?
      else none) → location = root ++ [name] := by
    intro location called
    split at called
    · rename_i beneath
      rw [← beneath]
      exact (List.dropLast_append_getLast? name called).symm
    · cases called
  rw [whole first firstCalled, whole second secondCalled]

theorem IsNamed.isEntryName {tree : FileTree} (named : tree.IsNamed) {root : Location}
    {name : String} (member : name ∈ tree.names root) : IsEntryName name := by
  have inside : root ++ [name] ≠ [] := by simp
  rw [mem_names_iff, entryAt?, if_neg inside, ← Dict.mem_keys_iff] at member
  exact named (root ++ [name]) member name (by simp)

/-! Whatever is written, entries keep having names. -/

theorem mem_splitSlashes (cs piece : List Char) (member : piece ∈ FilePath.splitSlashes cs) :
    '/' ∉ piece ∧ piece ⊆ cs := by
  induction cs generalizing piece with
  | nil =>
    rw [FilePath.splitSlashes, List.mem_singleton] at member
    simp [member]
  | cons c rest ih =>
    unfold FilePath.splitSlashes at member
    split at member
    · rcases List.mem_cons.mp member with empty | later
      · simp [empty]
      · exact ⟨(ih piece later).1, List.subset_cons_of_subset c (ih piece later).2⟩
    · rename_i plain
      split at member
      · rw [List.mem_singleton.mp member]
        exact ⟨by simpa using Ne.symm plain, by simp⟩
      · rename_i segment more shape
        rw [shape] at ih
        rcases List.mem_cons.mp member with first | later
        · obtain ⟨noSlash, inside⟩ := ih segment List.mem_cons_self
          rw [first, List.mem_cons, not_or]
          exact ⟨⟨Ne.symm plain, noSlash⟩, List.cons_subset_cons c inside⟩
        · obtain ⟨noSlash, inside⟩ := ih piece (List.mem_cons_of_mem segment later)
          exact ⟨noSlash, List.subset_cons_of_subset c inside⟩

theorem isEntryName_of_place {tree : FileTree} {path : FilePath} {place : Place}
    (found : tree.place path = .ok place) (noStep : ¬ place.isStep = true) :
    IsEntryName place.name := by
  obtain ⟨_, short, _, before, shape, around⟩ := place_ok found noStep
  -- The name is a piece of the text between slashes, so it has the characters of the text only.
  have listed : place.name ∈ path.segments := by
    have reversed : place.name ∈ path.segments.reverse :=
      (List.dropWhile_suffix _).subset (shape ▸ List.mem_cons_self)
    exact List.mem_reverse.mp reversed
  obtain ⟨piece, split, same⟩ := List.mem_map.mp listed
  obtain ⟨noSlash, inside⟩ := mem_splitSlashes path.text.toList piece split
  have chars : place.name.toList = piece := by rw [← same, String.toList_ofList]
  have noNull := (isFollowed_of_followed around).noNull
  rw [FilePath.hasNull, List.contains_eq_mem, decide_eq_false_iff_not] at noNull
  obtain ⟨noDot, noDots⟩ : place.name ≠ "." ∧ place.name ≠ ".." := by
    simpa [Place.isStep] using noStep
  have filled : place.name ≠ "" := by
    have kept := List.head?_dropWhile_not (fun segment : String => decide (segment = "")) path.segments.reverse
    rw [shape] at kept
    simpa using kept
  exact ⟨filled, noDot, noDots, chars ▸ noSlash, fun member => noNull (inside (chars ▸ member)), short⟩

theorem IsNamed.mem_entryAt? {tree : FileTree} (named : tree.IsNamed) {location : Location}
    {entry : FileEntry} (known : tree.entryAt? location = some entry) :
    ∀ name ∈ location, IsEntryName name := by
  by_cases root : location = []
  · rw [root]
    exact List.forall_mem_nil _
  · unfold FileTree.entryAt? at known
    rw [if_neg root] at known
    exact named location ((Dict.mem_keys_iff _ _).mpr (by rw [known]; rfl))

theorem IsNamed.set {tree : FileTree} (named : tree.IsNamed) {path : FilePath} {place : Place}
    (found : tree.place path = .ok place) (noStep : ¬ place.isStep = true) (entry : FileEntry) :
    (tree.set place.location entry).IsNamed := by
  intro location key
  rw [FileTree.set, Dict.mem_keys_iff, Dict.find?_insert] at key
  split at key
  · rename_i same
    rw [same, Place.location, List.forall_mem_append, List.forall_mem_singleton]
    exact ⟨named.mem_entryAt? (place_ok found noStep).1, isEntryName_of_place found noStep⟩
  · exact named location ((Dict.mem_keys_iff _ _).mpr key)

theorem IsNamed.makeDirectory {tree made : FileTree} {path : FilePath} (named : tree.IsNamed)
    (done : tree.makeDirectory path = .ok made) : made.IsNamed := by
  unfold FileTree.makeDirectory at done
  cases found : tree.place path with
  | error fault => rw [found] at done; cases done
  | ok place =>
    rw [found] at done
    simp only [bind, Except.bind] at done
    split at done
    · cases done
    · rename_i free
      cases done
      have noStep : ¬ place.isStep = true := fun step => free (by rw [step]; rfl)
      exact named.set found noStep .directory

theorem IsNamed.putFile {tree after : FileTree} {path : FilePath} {content : ByteArray}
    (named : tree.IsNamed) (done : tree.putFile path content = .ok after) : after.IsNamed := by
  obtain ⟨place, found, noStep, _, _, written⟩ := putFile_cases done
  exact written ▸ named.set found noStep (.file content)

/-- Writing a file keeps the names of a tree, whether it succeeds or not. -/
theorem IsNamed.writeAtomic {tree : FileTree} (named : tree.IsNamed) (path : FilePath)
    (text : String) : (tree.writeAtomic path text).1.IsNamed := by
  have through : ∀ status, (tree.writeThrough (fun _ => none) path text.toUTF8 status).1.IsNamed := by
    intro status
    rw [writeThrough_eq]
    have opened := makeDirectories_keeps IsNamed.makeDirectory tree path.directory named
    cases around : tree.makeDirectories path.directory with
    | mk made result =>
      rw [around] at opened
      cases result with
      | error fault => exact opened
      | ok done =>
        cases placed : made.temporaryPlace path.directory with
        | error fault => simpa only [placed] using opened
        | ok temporary =>
          cases put : made.putFile path text.toUTF8 with
          | error fault => simpa only [placed, put] using opened
          | ok moved => simpa only [placed, put] using opened.putFile put
  unfold FileTree.writeAtomic writeAtomicWith
  split
  · split
    · exact named
    · exact through .updated
  · exact through .created

end FileTree
end ApiAssembly
