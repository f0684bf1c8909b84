import ApiAssembly.FileTree.AtomicWrite
import ApiAssembly.Proofs.FileTree.Growth
/-! Writing a file in one step, seen from outside. The name of the temporary file is longer than all
others, so nothing else goes when it is removed. What is left to see are the directories that had
to be made and the file, and when a call on the way fails, at most the directories. -/
namespace ApiAssembly.FileTree

/-! The temporary file. -/

theorem le_foldl_max (lengths : List Nat) (start : Nat) :
    start ≤ lengths.foldl max start ∧ ∀ length ∈ lengths, length ≤ lengths.foldl max start := by
  induction lengths generalizing start with
  | nil => exact ⟨Nat.le_refl _, fun _ member => absurd member List.not_mem_nil⟩
  | cons first rest ih =>
    obtain ⟨reached, bounded⟩ := ih (max start first)
    refine ⟨Nat.le_trans (Nat.le_max_left _ _) reached, ?_⟩
    intro length member
    rcases List.mem_cons.mp member with same | later
    · rw [same]
      exact Nat.le_trans (Nat.le_max_right _ _) reached
    · exact bounded length later

theorem length_freshName (tree : FileTree) : tree.freshName.length =
    4 + (tree.entries.keys.flatten.map String.length).foldl max 0 := by
  have zeros : ∀ count, (String.ofList (List.replicate count '0')).length = count := by
    intro count
    rw [String.length_ofList, List.length_replicate]
  rw [freshName, String.length_append, zeros]
  rfl

theorem freshName_not_mem (tree : FileTree) (location : Location)
    (key : location ∈ tree.entries.keys) : tree.freshName ∉ location := by
  intro member
  have bounded := (le_foldl_max (tree.entries.keys.flatten.map String.length) 0).2 _
    (List.mem_map_of_mem (List.mem_flatten.mpr ⟨location, key, member⟩))
  rw [length_freshName] at bounded
  omega

theorem remove_set (tree : FileTree) (location : Location) (entry : FileEntry) :
    (tree.set location entry).remove location = tree.remove location := by
  unfold remove set
  congr 1
  apply Dict.ext_find?
  intro other
  rw [Dict.find?_filter_keys, Dict.find?_filter_keys, Dict.find?_insert]
  by_cases same : other = location
  · have whole : location.isPrefixOf location = true :=
      List.isPrefixOf_iff_prefix.mpr List.prefix_rfl
    simp [same, whole]
  · rw [if_neg same]

/-- There is nothing under a fresh name. -/
theorem remove_fresh (tree : FileTree) (directory : Location) :
    tree.remove (directory ++ [tree.freshName]) = tree := by
  unfold remove
  congr 1
  apply Dict.ext_find?
  intro location
  rw [Dict.find?_filter_keys]
  cases beneath : (directory ++ [tree.freshName]).isPrefixOf location with
  | false => rfl
  | true =>
    have member : tree.freshName ∈ location :=
      (List.isPrefixOf_iff_prefix.mp beneath).subset (List.mem_append_right _ List.mem_cons_self)
    cases found : tree.entries.find? location with
    | none => rfl
    | some entry =>
      have key := (Dict.mem_keys_iff tree.entries location).mpr (by rw [found]; rfl)
      exact absurd member (tree.freshName_not_mem location key)

/-! Calls that can fail. -/

theorem attempt_met {α : Type} {faults : WriteFaults} {step : WriteStep} {fault : FileFault}
    {result : Except FileFault α} (met : faults step = some fault) :
    attempt faults step result = .error fault := by
  rw [attempt, met]

theorem attempt_spared {α : Type} {faults : WriteFaults} {step : WriteStep}
    {result : Except FileFault α} (spared : faults step = none) :
    attempt faults step result = result := by
  rw [attempt, spared]

theorem attempt_ok {α : Type} {faults : WriteFaults} {step : WriteStep} {result : Except FileFault α}
    {value : α} (done : attempt faults step result = .ok value) :
    faults step = none ∧ result = .ok value := by
  cases outside : faults step with
  | some fault =>
    rw [attempt_met outside] at done
    cases done
  | none =>
    rw [attempt_spared outside] at done
    exact ⟨rfl, done⟩

theorem temporaryPlace_ok {tree : FileTree} {path : FilePath} {location : Location}
    (found : tree.temporaryPlace path = .ok location) :
    ∃ directory, location = directory ++ [tree.freshName] := by
  unfold temporaryPlace at found
  cases reached : tree.locate path with
  | error fault => rw [reached] at found; cases found
  | ok directory =>
    rw [reached] at found
    simp only [bind, Except.bind] at found
    split at found
    · cases found
      exact ⟨directory, rfl⟩
    · cases found

/-! Writing to a file that does not hold the text. -/

/-- Nothing is seen of the temporary file once the file is written, or could not be. -/
theorem writeThrough_unseen (faults : WriteFaults) (tree : FileTree) (path : FilePath)
    (content : ByteArray) (status : WriteStatus) :
    tree.writeThrough faults path content status =
      match attemptDirectories faults tree path.directory with
      | (made, .error fault) => (made, .error (.file path.directory fault))
      | (made, .ok ()) =>
        match attempt faults .createTemporary (made.temporaryPlace path.directory) with
        | .error fault => (made, .error (.file path.directory fault))
        | .ok _ =>
          match faults .writeTemporary with
          | some fault =>
            (made, .error (.file (path.directory.join ⟨made.freshName⟩) fault))
          | none =>
            match attempt faults .rename (made.putFile path content) with
            | .error fault => (made, .error (.file path fault))
            | .ok moved => (moved, .ok status) := by
  unfold writeThrough
  simp only
  cases attemptDirectories faults tree path.directory with
  | mk made result =>
    cases result with
    | error fault => rfl
    | ok done =>
      simp only
      cases found : attempt faults .createTemporary (made.temporaryPlace path.directory) with
      | error fault => rfl
      | ok temporary =>
        obtain ⟨directory, placed⟩ := temporaryPlace_ok (attempt_ok found).2
        cases interrupted : faults .writeTemporary with
        | some fault => simp only [attempt_met interrupted, placed, remove_set, remove_fresh]
        | none =>
          cases put : attempt faults .rename (made.putFile path content) with
          | error fault =>
            simp only [attempt_spared interrupted, moveOnto, placed, remove_set, remove_fresh, put]
          | ok moved =>
            simp only [attempt_spared interrupted, moveOnto, placed, remove_set, remove_fresh, put]

/-- Without faults from outside. -/
theorem writeThrough_eq (tree : FileTree) (path : FilePath) (content : ByteArray)
    (status : WriteStatus) :
    tree.writeThrough (fun _ => none) path content status =
      match tree.makeDirectories path.directory with
      | (made, .error fault) => (made, .error (.file path.directory fault))
      | (made, .ok ()) =>
        match made.temporaryPlace path.directory with
        | .error fault => (made, .error (.file path.directory fault))
        | .ok _ =>
          match made.putFile path content with
          | .error fault => (made, .error (.file path fault))
          | .ok moved => (moved, .ok status) :=
  writeThrough_unseen (fun _ => none) tree path content status

theorem Opens.attemptDirectories (faults : WriteFaults) (tree : FileTree) (directory : FilePath) :
    Opens tree (attemptDirectories faults tree directory).1 := by
  unfold FileTree.attemptDirectories
  cases faults .makeDirectories with
  | some fault => exact Opens.refl tree
  | none => exact Opens.makeDirectories tree directory

/-- Either the file is put into place in the end, or all that is left are directories. -/
theorem writeThrough_cases (faults : WriteFaults) (tree : FileTree) (path : FilePath)
    (content : ByteArray) (announced : WriteStatus) :
    ∃ made, Opens tree made ∧
      ((∃ error, tree.writeThrough faults path content announced = (made, .error error)) ∨
        ∃ moved, made.putFile path content = .ok moved ∧
          tree.writeThrough faults path content announced = (moved, .ok announced)) := by
  have opens := Opens.attemptDirectories faults tree path.directory
  rw [writeThrough_unseen]
  cases opened : attemptDirectories faults tree path.directory with
  | mk made result =>
    rw [opened] at opens
    refine ⟨made, opens, ?_⟩
    cases result with
    | error fault => exact Or.inl ⟨_, rfl⟩
    | ok done =>
      cases found : attempt faults .createTemporary (made.temporaryPlace path.directory) with
      | error fault => exact Or.inl ⟨.file path.directory fault, by simp only [found]⟩
      | ok temporary =>
        cases interrupted : faults .writeTemporary with
        | some fault =>
          exact Or.inl ⟨.file (path.directory.join ⟨made.freshName⟩) fault, by simp only [found]⟩
        | none =>
          cases put : attempt faults .rename (made.putFile path content) with
          | error fault => exact Or.inl ⟨.file path fault, by simp only [found, put]⟩
          | ok moved => exact Or.inr ⟨moved, (attempt_ok put).2, by simp only [found, put]⟩

theorem writeThrough_ok {faults : WriteFaults} {tree after : FileTree} {path : FilePath}
    {content : ByteArray} {announced status : WriteStatus}
    (written : tree.writeThrough faults path content announced = (after, .ok status)) :
    status = announced ∧ ∃ made, Opens tree made ∧ made.putFile path content = .ok after := by
  obtain ⟨made, opens, ⟨error, failed⟩ | ⟨moved, put, done⟩⟩ :=
    writeThrough_cases faults tree path content announced
  · rw [failed] at written
    cases written
  · rw [done] at written
    cases written
    exact ⟨rfl, made, opens, put⟩

theorem writeThrough_error {faults : WriteFaults} {tree after : FileTree} {path : FilePath}
    {content : ByteArray} {announced : WriteStatus} {error : BuildError}
    (failed : tree.writeThrough faults path content announced = (after, .error error)) :
    Opens tree after := by
  obtain ⟨made, opens, ⟨_, stopped⟩ | ⟨moved, _, done⟩⟩ :=
    writeThrough_cases faults tree path content announced
  · rw [stopped] at failed
    cases failed
    exact opens
  · rw [done] at failed
    cases failed

/-! The whole of writing. -/

/-- What a file holds is what is found where its path leads. -/
theorem read_ok_iff (tree : FileTree) (path : FilePath) (content : ByteArray) :
    tree.read path = .ok content ↔
      ∃ location, tree.locate path = .ok location ∧ tree.content? location = some content := by
  unfold read content?
  cases tree.locate path with
  | error fault => simp [bind, Except.bind]
  | ok location =>
    simp only [bind, Except.bind]
    cases known : tree.entryAt? location with
    | none => simp [known]
    | some entry =>
      cases entry with
      | file held => simp [known, FileEntry.content?]
      | directory => simp [known, FileEntry.content?]

theorem isFile_iff (tree : FileTree) (path : FilePath) :
    tree.isFile path = true ↔ ∃ content, tree.read path = .ok content := by
  unfold isFile find? read
  cases tree.locate path with
  | error fault => simp [bind, Except.bind]
  | ok location =>
    simp only [bind, Except.bind]
    cases known : tree.entryAt? location with
    | none => simp
    | some entry => cases entry <;> simp [FileEntry.isFile]

/-- A file that holds the text already is left alone. -/
theorem writeAtomicWith_held {faults : WriteFaults} {tree : FileTree} {path : FilePath}
    {text : String} (held : attempt faults .read (tree.read path) = .ok text.toUTF8) :
    tree.writeAtomicWith faults path text = (tree, .ok .unchanged) := by
  simp [writeAtomicWith, held]

/-- What a file that is written after all will be reported as. -/
def announced : Except FileFault ByteArray → WriteStatus
  | .ok _ => .updated
  | .error _ => .created

theorem announced_ne (present : Except FileFault ByteArray) : announced present ≠ .unchanged := by
  cases present <;> nofun

theorem writeAtomicWith_of_differs {faults : WriteFaults} {tree : FileTree} {path : FilePath}
    {text : String} (differs : attempt faults .read (tree.read path) ≠ .ok text.toUTF8) :
    tree.writeAtomicWith faults path text = tree.writeThrough faults path text.toUTF8
      (announced (attempt faults .read (tree.read path))) := by
  unfold writeAtomicWith
  cases present : attempt faults .read (tree.read path) with
  | error fault => rfl
  | ok content =>
    have other : content ≠ text.toUTF8 := by
      intro same
      exact differs (same ▸ present)
    simp only [FileEntry.file.injEq, other, if_false, announced]

theorem writeAtomic_of_differs {tree : FileTree} {path : FilePath} {text : String}
    (differs : tree.read path ≠ .ok text.toUTF8) :
    ∃ announced, announced ≠ .unchanged ∧
      tree.writeAtomic path text = tree.writeThrough (fun _ => none) path text.toUTF8 announced :=
  ⟨_, announced_ne _, writeAtomicWith_of_differs differs⟩

/-- A text that has been written is where its path leads, and no other file has changed. -/
theorem writeAtomicWith_ok {faults : WriteFaults} {tree after : FileTree} {path : FilePath}
    {text : String} {status : WriteStatus}
    (written : tree.writeAtomicWith faults path text = (after, .ok status)) :
    Grows tree after ∧ ∃ location, after.locate path = .ok location ∧
      ∀ other, after.content? other =
        if other = location then some text.toUTF8 else tree.content? other := by
  by_cases held : attempt faults .read (tree.read path) = .ok text.toUTF8
  · rw [writeAtomicWith_held held] at written
    cases written
    obtain ⟨location, reached, content⟩ := (read_ok_iff tree path _).mp (attempt_ok held).2
    refine ⟨Grows.refl tree, location, reached, ?_⟩
    intro other
    split
    · rename_i same
      rw [same, content]
    · rfl
  · rw [writeAtomicWith_of_differs held] at written
    obtain ⟨_, made, opens, put⟩ := writeThrough_ok written
    obtain ⟨grows, location, reached, contents⟩ := putFile_ok put
    refine ⟨opens.grows.trans grows, location, reached, ?_⟩
    intro other
    rw [contents, opens.contents]

/-- The first look at the file decides what is reported. -/
theorem writeAtomicWith_status {faults : WriteFaults} {tree after : FileTree} {path : FilePath}
    {text : String} {status : WriteStatus}
    (written : tree.writeAtomicWith faults path text = (after, .ok status)) :
    (status = .unchanged ↔ attempt faults .read (tree.read path) = .ok text.toUTF8) ∧
      (status = .unchanged → after = tree) := by
  by_cases held : attempt faults .read (tree.read path) = .ok text.toUTF8
  · rw [writeAtomicWith_held held] at written
    cases written
    exact ⟨⟨fun _ => held, fun _ => rfl⟩, fun _ => rfl⟩
  · rw [writeAtomicWith_of_differs held] at written
    have changed : status ≠ .unchanged := by
      rw [(writeThrough_ok written).1]
      exact announced_ne _
    exact ⟨⟨fun same => absurd same changed, fun same => absurd same held⟩,
      fun same => absurd same changed⟩

theorem writeAtomicWith_error {faults : WriteFaults} {tree after : FileTree} {path : FilePath}
    {text : String} {error : BuildError}
    (failed : tree.writeAtomicWith faults path text = (after, .error error)) : Opens tree after := by
  by_cases held : attempt faults .read (tree.read path) = .ok text.toUTF8
  · rw [writeAtomicWith_held held] at failed
    cases failed
  · rw [writeAtomicWith_of_differs held] at failed
    exact writeThrough_error failed

/-- Whichever calls fail, the text is in its place and nothing else has changed, or every file is
what it was. A text in its place is found there the next time, if the file can be read. -/
theorem written_or_untouched (faults : WriteFaults) (tree : FileTree) (path : FilePath)
    (text : String) :
    match tree.writeAtomicWith faults path text with
    | (after, .ok status) =>
      Grows tree after ∧
      (∃ location, after.locate path = .ok location ∧
        ∀ other, after.content? other =
          if other = location then some text.toUTF8 else tree.content? other) ∧
      (status = .unchanged ↔ attempt faults .read (tree.read path) = .ok text.toUTF8) ∧
      (status = .unchanged → after = tree) ∧
      ∀ later : WriteFaults, later .read = none →
        after.writeAtomicWith later path text = (after, .ok .unchanged)
    | (after, .error _) => Opens tree after := by
  cases result : tree.writeAtomicWith faults path text with
  | mk after outcome =>
    cases outcome with
    | error error => exact writeAtomicWith_error result
    | ok status =>
      obtain ⟨grows, location, reached, contents⟩ := writeAtomicWith_ok result
      obtain ⟨decided, kept⟩ := writeAtomicWith_status result
      refine ⟨grows, ⟨location, reached, contents⟩, decided, kept, ?_⟩
      intro later readable
      have present : after.read path = .ok text.toUTF8 :=
        (read_ok_iff after path _).mpr ⟨location, reached, by rw [contents, if_pos rfl]⟩
      exact writeAtomicWith_held ((attempt_spared readable).trans present)

-- The file could not be moved, so it is the directory made for it that is left. An absolute path
-- leads there wherever work is done.
example : let tree : FileTree := { workingDirectory := ["c"] }
    tree.writeAtomicWith (fun step => if step = .rename then some .busy else none) ⟨"/a/b"⟩ "x" =
      (tree.set ["a"] .directory, .error (.file ⟨"/a/b"⟩ .busy)) ∧
    tree.writeAtomic ⟨"/a/b"⟩ "x" =
      ((tree.set ["a"] .directory).set ["a", "b"] (.file "x".toUTF8), .ok .created) := by
  decide +kernel

/-- Room for a file at the end of a path, once the directories on the way are made. -/
structure Room (tree : FileTree) (path : FilePath) (made : FileTree) (location : Location) :
    Prop where
  opened : tree.makeDirectories path.directory = (made, .ok ())
  temporary : ∃ place, made.temporaryPlace path.directory = .ok place
  put : ∀ content, made.putFile path content = .ok (made.set location (.file content))

/-- Where there is room for a file its text does not matter. -/
theorem writeAtomic_of_room {tree made : FileTree} {path : FilePath} {location : Location}
    {text : String} (room : Room tree path made location)
    (differs : tree.read path ≠ .ok text.toUTF8) :
    ∃ status, tree.writeAtomic path text = (made.set location (.file text.toUTF8), .ok status) := by
  obtain ⟨announced, _, through⟩ := writeAtomic_of_differs differs
  obtain ⟨place, found⟩ := room.temporary
  refine ⟨announced, ?_⟩
  rw [through, writeThrough_eq, room.opened]
  simp only [found, room.put]

end ApiAssembly.FileTree
