import ApiAssembly.FileTree.SourceFile
import ApiAssembly.Proofs.FileTree.Growth
/-! The files of a tree at chosen places. They are told by the content at these places alone, so what
is read from them does not notice any other change of the tree. -/
namespace ApiAssembly
namespace FileTree

/-- The files at the places that are wanted, in the order of the places. -/
def filesAt (tree : FileTree) (wanted : Location → Bool) : List (Location × ByteArray) :=
  tree.entries.entries.filterMap fun entry =>
    if wanted entry.1 then entry.2.content?.map fun content => (entry.1, content) else none

theorem entryAt?_of_mem (tree : FileTree) (location : Location) (entry : FileEntry)
    (inside : location ≠ []) (member : (location, entry) ∈ tree.entries.entries) :
    tree.entryAt? location = some entry := by
  rw [entryAt?, if_neg inside]
  exact (Entries.mem_iff_find? tree.entries.entries tree.entries.sorted (location, entry)).mp member

theorem mem_filesAt_iff (tree : FileTree) (wanted : Location → Bool) (inside : wanted [] = false)
    (location : Location) (content : ByteArray) :
    (location, content) ∈ tree.filesAt wanted ↔
      wanted location = true ∧ tree.content? location = some content := by
  rw [filesAt, List.mem_filterMap]
  constructor
  · rintro ⟨entry, member, chosen⟩
    split at chosen
    · rename_i asked
      obtain ⟨held, found, same⟩ := Option.map_eq_some_iff.mp chosen
      cases same
      have below : entry.1 ≠ [] := by
        intro root
        rw [root, inside] at asked
        cases asked
      refine ⟨asked, ?_⟩
      rw [content?, tree.entryAt?_of_mem entry.1 entry.2 below member]
      exact found
    · cases chosen
  · rintro ⟨asked, found⟩
    have below : location ≠ [] := by
      intro root
      rw [root, inside] at asked
      cases asked
    obtain ⟨entry, known, held⟩ := Option.bind_eq_some_iff.mp found
    rw [entryAt?, if_neg below] at known
    refine ⟨(location, entry), Entries.mem_of_find? _ _ _ known, ?_⟩
    rw [if_pos asked, held]
    rfl

theorem filesAt_sorted (tree : FileTree) (wanted : Location → Bool) :
    Entries.Sorted (tree.filesAt wanted) := by
  refine List.Pairwise.filterMap _ ?_ tree.entries.sorted
  intro left right before first firstChosen second secondChosen
  split at firstChosen
  · split at secondChosen
    · obtain ⟨_, _, rfl⟩ := Option.map_eq_some_iff.mp firstChosen
      obtain ⟨_, _, rfl⟩ := Option.map_eq_some_iff.mp secondChosen
      exact before
    · cases secondChosen
  · cases firstChosen

theorem filesAt_congr {before after : FileTree} {wanted : Location → Bool}
    (inside : wanted [] = false)
    (same : ∀ location, wanted location = true → after.content? location = before.content? location) :
    after.filesAt wanted = before.filesAt wanted := by
  apply Entries.eq_of_mem_iff _ _ (after.filesAt_sorted wanted) (before.filesAt_sorted wanted)
  rintro ⟨location, content⟩
  rw [mem_filesAt_iff after wanted inside, mem_filesAt_iff before wanted inside]
  constructor
  · rintro ⟨asked, found⟩
    exact ⟨asked, same location asked ▸ found⟩
  · rintro ⟨asked, found⟩
    exact ⟨asked, (same location asked).trans found⟩

end FileTree

namespace SourceFile

/-- The path to a file that some names lead to from a directory. -/
def memberPath (directory : FilePath) (names : List String) : FilePath :=
  names.foldl (fun path name => path.join ⟨name⟩) directory

/-- Whether a location is below the root of a directory and has a path that fits. -/
def isMemberAt (fits : FilePath → Bool) (directory : FilePath) (root location : Location) : Bool :=
  root.isPrefixOf location && location.length > root.length &&
    fits (memberPath directory (location.drop root.length))

theorem isMemberAt_nil (fits : FilePath → Bool) (directory : FilePath) (root : Location) :
    isMemberAt fits directory root [] = false := by
  simp [isMemberAt]

theorem all_ok {tree : FileTree} {directory : FilePath} {files : List SourceFile}
    (read : all tree directory = .ok files) :
    ∃ root, tree.locate directory = .ok root ∧ tree.entryAt? root = some .directory ∧
      files = (tree.below root).filterMap (ofMember? directory) := by
  unfold all at read
  cases reached : tree.locate directory with
  | error fault => rw [reached] at read; cases read
  | ok root =>
    rw [reached] at read
    simp only at read
    split at read
    · rename_i known
      cases read
      exact ⟨root, rfl, known, rfl⟩
    · cases read

theorem filter_below (tree : FileTree) (fits : FilePath → Bool) (directory : FilePath)
    (root : Location) :
    ((tree.below root).filterMap (ofMember? directory)).filter (fun file => fits file.path) =
      (tree.filesAt (isMemberAt fits directory root)).map fun entry =>
        ⟨memberPath directory (entry.1.drop root.length),
          "/".intercalate (entry.1.drop root.length), entry.2⟩ := by
  rw [FileTree.below, FileTree.filesAt, List.filterMap_filterMap, List.filter_filterMap,
    List.map_filterMap]
  apply List.filterMap_congr
  rintro ⟨location, entry⟩ _
  by_cases beneath : (root.isPrefixOf location && decide (location.length > root.length)) = true
  · cases entry with
    | directory => simp [beneath, isMemberAt, ofMember?, FileEntry.content?]
    | file content =>
      simp only [beneath, isMemberAt, ofMember?, FileEntry.content?, if_true, Option.bind_some,
        Option.map_some, Bool.true_and]
      cases chosen : fits (memberPath directory (location.drop root.length)) with
      | false => exact Option.filter_some_neg (by simpa [memberPath] using chosen)
      | true => exact Option.filter_some_pos (by simpa [memberPath] using chosen)
  · simp [beneath, isMemberAt]

/-- The files that fit are the same in a grown tree that has not changed them. -/
theorem all_congr {before after : FileTree} (grows : before.Grows after) {fits : FilePath → Bool}
    {directory : FilePath} {files : List SourceFile} (read : all before directory = .ok files)
    (same : ∀ root location, before.locate directory = .ok root →
      isMemberAt fits directory root location = true →
        after.content? location = before.content? location) :
    ∃ later, all after directory = .ok later ∧
      later.filter (fun file => fits file.path) = files.filter fun file => fits file.path := by
  obtain ⟨root, reached, known, made⟩ := all_ok read
  refine ⟨(after.below root).filterMap (ofMember? directory), ?_, ?_⟩
  · rw [all, grows.locate directory root reached]
    exact if_pos (grows.directory root known)
  · rw [made, filter_below, filter_below, FileTree.filesAt_congr (isMemberAt_nil _ _ _)]
    intro location member
    exact same root location reached member

end SourceFile
end ApiAssembly
