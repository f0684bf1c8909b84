import ApiAssembly.Build.Emission
import ApiAssembly.Proofs.FileTree.AtomicWrite
/-! Writing artifacts one after another. Each one is either written and listed or an error, so a run
without errors lists them all, in the order in which they were asked for. It changes no other file,
and when the artifacts are different files each of them is still there at the end. -/
namespace ApiAssembly.Emission

variable (faults : ArtifactKind → WriteFaults) (config : Config)
  (text : ArtifactKind → Except String String)

/-- What one artifact does to an emission. -/
theorem add_cases (emission : Emission) (kind : ArtifactKind) :
    (∃ cause, text kind = .error cause ∧
      add faults config text emission kind = emission.fail (.rendering kind.name cause)) ∨
    (∃ content tree status, text kind = .ok content ∧
      emission.tree.writeAtomicWith (faults kind) (config.outputPath kind) content = (tree, .ok status) ∧
      add faults config text emission kind = { emission with
        tree, artifacts := emission.artifacts ++ [⟨kind, config.outputPath kind, status⟩] }) ∨
    (∃ content tree error, text kind = .ok content ∧
      emission.tree.writeAtomicWith (faults kind) (config.outputPath kind) content = (tree, .error error) ∧
      add faults config text emission kind = { emission with tree }.fail error) := by
  rw [add]
  cases text kind with
  | error cause => exact Or.inl ⟨cause, rfl, rfl⟩
  | ok content =>
    right
    simp only [write]
    cases written : emission.tree.writeAtomicWith (faults kind) (config.outputPath kind) content with
    | mk tree result =>
      cases result with
      | ok status => exact Or.inl ⟨content, tree, status, rfl, written, rfl⟩
      | error error => exact Or.inr ⟨content, tree, error, rfl, written, rfl⟩

/-- Where there is room for an artifact it is written, whatever its text. -/
theorem add_of_room {tree made : FileTree} {listed : List EmittedArtifact}
    {errors : List BuildError} {kind : ArtifactKind} {content : String} {location : Location}
    (rendered : text kind = .ok content)
    (room : tree.Room (config.outputPath kind) made location)
    (differs : tree.read (config.outputPath kind) ≠ .ok content.toUTF8) :
    ∃ more, add (fun _ _ => none) config text ⟨tree, listed, errors⟩ kind =
      ⟨made.set location (.file content.toUTF8), more, errors⟩ := by
  obtain ⟨status, written⟩ := FileTree.writeAtomic_of_room room differs
  rw [FileTree.writeAtomic] at written
  refine ⟨listed ++ [⟨kind, config.outputPath kind, status⟩], ?_⟩
  rw [add, rendered]
  simp only [write, written]

/-- Room for one artifact after the other, each of them with a text that is not there yet. -/
inductive Fits (config : Config) (text : ArtifactKind → Except String String) :
    FileTree → List ArtifactKind → FileTree → Prop
  | nil (tree : FileTree) : Fits config text tree [] tree
  | cons {tree made left : FileTree} {kind : ArtifactKind} {kinds : List ArtifactKind}
      {content : String} {location : Location} (rendered : text kind = .ok content)
      (room : tree.Room (config.outputPath kind) made location)
      (differs : tree.read (config.outputPath kind) ≠ .ok content.toUTF8)
      (rest : Fits config text (made.set location (.file content.toUTF8)) kinds left) :
      Fits config text tree (kind :: kinds) left

theorem foldl_of_fits {tree left : FileTree} {kinds : List ArtifactKind}
    (fits : Fits config text tree kinds left) (listed : List EmittedArtifact)
    (errors : List BuildError) :
    ∃ more, kinds.foldl (add (fun _ _ => none) config text) ⟨tree, listed, errors⟩ =
      ⟨left, more, errors⟩ := by
  induction fits generalizing listed with
  | nil tree => exact ⟨listed, rfl⟩
  | cons rendered room differs _ ih =>
    obtain ⟨more, added⟩ := add_of_room config text rendered room differs
    rw [List.foldl_cons, added]
    exact ih more

theorem add_grows (emission : Emission) (kind : ArtifactKind) :
    emission.errors <+: (add faults config text emission kind).errors ∧
      emission.artifacts <+: (add faults config text emission kind).artifacts := by
  rcases add_cases faults config text emission kind with
    ⟨cause, _, same⟩ | ⟨content, tree, status, _, _, same⟩ | ⟨content, tree, error, _, _, same⟩
  · rw [same]
    exact ⟨List.prefix_append _ _, List.prefix_rfl⟩
  · rw [same]
    exact ⟨List.prefix_rfl, List.prefix_append _ _⟩
  · rw [same]
    exact ⟨List.prefix_append _ _, List.prefix_rfl⟩

/-- What has been reported or listed stays so. -/
theorem foldl_grows (kinds : List ArtifactKind) (emission : Emission) :
    emission.errors <+: (kinds.foldl (add faults config text) emission).errors ∧
      emission.artifacts <+: (kinds.foldl (add faults config text) emission).artifacts := by
  induction kinds generalizing emission with
  | nil => exact ⟨List.prefix_rfl, List.prefix_rfl⟩
  | cons kind rest ih =>
    obtain ⟨errors, artifacts⟩ := add_grows faults config text emission kind
    obtain ⟨laterErrors, laterArtifacts⟩ := ih (add faults config text emission kind)
    exact ⟨errors.trans laterErrors, artifacts.trans laterArtifacts⟩

/-- A step that leaves an emission without errors has written its artifact. -/
theorem written_of_clean (emission : Emission) (kind : ArtifactKind)
    (clean : (add faults config text emission kind).errors = []) :
    emission.errors = [] ∧ ∃ content tree status, text kind = .ok content ∧
      emission.tree.writeAtomicWith (faults kind) (config.outputPath kind) content = (tree, .ok status) ∧
      add faults config text emission kind = { emission with
        tree, artifacts := emission.artifacts ++ [⟨kind, config.outputPath kind, status⟩] } := by
  rcases add_cases faults config text emission kind with
    ⟨cause, _, same⟩ | ⟨content, tree, status, rendered, written, same⟩ |
      ⟨content, tree, error, _, _, same⟩
  · rw [same] at clean
    exact absurd clean (List.append_ne_nil_of_right_ne_nil _ (List.cons_ne_nil _ _))
  · rw [same] at clean
    exact ⟨clean, content, tree, status, rendered, written, same⟩
  · rw [same] at clean
    exact absurd clean (List.append_ne_nil_of_right_ne_nil _ (List.cons_ne_nil _ _))

theorem clean_before (kinds : List ArtifactKind) (emission : Emission)
    (clean : (kinds.foldl (add faults config text) emission).errors = []) : emission.errors = [] :=
  List.prefix_nil.mp (clean ▸ (foldl_grows faults config text kinds emission).1)

theorem artifacts_of_clean (kinds : List ArtifactKind) (emission : Emission)
    (clean : (kinds.foldl (add faults config text) emission).errors = []) :
    ((kinds.foldl (add faults config text) emission).artifacts.map fun artifact =>
        (artifact.kind, artifact.path)) =
      (emission.artifacts.map fun artifact => (artifact.kind, artifact.path)) ++
        kinds.map fun kind => (kind, config.outputPath kind) := by
  induction kinds generalizing emission with
  | nil => exact (List.append_nil _).symm
  | cons kind rest ih =>
    obtain ⟨_, _, _, _, _, _, same⟩ :=
      written_of_clean faults config text emission kind (clean_before faults config text rest _ clean)
    rw [List.foldl_cons, ih _ clean, same, List.map_append, List.append_assoc]
    rfl

/-- Artifacts that were written without an error have changed no files but those that their paths
lead to. -/
theorem tree_of_clean (kinds : List ArtifactKind) (emission final : Emission)
    (ended : kinds.foldl (add faults config text) emission = final) (clean : final.errors = []) :
    emission.tree.Grows final.tree ∧
      ∀ other, (∀ kind ∈ kinds, final.tree.locate (config.outputPath kind) ≠ .ok other) →
        final.tree.content? other = emission.tree.content? other := by
  induction kinds generalizing emission with
  | nil => exact ended ▸ ⟨FileTree.Grows.refl _, fun _ _ => rfl⟩
  | cons kind rest ih =>
    rw [List.foldl_cons] at ended
    obtain ⟨_, content, tree, status, _, written, same⟩ := written_of_clean faults config text emission kind
      (clean_before faults config text rest _ (ended ▸ clean))
    obtain ⟨grows, location, reached, contents⟩ := FileTree.writeAtomicWith_ok written
    obtain ⟨later, kept⟩ := ih (add faults config text emission kind) ended
    rw [same] at later kept
    refine ⟨grows.trans later, ?_⟩
    intro other apart
    have elsewhere : other ≠ location := by
      intro here
      exact apart kind List.mem_cons_self (here ▸ later.locate _ _ reached)
    rw [kept other fun next member => apart next (List.mem_cons_of_mem _ member), contents,
      if_neg elsewhere]

/-- Artifacts that are different files hold their texts at the end. -/
theorem held_of_clean (kinds : List ArtifactKind) (emission final : Emission)
    (ended : kinds.foldl (add faults config text) emission = final) (clean : final.errors = [])
    (apart : (kinds.map fun kind => final.tree.locate (config.outputPath kind)).Nodup) :
    ∀ kind ∈ kinds, ∃ content, text kind = .ok content ∧
      final.tree.read (config.outputPath kind) = .ok content.toUTF8 := by
  induction kinds generalizing emission with
  | nil => exact fun _ member => absurd member List.not_mem_nil
  | cons kind rest ih =>
    rw [List.foldl_cons] at ended
    obtain ⟨_, content, tree, status, rendered, written, same⟩ :=
      written_of_clean faults config text emission kind
        (clean_before faults config text rest _ (ended ▸ clean))
    obtain ⟨_, location, reached, contents⟩ := FileTree.writeAtomicWith_ok written
    obtain ⟨later, kept⟩ := tree_of_clean faults config text rest _ final ended clean
    rw [same] at later kept
    have there : final.tree.locate (config.outputPath kind) = .ok location :=
      later.locate _ _ reached
    obtain ⟨fresh, others⟩ := List.nodup_cons.mp apart
    intro next member
    rcases List.mem_cons.mp member with first | after
    · have alone : ∀ other ∈ rest, final.tree.locate (config.outputPath other) ≠ .ok location := by
        intro other inside taken
        exact fresh (List.mem_map.mpr ⟨other, inside, taken.trans there.symm⟩)
      rw [first]
      refine ⟨content, rendered, (FileTree.read_ok_iff _ _ _).mpr ⟨location, there, ?_⟩⟩
      rw [kept location alone, contents, if_pos rfl]
    · exact ih (add faults config text emission kind) ended others next after

/-- Artifacts that are held already are listed as unchanged, as long as they can be read. -/
theorem unchanged_of_held (readable : ∀ kind, faults kind .read = none) (tree : FileTree)
    (kinds : List ArtifactKind) (listed : List EmittedArtifact) (errors : List BuildError)
    (held : ∀ kind ∈ kinds, ∃ content, text kind = .ok content ∧
      tree.read (config.outputPath kind) = .ok content.toUTF8) :
    kinds.foldl (add faults config text) ⟨tree, listed, errors⟩ =
      ⟨tree, listed ++ kinds.map fun kind => ⟨kind, config.outputPath kind, .unchanged⟩, errors⟩ := by
  induction kinds generalizing listed with
  | nil => rw [List.map_nil, List.append_nil]; rfl
  | cons kind rest ih =>
    obtain ⟨content, rendered, present⟩ := held kind List.mem_cons_self
    have step : add faults config text ⟨tree, listed, errors⟩ kind =
        ⟨tree, listed ++ [⟨kind, config.outputPath kind, .unchanged⟩], errors⟩ := by
      have read := (FileTree.attempt_spared (readable kind)).trans present
      rw [add, rendered]
      simp only [write, FileTree.writeAtomicWith_held read]
    rw [List.foldl_cons, step, ih _ fun next member => held next (List.mem_cons_of_mem _ member),
      List.append_assoc]
    rfl

/-- Artifacts that are all listed as unchanged were held already. -/
theorem held_of_unchanged (kinds : List ArtifactKind) (emission final : Emission)
    (ended : kinds.foldl (add faults config text) emission = final) (clean : final.errors = [])
    (unchanged : ∀ artifact ∈ final.artifacts, artifact.status = .unchanged) :
    ∀ kind ∈ kinds, ∃ content, text kind = .ok content ∧
      emission.tree.read (config.outputPath kind) = .ok content.toUTF8 := by
  induction kinds generalizing emission with
  | nil => exact fun _ member => absurd member List.not_mem_nil
  | cons kind rest ih =>
    rw [List.foldl_cons] at ended
    obtain ⟨_, content, tree, status, rendered, written, same⟩ :=
      written_of_clean faults config text emission kind
        (clean_before faults config text rest _ (ended ▸ clean))
    have listed : (add faults config text emission kind).artifacts <+: final.artifacts :=
      ended ▸ (foldl_grows faults config text rest _).2
    have status : status = .unchanged := by
      refine unchanged ⟨kind, config.outputPath kind, status⟩ (listed.subset ?_)
      rw [same]
      exact List.mem_append_right _ List.mem_cons_self
    rw [status] at written
    obtain ⟨decided, kept⟩ := FileTree.writeAtomicWith_status written
    have held := (FileTree.attempt_ok (decided.mp rfl)).2
    have stays : tree = emission.tree := kept rfl
    intro next member
    rcases List.mem_cons.mp member with first | after
    · exact first ▸ ⟨content, rendered, held⟩
    · have later := ih (add faults config text emission kind) ended next after
      rw [same, stays] at later
      exact later

end ApiAssembly.Emission
