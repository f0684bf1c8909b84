import ApiAssembly.Proofs.Build.Emission
/-! What a failing artifact does to the others: nothing. The tree is the one that comes of writing the
artifacts that could be rendered, one after the other, as if no other had been asked for. Each
artifact is either listed or has one error, and which of the two is settled by its own write. -/
namespace ApiAssembly

/-- A text on its way to a file, with the faults that its calls meet from outside. -/
structure PendingFile where
  path : FilePath
  text : String
  faults : WriteFaults

/-- Texts written in a row, and what came of each. A write that fails does not stop the rest. -/
def FileTree.writeAll (tree : FileTree) :
    List PendingFile → FileTree × List (Except BuildError WriteStatus)
  | [] => (tree, [])
  | file :: rest =>
    let written := tree.writeAtomicWith file.faults file.path file.text
    let later := written.1.writeAll rest
    (later.1, written.2 :: later.2)

theorem FileTree.writeAll_append (tree : FileTree) (first second : List PendingFile) :
    tree.writeAll (first ++ second) =
      (((tree.writeAll first).1.writeAll second).1,
        (tree.writeAll first).2 ++ ((tree.writeAll first).1.writeAll second).2) := by
  induction first generalizing tree with
  | nil => rfl
  | cons file rest ih => simp only [List.cons_append, writeAll, ih]

namespace Emission

def failure? : Except BuildError WriteStatus → Option BuildError
  | .error error => some error
  | .ok _ => none

variable (faults : ArtifactKind → WriteFaults) (config : Config)
  (text : ArtifactKind → Except String String)

def isRendered (kind : ArtifactKind) : Bool := (text kind).isOk

/-- The file that an artifact becomes, if it can be rendered. -/
def file? (kind : ArtifactKind) : Option PendingFile :=
  (text kind).toOption.map fun content => ⟨config.outputPath kind, content, faults kind⟩

def listed? (result : ArtifactKind → Except BuildError WriteStatus) (kind : ArtifactKind) :
    Option EmittedArtifact :=
  (result kind).toOption.map fun status => ⟨kind, config.outputPath kind, status⟩

/-- The results of artifacts account for a part of an emission: for what became of the tree, and for
what was added to the list and to the errors. -/
structure Accounts (kinds : List ArtifactKind) (before after : Emission)
    (result : ArtifactKind → Except BuildError WriteStatus) : Prop where
  broken : ∀ kind ∈ kinds, ∀ cause, text kind = .error cause →
    result kind = .error (.rendering kind.name cause)
  written : before.tree.writeAll (kinds.filterMap (file? faults config text)) =
    (after.tree, (kinds.filter (isRendered text)).map result)
  listed : after.artifacts = before.artifacts ++ kinds.filterMap (listed? config result)
  reported : after.errors = before.errors ++ kinds.filterMap fun kind => failure? (result kind)

theorem Accounts.nil (emission : Emission)
    (result : ArtifactKind → Except BuildError WriteStatus) :
    Accounts faults config text [] emission emission result where
  broken _ member := absurd member List.not_mem_nil
  written := rfl
  listed := (List.append_nil _).symm
  reported := (List.append_nil _).symm

/-- A rendered artifact is listed or reported, as its write comes out. -/
theorem add_rendered (emission : Emission) (kind : ArtifactKind) (content : String)
    (rendered : text kind = .ok content) :
    let wrote := emission.tree.writeAtomicWith (faults kind) (config.outputPath kind) content
    add faults config text emission kind =
      { tree := wrote.1
        artifacts := emission.artifacts ++ (listed? config (fun _ => wrote.2) kind).toList
        errors := emission.errors ++ (failure? wrote.2).toList } := by
  intro wrote
  rw [add, rendered]
  simp only [write]
  cases outcome : emission.tree.writeAtomicWith (faults kind) (config.outputPath kind) content with
  | mk tree result =>
    have same : wrote = (tree, result) := outcome
    rw [same]
    cases result with
    | ok status => simp [listed?, failure?, Except.toOption]
    | error error => simp [listed?, failure?, fail, Except.toOption]

theorem filterMap_singleton {α β : Type} (f : α → Option β) (a : α) :
    [a].filterMap f = (f a).toList := by
  cases found : f a with
  | none => exact List.filterMap_cons_none found
  | some b => exact List.filterMap_cons_some found

/-- One step is accounted for by one result. -/
theorem accounts_add (emission : Emission) (kind : ArtifactKind) :
    ∃ result, Accounts faults config text [kind] emission (add faults config text emission kind)
      fun _ => result := by
  cases rendering : text kind with
  | error cause =>
    have step : add faults config text emission kind = emission.fail (.rendering kind.name cause) := by
      rw [add, rendering]
    refine ⟨.error (.rendering kind.name cause), ?_, ?_, ?_, ?_⟩
    · intro other member given found
      rw [List.mem_singleton.mp member] at found ⊢
      cases rendering.symm.trans found
      rfl
    · simp [step, file?, isRendered, rendering, FileTree.writeAll, fail, Except.toOption,
        Except.isOk, Except.toBool]
    · simp [step, fail, listed?, Except.toOption]
    · simp [step, fail, failure?]
  | ok content =>
    have step := add_rendered faults config text emission kind content rendering
    refine ⟨(emission.tree.writeAtomicWith (faults kind) (config.outputPath kind) content).2, ?_, ?_, ?_, ?_⟩
    · intro other member cause found
      rw [List.mem_singleton.mp member, rendering] at found
      cases found
    · simp [step, file?, isRendered, rendering, FileTree.writeAll, Except.toOption, Except.isOk,
        Except.toBool]
    · rw [step, filterMap_singleton]
    · rw [step, filterMap_singleton]

variable {faults config text}

/-- Results matter only where they are asked for. -/
theorem Accounts.congr {kinds : List ArtifactKind} {before after : Emission}
    {result other : ArtifactKind → Except BuildError WriteStatus}
    (accounts : Accounts faults config text kinds before after result)
    (same : ∀ kind ∈ kinds, other kind = result kind) :
    Accounts faults config text kinds before after other where
  broken kind member cause failed := (same kind member).trans (accounts.broken kind member cause failed)
  written := by
    rw [accounts.written]
    congr 1
    apply List.map_congr_left
    intro kind member
    exact (same kind (List.mem_filter.mp member).1).symm
  listed := by
    rw [accounts.listed]
    congr 1
    apply List.filterMap_congr
    intro kind member
    rw [listed?, listed?, same kind member]
  reported := by
    rw [accounts.reported]
    congr 1
    apply List.filterMap_congr
    intro kind member
    rw [same kind member]

theorem Accounts.append {first second : List ArtifactKind} {before middle after : Emission}
    {result : ArtifactKind → Except BuildError WriteStatus}
    (earlier : Accounts faults config text first before middle result)
    (later : Accounts faults config text second middle after result) :
    Accounts faults config text (first ++ second) before after result where
  broken kind member := by
    rcases List.mem_append.mp member with inFirst | inSecond
    · exact earlier.broken kind inFirst
    · exact later.broken kind inSecond
  written := by
    rw [List.filterMap_append, FileTree.writeAll_append, earlier.written, later.written, List.filter_append,
      List.map_append]
  listed := by rw [later.listed, earlier.listed, List.filterMap_append, List.append_assoc]
  reported := by rw [later.reported, earlier.reported, List.filterMap_append, List.append_assoc]

/-- A run over different artifacts is accounted for by one result for each of them. -/
theorem accounts_foldl (kinds : List ArtifactKind) (emission : Emission) (once : kinds.Nodup) :
    ∃ result, Accounts faults config text kinds emission (kinds.foldl (add faults config text) emission)
      result := by
  induction kinds generalizing emission with
  | nil => exact ⟨fun _ => .ok .unchanged, Accounts.nil faults config text emission _⟩
  | cons kind rest ih =>
    obtain ⟨fresh, onceMore⟩ := List.nodup_cons.mp once
    obtain ⟨first, step⟩ := accounts_add faults config text emission kind
    obtain ⟨others, run⟩ := ih (add faults config text emission kind) onceMore
    -- The result of this artifact joins those of the rest, which it is not one of.
    let result asked := if asked = kind then first else others asked
    have here : Accounts faults config text [kind] emission (add faults config text emission kind) result := by
      apply step.congr
      intro asked member
      exact if_pos (List.mem_singleton.mp member)
    have behind : Accounts faults config text rest (add faults config text emission kind)
        (rest.foldl (add faults config text) (add faults config text emission kind)) result := by
      apply run.congr
      intro asked member
      have other : asked ≠ kind := fun same => fresh (same ▸ member)
      exact if_neg other
    exact ⟨result, here.append behind⟩

theorem enabledArtifacts_nodup (config : Config) : config.enabledArtifacts.Nodup :=
  List.Nodup.filter _ (by decide)

/-- Artifacts that cannot be rendered are reported and leave no other trace. The others are written in
the order of emission, each where the one before has left the tree and with whatever faults its
calls meet; those that were written are listed, and for each of the rest there is one error. -/
theorem failures_isolated (faults : ArtifactKind → WriteFaults) (render : Renderer)
    (spec : Specification) (routes : List Route) (config : Config) (tree : FileTree) :
    let text := fun kind => render kind spec routes
    let emission := ofArtifacts faults config text tree
    ∃ result : ArtifactKind → Except BuildError WriteStatus,
      (∀ kind ∈ config.enabledArtifacts, ∀ cause, text kind = .error cause →
        result kind = .error (.rendering kind.name cause)) ∧
      tree.writeAll (config.enabledArtifacts.filterMap (file? faults config text)) =
        (emission.tree, (config.enabledArtifacts.filter (isRendered text)).map result) ∧
      emission.artifacts = config.enabledArtifacts.filterMap (listed? config result) ∧
      emission.errors = config.enabledArtifacts.filterMap fun kind => failure? (result kind) := by
  intro text emission
  have run : ∃ result, Accounts faults config text config.enabledArtifacts { tree } emission result :=
    accounts_foldl config.enabledArtifacts { tree } (enabledArtifacts_nodup config)
  obtain ⟨result, accounts⟩ := run
  exact ⟨result, accounts.broken, accounts.written, accounts.listed, accounts.reported⟩

end Emission
end ApiAssembly
