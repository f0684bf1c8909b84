import ApiAssembly.Proofs.Build.Emission
import ApiAssembly.Proofs.Build.Stages
/-! The gate in front of the artifacts. Only a build that every stage has passed gets through, and
it has a specification then. -/
namespace ApiAssembly

theorem Report.exitCode_eq_zero_iff (report : Report) : report.exitCode = 0 ↔ report.errors = [] := by
  rw [exitCode, hasErrors]
  cases report.errors with
  | nil => simp
  | cons error rest => simp

namespace Build

theorem stages_clean_iff (config : Config) (tree : FileTree) :
    (outcome config tree).report.errors = [] ↔ ∀ stage, Stage.errors config tree stage = [] := by
  rw [outcome_errors, List.flatMap_eq_nil_iff]
  constructor
  · intro clean stage
    exact clean stage (by cases stage <;> decide)
  · intro clean stage _
    exact clean stage

/-- Something is always to blame for a build that is left without a specification. -/
theorem blamed_of_no_specification (config : Config) (tree : FileTree)
    (none : (outcome config tree).specification = none) :
    (outcome config tree).report.errors ≠ [] := by
  intro clean
  have passed := (stages_clean_iff config tree).mp clean
  have loading : Stage.loadingErrors config tree = [] := passed .loading
  have synthesis : Stage.synthesisErrors config tree = [] := passed .synthesis
  have ordering : Stage.orderingErrors config tree = [] := passed .ordering
  have empty : (ordered config tree).fragments.isEmpty = true := by
    rw [outcome_specification] at none
    split at none
    · assumption
    · cases none
  cases configured : config.fragmentDirectory with
  | error fault => simp [Stage.loadingErrors, loaded, configured, errorsOf] at loading
  | ok directory =>
    have named := fragmentDirectory_ok config directory configured
    have rejected : (ordered config tree).errors = [] := (List.append_eq_nil_iff.mp ordering).1
    simp [Stage.orderingErrors, loading, synthesis, rejected, empty, named] at ordering

/-- What the artifacts of a build are rendered to. -/
def texts (render : Renderer) (config : Config) (tree : FileTree) (kind : ArtifactKind) :
    Except String String :=
  render kind (specification config tree) (routes config tree)

def emission (render : Renderer) (config : Config) (tree : FileTree) : Emission :=
  Emission.ofArtifacts (fun _ _ => none) config (texts render config tree) tree

theorem run_shut (render : Renderer) (config : Config) (mode : RunMode) (tree : FileTree)
    (shut : mode = .validate ∨ (outcome config tree).report.errors ≠ []) :
    run render config mode tree = (tree, outcome config tree) := by
  cases mode with
  | validate => rfl
  | generate =>
    rcases shut with validated | errors
    · cases validated
    · have blamed : (outcome config tree).report.hasErrors = true := by
        simpa [Report.hasErrors] using errors
      cases made : (outcome config tree).specification with
      | none => simp only [run, made]
      | some spec => simp only [run, made, blamed, if_true]

theorem run_passed (render : Renderer) (config : Config) (tree : FileTree)
    (clean : (outcome config tree).report.errors = []) :
    run render config .generate tree = ((emission render config tree).tree,
      { outcome config tree with
        report := (outcome config tree).report.addErrors (emission render config tree).errors
        artifacts := (emission render config tree).artifacts }) := by
  have filled : (ordered config tree).fragments.isEmpty = false := by
    cases empty : (ordered config tree).fragments.isEmpty with
    | false => rfl
    | true =>
      have none : (outcome config tree).specification = none := by
        rw [outcome_specification, if_pos empty]
      exact absurd clean (blamed_of_no_specification config tree none)
  have made : (outcome config tree).specification = some (specification config tree) := by
    rw [outcome_specification, filled]
    rfl
  have listed : (outcome config tree).routes = routes config tree := by
    refine (outcome_of_some config tree ?_).2.1
    rw [(collect_eq config tree).2, filled]
    rfl
  have unblamed : (outcome config tree).report.hasErrors = false := by
    rw [Report.hasErrors, clean]
    rfl
  simp only [run, made, unblamed, listed]
  rfl

theorem outcome_artifacts (config : Config) (tree : FileTree) :
    (outcome config tree).artifacts = [] := by
  unfold outcome
  split <;> rfl

/-- Nothing is written and nothing is listed in a build that is only validated or that has gone wrong in
any stage. A build is a success when it reports no error. Without a specification it is none,
and when it generates and is one, it has written all its artifacts in their order. -/
theorem nothing_written_after_error (render : Renderer) (config : Config) (mode : RunMode)
    (tree : FileTree) :
    let (left, result) := run render config mode tree
    ((mode = .validate ∨ ∃ stage, Stage.errors config tree stage ≠ []) →
        left = tree ∧ result.artifacts = []) ∧
      Stage.all.flatMap (Stage.errors config tree) <+: result.report.errors ∧
      (result.report.exitCode = 0 ↔ result.report.errors = []) ∧
      (result.specification = none → result.report.exitCode ≠ 0) ∧
      (mode = .generate → result.report.exitCode = 0 →
        (result.artifacts.map fun artifact => (artifact.kind, artifact.path)) =
          config.enabledArtifacts.map fun kind => (kind, config.outputPath kind)) := by
  have stages := outcome_errors config tree
  by_cases shut : mode = .validate ∨ (outcome config tree).report.errors ≠ []
  · rw [run_shut render config mode tree shut]
    refine ⟨fun _ => ⟨rfl, outcome_artifacts config tree⟩, stages ▸ List.prefix_rfl,
      Report.exitCode_eq_zero_iff _, ?_, ?_⟩
    · intro none success
      exact blamed_of_no_specification config tree none ((Report.exitCode_eq_zero_iff _).mp success)
    · intro generated success
      rcases shut with validated | blamed
      · rw [generated] at validated
        cases validated
      · exact absurd ((Report.exitCode_eq_zero_iff _).mp success) blamed
  · obtain ⟨generated, unblamed⟩ := not_or.mp shut
    have clean : (outcome config tree).report.errors = [] := by simpa using unblamed
    have generates : mode = .generate := by
      cases mode with
      | generate => rfl
      | validate => exact absurd rfl generated
    have passed := (stages_clean_iff config tree).mp clean
    rw [generates, run_passed render config tree clean]
    refine ⟨?_, ?_, Report.exitCode_eq_zero_iff _, ?_, ?_⟩
    · rintro (validated | ⟨stage, blamed⟩)
      · cases validated
      · exact absurd (passed stage) blamed
    · rw [← stages]
      exact List.prefix_append _ _
    · intro none
      exact absurd clean (blamed_of_no_specification config tree none)
    · intro _ success
      have written := (List.append_eq_nil_iff.mp ((Report.exitCode_eq_zero_iff _).mp success)).2
      exact Emission.artifacts_of_clean _ config (texts render config tree) config.enabledArtifacts
        { tree } written

end Build
end ApiAssembly
