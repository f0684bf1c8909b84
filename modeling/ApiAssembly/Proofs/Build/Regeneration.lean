import ApiAssembly.Proofs.Artifact.Difference
import ApiAssembly.Proofs.Build.Sources
import ApiAssembly.Proofs.Fragment.Faults
/-! Running a build over what it has left behind. The second run finds every artifact in place, as
long as the artifacts are files of their own that the build does not look into. -/
namespace ApiAssembly.Build

/-- What keeps a run out of the way of the next one. Its artifacts are different files, those that it
has made or changed are no sources of the build, and the same handlers are missing as before. -/
structure Separated (config : Config) (before after : FileTree) : Prop where
  files : (config.enabledArtifacts.map fun kind => after.locate (config.outputPath kind)).Nodup
  sources : ∀ kind ∈ config.enabledArtifacts, ∀ location,
    after.locate (config.outputPath kind) = .ok location → readsAt config before location = true →
      after.content? location = before.content? location
  handlers : config.handlerValidation = true →
    MissingHandler.all config.handlerRules after (specification config before) =
      MissingHandler.all config.handlerRules before (specification config before)

/-- A run that ends well has come through the gate and has written without an error. -/
theorem emission_of_success {render : Renderer} {config : Config} {tree left : FileTree}
    {result : BuildOutcome} (ran : run render config .generate tree = (left, result))
    (success : result.report.exitCode = 0) :
    (outcome config tree).report.errors = [] ∧ (emission render config tree).errors = [] ∧
      left = (emission render config tree).tree ∧
      result.artifacts = (emission render config tree).artifacts := by
  have unblamed := (Report.exitCode_eq_zero_iff _).mp success
  by_cases clean : (outcome config tree).report.errors = []
  · rw [run_passed render config tree clean] at ran
    cases ran
    exact ⟨clean, (List.append_eq_nil_iff.mp unblamed).2, rfl, rfl⟩
  · rw [run_shut render config .generate tree (Or.inr clean)] at ran
    cases ran
    exact absurd unblamed clean

theorem run_of_written {render : Renderer} {config : Config} {tree : FileTree}
    (clean : (outcome config tree).report.errors = [])
    (written : (emission render config tree).errors = []) :
    ∃ first, run render config .generate tree = ((emission render config tree).tree, first) ∧
      first.report.exitCode = 0 ∧ first.artifacts = (emission render config tree).artifacts := by
  refine ⟨_, run_passed render config tree clean, ?_, rfl⟩
  rw [Report.exitCode_eq_zero_iff]
  exact List.append_eq_nil_iff.mpr ⟨clean, written⟩

/-- A tree in which a build has nothing left to do: it goes well, and its texts are all in place. -/
def Settled (render : Renderer) (config : Config) (tree : FileTree) : Prop :=
  (outcome config tree).report.errors = [] ∧
    ∀ kind ∈ config.enabledArtifacts, ∃ content, texts render config tree kind = .ok content ∧
      tree.read (config.outputPath kind) = .ok content.toUTF8

/-- A run finds everything unchanged, and leaves it so, exactly in a tree that is settled. -/
theorem run_unchanged_iff (render : Renderer) (config : Config) (tree : FileTree) :
    (∃ result, run render config .generate tree = (tree, result) ∧ result.report.exitCode = 0 ∧
      result.artifacts = config.enabledArtifacts.map fun kind =>
        ⟨kind, config.outputPath kind, .unchanged⟩) ↔ Settled render config tree := by
  constructor
  · rintro ⟨result, ran, success, unchanged⟩
    obtain ⟨clean, written, _, listed⟩ := emission_of_success ran success
    refine ⟨clean, Emission.held_of_unchanged _ config (texts render config tree)
      config.enabledArtifacts { tree } _ rfl written ?_⟩
    intro artifact member
    change artifact ∈ (emission render config tree).artifacts at member
    rw [← listed, unchanged] at member
    obtain ⟨kind, _, rfl⟩ := List.mem_map.mp member
    rfl
  · rintro ⟨clean, held⟩
    have listed : emission render config tree = ⟨tree, config.enabledArtifacts.map fun kind =>
        ⟨kind, config.outputPath kind, .unchanged⟩, []⟩ :=
      Emission.unchanged_of_held _ config (texts render config tree) (fun _ => rfl) tree
        config.enabledArtifacts [] [] held
    have ran := run_of_written clean (congrArg Emission.errors listed)
    rwa [listed] at ran

/-- Whether a run over what a run without errors has left ends without errors as well, finds all
artifacts unchanged and leaves every file as it was. -/
def IsIdempotent (render : Renderer) (config : Config) (tree : FileTree) : Prop :=
  ∀ left first, run render config .generate tree = (left, first) → first.report.exitCode = 0 →
    ∃ second, run render config .generate left = (left, second) ∧ second.report.exitCode = 0 ∧
      second.artifacts = config.enabledArtifacts.map fun kind =>
        ⟨kind, config.outputPath kind, .unchanged⟩

/-- A run that has kept to files that the build does not look into changes no source of it. -/
theorem sources_kept {render : Renderer} {config : Config} {tree : FileTree}
    (written : (emission render config tree).errors = [])
    (separated : Separated config tree (emission render config tree).tree) (location : Location)
    (read : readsAt config tree location = true) :
    (emission render config tree).tree.content? location = tree.content? location := by
  by_cases emitted : ∃ kind ∈ config.enabledArtifacts,
      (emission render config tree).tree.locate (config.outputPath kind) = .ok location
  · obtain ⟨kind, enabled, reached⟩ := emitted
    exact separated.sources kind enabled location reached read
  · apply (Emission.tree_of_clean _ config (texts render config tree) config.enabledArtifacts
      { tree } _ rfl written).2 location
    intro kind enabled reached
    exact emitted ⟨kind, enabled, reached⟩

/-- A run is not undone by the next one unless artifacts are the same file or are
looked into by the build itself. -/
theorem idempotent_of_separated (render : Renderer) (config : Config) (tree : FileTree)
    (separated : Separated config tree (run render config .generate tree).1) :
    IsIdempotent render config tree := by
  intro left first ran success
  obtain ⟨clean, written, same, _⟩ := emission_of_success ran success
  rw [ran, same] at separated
  rw [same]
  have grows : tree.Grows (emission render config tree).tree :=
    (Emission.tree_of_clean _ config (texts render config tree) config.enabledArtifacts
      { tree } _ rfl written).1
  obtain ⟨cleanAgain, specAgain, routesAgain⟩ :=
    build_congr grows (sources_kept written separated) clean separated.handlers
  have textsAgain : texts render config (emission render config tree).tree =
      texts render config tree := by
    funext kind
    rw [texts, specAgain, routesAgain, texts]
  refine (run_unchanged_iff render config _).mpr ⟨cleanAgain, ?_⟩
  rw [textsAgain]
  exact Emission.held_of_clean _ config (texts render config tree) config.enabledArtifacts
    { tree } _ rfl written separated.files

/-! Runs of the standard renderer. Whether its texts can be written does not depend on them, so they are
not looked into. -/

/-- A run that is let through and has room for its artifacts ends well. -/
theorem run_of_fits {render : Renderer} {config : Config} {tree left : FileTree}
    (clean : (outcome config tree).report.errors = [])
    (fits : Emission.Fits config (texts render config tree) tree config.enabledArtifacts left) :
    ∃ first, run render config .generate tree = (left, first) ∧ first.report.exitCode = 0 := by
  obtain ⟨artifacts, emitted⟩ := Emission.foldl_of_fits config _ fits [] []
  obtain ⟨first, ran, success, _⟩ := run_of_written clean (congrArg Emission.errors emitted)
  have same : (emission render config tree).tree = left := congrArg Emission.tree emitted
  exact ⟨first, same ▸ ran, success⟩

/-- What the standard renderer makes of an artifact. -/
def rendered (config : Config) (tree : FileTree) (kind : ArtifactKind) : String :=
  kind.render (specification config tree) (routes config tree)

theorem texts_standard (config : Config) (tree : FileTree) (kind : ArtifactKind) :
    texts .standard config tree kind = .ok (rendered config tree kind) := rfl

/-- A project with a directory of fragments that holds a single one. -/
def soleFragment (text : String) : FileTree where
  entries := Dict.ofList [(["project"], .directory), (["project", "schemas"], .directory),
    (["project", "schemas", "core.json"], .file text.toUTF8)]
  workingDirectory := ["project"]

/-- A directory of fragments without any operation. -/
def bare : FileTree := soleFragment "\x7b\x7d"

/-- Every setting but the output directory at its default. -/
def plainInto (output : FilePath) : Config where
  paths := { fragments := some ⟨"schemas"⟩, output }

def plain : Config := plainInto ⟨"generated"⟩

/-- What a run leaves behind next to the fragments. -/
def generated (text : String) (router commandLine client : ByteArray) : FileTree :=
  ((((soleFragment text).set ["project", "generated"] .directory).set
    ["project", "generated", "router.rs"] (.file router)).set
      ["project", "generated", "cli.rs"] (.file commandLine)).set
        ["project", "generated", "client.py"] (.file client)

/-- The output directory by the path that leads to it from the project, or from the root. -/
def LeadsToGenerated (output : FilePath) : Prop :=
  output = ⟨"generated"⟩ ∨ output = ⟨"/project/generated"⟩

theorem plain_fits (output : FilePath) (leads : LeadsToGenerated output) (text : String) :
    Emission.Fits (plainInto output) (texts .standard (plainInto output) (soleFragment text))
      (soleFragment text) (plainInto output).enabledArtifacts
      (generated text (rendered (plainInto output) (soleFragment text) .router).toUTF8
        (rendered (plainInto output) (soleFragment text) .commandLine).toUTF8
        (rendered (plainInto output) (soleFragment text) .scriptingClient).toUTF8) := by
  let made := (soleFragment text).set ["project", "generated"] .directory
  let routed router := made.set ["project", "generated", "router.rs"] (.file router)
  let commanded router commandLine :=
    (routed router).set ["project", "generated", "cli.rs"] (.file commandLine)
  have first : (soleFragment text).Room ((plainInto output).outputPath .router) made
        ["project", "generated", "router.rs"] ∧
      (soleFragment text).read ((plainInto output).outputPath .router) = .error .notFound := by
    rcases leads with rfl | rfl
    · exact ⟨⟨rfl, ⟨_, rfl⟩, fun _ => rfl⟩, rfl⟩
    · exact ⟨⟨rfl, ⟨_, rfl⟩, fun _ => rfl⟩, rfl⟩
  have second : ∀ router, (routed router).Room ((plainInto output).outputPath .commandLine)
        (routed router) ["project", "generated", "cli.rs"] ∧
      (routed router).read ((plainInto output).outputPath .commandLine) = .error .notFound := by
    intro router
    rcases leads with rfl | rfl
    · exact ⟨⟨rfl, ⟨_, rfl⟩, fun _ => rfl⟩, rfl⟩
    · exact ⟨⟨rfl, ⟨_, rfl⟩, fun _ => rfl⟩, rfl⟩
  have third : ∀ router commandLine,
      (commanded router commandLine).Room ((plainInto output).outputPath .scriptingClient)
        (commanded router commandLine) ["project", "generated", "client.py"] ∧
      (commanded router commandLine).read ((plainInto output).outputPath .scriptingClient) =
        .error .notFound := by
    intro router commandLine
    rcases leads with rfl | rfl
    · exact ⟨⟨rfl, ⟨_, rfl⟩, fun _ => rfl⟩, rfl⟩
    · exact ⟨⟨rfl, ⟨_, rfl⟩, fun _ => rfl⟩, rfl⟩
  have enabled : (plainInto output).enabledArtifacts = ArtifactKind.all := rfl
  rw [enabled]
  exact .cons (texts_standard _ _ _) first.1 (by rw [first.2]; nofun)
    (.cons (texts_standard _ _ _) (second _).1 (by rw [(second _).2]; nofun)
      (.cons (texts_standard _ _ _) (third _ _).1 (by rw [(third _ _).2]; nofun) (.nil _)))

def generatedAt : ArtifactKind → Location
  | .router => ["project", "generated", "router.rs"]
  | .commandLine => ["project", "generated", "cli.rs"]
  | .scriptingClient => ["project", "generated", "client.py"]

theorem locate_generated (output : FilePath) (leads : LeadsToGenerated output) (text : String)
    (router commandLine client : ByteArray) (kind : ArtifactKind) :
    (generated text router commandLine client).locate ((plainInto output).outputPath kind) =
      .ok (generatedAt kind) := by
  rcases leads with rfl | rfl
  · cases kind <;> rfl
  · cases kind <;> rfl

/-- The output directory is an absolute path. -/
def absolute : Config := plainInto ⟨"/project/generated"⟩

theorem absolute_leads : LeadsToGenerated ⟨"/project/generated"⟩ := Or.inr rfl

theorem readsAt_generated (kind : ArtifactKind) :
    readsAt absolute bare (generatedAt kind) = false := by
  cases kind <;> decide +kernel

theorem absolute_separated (router commandLine client : ByteArray) :
    Separated absolute bare (generated "\x7b\x7d" router commandLine client) where
  files := by
    simp only [absolute, locate_generated _ absolute_leads]
    decide
  sources := by
    intro kind _ location reached read
    rw [absolute, locate_generated _ absolute_leads] at reached
    rw [← Except.ok.inj reached, readsAt_generated] at read
    cases read
  handlers := by
    intro _
    have none : (specification absolute bare).operations = [] := by
      decide +kernel
    simp only [MissingHandler.all, none, List.filterMap_nil]

theorem idempotent_of_separated_absolute :
    (run .standard absolute .generate bare).2.report.exitCode = 0 ∧
      Separated absolute bare (run .standard absolute .generate bare).1 ∧
      IsIdempotent .standard absolute bare := by
  have clean : (outcome absolute bare).report.errors = [] := by decide +kernel
  obtain ⟨first, ran, success⟩ := run_of_fits clean (plain_fits _ absolute_leads "\x7b\x7d")
  have separated : Separated absolute bare (run .standard absolute .generate bare).1 := by
    rw [ran]
    apply absolute_separated
  have idempotent := idempotent_of_separated .standard absolute bare separated
  have exit : (run .standard absolute .generate bare).2.report.exitCode = 0 := by
    rw [ran]
    exact success
  exact And.intro exit (And.intro separated idempotent)

/-! Runs that the next one does not leave alone, one for each of the conditions. -/

theorem settled_of_idempotent {render : Renderer} {config : Config} {tree left : FileTree}
    (idempotent : IsIdempotent render config tree)
    (clean : (outcome config tree).report.errors = [])
    (fits : Emission.Fits config (texts render config tree) tree config.enabledArtifacts left) :
    Settled render config left := by
  obtain ⟨first, ran, success⟩ := run_of_fits clean fits
  exact (run_unchanged_iff render config left).mp (idempotent left first ran success)

theorem commandLine_ne_client (config : Config) (tree : FileTree) :
    (rendered config tree .commandLine).toUTF8 ≠ (rendered config tree .scriptingClient).toUTF8 := by
  intro same
  exact CommandLine.render_ne_client (specification config tree) (routes config tree)
    (String.toByteArray_inj.mp same)

/-- The command line and the scripting client go to one file. -/
def sharedFile : Config where
  autoRouting := false
  paths := { fragments := some ⟨"schemas"⟩ }
  outputs := { commandLine := ⟨"all"⟩, scriptingClient := ⟨"all"⟩ }

theorem sharedFile_fits : ∃ left, Emission.Fits sharedFile (texts .standard sharedFile bare) bare
    sharedFile.enabledArtifacts left := by
  let made := bare.set ["project", "generated"] .directory
  have room : bare.Room (sharedFile.outputPath .commandLine) made ["project", "generated", "all"] :=
    ⟨rfl, ⟨_, rfl⟩, fun _ => rfl⟩
  have again : ∀ content, (made.set ["project", "generated", "all"] (.file content)).Room
      (sharedFile.outputPath .scriptingClient) (made.set ["project", "generated", "all"] (.file content))
      ["project", "generated", "all"] := fun _ => ⟨rfl, ⟨_, rfl⟩, fun _ => rfl⟩
  have held : ∀ content, (made.set ["project", "generated", "all"] (.file content)).read
      (sharedFile.outputPath .scriptingClient) = .ok content := fun _ => rfl
  refine ⟨_, .cons (texts_standard _ _ _) room nofun
    (.cons (texts_standard _ _ _) (again _) ?_ (.nil _))⟩
  intro same
  rw [held] at same
  exact commandLine_ne_client sharedFile bare (Except.ok.inj same)

theorem sharedFile_disturbed : ¬ IsIdempotent .standard sharedFile bare := by
  intro idempotent
  have clean : (outcome sharedFile bare).report.errors = [] := by decide +kernel
  obtain ⟨left, fits⟩ := sharedFile_fits
  obtain ⟨_, held⟩ := settled_of_idempotent idempotent clean fits
  obtain ⟨first, firstText, firstHeld⟩ := held .commandLine (by decide)
  obtain ⟨second, secondText, secondHeld⟩ := held .scriptingClient (by decide)
  -- One path would hold two texts.
  rw [texts_standard] at firstText secondText
  rw [← Except.ok.inj firstText] at firstHeld
  rw [← Except.ok.inj secondText] at secondHeld
  have same : sharedFile.outputPath .commandLine = sharedFile.outputPath .scriptingClient := rfl
  rw [same, secondHeld] at firstHeld
  exact commandLine_ne_client sharedFile left (Except.ok.inj firstHeld).symm

/-- The command line goes to a file that is taken for a fragment. -/
def amongFragments : Config where
  autoRouting := false
  paths := { fragments := some ⟨"schemas"⟩, output := ⟨"schemas"⟩ }
  outputs := { commandLine := ⟨"cli.json"⟩ }

def besideFragment (commandLine client : ByteArray) : FileTree :=
  (bare.set ["project", "schemas", "cli.json"] (.file commandLine)).set
    ["project", "schemas", "client.py"] (.file client)

theorem amongFragments_fits :
    Emission.Fits amongFragments (texts .standard amongFragments bare) bare
      amongFragments.enabledArtifacts
      (besideFragment (rendered amongFragments bare .commandLine).toUTF8
        (rendered amongFragments bare .scriptingClient).toUTF8) := by
  have room : bare.Room (amongFragments.outputPath .commandLine) bare ["project", "schemas", "cli.json"] :=
    ⟨rfl, ⟨_, rfl⟩, fun _ => rfl⟩
  have again : ∀ content, (bare.set ["project", "schemas", "cli.json"] (.file content)).Room
      (amongFragments.outputPath .scriptingClient)
      (bare.set ["project", "schemas", "cli.json"] (.file content)) ["project", "schemas", "client.py"] :=
    fun _ => ⟨rfl, ⟨_, rfl⟩, fun _ => rfl⟩
  exact .cons (texts_standard _ _ _) room nofun
    (.cons (texts_standard _ _ _) (again _) nofun (.nil _))

theorem amongFragments_disturbed : ¬ IsIdempotent .standard amongFragments bare := by
  intro idempotent
  have clean : (outcome amongFragments bare).report.errors = [] := by decide +kernel
  have fits := amongFragments_fits
  obtain ⟨rest, slash⟩ := CommandLine.render_opens (specification amongFragments bare)
    (routes amongFragments bare)
  have failed := Fragment.ofFile_slash ⟨"schemas/cli.json"⟩
    (rendered amongFragments bare .commandLine) rest (by decide +kernel) slash
  -- From here on nothing matters of the texts but that the first one is no JSON.
  generalize (rendered amongFragments bare .commandLine).toUTF8 = commandLine at fits failed
  generalize (rendered amongFragments bare .scriptingClient).toUTF8 = client at fits
  obtain ⟨cleanAgain, _⟩ := settled_of_idempotent idempotent clean fits
  have loading : Stage.loadingErrors amongFragments (besideFragment commandLine client) = [] :=
    (stages_clean_iff amongFragments _).mp cleanAgain .loading
  have blamed := Fragment.mem_loadFiles_errors
    (Fragment.filesIn (besideFragment commandLine client) ⟨"schemas"⟩ ["project", "schemas"])
    _ _ List.mem_cons_self
    (show Fragment.isFragmentPath ⟨"schemas/cli.json"⟩ = true by decide +kernel) failed
  change _ ∈ Stage.loadingErrors amongFragments (besideFragment commandLine client) at blamed
  rw [loading] at blamed
  cases blamed

/-- An operation that names the scripting client as the file of its handler. -/
def selfHandled : String :=
  "\x7b\"paths\":\x7b\"/a\":\x7b\"get\":\x7b\"operationId\":\"a\"," ++
    "\"x-handler-file\":\"generated/client.py\"\x7d\x7d\x7d\x7d"

theorem plain_gathered (text : String) (router commandLine client : ByteArray) :
    gathered plain (generated text router commandLine client) = gathered plain (soleFragment text) := by
  have files : Fragment.filesIn (generated text router commandLine client) ⟨"schemas"⟩ ["project", "schemas"] =
      Fragment.filesIn (soleFragment text) ⟨"schemas"⟩ ["project", "schemas"] := rfl
  have same : loaded plain (generated text router commandLine client) =
      loaded plain (soleFragment text) := by
    change Except.ok (Fragment.loadFiles (Fragment.filesIn (generated text router commandLine client)
      ⟨"schemas"⟩ ["project", "schemas"])) = _
    rw [files]
    rfl
  unfold gathered
  rw [same]
  rfl

/-- The route of the operation in a first run, which finds no handler. -/
def selfHandledRoute : Route :=
  ⟨.get, "/a", "a", none, [], none, some ⟨⟨"generated/client.py"⟩, "a"⟩, true⟩

theorem selfHandled_operations : (specification plain (soleFragment selfHandled)).operations =
    [⟨"a", .get, "/a", none, [], none, [], some ⟨⟨"generated/client.py"⟩, "a"⟩, "core"⟩] := by
  decide +kernel

theorem selfHandled_routes (router commandLine client : ByteArray) :
    routes plain (generated selfHandled router commandLine client) =
      [{ selfHandledRoute with stub := false }] := by
  have found : handlersChecked plain (generated selfHandled router commandLine client) = .ok [] := by
    have none : MissingHandler.all plain.handlerRules
        (generated selfHandled router commandLine client)
        (specification plain (generated selfHandled router commandLine client)) = [] := by
      rw [specification_of_gathered (plain_gathered selfHandled router commandLine client),
        MissingHandler.all, selfHandled_operations]
      rfl
    rw [handlersChecked, MissingHandler.check, none]
    rfl
  rw [routes, found, Route.table,
    specification_of_gathered (plain_gathered selfHandled router commandLine client),
    selfHandled_operations]
  rfl

theorem selfHandled_disturbed : ¬ IsIdempotent .standard plain (soleFragment selfHandled) := by
  intro idempotent
  have clean : (outcome plain (soleFragment selfHandled)).report.errors = [] := by decide +kernel
  have first : routes plain (soleFragment selfHandled) = [selfHandledRoute] := by decide +kernel
  have fits := plain_fits _ (Or.inl rfl) selfHandled
  rw [← plain] at fits
  generalize (rendered plain (soleFragment selfHandled) .commandLine).toUTF8 = commandLine at fits
  generalize (rendered plain (soleFragment selfHandled) .scriptingClient).toUTF8 = client at fits
  obtain ⟨_, held⟩ := settled_of_idempotent idempotent clean fits
  obtain ⟨router, text, present⟩ := held .router (by decide)
  have stands : ∀ content, (generated selfHandled content commandLine client).read
      (plain.outputPath .router) = .ok content := fun _ => rfl
  rw [stands] at present
  rw [texts_standard] at text
  have same : rendered plain (soleFragment selfHandled) .router = rendered plain
      (generated selfHandled (rendered plain (soleFragment selfHandled) .router).toUTF8 commandLine
        client) .router :=
    (String.toByteArray_inj.mp (Except.ok.inj present)).trans (Except.ok.inj text).symm
  -- The second router has found the handler for which the first one has a placeholder.
  generalize (rendered plain (soleFragment selfHandled) .router).toUTF8 = content at same
  unfold rendered at same
  rw [first, selfHandled_routes,
    specification_of_gathered (plain_gathered selfHandled content commandLine client)] at same
  exact Router.render_ne_of_stub _ selfHandledRoute [] [] ⟨⟨"generated/client.py"⟩, "a"⟩ rfl same

/-- Runs are not idempotent when two artifacts are one file, when an artifact is taken for a fragment,
and when an artifact is taken for a handler. -/
theorem regeneration_disturbed :
    ¬ IsIdempotent .standard sharedFile bare ∧
      ¬ IsIdempotent .standard amongFragments bare ∧
      ¬ IsIdempotent .standard plain (soleFragment selfHandled) :=
  ⟨sharedFile_disturbed, amongFragments_disturbed, selfHandled_disturbed⟩

end ApiAssembly.Build
