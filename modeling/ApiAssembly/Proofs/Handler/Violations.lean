import ApiAssembly.Handler
import ApiAssembly.Proofs.FileTree.AtomicWrite
import ApiAssembly.Proofs.Merge.FiledOperations
/-! Which handlers are missing, said without the search for them. A handler is reported when its file
is not there and, under strict rules, when the file is no text or nowhere holds the name of the
function. The report has one line for each such operation, and the rows of their keys are the stubs. -/
namespace ApiAssembly

namespace Text

theorem occursIn_iff (needle text : List Char) : occursIn needle text = true ↔ needle <:+: text := by
  induction text with
  | nil =>
    rw [occursIn, List.isEmpty_iff, List.infix_nil]
  | cons c rest ih =>
    rw [occursIn, Bool.or_eq_true, List.isPrefixOf_iff_prefix, ih, List.infix_cons_iff]

theorem mentions_iff (text needle : String) :
    mentions text needle = true ↔ ∃ before after, text = before ++ needle ++ after := by
  rw [mentions, occursIn_iff]
  constructor
  · rintro ⟨before, after, whole⟩
    refine ⟨String.ofList before, String.ofList after, String.toList_injective ?_⟩
    simp only [String.toList_append, String.toList_ofList]
    exact whole.symm
  · rintro ⟨before, after, rfl⟩
    refine ⟨before.toList, after.toList, ?_⟩
    simp only [String.toList_append]

end Text

namespace FileTree

/-- The bytes are a text that holds the name somewhere. -/
def Mentions (content : ByteArray) (function : String) : Prop :=
  ∃ text before after, String.fromUTF8? content = some text ∧ text = before ++ function ++ after

theorem fileMentions_iff {tree : FileTree} {path : FilePath} {content : ByteArray}
    (present : tree.read path = .ok content) (function : String) :
    tree.fileMentions path function = true ↔ Mentions content function := by
  unfold fileMentions readText Mentions
  rw [present]
  simp only [bind, Except.bind]
  cases decoded : String.fromUTF8? content with
  | none => simp
  | some text => simp [Text.mentions_iff]

end FileTree

namespace MissingHandler
variable (rules : HandlerRules) (tree : FileTree)

/-- What the rules find fault with in an operation, and what they say about it. -/
inductive Reports (operation : Operation) : MissingHandler → Prop
  | absent (binding : HandlerBinding) (bound : operation.handler = some binding)
      (absent : ¬ ∃ content, tree.read (rules.root.join binding.file) = .ok content) :
      Reports operation ⟨operation.method, operation.path, operation.id, binding.file, none⟩
  | unmentioned (binding : HandlerBinding) (bound : operation.handler = some binding)
      (strict : rules.strict = true) (content : ByteArray)
      (present : tree.read (rules.root.join binding.file) = .ok content)
      (unmentioned : ¬ FileTree.Mentions content binding.function) :
      Reports operation
        ⟨operation.method, operation.path, operation.id, binding.file, some binding.function⟩

def Violates (operation : Operation) : Prop := ∃ missing, Reports rules tree operation missing

variable {rules tree}

theorem key_of_reports {operation : Operation} {missing : MissingHandler}
    (reported : Reports rules tree operation missing) : missing.key = operation.key := by
  cases reported <;> rfl

theorem not_violates_of_unbound {operation : Operation} (unbound : operation.handler = none) :
    ¬ Violates rules tree operation := by
  rintro ⟨missing, reported⟩
  cases reported with
  | absent binding bound => rw [unbound] at bound; cases bound
  | unmentioned binding bound => rw [unbound] at bound; cases bound

/-- An operation has one binding, so a report tells what became of that one. -/
theorem reports_iff_of_bound {operation : Operation} {binding : HandlerBinding}
    {missing : MissingHandler} (bound : operation.handler = some binding) :
    Reports rules tree operation missing ↔
      (¬ ∃ content, tree.read (rules.root.join binding.file) = .ok content) ∧
        missing = ⟨operation.method, operation.path, operation.id, binding.file, none⟩ ∨
      rules.strict = true ∧ (∃ content, tree.read (rules.root.join binding.file) = .ok content ∧
          ¬ FileTree.Mentions content binding.function) ∧
        missing = ⟨operation.method, operation.path, operation.id, binding.file,
          some binding.function⟩ := by
  constructor
  · intro reported
    cases reported with
    | absent other same absent =>
      cases bound.symm.trans same
      exact Or.inl ⟨absent, rfl⟩
    | unmentioned other same strict content present unmentioned =>
      cases bound.symm.trans same
      exact Or.inr ⟨strict, ⟨content, present, unmentioned⟩, rfl⟩
  · rintro (⟨absent, rfl⟩ | ⟨strict, ⟨content, present, unmentioned⟩, rfl⟩)
    · exact .absent binding bound absent
    · exact .unmentioned binding bound strict content present unmentioned

theorem ofOperation?_eq_some_iff {operation : Operation} {missing : MissingHandler} :
    ofOperation? rules tree operation = some missing ↔ Reports rules tree operation missing := by
  unfold ofOperation?
  cases bound : operation.handler with
  | none =>
    constructor
    · rintro ⟨⟩
    · intro reported
      exact absurd ⟨missing, reported⟩ (not_violates_of_unbound bound)
  | some binding =>
    rw [reports_iff_of_bound bound]
    by_cases there : tree.isFile (rules.root.join binding.file) = true
    · obtain ⟨content, present⟩ := (tree.isFile_iff _).mp there
      have mentions := FileTree.fileMentions_iff present binding.function
      have exists_iff : (∃ other, tree.read (rules.root.join binding.file) = .ok other ∧
          ¬ FileTree.Mentions other binding.function) ↔
            ¬ FileTree.Mentions content binding.function := by
        simp [present]
      rw [exists_iff, ← mentions]
      simp only [there, present, Bool.not_true, Bool.false_eq_true, if_false]
      cases rules.strict with
      | false => simp
      | true =>
        cases tree.fileMentions (rules.root.join binding.file) binding.function with
        | false => simp [eq_comm]
        | true => simp
    · have absent := mt (tree.isFile_iff _).mpr there
      have nothing : ¬ ∃ content, tree.read (rules.root.join binding.file) = .ok content ∧
          ¬ FileTree.Mentions content binding.function := by
        rintro ⟨content, present, _⟩
        exact absent ⟨content, present⟩
      simp only [there, absent, nothing, Bool.not_false, if_true, not_false_eq_true, true_and,
        false_and, and_false, or_false, Option.some.injEq]
      exact eq_comm

instance (operation : Operation) : Decidable (Violates rules tree operation) :=
  decidable_of_iff ((ofOperation? rules tree operation).isSome = true) (by
    rw [Option.isSome_iff_exists]
    exact exists_congr fun _ => ofOperation?_eq_some_iff)

theorem all_reports (operations : List Operation) :
    List.Forall₂ (Reports rules tree) (operations.filter fun operation => Violates rules tree operation)
      (operations.filterMap (ofOperation? rules tree)) := by
  induction operations with
  | nil => exact .nil
  | cons operation rest ih =>
    by_cases faulty : Violates rules tree operation
    · obtain ⟨missing, reported⟩ := faulty
      rw [List.filter_cons_of_pos (by simpa using ⟨missing, reported⟩),
        List.filterMap_cons_some (ofOperation?_eq_some_iff.mpr reported)]
      exact .cons reported ih
    · have silent : ofOperation? rules tree operation = none := by
        rw [Option.eq_none_iff_forall_ne_some]
        intro missing found
        exact faulty ⟨missing, ofOperation?_eq_some_iff.mp found⟩
      rw [List.filter_cons_of_neg (by simpa using faulty), List.filterMap_cons_none silent]
      exact ih

theorem keys_of_reports {operations : List Operation} {missing : List MissingHandler}
    (reported : List.Forall₂ (Reports rules tree) operations missing) :
    missing.map MissingHandler.key = operations.map Operation.key := by
  induction reported with
  | nil => rfl
  | cons first _ ih => rw [List.map_cons, List.map_cons, ih, key_of_reports first]

/-- Some operation of this path and method breaks the rules. -/
def IsBroken (rules : HandlerRules) (tree : FileTree) (spec : Specification) (key : OperationKey) :
    Prop :=
  ∃ operation ∈ spec.operations, operation.key = key ∧ Violates rules tree operation

/-- The rows with the keys of missing handlers are the stubs. -/
theorem stub_iff_isBroken (spec : Specification) (operation : Operation) :
    (Route.ofOperation ((all rules tree spec).map MissingHandler.key) operation).stub = true ↔
      IsBroken rules tree spec operation.key := by
  rw [all, keys_of_reports (all_reports spec.operations), Route.ofOperation, List.contains_iff_mem,
    List.mem_map]
  simp only [List.mem_filter, decide_eq_true_eq, IsBroken]
  constructor
  · rintro ⟨other, ⟨listed, faulty⟩, same⟩
    exact ⟨other, listed, same, faulty⟩
  · rintro ⟨other, listed, same, faulty⟩
    exact ⟨other, ⟨listed, faulty⟩, same⟩

/-- Where keys tell operations apart, an operation answers for its own key. -/
theorem isBroken_iff_violates {spec : Specification}
    (apart : (spec.operations.map Operation.key).Nodup) {operation : Operation}
    (member : operation ∈ spec.operations) :
    IsBroken rules tree spec operation.key ↔ Violates rules tree operation := by
  constructor
  · rintro ⟨other, listed, same, faulty⟩
    exact List.inj_on_of_nodup_map apart listed member same ▸ faulty
  · intro faulty
    exact ⟨operation, member, rfl, faulty⟩

/-- Missing handlers fail a build under either rule, if there are any. -/
def Fails (rules : HandlerRules) (missing : List MissingHandler) : Prop :=
  (rules.strict = true ∨ rules.failOnMissing = true) ∧ missing ≠ []

instance (missing : List MissingHandler) : Decidable (Fails rules missing) :=
  inferInstanceAs (Decidable (_ ∧ _))

theorem check_eq (spec : Specification) :
    check rules tree spec =
      if Fails rules (all rules tree spec) then .error (.missingHandlers (all rules tree spec))
      else .ok (all rules tree spec) := by
  rw [check]
  apply if_congr _ rfl rfl
  rw [HandlerRules.areFatal, Bool.and_eq_true, Bool.or_eq_true, Bool.not_eq_true',
    List.isEmpty_eq_false_iff, Fails]

theorem check_error_iff (spec : Specification) (error : BuildError) :
    check rules tree spec = .error error ↔
      Fails rules (all rules tree spec) ∧ error = .missingHandlers (all rules tree spec) := by
  rw [check_eq]
  by_cases fails : Fails rules (all rules tree spec)
  · simp only [fails, if_true, true_and, Except.error.injEq]
    exact eq_comm
  · simp [fails]

theorem check_ok_iff (spec : Specification) (found : List MissingHandler) :
    check rules tree spec = .ok found ↔
      ¬ Fails rules (all rules tree spec) ∧ found = all rules tree spec := by
  rw [check_eq]
  by_cases fails : Fails rules (all rules tree spec)
  · simp [fails]
  · simp only [fails, if_false, not_false_eq_true, true_and, Except.ok.injEq]
    exact eq_comm

/-- The handlers that are found missing are those that break the rules, one line for each in the order
of the routes. All of them together fail the build, or the rows of their keys become stubs and no
others. Where keys tell operations apart a row is a stub for the sake of its own operation, so none
is without a handler to look for. In every merge they do. -/
theorem missing_handlers_exact (rules : HandlerRules) (tree : FileTree) (spec : Specification) :
    let missing := all rules tree spec
    List.Forall₂ (Reports rules tree)
      (spec.operations.filter fun operation => Violates rules tree operation) missing ∧
    (∀ error, check rules tree spec = .error error ↔
      Fails rules missing ∧ error = .missingHandlers missing) ∧
    (∀ found, check rules tree spec = .ok found ↔ ¬ Fails rules missing ∧ found = missing) ∧
    (∀ found, check rules tree spec = .ok found →
      List.Forall₂ (fun row operation =>
          row.stub = true ↔ IsBroken rules tree spec operation.key)
        (Route.table spec (found.map MissingHandler.key)) spec.operations) ∧
    ((spec.operations.map Operation.key).Nodup → (missing.map MissingHandler.key).Nodup ∧
      ∀ found, check rules tree spec = .ok found →
        List.Forall₂ (fun row operation => (row.stub = true ↔ Violates rules tree operation) ∧
            (operation.handler = none → row.stub = false))
          (Route.table spec (found.map MissingHandler.key)) spec.operations) ∧
    ∀ policy fragments, spec = (Merge.ofFragments policy fragments).specification →
      (spec.operations.map Operation.key).Nodup := by
  intro missing
  have reports : List.Forall₂ (Reports rules tree)
      (spec.operations.filter fun operation => Violates rules tree operation) missing :=
    all_reports spec.operations
  refine ⟨reports, check_error_iff spec, check_ok_iff spec, ?_, ?_, ?_⟩
  · intro found passed
    obtain ⟨_, rfl⟩ := (check_ok_iff spec found).mp passed
    rw [Route.table, List.forall₂_map_left_iff, List.forall₂_same]
    exact fun operation _ => stub_iff_isBroken spec operation
  · intro apart
    constructor
    · rw [keys_of_reports reports]
      exact apart.sublist (List.filter_sublist.map Operation.key)
    · intro found passed
      obtain ⟨_, rfl⟩ := (check_ok_iff spec found).mp passed
      rw [Route.table, List.forall₂_map_left_iff, List.forall₂_same]
      intro operation member
      have marked : (Route.ofOperation (missing.map MissingHandler.key) operation).stub = true ↔
          Violates rules tree operation :=
        (stub_iff_isBroken spec operation).trans (isBroken_iff_violates apart member)
      refine ⟨marked, ?_⟩
      intro unbound
      exact Bool.eq_false_iff.mpr (mt marked.mp (not_violates_of_unbound unbound))
  · rintro policy fragments rfl
    exact Specification.keys_nodup _ (Merge.isFiled_ofFragments policy fragments)

/-- One operation for each thing that can be said of a handler. -/
def handledFragment : Fragment :=
  ⟨"core", ⟨"core.yaml"⟩, .handWritten, .obj [("paths", .obj [
    ("/found", .obj [("get", .obj [("x-handler-file", .str "a.go"), ("x-handler-function", .str "f")])]),
    ("/absent", .obj [("get", .obj [("x-handler-file", .str "b.go")])]),
    ("/silent", .obj [("get", .obj [("x-handler-file", .str "a.go"), ("x-handler-function", .str "g")])]),
    ("/free", .obj [("get", .obj [])])])]⟩

/-- A strict build names both missing handlers, a lenient one makes a stub of the one without a file.
Handlers are looked for in a directory of their own, away from where work is done. -/
theorem missing_handlers_exact_both_rules :
    let spec := (Merge.ofFragments .lastWriterWins [handledFragment]).specification
    let tree := ((FileTree.workingIn ["work"]).set ["code"] .directory).set ["code", "a.go"]
      (.file "func f".toUTF8)
    let absent : MissingHandler := ⟨.get, "/absent", "get_absent", ⟨"b.go"⟩, none⟩
    let silent : MissingHandler := ⟨.get, "/silent", "get_silent", ⟨"a.go"⟩, some "g"⟩
    check ⟨true, false, ⟨"/code"⟩⟩ tree spec = .error (.missingHandlers [absent, silent]) ∧
    check ⟨false, false, ⟨"/code"⟩⟩ tree spec = .ok [absent] ∧
    (spec.operations.map Operation.key).Nodup ∧
    List.Forall₂ (fun row operation =>
        (row.stub = true ↔ Violates ⟨false, false, ⟨"/code"⟩⟩ tree operation) ∧
          (operation.handler = none → row.stub = false))
      (Route.table spec [⟨"/absent", .get⟩]) spec.operations := by
  intro spec tree absent silent
  have strict : all ⟨true, false, ⟨"/code"⟩⟩ tree spec = [absent, silent] := by decide +kernel
  have lenient : check ⟨false, false, ⟨"/code"⟩⟩ tree spec = .ok [absent] := by decide +kernel
  have apart : (spec.operations.map Operation.key).Nodup :=
    (missing_handlers_exact ⟨false, false, ⟨"/code"⟩⟩ tree spec).2.2.2.2.2 _ _ rfl
  refine ⟨?_, lenient, apart, ?_⟩
  · apply ((missing_handlers_exact _ tree spec).2.1 _).mpr
    rw [strict]
    exact ⟨⟨Or.inl rfl, List.cons_ne_nil _ _⟩, rfl⟩
  · exact ((missing_handlers_exact _ tree spec).2.2.2.2.1 apart).2 [absent] lenient

end MissingHandler
end ApiAssembly
