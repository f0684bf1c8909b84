import ApiAssembly.Proofs.Identifier.CapitalizedNames
import ApiAssembly.Proofs.Identifier.Reserved
import ApiAssembly.Proofs.Identifier.SharedGroups
/-! How the names of one operation stand to those of another. Names of separated words tell the words,
and all other names are made of those. Names without separators tell less: where a word starts with a
digit they do not show its start. But the two of them tell the same, since they differ in their first
letter only, and no mark that makes a name usable is lost among the letters of another name. -/
namespace ApiAssembly.Identifier
open Text

theorem filter_unmarked (name : String) (plain : '_' ∉ name.toList) :
    name.toList.filter (fun c => c != '_') = name.toList := by
  rw [List.filter_eq_self]
  intro c member
  simpa using fun same : c = '_' => plain (same ▸ member)

/-- The marks of a usable name are all that it has of underscores. -/
theorem filter_python (name : String) (plain : '_' ∉ name.toList) :
    (python name).toList.filter (fun c => c != '_') = name.toList := by
  have kept := filter_unmarked name plain
  rcases python_cases name with ⟨-, same⟩ | ⟨-, same⟩ | ⟨-, same⟩
  all_goals simp [same, String.toList_append, kept]

theorem filter_rust (name : String) (plain : '_' ∉ name.toList) (free : name ∉ rustKeywords) :
    (rust name).toList.filter (fun c => c != '_') = name.toList := by
  have kept := filter_unmarked name plain
  rcases rust_cases name with ⟨-, same⟩ | ⟨-, same⟩ | ⟨keyword, -⟩ | ⟨-, same⟩
  · simp [same, String.toList_append, kept]
  · simp [same, String.toList_append, kept]
  · exact absurd keyword free
  · simp [same, kept]

theorem clientMethod_eq_iff (first second : String) :
    (Names.ofOperation first).clientMethod = (Names.ofOperation second).clientMethod ↔
      camel first = camel second := by
  constructor
  · intro same
    have met := congrArg (fun name => name.toList.filter fun c => c != '_') same
    simp only [Names.ofOperation, filter_python _ (underscore_not_mem_camel _)] at met
    exact String.toList_inj.mp met
  · intro same
    simp [Names.ofOperation, same]

theorem toList_pascal_eq (text : String) :
    (pascal text).toList = capitalize (camel text).toList := by
  rw [toList_pascal, toList_camel, joinCapitalized_eq _ (wordsOf_ne_nil text.toList)]

def lowerHead : List Char → List Char
  | [] => []
  | c :: rest => c.toLower :: rest

theorem lowerHead_pascal (text : String) (ascii : IsAscii text) :
    lowerHead (pascal text).toList = (camel text).toList := by
  rw [toList_pascal, toList_camel]
  have plain := isAsciiWord_of_mem ascii
  cases found : wordsOf text.toList with
  | nil => rfl
  | cons word rest =>
    have inFront := plain word (found ▸ List.mem_cons_self)
    obtain ⟨c, run, rfl⟩ := List.exists_cons_of_ne_nil inFront.nonempty
    have small := inFront.small c List.mem_cons_self
    simp [joinCapitalized_cons, capitalize, upper_of_small c small, lowerHead, joinCamel,
      toLower_toUpper c small]

/-- A variant starts with a capital or a digit, as no keyword does. So only marks are added to it. -/
theorem filter_variant (text : String) (ascii : IsAscii text) :
    (Names.ofOperation text).variant.toList.filter (fun c => c != '_') = (pascal text).toList := by
  have plain : '_' ∉ (pascal text).toList := fun member =>
    absurd (isAlphanum_pascal ascii '_' member) (by decide)
  have free : pascal text ∉ rustKeywords := pascal_not_mem ascii rustKeywords (by decide)
  simp only [Names.ofOperation, filter_rust _ plain free]

section Ascii
variable {first second : String} (firstAscii : IsAscii first) (secondAscii : IsAscii second)
include firstAscii secondAscii

theorem pascal_eq_iff : pascal first = pascal second ↔ camel first = camel second := by
  constructor
  · intro same
    rw [← String.toList_inj, ← lowerHead_pascal first firstAscii,
      ← lowerHead_pascal second secondAscii, same]
  · intro same
    rw [← String.toList_inj, toList_pascal_eq, toList_pascal_eq, same]

theorem variant_eq_iff :
    (Names.ofOperation first).variant = (Names.ofOperation second).variant ↔
      pascal first = pascal second := by
  constructor
  · intro same
    rw [← String.toList_inj, ← filter_variant first firstAscii, ← filter_variant second secondAscii,
      same]
  · intro same
    simp [Names.ofOperation, same]

end Ascii

theorem subcommand_eq_iff (first second : String) :
    (Names.ofOperation first).subcommand = (Names.ofOperation second).subcommand ↔
      words first = words second := by
  rw [words_eq_iff, Names.ofOperation, Names.ofOperation, kebab_eq_iff]

theorem routerStub_eq_iff (first second : String) :
    (Names.ofOperation first).routerStub = (Names.ofOperation second).routerStub ↔
      words first = words second := by
  rw [words_eq_iff, ← snake_eq_iff, Names.ofOperation, Names.ofOperation, ← String.toList_inj,
    String.toList_append, String.toList_append, List.append_right_inj, String.toList_inj]

theorem joined_eq_of_words (first second : String) (same : words first = words second) :
    (Names.ofOperation first).variant = (Names.ofOperation second).variant ∧
    (Names.ofOperation first).clientMethod = (Names.ofOperation second).clientMethod := by
  have split := (words_eq_iff first second).mp same
  simp [Names.ofOperation, pascal, camel, split]

/-- Subcommands meet exactly where placeholders of the router do, which is where the words do, and then
all other names meet. Among ASCII texts variants meet exactly where methods do. -/
structure NamesMeetAlike (first second : String) : Prop where
  subcommands : (Names.ofOperation first).subcommand = (Names.ofOperation second).subcommand ↔
    words first = words second
  placeholders : (Names.ofOperation first).routerStub = (Names.ofOperation second).routerStub ↔
    words first = words second
  joined : words first = words second →
    (Names.ofOperation first).variant = (Names.ofOperation second).variant ∧
    (Names.ofOperation first).clientMethod = (Names.ofOperation second).clientMethod
  ascii : IsAscii first → IsAscii second →
    ((Names.ofOperation first).variant = (Names.ofOperation second).variant ↔
      (Names.ofOperation first).clientMethod = (Names.ofOperation second).clientMethod)

theorem namesMeetAlike (first second : String) : NamesMeetAlike first second where
  subcommands := subcommand_eq_iff first second
  placeholders := routerStub_eq_iff first second
  joined := joined_eq_of_words first second
  ascii firstAscii secondAscii := by
    rw [variant_eq_iff firstAscii secondAscii, clientMethod_eq_iff,
      pascal_eq_iff firstAscii secondAscii]

/-- Names meet alike for all operations. So the check reports the same groups of operations for
subcommands and for the router, and each of them within a group for variants and one for methods. -/
theorem name_families_collide_together (first second : String) (ids : List String) :
    NamesMeetAlike first second ∧
    (reportedGroups "cli subcommand" (operationCollisions ids)).Perm
      (reportedGroups "router handler" (operationCollisions ids)) ∧
    ∀ group ∈ reportedGroups "cli subcommand" (operationCollisions ids),
      (∃ larger ∈ reportedGroups "cli command variant" (operationCollisions ids),
        group.Sublist larger) ∧
      ∃ larger ∈ reportedGroups "client method" (operationCollisions ids), group.Sublist larger := by
  obtain ⟨subcommands, variants, methods, placeholders⟩ := reportedGroups_operationCollisions ids
  refine ⟨namesMeetAlike first second, ?_, ?_⟩
  · rw [subcommands, placeholders]
    apply sharedGroups_perm
    intro one other
    rw [subcommand_eq_iff, routerStub_eq_iff]
  · rw [subcommands, variants, methods]
    intro group shared
    constructor
    · apply sharedGroups_contained _ _ _ ids group shared
      intro one other same
      exact (joined_eq_of_words one other ((subcommand_eq_iff one other).mp same)).1
    · apply sharedGroups_contained _ _ _ ids group shared
      intro one other same
      exact (joined_eq_of_words one other ((subcommand_eq_iff one other).mp same)).2

/-- A digit in front of a word hides where it starts, but not from a subcommand. -/
theorem name_families_collide_together_digit :
    let errors := operationCollisions ["a1b", "a-1b", "a 1b"]
    IsAscii "a 1b" ∧ IsAscii "a1b" ∧
    (Names.ofOperation "a 1b").subcommand ≠ (Names.ofOperation "a1b").subcommand ∧
    (Names.ofOperation "a 1b").variant = (Names.ofOperation "a1b").variant ∧
    ["a 1b", "a-1b"] ∈ reportedGroups "cli subcommand" errors ∧
    ["a 1b", "a-1b"] ∈ reportedGroups "router handler" errors ∧
    ∃ larger ∈ reportedGroups "client method" errors, ["a 1b", "a-1b"].Sublist larger := by
  intro errors
  have first : IsAscii "a 1b" := by decide
  have second : IsAscii "a1b" := by decide
  have sorted : sortTexts ["a-1b", "a 1b"] = ["a 1b", "a-1b"] := by
    simp [sortTexts, List.mergeSort]
  have member : ["a 1b", "a-1b"] ∈ reportedGroups "cli subcommand" errors := by
    rw [(reportedGroups_operationCollisions _).1, mem_sharedGroups, ← sorted]
    exact ⟨"a 1b", by decide, congrArg sortTexts (by decide), by simp [sortTexts]⟩
  obtain ⟨meet, same, contained⟩ :=
    name_families_collide_together "a 1b" "a1b" ["a1b", "a-1b", "a 1b"]
  refine ⟨first, second, ?_, (meet.ascii first second).mpr (by decide), member, same.mem_iff.mp member,
    (contained _ member).2⟩
  rw [ne_eq, meet.subcommands]
  decide

end ApiAssembly.Identifier
