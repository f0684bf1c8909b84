import ApiAssembly.Proofs.Merge.Parts
import ApiAssembly.Proofs.Reference.Fields
import ApiAssembly.Proofs.Reference.QualifiedName
import Mathlib.Data.List.Pairwise
/-! Shared schemas under the names of their fragments. Schemas of two fragments meet exactly when the
name of one fragment goes on where that of the other ends, and a schema of the other makes up
for the difference. Where no two fragments are like that, no schema is lost. -/
namespace ApiAssembly

namespace Fragment
open Reference

def schemaNames (fragment : Fragment) : List String :=
  (Merge.schemasOf fragment.document).map Prod.fst

/-- The schemas of a fragment by name, with their references rewritten. -/
def schemas (fragment : Fragment) : Dict String Json :=
  Dict.ofList (qualifyFields fragment.name (Merge.schemasOf fragment.document))

/-- One entry for each schema of a fragment, under its qualified name. -/
def schemaEntries (fragment : Fragment) : List (String × Json) :=
  fragment.schemas.entries.map fun entry => (qualifiedName fragment.name entry.1, entry.2)

theorem mem_schemas_keys (fragment : Fragment) (name : String) :
    name ∈ fragment.schemas.keys ↔ name ∈ fragment.schemaNames := by
  rw [schemas, Dict.mem_keys_ofList, qualifyFields_names, schemaNames]

theorem schemaEntries_keys (fragment : Fragment) :
    fragment.schemaEntries.map Prod.fst =
      fragment.schemas.keys.map (qualifiedName fragment.name) := by
  rw [schemaEntries, Dict.keys, List.map_map, List.map_map]
  rfl

theorem mem_schemaEntries_keys (fragment : Fragment) (key : String) :
    key ∈ fragment.schemaEntries.map Prod.fst ↔
      ∃ name ∈ fragment.schemaNames, qualifiedName fragment.name name = key := by
  rw [schemaEntries_keys, List.mem_map]
  simp only [mem_schemas_keys]

end Fragment

namespace Merge
open Reference

theorem schemasOf_qualify (source : String) (document : Json) :
    schemasOf (qualify source document) = qualifyFields source (schemasOf document) := by
  unfold schemasOf
  rw [get?_qualify source "components" document (by decide) (by decide)]
  cases document.get? "components" with
  | none => rw [Option.map_none, Option.bind_none, Option.getD_none, qualifyFields]
  | some components =>
    rw [Option.map_some, Option.bind_some, Option.bind_some, Json.getObj?, Json.getObj?,
      get?_qualify source "schemas" components (by decide) (by decide)]
    cases components.get? "schemas" with
    | none => rw [Option.map_none, Option.bind_none, Option.getD_none, qualifyFields]
    | some schemas =>
      rw [Option.map_some, Option.bind_some, Option.bind_some, obj?_qualify]
      cases schemas.obj? with
      | none => rw [Option.map_none, Option.getD_none, qualifyFields]
      | some fields => rfl

/-- Only the last schema of a name counts, in the fragment and in the merge alike. -/
theorem find?_schemaEntries (fragment : Fragment) (key : String) :
    Entries.find? key fragment.qualifiedSchemas.reverse =
      Entries.find? key fragment.schemaEntries.reverse := by
  rw [Fragment.qualifiedSchemas, Fragment.schemaEntries, schemasOf_qualify, ← List.map_reverse,
    ← List.map_reverse]
  by_cases inside : ∃ name, key = qualifiedName fragment.name name
  · obtain ⟨name, rfl⟩ := inside
    have injective := qualifiedName_injective fragment.name
    rw [Entries.find?_rename _ injective, Entries.find?_rename _ injective,
      Entries.find?_reverse name _ fragment.schemas.keys_nodup]
    exact (Dict.find?_ofList _ name).symm
  · have outside := not_exists.mp inside
    rw [Entries.find?_rename_none _ key outside, Entries.find?_rename_none _ key outside]

theorem components_eq (policy : CollisionPolicy) (fragments : List Fragment) :
    (ofFragments policy fragments).components =
      Dict.ofList (fragments.flatMap Fragment.schemaEntries) := by
  rw [ofFragments_components]
  apply Dict.ext_find?
  intro key
  rw [Dict.find?_ofList, Dict.find?_ofList]
  induction fragments with
  | nil => rfl
  | cons fragment rest ih =>
    rw [List.flatMap_cons, List.flatMap_cons, List.reverse_append, List.reverse_append,
      Entries.find?_append, Entries.find?_append, ih, find?_schemaEntries]

/-- The name of one fragment goes on where that of another one ends, and the schemas meet. -/
def NamesClash (fragments : List Fragment) : Prop :=
  ∃ first ∈ fragments, ∃ second ∈ fragments, ∃ middle title,
    second.name = qualifiedName first.name middle ∧
    qualifiedName middle title ∈ first.schemaNames ∧ title ∈ second.schemaNames

theorem keys_nodup_iff (fragments : List Fragment)
    (distinct : (fragments.map Fragment.name).Nodup) :
    ((fragments.flatMap Fragment.schemaEntries).map Prod.fst).Nodup ↔ ¬ NamesClash fragments := by
  rw [List.map_flatMap, List.nodup_flatMap]
  constructor
  · rintro ⟨-, apart⟩ ⟨first, firstMember, second, secondMember, middle, title, longer, left, right⟩
    have differ : first ≠ second := by
      intro same
      exact ne_qualifiedName first.name middle (by rw [← longer, same])
    have symmetric : Std.Symm (Function.onFun List.Disjoint
        fun fragment : Fragment => fragment.schemaEntries.map Prod.fst) :=
      ⟨fun _ _ disjoint => List.disjoint_symm disjoint⟩
    have disjoint := apart.forall firstMember secondMember differ
    have met : qualifiedName first.name (qualifiedName middle title) =
        qualifiedName second.name title := by
      rw [longer, qualifiedName_assoc]
    exact List.disjoint_left.mp disjoint ((first.mem_schemaEntries_keys _).mpr ⟨_, left, met⟩)
      ((second.mem_schemaEntries_keys _).mpr ⟨title, right, rfl⟩)
  · intro apart
    refine ⟨?_, ?_⟩
    · intro fragment _
      rw [Fragment.schemaEntries_keys]
      exact fragment.schemas.keys_nodup.map (qualifiedName_injective fragment.name)
    · refine List.Pairwise.imp_of_mem ?_ (List.pairwise_map.mp distinct)
      intro first second firstMember secondMember differ
      refine List.disjoint_left.mpr ?_
      intro key left right
      obtain ⟨name, named, same⟩ := (first.mem_schemaEntries_keys key).mp left
      obtain ⟨title, titled, equal⟩ := (second.mem_schemaEntries_keys key).mp right
      rcases (qualifiedName_eq_iff first.name second.name name title).mp (same.trans equal.symm) with
        ⟨names, -⟩ | ⟨middle, longer, behind⟩ | ⟨middle, longer, behind⟩
      · exact differ names
      · exact apart ⟨first, firstMember, second, secondMember, middle, title, longer,
          behind ▸ named, titled⟩
      · exact apart ⟨second, secondMember, first, firstMember, middle, name, longer,
          behind ▸ titled, named⟩

def schemaCount (fragments : List Fragment) : Nat :=
  fragments.foldr (fun fragment count => fragment.schemas.size + count) 0

theorem schemaEntries_length (fragments : List Fragment) :
    (fragments.flatMap Fragment.schemaEntries).length = schemaCount fragments := by
  induction fragments with
  | nil => rfl
  | cons fragment rest ih =>
    rw [List.flatMap_cons, List.length_append, ih, Fragment.schemaEntries, List.length_map]
    rfl

/-- The merge holds every schema of every fragment, each once and with its own content, exactly when
no two fragments clash. -/
theorem schemas_kept_apart_iff (policy : CollisionPolicy) (fragments : List Fragment)
    (distinct : (fragments.map Fragment.name).Nodup) :
    ((ofFragments policy fragments).specification.components.entries.Perm
        (fragments.flatMap Fragment.schemaEntries) ↔ ¬ NamesClash fragments) ∧
    ((ofFragments policy fragments).specification.components.size = schemaCount fragments ↔
      ¬ NamesClash fragments) := by
  have built : (ofFragments policy fragments).specification.components =
      Dict.ofList (fragments.flatMap Fragment.schemaEntries) := components_eq policy fragments
  rw [built, ← schemaEntries_length, Dict.entries_ofList_perm_iff, Dict.size_ofList_iff]
  exact ⟨keys_nodup_iff fragments distinct, keys_nodup_iff fragments distinct⟩

def schemaFragment (name : String) (schemas : List (String × Json)) : Fragment :=
  ⟨name, ⟨name ++ ".yaml"⟩, .handWritten, .obj [("components", .obj [("schemas", .obj schemas)])]⟩

/-- Equal names of schemas in two fragments do no harm, and the references follow. -/
theorem schemas_kept_apart_same_name :
    let core := schemaFragment "core" [("Item", .obj [("type", .str "object")]),
      ("List", .obj [("items", .obj [("$ref", .str "#/components/schemas/Item")])])]
    let extra := schemaFragment "extra" [("Item", .obj [("type", .str "string")])]
    ([core, extra].map Fragment.name).Nodup ∧
    (ofFragments .lastWriterWins [core, extra]).specification.components.entries.Perm
      ([core, extra].flatMap Fragment.schemaEntries) ∧
    (ofFragments .lastWriterWins [core, extra]).specification.components.size = 3 ∧
    ¬ NamesClash [core, extra] := by
  intro core extra
  have distinct : ([core, extra].map Fragment.name).Nodup := by decide
  have kept := schemas_kept_apart_iff .lastWriterWins [core, extra] distinct
  have sizes : (ofFragments .lastWriterWins [core, extra]).specification.components.size =
      schemaCount [core, extra] := by decide
  have apart : ¬ NamesClash [core, extra] := kept.2.mp sizes
  exact ⟨distinct, kept.1.mpr apart, by decide, apart⟩

/-- Here both schemas are known as `a_b_c`, and the later one hides the earlier one. -/
theorem schemas_shadowed :
    let short := schemaFragment "a" [("b_c", .obj [("type", .str "string")])]
    let long := schemaFragment "a_b" [("c", .obj [("type", .str "object")])]
    ([short, long].map Fragment.name).Nodup ∧
    schemaCount [short, long] = 2 ∧
    (ofFragments .lastWriterWins [short, long]).specification.components.entries =
      [("a_b_c", .obj [("type", .str "object")])] ∧
    ¬ (ofFragments .lastWriterWins [short, long]).specification.components.entries.Perm
      ([short, long].flatMap Fragment.schemaEntries) := by
  decide

end Merge
end ApiAssembly
