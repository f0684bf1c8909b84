import ApiAssembly.Fragment.Reader
import ApiAssembly.Proofs.Dict.Lookup
import ApiAssembly.Proofs.Operation.Entries
/-! Checking a document, dropping its unknown keys and reading its operations agree on which keys
matter. In a document that passes the check every key that names a method is read as one operation,
in the order of the keys, and the keys that are dropped are looked at by nothing that is read. -/
namespace ApiAssembly

/-- A key of a path item that names a method, with what stands around it. Nothing is asked of the
value. -/
structure DeclaredOperation where
  path : String
  item : List (String × Json)
  key : String
  method : Method
  value : Json

namespace DeclaredOperation

def ofField? (path : String) (item : List (String × Json)) (field : String × Json) :
    Option DeclaredOperation :=
  (Method.parse? field.1).map fun method => ⟨path, item, field.1, method, field.2⟩

def ofPathItem (entry : String × Json) : List DeclaredOperation :=
  let item := entry.2.obj?.getD []
  item.filterMap (ofField? entry.1 item)

/-- The methods that the path items of a document name, in the order of the keys. -/
def ofDocument (document : Json) : List DeclaredOperation :=
  ((document.getObj? "paths").getD []).flatMap ofPathItem

def operationKey (declared : DeclaredOperation) : OperationKey := ⟨declared.path, declared.method⟩

def read (source : String) (declared : DeclaredOperation) : Operation :=
  Operation.ofJson source declared.path declared.item declared.method declared.value

end DeclaredOperation

namespace Operations

/-- Why reading a document passes over something that should hold operations. -/
inductive Skips (document : Json) : Prop where
  | paths (value : Json) (present : document.get? "paths" = some value)
      (scalar : value.isObject = false)
  | pathItem (paths : List (String × Json)) (path : String) (value : Json)
      (present : document.getObj? "paths" = some paths) (member : (path, value) ∈ paths)
      (scalar : value.isObject = false)
  | operation (paths item : List (String × Json)) (path key : String) (value : Json)
      (present : document.getObj? "paths" = some paths) (member : (path, .obj item) ∈ paths)
      (field : (key, value) ∈ item) (named : (Method.parse? key).isSome = true)
      (scalar : value.isObject = false)

theorem ofEntry_operations (source path : String) (item : List (String × Json))
    (field : String × Json) (object : (Method.parse? field.1).isSome → field.2.isObject = true) :
    (ofEntry source path item field).operations =
      ((DeclaredOperation.ofField? path item field).map (DeclaredOperation.read source)).toList := by
  unfold ofEntry DeclaredOperation.ofField?
  cases parsed : Method.parse? field.1 with
  | none => rfl
  | some method =>
    rw [parsed] at object
    simp [object rfl, DeclaredOperation.read]

theorem ofPathItem_operations (source : String) (entry : String × Json)
    (objects : ∀ item, entry.2 = .obj item →
      ∀ field ∈ item, (Method.parse? field.1).isSome → field.2.isObject = true) :
    (ofPathItem source entry.1 entry.2).operations =
      (DeclaredOperation.ofPathItem entry).map (DeclaredOperation.read source) := by
  unfold ofPathItem DeclaredOperation.ofPathItem
  cases shape : entry.2 with
  | obj item =>
    have fields := objects item shape
    simp only [append_operations, List.nil_append, join_operations, List.flatMap_map, Json.obj?,
      Option.getD_some, List.map_filterMap]
    rw [List.filterMap_eq_flatMap_toList]
    exact List.flatMap_congr fun field member =>
      ofEntry_operations source entry.1 item field (fields field member)
  | _ => rfl

theorem ofDocument_operations (source : String) (document : Json) (whole : ¬ Skips document) :
    (ofDocument source document).operations =
      (DeclaredOperation.ofDocument document).map (DeclaredOperation.read source) := by
  rw [ofDocument, join_operations, List.flatMap_map, DeclaredOperation.ofDocument, List.map_flatMap]
  refine List.flatMap_congr ?_
  intro entry member
  refine ofPathItem_operations source entry ?_
  intro item shape field inside named
  cases present : document.getObj? "paths" with
  | none => simp [present] at member
  | some paths =>
    rw [present, Option.getD_some] at member
    have listed : (entry.1, Json.obj item) ∈ paths := shape ▸ member
    by_contra scalar
    exact whole (.operation paths item entry.1 field.1 field.2 present listed inside named
      (Bool.eq_false_iff.mpr scalar))

end Operations

namespace Fragment

theorem objects_of_operationFault? (path : String) (fields : List (String × Json))
    (accepted : operationFault? path fields = none) (field : String × Json)
    (member : field ∈ fields) (named : (Method.parse? field.1).isSome = true) :
    field.2.isObject = true := by
  have quiet := List.find?_eq_none.mp (Option.map_eq_none_iff.mp accepted) field member
  simpa [named] using quiet

theorem object_of_pathFault? (entry : String × Json) (accepted : pathFault? entry = none) :
    ∃ item, entry.2 = .obj item ∧ operationFault? entry.1 item = none := by
  unfold pathFault? at accepted
  split at accepted
  · cases accepted
  · cases shape : entry.2 with
    | obj item => exact ⟨item, rfl, by simpa [shape, Json.obj?] using accepted⟩
    | _ => simp [shape, Json.obj?] at accepted

theorem pathsFault?_of_accepted (document value : Json) (accepted : fault? document = none)
    (present : document.get? "paths" = some value) : pathsFault? value = none := by
  cases document with
  | obj fields =>
    have paths := (Option.or_eq_none_iff.mp accepted).1
    rw [show Entries.find? "paths" fields = some value from present, Option.bind_some] at paths
    exact paths
  | _ => cases present

/-- What passes the check is read as a whole. -/
theorem not_skips_of_accepted (document : Json) (accepted : fault? document = none) :
    ¬ Operations.Skips document := by
  -- The check goes through all path items, whatever it finds in those before.
  have items : ∀ paths, document.getObj? "paths" = some paths → ∀ entry ∈ paths,
      ∃ item, entry.2 = .obj item ∧ operationFault? entry.1 item = none := by
    intro paths present entry member
    obtain ⟨value, found, object⟩ := Option.bind_eq_some_iff.mp present
    have quiet := pathsFault?_of_accepted document value accepted found
    cases value with
    | obj fields =>
      cases object
      exact object_of_pathFault? entry (List.findSome?_eq_none_iff.mp quiet entry member)
    | _ => cases object
  intro skips
  cases skips with
  | paths value present scalar =>
    have quiet := pathsFault?_of_accepted document value accepted present
    cases value with
    | obj fields => cases scalar
    | _ => cases quiet
  | pathItem paths path value present member scalar =>
    obtain ⟨item, object, _⟩ := items paths present (path, value) member
    rw [show value = .obj item from object] at scalar
    cases scalar
  | operation paths item path key value present member field named scalar =>
    obtain ⟨fields, object, quiet⟩ := items paths present (path, .obj item) member
    cases object
    rw [objects_of_operationFault? path item quiet (key, value) field named] at scalar
    cases scalar

/-! All that is read of a path item stands under keys that are kept, so dropping the others changes
nothing that is read. -/

theorem find?_filter_known (key : String) (known : isPathItemKey key = true)
    (fields : List (String × Json)) :
    Entries.find? key (fields.filter fun field => isPathItemKey field.1) =
      Entries.find? key fields := by
  induction fields with
  | nil => rfl
  | cons field rest ih =>
    by_cases kept : isPathItemKey field.1 = true
    · rw [List.filter_cons, if_pos kept, Entries.find?_cons, Entries.find?_cons, ih]
    · have other : key ≠ field.1 := by
        intro same
        exact kept (same ▸ known)
      rw [List.filter_cons, if_neg kept, Entries.find?_cons, if_neg other, ih]

end Fragment

namespace Operations
open Fragment

theorem append_empty (left : Operations) : left.append {} = left := by
  simp [append]

theorem join_map_filter (keep : String × Json → Bool) (part : String × Json → Operations)
    (fields : List (String × Json)) (dropped : ∀ field ∈ fields, keep field = false → part field = {}) :
    join ((fields.filter keep).map part) = join (fields.map part) := by
  have run : ∀ start : Operations, ((fields.filter keep).map part).foldl append start =
      (fields.map part).foldl append start := by
    induction fields with
    | nil => intro start; rfl
    | cons field rest ih =>
      have later := ih fun other member => dropped other (List.mem_cons_of_mem field member)
      intro start
      by_cases kept : keep field = true
      · rw [List.filter_cons_of_pos kept, List.map_cons, List.map_cons, List.foldl_cons,
          List.foldl_cons, later]
      · have nothing := dropped field List.mem_cons_self (Bool.eq_false_iff.mpr kept)
        rw [List.filter_cons_of_neg kept, List.map_cons, List.foldl_cons, nothing, append_empty, later]
  exact run {}

/-- An operation looks at its path item only for what all operations of the path share. -/
theorem ofEntry_congr (source path : String) (item other : List (String × Json))
    (field : String × Json) (summary : Entries.find? "summary" other = Entries.find? "summary" item)
    (parameters : Entries.find? "parameters" other = Entries.find? "parameters" item) :
    ofEntry source path other field = ofEntry source path item field := by
  unfold ofEntry
  cases Method.parse? field.1 with
  | none => rfl
  | some method => simp only [Operation.ofJson, summary, parameters]

theorem ofEntry_unknown (source path : String) (item : List (String × Json))
    (field : String × Json) (unknown : isPathItemKey field.1 = false) :
    ofEntry source path item field = {} := by
  have unnamed : Method.parse? field.1 = none := by
    simp only [isPathItemKey, Bool.or_eq_false_iff] at unknown
    simpa using unknown.1.2
  simp [ofEntry, unnamed]

theorem ofPathItem_keepKnownKeys (source path : String) (value : Json) :
    ofPathItem source path (keepKnownKeys value) = ofPathItem source path value := by
  cases value with
  | obj item =>
    have summary := find?_filter_known "summary" (by decide) item
    have parameters := find?_filter_known "parameters" (by decide) item
    have same : ofEntry source path (item.filter fun field => isPathItemKey field.1) =
        ofEntry source path item :=
      funext fun field => ofEntry_congr source path item _ field summary parameters
    rw [keepKnownKeys, ofPathItem, ofPathItem, parameters, same]
    rw [join_map_filter (fun field => isPathItemKey field.1)]
    exact fun field _ unknown => ofEntry_unknown source path item field unknown
  | _ => rfl

end Operations

namespace Fragment

/-- What is kept of the value under `paths`. -/
def keepKnownItemKeys : Json → Json
  | .obj paths => .obj (paths.map fun entry => (entry.1, keepKnownKeys entry.2))
  | value => value

theorem keepKnownPathKeys_eq (field : String × Json) :
    keepKnownPathKeys field =
      if field.1 = "paths" then (field.1, keepKnownItemKeys field.2) else field := by
  obtain ⟨name, value⟩ := field
  by_cases paths : name = "paths"
  · subst paths
    cases value <;> rfl
  · rw [if_neg paths]
    unfold keepKnownPathKeys
    split
    · rename_i same
      cases same
      exact absurd rfl paths
    · rfl

theorem find?_keepKnownPathKeys (fields : List (String × Json)) :
    Entries.find? "paths" (fields.map keepKnownPathKeys) =
      (Entries.find? "paths" fields).map keepKnownItemKeys := by
  induction fields with
  | nil => rfl
  | cons field rest ih =>
    rw [List.map_cons, Entries.find?_cons, Entries.find?_cons, keepKnownPathKeys_eq, ih]
    by_cases paths : "paths" = field.1
    · simp [← paths]
    · simp [paths, Ne.symm paths]

theorem getObj?_withoutUnknownKeys (document : Json) :
    (withoutUnknownKeys document).getObj? "paths" = (document.getObj? "paths").map
      fun paths => paths.map fun entry => (entry.1, keepKnownKeys entry.2) := by
  cases document with
  | obj fields =>
    simp only [withoutUnknownKeys, Json.getObj?, Json.get?, find?_keepKnownPathKeys]
    cases Entries.find? "paths" fields with
    | none => rfl
    | some value => cases value <;> rfl
  | _ => rfl

theorem keepKnownKeys_idempotent (value : Json) :
    keepKnownKeys (keepKnownKeys value) = keepKnownKeys value := by
  cases value with
  | obj fields => simp only [keepKnownKeys, List.filter_filter, Bool.and_self]
  | _ => rfl

theorem keepKnownItemKeys_idempotent (value : Json) :
    keepKnownItemKeys (keepKnownItemKeys value) = keepKnownItemKeys value := by
  cases value with
  | obj paths =>
    simp only [keepKnownItemKeys, List.map_map, Function.comp_def, keepKnownKeys_idempotent]
  | _ => rfl

theorem keepKnownPathKeys_idempotent (field : String × Json) :
    keepKnownPathKeys (keepKnownPathKeys field) = keepKnownPathKeys field := by
  rw [keepKnownPathKeys_eq field]
  by_cases paths : field.1 = "paths"
  · rw [if_pos paths, keepKnownPathKeys_eq, if_pos paths, keepKnownItemKeys_idempotent]
  · rw [if_neg paths, keepKnownPathKeys_eq, if_neg paths]

theorem withoutUnknownKeys_idempotent (document : Json) :
    withoutUnknownKeys (withoutUnknownKeys document) = withoutUnknownKeys document := by
  cases document with
  | obj fields =>
    simp only [withoutUnknownKeys, List.map_map, Function.comp_def, keepKnownPathKeys_idempotent]
  | _ => rfl

end Fragment

namespace Operations
open Fragment

/-- Dropping unknown keys changes neither the operations nor the warnings. -/
theorem ofDocument_withoutUnknownKeys (source : String) (document : Json) :
    ofDocument source (withoutUnknownKeys document) = ofDocument source document := by
  rw [ofDocument, ofDocument, getObj?_withoutUnknownKeys]
  cases document.getObj? "paths" with
  | none => rfl
  | some paths =>
    simp only [Option.map_some, Option.getD_some, List.map_map, Function.comp_def,
      ofPathItem_keepKnownKeys]

/-- What is read of a loaded fragment is what its text declares. -/
theorem ofDocument_of_parse (source name text : String) (path : FilePath) (fragment : Fragment)
    (loaded : Fragment.parse name path text = .ok fragment) :
    ∃ document, document? path text = some document ∧
      (ofDocument source fragment.document).operations =
        (DeclaredOperation.ofDocument document).map (DeclaredOperation.read source) := by
  unfold Fragment.parse at loaded
  cases read : document? path text with
  | none =>
    rw [read] at loaded
    cases loaded
  | some document =>
    simp only [read] at loaded
    split at loaded
    · cases loaded
    · rename_i accepted
      cases loaded
      refine ⟨document, rfl, ?_⟩
      rw [ofDocument_withoutUnknownKeys]
      exact ofDocument_operations source document (not_skips_of_accepted document accepted)

/-- A document that passes the check declares by its keys what is read from it. No key of a method
is passed over, and the keys that are dropped when the document is loaded change nothing. -/
theorem declared_operations_kept (source : String) (document : Json) :
    (fault? document = none →
      (ofDocument source document).operations =
        (DeclaredOperation.ofDocument document).map (DeclaredOperation.read source) ∧
      (ofDocument source document).operations.map Operation.key =
        (DeclaredOperation.ofDocument document).map DeclaredOperation.operationKey ∧
      ¬ Skips document) ∧
    (ofDocument source (withoutUnknownKeys document)).operations =
      (ofDocument source document).operations ∧
    (ofDocument source (withoutUnknownKeys document)).warnings =
      (ofDocument source document).warnings ∧
    withoutUnknownKeys (withoutUnknownKeys document) = withoutUnknownKeys document := by
  rw [ofDocument_withoutUnknownKeys]
  refine ⟨?_, rfl, rfl, withoutUnknownKeys_idempotent document⟩
  intro accepted
  have whole := not_skips_of_accepted document accepted
  have kept := ofDocument_operations source document whole
  refine ⟨kept, ?_, whole⟩
  rw [kept, List.map_map]
  rfl

/-- Two spellings of one method, an extension and a stray key. -/
theorem declared_operations_kept_spellings :
    let document : Json := .obj [("paths", .obj [("/a", .obj
      [("GET", .obj []), ("get", .obj []), ("stray", .null), ("x-owner", .null)])])]
    fault? document = none ∧
      (ofDocument "core" document).operations.map Operation.key =
        [⟨"/a", .get⟩, ⟨"/a", .get⟩] := by
  intro document
  have accepted : fault? document = none := by decide
  refine ⟨accepted, ?_⟩
  rw [((declared_operations_kept "core" document).1 accepted).2.1]
  decide

end Operations
end ApiAssembly
