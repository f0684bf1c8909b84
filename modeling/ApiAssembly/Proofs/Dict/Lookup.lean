import ApiAssembly.Dict.Basic
import ApiAssembly.Json.Basic
import ApiAssembly.Proofs.Sorting.Strict
import Mathlib.Data.List.Perm.Subperm
/-! What can be seen of a dictionary. An insertion changes what is found under one key and nothing
else, so a dictionary built from pairs holds the last value of each key. It holds all the pairs
exactly when no key occurs twice among them. -/
namespace ApiAssembly
namespace Entries
variable {κ α : Type} [Ord κ] [Std.LawfulEqOrd κ] [DecidableEq κ]

theorem find?_cons (key : κ) (entry : κ × α) (rest : List (κ × α)) :
    find? key (entry :: rest) = if key = entry.1 then some entry.2 else find? key rest := by
  rw [find?]
  split
  · rename_i equal
    rw [if_pos (Std.LawfulEqOrd.eq_of_compare equal)]
  · rename_i differ
    have other : key ≠ entry.1 := by
      intro same
      exact differ (Std.LawfulEqOrd.compare_eq_iff_eq.mpr same)
    rw [if_neg other]

theorem find?_append (key : κ) (first second : List (κ × α)) :
    find? key (first ++ second) = (find? key first).or (find? key second) := by
  induction first with
  | nil => rfl
  | cons entry rest ih =>
    rw [List.cons_append, find?_cons, find?_cons, ih]
    split <;> simp

theorem mem_of_find? (key : κ) (value : α) (entries : List (κ × α))
    (found : find? key entries = some value) : (key, value) ∈ entries := by
  induction entries with
  | nil => simp [find?] at found
  | cons entry rest ih =>
    rw [find?_cons] at found
    split at found
    · rename_i same
      cases found
      rw [same]
      exact List.mem_cons_self
    · exact List.mem_cons_of_mem _ (ih found)

theorem find?_of_mem (key : κ) (value : α) (entries : List (κ × α))
    (once : (entries.map Prod.fst).Nodup) (member : (key, value) ∈ entries) :
    find? key entries = some value := by
  induction entries with
  | nil => simp at member
  | cons entry rest ih =>
    obtain ⟨fresh, tail⟩ := List.nodup_cons.mp once
    rw [find?_cons]
    rcases List.mem_cons.mp member with head | later
    · rw [← head, if_pos rfl]
    · have other : key ≠ entry.1 := by
        intro same
        exact fresh (same ▸ List.mem_map_of_mem (f := Prod.fst) later)
      rw [if_neg other]
      exact ih tail later

/-- Where no key occurs twice the order of the entries does not matter. -/
theorem find?_reverse (key : κ) (entries : List (κ × α)) (once : (entries.map Prod.fst).Nodup) :
    find? key entries.reverse = find? key entries := by
  have reversed : (entries.reverse.map Prod.fst).Nodup := by
    rw [List.map_reverse]
    exact List.nodup_reverse.mpr once
  apply Option.ext
  intro value
  constructor
  · intro found
    exact find?_of_mem key value entries once
      (List.mem_reverse.mp (mem_of_find? key value entries.reverse found))
  · intro found
    exact find?_of_mem key value entries.reverse reversed
      (List.mem_reverse.mpr (mem_of_find? key value entries found))

theorem perm_of_find? (left right : List (κ × α)) (leftOnce : (left.map Prod.fst).Nodup)
    (rightOnce : (right.map Prod.fst).Nodup) (same : ∀ key, find? key left = find? key right) :
    left.Perm right := by
  apply (List.perm_ext_iff_of_nodup (List.Nodup.of_map _ leftOnce)
    (List.Nodup.of_map _ rightOnce)).mpr
  intro entry
  constructor
  · intro member
    have found := find?_of_mem entry.1 entry.2 left leftOnce member
    exact mem_of_find? entry.1 entry.2 right ((same entry.1).symm.trans found)
  · intro member
    have found := find?_of_mem entry.1 entry.2 right rightOnce member
    exact mem_of_find? entry.1 entry.2 left ((same entry.1).trans found)

theorem find?_rename (rename : κ → κ) (injective : Function.Injective rename) (key : κ)
    (entries : List (κ × α)) :
    find? (rename key) (entries.map fun entry => (rename entry.1, entry.2)) = find? key entries := by
  induction entries with
  | nil => rfl
  | cons entry rest ih =>
    rw [List.map_cons, find?_cons, find?_cons, ih]
    by_cases same : key = entry.1
    · rw [if_pos same, if_pos (congrArg rename same)]
    · rw [if_neg same, if_neg fun renamed => same (injective renamed)]

theorem find?_rename_none (rename : κ → κ) (key : κ) (outside : ∀ name, key ≠ rename name)
    (entries : List (κ × α)) :
    find? key (entries.map fun entry => (rename entry.1, entry.2)) = none := by
  induction entries with
  | nil => rfl
  | cons entry rest ih => rw [List.map_cons, find?_cons, if_neg (outside entry.1), ih]

theorem find?_isSome_iff (key : κ) (entries : List (κ × α)) :
    (find? key entries).isSome ↔ key ∈ entries.map Prod.fst := by
  induction entries with
  | nil => simp [find?]
  | cons entry rest ih =>
    rw [find?_cons, List.map_cons, List.mem_cons]
    by_cases same : key = entry.1
    · simp [same]
    · simp [same, ih]

theorem find?_insert (key other : κ) (value : α) (entries : List (κ × α)) :
    find? other (insert key value entries) =
      if other = key then some value else find? other entries := by
  induction entries with
  | nil => rw [insert, find?_cons]
  | cons entry rest ih =>
    unfold insert
    split
    · rw [find?_cons]
    · rename_i equal
      have same : key = entry.1 := Std.LawfulEqOrd.eq_of_compare equal
      rw [find?_cons, find?_cons]
      by_cases hit : other = key
      · simp [hit]
      · simp [hit, same ▸ hit]
    · rename_i after
      have differ : key ≠ entry.1 := by
        intro same
        rw [Std.LawfulEqOrd.compare_eq_iff_eq.mpr same] at after
        cases after
      rw [find?_cons, find?_cons, ih]
      by_cases hit : other = key
      · simp [hit, differ]
      · simp [hit]

theorem find?_filter_keys (keep : κ → Bool) (key : κ) (entries : List (κ × α)) :
    find? key (entries.filter fun entry => keep entry.1) =
      if keep key then find? key entries else none := by
  induction entries with
  | nil => simp [find?]
  | cons entry rest ih =>
    rw [List.filter_cons, find?_cons]
    by_cases same : key = entry.1
    · by_cases kept : keep entry.1 = true
      · rw [if_pos kept, find?_cons, if_pos same, if_pos same, same, if_pos kept]
      · rw [if_neg kept, ih, same, if_neg kept, if_neg kept]
    · by_cases kept : keep entry.1 = true
      · rw [if_pos kept, find?_cons, if_neg same, ih, if_neg same]
      · rw [if_neg kept, ih, if_neg same]

theorem find?_mapValues {β : Type} (change : κ → α → β) (key : κ) (entries : List (κ × α)) :
    find? key (entries.map fun entry => (entry.1, change entry.1 entry.2)) =
      (find? key entries).map (change key) := by
  induction entries with
  | nil => rfl
  | cons entry rest ih =>
    rw [List.map_cons, find?_cons, find?_cons, ih]
    by_cases same : key = entry.1
    · rw [if_pos same, if_pos same, same, Option.map_some]
    · rw [if_neg same, if_neg same]

omit [DecidableEq κ] in
theorem keys_nodup (entries : List (κ × α)) (sorted : Sorted entries) :
    (entries.map Prod.fst).Nodup := by
  rw [List.Nodup, List.pairwise_map]
  refine List.Pairwise.imp ?_ sorted
  intro left right before same
  rw [same, Std.ReflOrd.compare_self] at before
  cases before

theorem find?_of_before [Std.TransOrd κ] (key : κ) (entry : κ × α) (rest : List (κ × α))
    (sorted : Sorted (entry :: rest)) (before : compare key entry.1 = .lt) :
    find? key (entry :: rest) = none := by
  have absent : key ∉ (entry :: rest).map Prod.fst := by
    intro member
    obtain ⟨other, present, same⟩ := List.mem_map.mp member
    have smaller : compare key other.1 = .lt := by
      rcases List.mem_cons.mp present with head | later
      · exact head ▸ before
      · exact Std.TransCmp.lt_trans before ((List.pairwise_cons.mp sorted).1 other later)
    rw [same, Std.ReflOrd.compare_self] at smaller
    cases smaller
  have unseen := mt (find?_isSome_iff key (entry :: rest)).mp absent
  simpa using unseen

theorem mem_iff_find? (entries : List (κ × α)) (sorted : Sorted entries) (entry : κ × α) :
    entry ∈ entries ↔ find? entry.1 entries = some entry.2 :=
  ⟨find?_of_mem entry.1 entry.2 entries (keys_nodup entries sorted),
    mem_of_find? entry.1 entry.2 entries⟩

omit [Std.LawfulEqOrd κ] [DecidableEq κ] in
/-- Sorted entries are told by what is among them. -/
theorem eq_of_mem_iff [Std.TransOrd κ] (left right : List (κ × α)) (leftSorted : Sorted left)
    (rightSorted : Sorted right) (same : ∀ entry, entry ∈ left ↔ entry ∈ right) : left = right :=
  @Sorting.eq_of_mem_iff _ (compareOn Prod.fst) _ _ _ leftSorted rightSorted same

/-! What an insertion adds to a sum over the values, the value that it replaces takes away. -/

def total (measure : α → Nat) (entries : List (κ × α)) : Nat :=
  entries.foldr (fun entry sum => measure entry.2 + sum) 0

theorem total_insert [Std.TransOrd κ] (measure : α → Nat) (key : κ) (value : α)
    (entries : List (κ × α)) (sorted : Sorted entries) :
    total measure (insert key value entries) + ((find? key entries).map measure).getD 0 =
      total measure entries + measure value := by
  induction entries with
  | nil => simp [insert, find?, total]
  | cons entry rest ih =>
    unfold insert
    split
    · rename_i before
      rw [find?_of_before key entry rest sorted before]
      simp only [total, List.foldr_cons, Option.map_none, Option.getD_none]
      omega
    · rename_i equal
      have same : key = entry.1 := Std.LawfulEqOrd.eq_of_compare equal
      rw [find?_cons, if_pos same]
      simp only [total, List.foldr_cons, Option.map_some, Option.getD_some]
      omega
    · rename_i after
      have differ : key ≠ entry.1 := by
        intro same
        rw [Std.LawfulEqOrd.compare_eq_iff_eq.mpr same] at after
        cases after
      have inner := ih (List.pairwise_cons.mp sorted).2
      rw [find?_cons, if_neg differ]
      simp only [total, List.foldr_cons] at inner ⊢
      omega

end Entries

namespace Dict
variable {κ α : Type} [Ord κ] [Std.LawfulEqOrd κ] [DecidableEq κ]

omit [DecidableEq κ] in
theorem keys_nodup (dict : Dict κ α) : dict.keys.Nodup :=
  Entries.keys_nodup dict.entries dict.sorted

theorem mem_keys_iff (dict : Dict κ α) (key : κ) :
    key ∈ dict.keys ↔ (dict.find? key).isSome :=
  (Entries.find?_isSome_iff key dict.entries).symm

variable [Std.TransOrd κ]

/-- The entries are in the order of their keys, so a dictionary is what is found in it. -/
theorem ext_find? (left right : Dict κ α) (same : ∀ key, left.find? key = right.find? key) :
    left = right := by
  apply ext
  apply List.Perm.eq_of_pairwise _ left.sorted right.sorted
    (Entries.perm_of_find? left.entries right.entries left.keys_nodup right.keys_nodup same)
  intro first second _ _ before after
  exact absurd after (Std.OrientedCmp.not_lt_of_lt before)

theorem find?_insert (dict : Dict κ α) (key other : κ) (value : α) :
    (dict.insert key value).find? other = if other = key then some value else dict.find? other :=
  Entries.find?_insert key other value dict.entries

omit [Std.TransOrd κ] in
theorem find?_filter_keys (keep : κ → Bool) (dict : Dict κ α) (key : κ) :
    (dict.filter fun other _ => keep other).find? key =
      if keep key then dict.find? key else none :=
  Entries.find?_filter_keys keep key dict.entries

omit [Std.TransOrd κ] in
theorem find?_mapValues {β : Type} (change : κ → α → β) (dict : Dict κ α) (key : κ) :
    (dict.mapValues change).find? key = (dict.find? key).map (change key) :=
  Entries.find?_mapValues change key dict.entries

def total (measure : α → Nat) (dict : Dict κ α) : Nat := Entries.total measure dict.entries

theorem total_insert (measure : α → Nat) (dict : Dict κ α) (key : κ) (value : α) :
    (dict.insert key value).total measure + ((dict.find? key).map measure).getD 0 =
      dict.total measure + measure value :=
  Entries.total_insert measure key value dict.entries dict.sorted

theorem size_insert (dict : Dict κ α) (key : κ) (value : α) :
    (dict.insert key value).size + (dict.find? key).toList.length = dict.size + 1 := by
  have counted : ∀ held : Dict κ α, held.total (fun _ => 1) = held.size := by
    intro held
    unfold total Entries.total size
    induction held.entries with
    | nil => rfl
    | cons entry rest ih => rw [List.foldr_cons, ih, List.length_cons, Nat.add_comm]
  have step := dict.total_insert (fun _ => 1) key value
  rw [counted, counted] at step
  cases found : dict.find? key with
  | none => simpa [found] using step
  | some value => simpa [found] using step

/-- Of the pairs of one key the last is found. -/
theorem find?_foldl_insert (pairs : List (κ × α)) (dict : Dict κ α) (key : κ) :
    (pairs.foldl (fun dict pair => dict.insert pair.1 pair.2) dict).find? key =
      (Entries.find? key pairs.reverse).or (dict.find? key) := by
  induction pairs generalizing dict with
  | nil => rfl
  | cons pair rest ih =>
    rw [List.foldl_cons, ih, List.reverse_cons, Entries.find?_append, find?_insert,
      Entries.find?_cons]
    cases Entries.find? key rest.reverse with
    | some value => rfl
    | none => split <;> rfl

theorem find?_ofList (pairs : List (κ × α)) (key : κ) :
    (ofList pairs).find? key = Entries.find? key pairs.reverse := by
  rw [ofList, find?_foldl_insert]
  exact Option.or_none

theorem ofList_mapValues {β : Type} (change : κ → α → β) (pairs : List (κ × α)) :
    ofList (pairs.map fun pair => (pair.1, change pair.1 pair.2)) =
      (ofList pairs).mapValues change := by
  apply ext_find?
  intro key
  rw [find?_ofList, find?_mapValues, find?_ofList, ← List.map_reverse]
  exact Entries.find?_mapValues change key pairs.reverse

theorem mem_keys_ofList (pairs : List (κ × α)) (key : κ) :
    key ∈ (ofList pairs).keys ↔ key ∈ pairs.map Prod.fst := by
  rw [mem_keys_iff, find?_ofList, Entries.find?_isSome_iff, List.map_reverse, List.mem_reverse]

/-- A dictionary holds all the pairs that it was built from exactly when their keys differ. -/
theorem entries_ofList_perm_iff (pairs : List (κ × α)) :
    (ofList pairs).entries.Perm pairs ↔ (pairs.map Prod.fst).Nodup := by
  constructor
  · intro kept
    exact (kept.map Prod.fst).nodup_iff.mp (ofList pairs).keys_nodup
  · intro once
    apply Entries.perm_of_find? _ _ (ofList pairs).keys_nodup once
    intro key
    exact (find?_ofList pairs key).trans (Entries.find?_reverse key pairs once)

theorem size_ofList_iff (pairs : List (κ × α)) :
    (ofList pairs).size = pairs.length ↔ (pairs.map Prod.fst).Nodup := by
  constructor
  · intro same
    have within : (ofList pairs).keys.Subperm (pairs.map Prod.fst) :=
      (ofList pairs).keys_nodup.subperm fun key member => (mem_keys_ofList pairs key).mp member
    have lengths : (pairs.map Prod.fst).length ≤ (ofList pairs).keys.length := by
      rw [List.length_map, keys, List.length_map, ← same]
      exact Nat.le_refl _
    exact (within.perm_of_length_le lengths).nodup_iff.mp (ofList pairs).keys_nodup
  · intro once
    exact ((entries_ofList_perm_iff pairs).mpr once).length_eq

end Dict

/-! The same for entries that no dictionary carries, such as the fields of an object. -/
namespace Entries
variable {κ α : Type} [Ord κ] [Std.LawfulEqOrd κ] [DecidableEq κ] [Std.TransOrd κ]

omit [Std.LawfulEqOrd κ] [DecidableEq κ] in
theorem ofList_eq (pairs : List (κ × α)) : ofList pairs = (Dict.ofList pairs).entries := by
  have carried : ∀ (pairs : List (κ × α)) (dict : Dict κ α),
      pairs.foldl (fun entries pair => insert pair.1 pair.2 entries) dict.entries =
        (pairs.foldl (fun dict pair => dict.insert pair.1 pair.2) dict).entries := by
    intro pairs
    induction pairs with
    | nil => intro dict; rfl
    | cons pair rest ih => intro dict; exact ih (dict.insert pair.1 pair.2)
  exact carried pairs Dict.empty

theorem find?_ofList (pairs : List (κ × α)) (key : κ) :
    find? key (ofList pairs) = find? key pairs.reverse := by
  rw [ofList_eq]
  exact Dict.find?_ofList pairs key

theorem mem_keys_ofList (pairs : List (κ × α)) (key : κ) :
    key ∈ (ofList pairs).map Prod.fst ↔ key ∈ pairs.map Prod.fst := by
  rw [ofList_eq]
  exact Dict.mem_keys_ofList pairs key

theorem ofList_perm (pairs : List (κ × α)) (once : (pairs.map Prod.fst).Nodup) :
    (ofList pairs).Perm pairs := by
  rw [ofList_eq]
  exact (Dict.entries_ofList_perm_iff pairs).mpr once

/-- Pairs that are in order stay as they are. -/
theorem ofList_of_sorted (pairs : List (κ × α)) (sorted : Sorted pairs) : ofList pairs = pairs := by
  have perm := ofList_perm pairs (keys_nodup pairs sorted)
  rw [ofList_eq] at perm ⊢
  exact eq_of_mem_iff _ _ (Dict.ofList pairs).sorted sorted fun entry => perm.mem_iff

end Entries

theorem Json.get?_ofFields (name : String) (pairs : List (String × Json)) :
    (Json.ofFields pairs).get? name = Entries.find? name pairs.reverse := by
  rw [Json.ofFields, Json.get?]
  exact Entries.find?_ofList pairs name

/-- What was written piece by piece is read piece by piece. -/
theorem mapM_written {α β γ : Type} (write : α → β) (read? : β → Option γ) (value : α → γ)
    (items : List α) (reads : ∀ item ∈ items, read? (write item) = some (value item)) :
    (items.map write).mapM read? = some (items.map value) := by
  induction items with
  | nil => rfl
  | cons item rest ih =>
    obtain ⟨first, later⟩ := List.forall_mem_cons.mp reads
    rw [List.map_cons, List.mapM_cons, first, ih later]
    rfl

end ApiAssembly
