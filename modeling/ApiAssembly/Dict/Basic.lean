/-! Dictionaries whose entries are kept in the order of their keys, each key once. A later value
for a key takes the place of the earlier one, so the entries do not remember the history that
built them. `Entries` holds the operations on plain lists of pairs; `Dict` carries the order as
a field of the type. -/
namespace ApiAssembly
namespace Entries
variable {κ α β : Type} [Ord κ]

def insert (key : κ) (value : α) : List (κ × α) → List (κ × α)
  | [] => [(key, value)]
  | entry :: rest =>
    match compare key entry.1 with
    | .lt => (key, value) :: entry :: rest
    | .eq => (key, value) :: rest
    | .gt => entry :: insert key value rest

def find? (key : κ) : List (κ × α) → Option α
  | [] => none
  | entry :: rest =>
    match compare key entry.1 with
    | .eq => some entry.2
    | _ => find? key rest

def contains (key : κ) (entries : List (κ × α)) : Bool := (find? key entries).isSome

/-- A repeated key keeps its last value. -/
def ofList (pairs : List (κ × α)) : List (κ × α) :=
  pairs.foldl (fun entries pair => insert pair.1 pair.2 entries) []

def Sorted (entries : List (κ × α)) : Prop :=
  entries.Pairwise fun left right => compare left.1 right.1 = .lt

theorem mem_insert (key : κ) (value : α) (entries : List (κ × α)) (entry : κ × α)
    (member : entry ∈ insert key value entries) : entry = (key, value) ∨ entry ∈ entries := by
  induction entries with
  | nil => simpa [insert] using member
  | cons head rest ih =>
    unfold insert at member
    split at member <;> grind

theorem insert_sorted [Std.TransOrd κ] (key : κ) (value : α) (entries : List (κ × α))
    (sorted : Sorted entries) : Sorted (insert key value entries) := by
  induction entries with
  | nil => simp [insert, Sorted]
  | cons head rest ih =>
    have tail := List.pairwise_cons.mp sorted
    unfold insert
    split
    · rename_i before
      refine List.pairwise_cons.mpr ⟨?_, sorted⟩
      intro entry member
      rcases List.mem_cons.mp member with same | later
      · exact same ▸ before
      · exact Std.TransCmp.lt_trans before (tail.1 entry later)
    · rename_i equal
      refine List.pairwise_cons.mpr ⟨?_, tail.2⟩
      intro entry member
      exact Std.TransCmp.lt_of_eq_of_lt equal (tail.1 entry member)
    · rename_i after
      refine List.pairwise_cons.mpr ⟨?_, ih tail.2⟩
      intro entry member
      rcases mem_insert key value rest entry member with same | later
      · exact same ▸ Std.OrientedCmp.lt_of_gt after
      · exact tail.1 entry later

theorem map_sorted (change : κ → α → β) (entries : List (κ × α)) (sorted : Sorted entries) :
    Sorted (entries.map fun entry => (entry.1, change entry.1 entry.2)) := by
  simpa [Sorted, List.pairwise_map] using sorted

end Entries

structure Dict (κ α : Type) [Ord κ] where
  entries : List (κ × α)
  sorted : Entries.Sorted entries

namespace Dict
variable {κ α β : Type} [Ord κ]

@[ext] theorem ext {left right : Dict κ α} (same : left.entries = right.entries) :
    left = right := by
  cases left; cases right; simpa using same

instance [DecidableEq κ] [DecidableEq α] : DecidableEq (Dict κ α) := fun left right =>
  decidable_of_iff (left.entries = right.entries) ⟨ext, fun same => same ▸ rfl⟩

def empty : Dict κ α := ⟨[], List.Pairwise.nil⟩

instance : Inhabited (Dict κ α) := ⟨empty⟩

def find? (dict : Dict κ α) (key : κ) : Option α := Entries.find? key dict.entries

def contains (dict : Dict κ α) (key : κ) : Bool := (dict.find? key).isSome

def keys (dict : Dict κ α) : List κ := dict.entries.map Prod.fst

def values (dict : Dict κ α) : List α := dict.entries.map Prod.snd

def size (dict : Dict κ α) : Nat := dict.entries.length

def isEmpty (dict : Dict κ α) : Bool := dict.entries.isEmpty

def mapValues (change : κ → α → β) (dict : Dict κ α) : Dict κ β :=
  ⟨dict.entries.map fun entry => (entry.1, change entry.1 entry.2),
    Entries.map_sorted change dict.entries dict.sorted⟩

def filter (keep : κ → α → Bool) (dict : Dict κ α) : Dict κ α :=
  ⟨dict.entries.filter fun entry => keep entry.1 entry.2, dict.sorted.filter _⟩

variable [Std.TransOrd κ]

def insert (dict : Dict κ α) (key : κ) (value : α) : Dict κ α :=
  ⟨Entries.insert key value dict.entries, Entries.insert_sorted key value _ dict.sorted⟩

def ofList (pairs : List (κ × α)) : Dict κ α :=
  pairs.foldl (fun dict pair => dict.insert pair.1 pair.2) empty

end Dict
end ApiAssembly
