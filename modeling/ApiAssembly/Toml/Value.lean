/-! TOML values. Numbers and moments are kept as written. While a document is read, its tables
remember how they came about, since that decides what may still be added to them: a header names
a table once, a longer header implies the tables on its way, and a table that dotted keys have
opened or entered is not opened by a header any more. Tables and lists written as values are
closed. -/
namespace ApiAssembly.Toml

inductive Value where
  | text (value : String)
  | truth (value : Bool)
  | number (written : String)
  | moment (written : String)
  | list (items : List Value)
  | table (entries : List (String × Value))

inductive TableOrigin where
  | header | implied | dotted
deriving DecidableEq

inductive Node where
  | value (value : Value)
  | table (origin : TableOrigin) (entries : List (String × Node))
  -- The tables that one header has listed, the last one first.
  | tables (rows : List (List (String × Node)))

abbrev Entries := List (String × Node)

namespace Entries

def replace (key : String) (node : Node) (entries : Entries) : Entries :=
  entries.map fun entry => if entry.1 = key then (key, node) else entry

def append (key : String) (node : Node) (entries : Entries) : Entries := entries ++ [(key, node)]

/-- The entries of the table at a path that headers have opened. -/
def modify? (change : Entries → Option Entries) : List String → Entries → Option Entries
  | [], entries => change entries
  | key :: rest, entries =>
    match entries.lookup key with
    | some (.table origin inner) =>
      (modify? change rest inner).map fun inner => replace key (.table origin inner) entries
    | some (.tables (row :: earlier)) =>
      (modify? change rest row).map fun row => replace key (.tables (row :: earlier)) entries
    | _ => none

def openTable? : List String → Entries → Option Entries
  | [], _ => none
  | [key], entries =>
    match entries.lookup key with
    | none => some (append key (.table .header []) entries)
    | some (.table .implied inner) => some (replace key (.table .header inner) entries)
    | some _ => none
  | key :: rest, entries =>
    match entries.lookup key with
    | none =>
      (openTable? rest []).map fun inner => append key (.table .implied inner) entries
    | some (.table origin inner) =>
      (openTable? rest inner).map fun inner => replace key (.table origin inner) entries
    | some (.tables (row :: earlier)) =>
      (openTable? rest row).map fun row => replace key (.tables (row :: earlier)) entries
    | some _ => none

def openRow? : List String → Entries → Option Entries
  | [], _ => none
  | [key], entries =>
    match entries.lookup key with
    | none => some (append key (.tables [[]]) entries)
    | some (.tables rows) => some (replace key (.tables ([] :: rows)) entries)
    | some _ => none
  | key :: rest, entries =>
    match entries.lookup key with
    | none => (openRow? rest []).map fun inner => append key (.table .implied inner) entries
    | some (.table origin inner) =>
      (openRow? rest inner).map fun inner => replace key (.table origin inner) entries
    | some (.tables (row :: earlier)) =>
      (openRow? rest row).map fun row => replace key (.tables (row :: earlier)) entries
    | some _ => none

/-- Dotted keys enter tables that no header has opened. On their way they pass through the last table
of a list, but they do not end in it. -/
def setValue? (value : Value) : List String → Entries → Option Entries
  | [], _ => none
  | [key], entries =>
    if (entries.lookup key).isSome then none else some (append key (.value value) entries)
  | key :: rest, entries =>
    match entries.lookup key with
    | none =>
      (setValue? value rest []).map fun inner => append key (.table .dotted inner) entries
    | some (.table origin inner) =>
      if origin = .header then none
      else (setValue? value rest inner).map fun inner => replace key (.table .dotted inner) entries
    | some (.tables (row :: earlier)) =>
      if rest.length = 1 then none
      else (setValue? value rest row).map fun row => replace key (.tables (row :: earlier)) entries
    | some _ => none

end Entries

mutual
def Node.close : Node → Value
  | .value value => value
  | .table _ entries => .table (closeEntries entries)
  | .tables rows => .list (closeRows rows).reverse
def closeEntries : List (String × Node) → List (String × Value)
  | [] => []
  | (key, node) :: rest => (key, node.close) :: closeEntries rest
def closeRows : List (List (String × Node)) → List Value
  | [] => []
  | row :: rest => .table (closeEntries row) :: closeRows rest
end

end ApiAssembly.Toml
