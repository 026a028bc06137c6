/-
TOML tables, and what may be added to a table that is there already. A table is made by its own
header, on the way to the table of another header, or by a key with dots; which of these it was
decides what can still be added to it.
-/
namespace Investigations.Toml

/-- A value of a setting. Numbers, dates, arrays and tables within a value are not told apart. -/
inductive Value where
  | string (text : String)
  | bool (value : Bool)
  | other
deriving DecidableEq, Repr

/-- How a table came about. -/
inductive Origin where
  /-- It has a header of its own, or is the root. -/
  | header
  /-- It is on the way to the table of a header. -/
  | passing
  /-- It is on the way to the value of a key with dots. -/
  | dotted
deriving DecidableEq, Repr

/-- What a key of a table holds. -/
inductive Node where
  | value (v : Value)
  | table (origin : Origin) (entries : List (String × Node))
  /-- An array of tables, each of which had a header of its own. -/
  | tables (elements : List (List (String × Node)))

/-- The keys of a table with what they hold, in the order in which they were added. -/
abbrev Entries := List (String × Node)

namespace Entries

/-- The entries with `node` under a key, new or in place of what was there. -/
def set (key : String) (node : Node) : Entries → Entries
  | [] => [(key, node)]
  | (other, old) :: rest =>
    if other = key then (key, node) :: rest else (other, old) :: set key node rest

/-- Changes the table that a path leads to, making the tables that are missing on the way. The
path must not run into a value; in an array of tables it goes on in the last one. On the way
of a key with dots there must be no table that has a header. -/
def within (way : Origin) (change : Origin → Entries → Option Entries) :
    Origin → Entries → List String → Option Entries
  | origin, entries, [] => change origin entries
  | _, entries, key :: path =>
    match entries.lookup key with
    | none => do
      let below ← within way change way [] path
      return entries.set key (.table way below)
    | some (.value _) => none
    | some (.table origin below) =>
      if way = .dotted ∧ origin = .header then none
      else do
        let below ← within way change origin below path
        return entries.set key (.table origin below)
    | some (.tables elements) =>
      match elements.getLast? with
      | none => none
      | some last => do
        let last ← within way change .header last path
        return entries.set key (.tables (elements.dropLast ++ [last]))

/-- Adds a value under a key that may have dots. The key must be new, and a table that it leads
to must have been made by keys with dots. -/
def addValue (entries : Entries) (path : List String) (v : Value) : Option Entries :=
  match path.getLast? with
  | none => none
  | some key =>
    let above := path.dropLast
    within .dotted (fun origin found =>
      if above ≠ [] ∧ origin ≠ .dotted then none
      else if (found.lookup key).isSome then none
      else some (found ++ [(key, .value v)])) .header entries above

/-- Adds values one after the other. -/
def addValues (entries : Entries) (pairs : List (List String × Value)) : Option Entries :=
  pairs.foldlM (fun entries (path, v) => entries.addValue path v) entries

/-- Adds the table of a header with its values. There must be no such table yet, other than one
on the way to the table of another header. -/
def addTable (entries : Entries) (path : List String) (pairs : List (List String × Value)) :
    Option Entries :=
  match path.getLast? with
  | none => none
  | some key =>
    within .passing (fun _ found => do
      let start ←
        match found.lookup key with
        | none => some []
        | some (.table .passing below) => some below
        | some _ => none
      let filled ← addValues start pairs
      return found.set key (.table .header filled)) .header entries path.dropLast

/-- Adds a table to the array of tables of a header, which may be new. -/
def addElement (entries : Entries) (path : List String) (pairs : List (List String × Value)) :
    Option Entries :=
  match path.getLast? with
  | none => none
  | some key =>
    within .passing (fun _ found => do
      let before ←
        match found.lookup key with
        | none => some []
        | some (.tables elements) => some elements
        | some _ => none
      let filled ← addValues [] pairs
      return found.set key (.tables (before ++ [filled]))) .header entries path.dropLast

end Entries

end Investigations.Toml
