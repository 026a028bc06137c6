/-
File trees: what stands at a place, and the tree after something is put at a place or taken from
it. A place is the list of names from the root down, so each place has one spelling.
-/
import Investigations.Files.Path

namespace Investigations.Files

/-- The kinds of failure of a file operation. -/
inductive Fault where
  | notFound
  | notADirectory
  | isADirectory
  | alreadyExists
  /-- A name is longer than a directory can hold, or a path longer than can be followed. -/
  | invalidFilename
  /-- A path holds a character that can stand in none. -/
  | invalidInput
  /-- A file is read as text and is not UTF-8. -/
  | invalidData
  /-- The root, `.` or `..` can not be replaced. -/
  | resourceBusy
  /-- A failure that is known by its description only. -/
  | described (text : String)
deriving DecidableEq, Repr

/-- The names from the root of a tree down to a place in it. -/
abbrev Place := List String

/-- A file with its bytes, or a directory with its entries by name. -/
inductive Tree where
  | file (content : List UInt8)
  | directory (entries : List (String × Tree))

namespace Tree

instance : Inhabited Tree := ⟨.directory []⟩

/-- What stands at a place. -/
def get? : Tree → Place → Option Tree
  | tree, [] => some tree
  | .file _, _ :: _ => none
  | .directory entries, name :: rest =>
    match entries.lookup name with
    | some child => child.get? rest
    | none => none

/-- A directory stands at a place. -/
def hasDirectory (tree : Tree) (place : Place) : Bool :=
  match tree.get? place with
  | some (.directory _) => true
  | _ => false

/-- Entries with `child` under `name`, in the position of the entry it replaces or at the end. -/
def insertEntry (name : String) (child : Tree) : List (String × Tree) → List (String × Tree)
  | [] => [(name, child)]
  | entry :: rest =>
    if entry.1 = name then (name, child) :: rest else entry :: insertEntry name child rest

/-- The tree with `node` at a place. Directories missing on the way are made; a file on the way
stays as it is. -/
def set : Tree → Place → Tree → Tree
  | _, [], node => node
  | .file content, _ :: _, _ => .file content
  | .directory entries, name :: rest, node =>
    .directory (insertEntry name (((entries.lookup name).getD (.directory [])).set rest node) entries)

/-- The tree without what stands at a place. -/
def erase : Tree → Place → Tree
  | tree, [] => tree
  | .file content, _ :: _ => .file content
  | .directory entries, [name] => .directory (entries.filter (·.1 ≠ name))
  | .directory entries, name :: next :: rest =>
    match entries.lookup name with
    | some child => .directory (insertEntry name (child.erase (next :: rest)) entries)
    | none => .directory entries

/-- The tree with what stands at `source` at `target` instead, in place of what is there. -/
def move (tree : Tree) (source target : Place) : Tree :=
  match tree.get? source with
  | some node => (tree.set target node).erase source
  | none => tree

@[simp] theorem get?_nil (tree : Tree) : tree.get? [] = some tree := by
  cases tree <;> rfl

theorem get?_cons (entries : List (String × Tree)) (name : String) (rest : Place) :
    (directory entries).get? (name :: rest) = (entries.lookup name).bind (·.get? rest) := by
  simp only [get?]
  cases entries.lookup name <;> rfl

theorem get?_append (tree : Tree) (p q : Place) :
    tree.get? (p ++ q) = (tree.get? p).bind (·.get? q) := by
  induction p generalizing tree with
  | nil => simp
  | cons name rest ih =>
    cases tree with
    | file content => rfl
    | directory entries =>
      rw [List.cons_append, get?_cons, get?_cons]
      cases entries.lookup name with
      | none => rfl
      | some child => exact ih child

theorem lookup_insertEntry_self (name : String) (child : Tree) (entries : List (String × Tree)) :
    (insertEntry name child entries).lookup name = some child := by
  induction entries with
  | nil => simp [insertEntry]
  | cons entry rest ih =>
    obtain ⟨key, old⟩ := entry
    by_cases h : key = name
    · simp [insertEntry, h]
    · have other : (name == key) = false := by simpa using Ne.symm h
      simp [insertEntry, h, List.lookup_cons, other, ih]

theorem lookup_insertEntry_of_ne {name other : String} (h : other ≠ name) (child : Tree)
    (entries : List (String × Tree)) :
    (insertEntry name child entries).lookup other = entries.lookup other := by
  have unequal : (other == name) = false := by simpa using h
  induction entries with
  | nil => simp [insertEntry, List.lookup_cons, unequal]
  | cons entry rest ih =>
    obtain ⟨key, old⟩ := entry
    by_cases hk : key = name
    · subst hk
      simp [insertEntry, List.lookup_cons, unequal]
    · simp [insertEntry, hk, List.lookup_cons, ih]

end Tree

end Investigations.Files
