/-
TOML documents: values with what stands in brackets, lines, and the table that all lines make
together.
-/
import Investigations.Toml.Scalar
import Investigations.Toml.Table

namespace Investigations.Toml

open Reader

/-! ## Values -/

/-- The values of an array, which may go over several lines and end in a comma. -/
def array (item : Reader Value) : Reader Unit := do
  char '['
  let spaced : Reader Value := do
    gap
    let v ← item
    gap
    return v
  if (← optionally spaced).isSome then
    discard (many do
      char ','
      spaced)
    discard (optionally (char ','))
  gap
  char ']'

/-- A key with its value in an inline table. -/
def inlinePair (item : Reader Value) : Reader (List String × Value) := do
  let path ← key
  char '='
  spaces
  let v ← item
  spaces
  return (path, v)

/-- A table in one line. Its keys must go together as those of a table do. -/
def inlineTable (item : Reader Value) : Reader Unit := do
  char '{'
  let pairs ←
    match ← optionally (inlinePair item) with
    | none => pure []
    | some first => do
      let more ← many do
        char ','
        inlinePair item
      pure (first :: more)
  spaces
  char '}'
  guard (Entries.addValues [] pairs).isSome

/-- A value that stands in brackets up to `depth` levels further down. -/
def value (depth : Nat) : Reader Value := do
  match ← peek with
  | some '"' | some '\'' => .string <$> string
  | some '[' =>
    match depth with
    | 0 => failure
    | depth + 1 => do array (value depth); return .other
  | some '{' =>
    match depth with
    | 0 => failure
    | depth + 1 => do inlineTable (value depth); return .other
  | some 't' => do word ['t', 'r', 'u', 'e']; return .bool true
  | some 'f' => do word ['f', 'a', 'l', 's', 'e']; return .bool false
  | _ => do dateTime <|> number; return .other

/-! ## Lines -/

/-- A header: what follows it belongs to a table, or to a new element of an array of tables. -/
inductive Header where
  | table (path : List String)
  | element (path : List String)

/-- A line of a document. -/
inductive Line where
  | blank
  | pair (path : List String) (v : Value)
  | header (header : Header)

/-- A header between its brackets. -/
def header : Reader Header := do
  char '['
  if (← optionally (char '[')).isSome then
    let path ← key
    word [']', ']']
    return .element path
  else
    let path ← key
    char ']'
    return .table path

/-- A key with its value. -/
def pair : Reader (List String × Value) := do
  let path ← key
  char '='
  spaces
  let v ← value (nestingLimit - 1)
  return (path, v)

/-- A line with its end. There is none at the end of the text. -/
def line : Reader Line := do
  guard (← peek).isSome
  spaces
  let content ←
    match ← peek with
    | none | some '#' | some '\n' | some '\r' => pure .blank
    | some '[' => .header <$> header
    | some _ => do
      let (path, v) ← pair
      pure (.pair path v)
  spaces
  discard (optionally comment)
  lineEnd
  return content

/-- The lines of a document. A byte order mark may stand before the first. -/
def lines : Reader (List Line) := do
  discard (optionally (char '\uFEFF'))
  many line

/-! ## Documents -/

/-- A header with the keys and values after it. -/
structure Section where
  header : Header
  pairs : List (List String × Value)

/-- The keys and values before the first header, and the sections after it. -/
def sections : List Line → List (List String × Value) × List Section
  | [] => ([], [])
  | line :: rest =>
    let (pairs, later) := sections rest
    match line with
    | .blank => (pairs, later)
    | .pair path v => ((path, v) :: pairs, later)
    | .header header => ([], ⟨header, pairs⟩ :: later)

/-- The table with a further section. -/
def addSection (entries : Entries) (part : Section) : Option Entries :=
  match part.header with
  | .table path => entries.addTable path part.pairs
  | .element path => entries.addElement path part.pairs

/-- The table that a document makes, if it is well formed and its keys go together. -/
def parse? (text : String) : Option Entries := do
  let (pairs, parts) := sections (← lines.run? text.toList)
  parts.foldlM addSection (← Entries.addValues [] pairs)

end Investigations.Toml
