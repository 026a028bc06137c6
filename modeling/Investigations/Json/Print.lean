/-
JSON values as text, in one line or with a line for each item.
-/
import Investigations.Json.Value

namespace Investigations.Json

/-- How a character is written in a string: only what would end the string, the backslash and
control characters are escaped. -/
def escapeChar (c : Char) : List Char :=
  match c with
  | '"' => ['\\', '"']
  | '\\' => ['\\', '\\']
  | '\x08' => ['\\', 'b']
  | '\x0c' => ['\\', 'f']
  | '\n' => ['\\', 'n']
  | '\r' => ['\\', 'r']
  | '\t' => ['\\', 't']
  | c =>
    if c.toNat < 0x20 then
      ['\\', 'u', '0', '0', Nat.digitChar (c.toNat / 16), Nat.digitChar (c.toNat % 16)]
    else [c]

/-- A string between quotes. One without a text is written as half of a surrogate pair. -/
def quote : Option String → List Char
  | some text => '"' :: text.toList.flatMap escapeChar ++ ['"']
  | none => ['"', '\\', 'u', 'd', '8', '0', '0', '"']

/-- The white space that a printer puts between tokens. -/
structure Layout where
  /-- What stands before an item, and before the bracket that ends a list of items one level up. -/
  lineBreak : (depth : Nat) → List Char
  /-- What stands between a colon and the value after it. -/
  afterColon : List Char

/-- All in one line, without any white space. -/
def Layout.compact : Layout where
  lineBreak _ := []
  afterColon := []

/-- A line for each item, two spaces further in than what it stands in. -/
def Layout.pretty : Layout where
  lineBreak depth := '\n' :: List.replicate (2 * depth) ' '
  afterColon := [' ']

namespace Value

mutual

/-- The text of a value that stands `depth` levels deep. -/
def print (layout : Layout) (depth : Nat) : Value → List Char
  | .null => ['n', 'u', 'l', 'l']
  | .bool true => ['t', 'r', 'u', 'e']
  | .bool false => ['f', 'a', 'l', 's', 'e']
  | .number spelled => spelled
  | .string content => quote content
  | .array [] => ['[', ']']
  | .array (item :: items) =>
    '[' :: layout.lineBreak (depth + 1) ++ print layout (depth + 1) item ++
      printItems layout (depth + 1) items ++ layout.lineBreak depth ++ [']']
  | .object [] => ['{', '}']
  | .object (field :: fields) =>
    '{' :: layout.lineBreak (depth + 1) ++ printField layout (depth + 1) field ++
      printFields layout (depth + 1) fields ++ layout.lineBreak depth ++ ['}']
termination_by structural value => value

/-- The text of items that follow another one. -/
def printItems (layout : Layout) (depth : Nat) : List Value → List Char
  | [] => []
  | item :: items =>
    ',' :: layout.lineBreak depth ++ print layout depth item ++ printItems layout depth items

/-- The text of a field. -/
def printField (layout : Layout) (depth : Nat) : Option String × Value → List Char
  | (key, value) => quote key ++ ':' :: layout.afterColon ++ print layout depth value

/-- The text of fields that follow another one. -/
def printFields (layout : Layout) (depth : Nat) : List (Option String × Value) → List Char
  | [] => []
  | field :: fields =>
    ',' :: layout.lineBreak depth ++ printField layout depth field ++
      printFields layout depth fields

end

/-- The text of a value in one line. -/
def compact (value : Value) : String :=
  String.ofList (value.print .compact 0)

/-- The text of a value with a line for each item. -/
def pretty (value : Value) : String :=
  String.ofList (value.print .pretty 0)

end Value

end Investigations.Json
