/-
The text of a suggestions file. The first line names the server identity, each further line is a
suggestion, and tabs stand between fields:

  serverUUID	239-239-239
  111	1	any reason

Reading goes line by line. A line that is no suggestion is skipped and reported by its number;
it does not spoil the lines around it. Nothing after the first line counts unless the first line
names the identity of the reader.
-/
import Investigations.Suggestion.Basic
import Investigations.Text.Lines
import Investigations.Text.Utf8

namespace Investigations

namespace Suggestion

/-- The line of a suggestion, with the character that ends it. -/
def line (suggestion : Suggestion) : List Char :=
  suggestion.testNameId.toList ++ '\t' :: suggestion.investigatorId.toList ++
    '\t' :: suggestion.reason.toList ++ ['\n']

/-- The suggestion in a line without its end. The first two tabs part the fields, so a reason may
hold further ones. -/
def ofLine? (line : List Char) : Option Suggestion := do
  let (testNameId, rest) ← Lines.cut? '\t' line
  let (investigatorId, reason) ← Lines.cut? '\t' rest
  return ⟨String.ofList testNameId, String.ofList investigatorId, String.ofList reason⟩

end Suggestion

namespace Sheet

/-- The word that the first line starts with. -/
def headerKey : String := "serverUUID"

/-! ## Writing -/

/-- The first line, with the character that ends it. -/
def headerLine (identity : ServerIdentity) : List Char :=
  headerKey.toList ++ '\t' :: identity.value.toList ++ ['\n']

/-- The text of a suggestions file. -/
def text (identity : ServerIdentity) (suggestions : List Suggestion) : String :=
  String.ofList (headerLine identity ++ suggestions.flatMap Suggestion.line)

/-- The bytes of a suggestions file. -/
def encode (identity : ServerIdentity) (suggestions : List Suggestion) : List UInt8 :=
  Utf8.encode (text identity suggestions)

/-! ## Reading -/

/-- What reading a suggestions file gives. -/
inductive Reading where
  /-- There is nothing in the file. -/
  | empty
  /-- The first line names no identity. -/
  | headless
  /-- The first line names another identity. -/
  | foreign (stored : String)
  /-- The suggestions in the file, and the numbers of the lines that are none. -/
  | accepted (suggestions : List Suggestion) (skipped : List Nat)
deriving DecidableEq, Repr

namespace Reading

/-- The suggestions that count. -/
def suggestions : Reading → List Suggestion
  | .accepted suggestions _ => suggestions
  | _ => []

/-- The numbers of the lines that were skipped, counted from 1. -/
def skipped : Reading → List Nat
  | .accepted _ skipped => skipped
  | _ => []

end Reading

/-- What a line after the first one is. -/
inductive Row where
  /-- Nothing but the end of the line. -/
  | blank
  | suggestion (suggestion : Suggestion)
  | malformed
deriving DecidableEq, Repr

/-- The suggestion in a row. -/
def Row.suggestion? : Row → Option Suggestion
  | .suggestion found => some found
  | _ => none

/-- The identity that the first line names. -/
def storedIdentity? (line : List Char) : Option String := do
  let (key, value) ← Lines.cut? '\t' line
  if key = headerKey.toList then some (String.ofList value) else none

/-- What the rows after an accepted first line give. The first of them is line 2. -/
def collect (rows : List Row) : Reading :=
  .accepted (rows.filterMap Row.suggestion?)
    ((rows.zipIdx 2).filterMap fun (row, number) => if row = .malformed then some number else none)

/-- The reading of a file from its first line, if that is text, and the rows after it. -/
def judge (identity : ServerIdentity) (header : Option (List Char)) (rows : List Row) : Reading :=
  match header.bind storedIdentity? with
  | none => .headless
  | some stored => if stored = identity.value then collect rows else .foreign stored

/-- The text of a line given in bytes without its end. A carriage return goes with the end. -/
def lineText? (bytes : List UInt8) : Option (List Char) :=
  (Utf8.decode? bytes).map fun text => Lines.dropOne '\r' text.toList

/-- The row that a line in bytes stands for. -/
def rowOfBytes (bytes : List UInt8) : Row :=
  if bytes = [] ∨ bytes = [13] then .blank
  else
    match (lineText? bytes).bind Suggestion.ofLine? with
    | some suggestion => .suggestion suggestion
    | none => .malformed

/-- Reads a suggestions file under an identity. The bytes are cut into lines first, so that bytes
that are no text do harm to their own line only. -/
def decode (identity : ServerIdentity) (content : List UInt8) : Reading :=
  if content = [] then .empty
  else
    let lines := Lines.split 10 content
    judge identity (lineText? lines.1) (lines.2.map rowOfBytes)

/-! ## Reading a text -/

/-- The row that a line of a text stands for. -/
def rowOfText (line : List Char) : Row :=
  if line = [] ∨ line = ['\r'] then .blank
  else
    match Suggestion.ofLine? (Lines.dropOne '\r' line) with
    | some suggestion => .suggestion suggestion
    | none => .malformed

/-- Reads a text as a suggestions file under an identity. -/
def decodeText (identity : ServerIdentity) (text : String) : Reading :=
  if text.toList = [] then .empty
  else
    let lines := Lines.split '\n' text.toList
    judge identity (some (Lines.dropOne '\r' lines.1)) (lines.2.map rowOfText)

end Sheet

end Investigations
