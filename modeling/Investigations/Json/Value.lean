/-
JSON values: read from the tokens of a text, and the access to their parts that a reader with a
fixed set of fields needs.
-/
import Investigations.Json.Token

namespace Investigations.Json

/-- A JSON value. A number keeps its spelling, an object its fields in the order of the text. -/
inductive Value where
  | null
  | bool (value : Bool)
  | number (spelled : List Char)
  | string (content : Option String)
  | array (items : List Value)
  | object (fields : List (Option String × Value))

namespace Value

/-! ## Reading -/

/-- A bracket that is not closed yet, with what stands in it so far, the latest first. In an
object the value of `key` is being read. -/
inductive Opened where
  | array (items : List Value)
  | object (fields : List (Option String × Value)) (key : Option String)

/-- What a reader has to find next. -/
inductive Awaited where
  /-- A value. -/
  | value
  /-- A value, or the end of an array that was opened just now. -/
  | firstItem
  /-- A key, or the end of an object that was opened just now. -/
  | firstKey
  /-- A key after these fields. -/
  | key (fields : List (Option String × Value))
  /-- The colon after a key. -/
  | colon (fields : List (Option String × Value)) (key : Option String)
  /-- What may follow a value: a comma, the end of what it stands in, the end of the text. -/
  | following (value : Value)

/-- How far a reader has come: what it has to find, and the brackets around that. -/
abbrev Progress := Awaited × List Opened

/-- A value begins with this token. -/
def begin? (around : List Opened) : Token → Option Progress
  | .null => some (.following .null, around)
  | .bool b => some (.following (.bool b), around)
  | .number spelled => some (.following (.number spelled), around)
  | .string content => some (.following (.string content), around)
  | .openArray => some (.firstItem, around)
  | .openObject => some (.firstKey, around)
  | _ => none

/-- The progress by one token, if it may stand where it stands. -/
def advance? : Progress → Token → Option Progress
  | (.value, around), token => begin? around token
  | (.firstItem, around), .closeArray => some (.following (.array []), around)
  | (.firstItem, around), token => begin? (.array [] :: around) token
  | (.firstKey, around), .closeObject => some (.following (.object []), around)
  | (.firstKey, around), .string key => some (.colon [] key, around)
  | (.key fields, around), .string key => some (.colon fields key, around)
  | (.colon fields key, around), .colon => some (.value, .object fields key :: around)
  | (.following v, .array items :: around), .comma => some (.value, .array (v :: items) :: around)
  | (.following v, .array items :: around), .closeArray =>
    some (.following (.array (v :: items).reverse), around)
  | (.following v, .object fields key :: around), .comma => some (.key ((key, v) :: fields), around)
  | (.following v, .object fields key :: around), .closeObject =>
    some (.following (.object ((key, v) :: fields).reverse), around)
  | _, _ => none

/-- The value that tokens spell. -/
def ofTokens? (tokens : List Token) : Option Value :=
  match tokens.foldlM advance? (.value, []) with
  | some (.following v, []) => some v
  | _ => none

/-- The value of a JSON text. White space around it is allowed, anything else is not. -/
def parse? (text : String) : Option Value :=
  (Token.scan text.toList).bind ofTokens?

/-! ## Parts -/

/-- The text of a string. -/
def text? : Value → Option String
  | .string content => content
  | _ => none

/-- The greatest number of 64 bits. -/
def maxWord : Nat := UInt64.size - 1

/-- A whole number of 64 bits, spelled with digits only. -/
def word? : Value → Option UInt64
  | .number spelled =>
    if spelled.all Char.isDigit then
      let n := Nat.ofDigitChars 10 spelled 0
      if n ≤ maxWord then some (UInt64.ofNat n) else none
    else none
  | _ => none

/-- The value of the field `name` of an object, if there is one. Two such fields are refused. -/
def field? (name : String) (fields : List (Option String × Value)) : Option (Option Value) :=
  match fields.filter fun entry => entry.1 = some name with
  | [] => some none
  | [entry] => some (some entry.2)
  | _ => none

/-! ## Making -/

/-- A text as a value. -/
def ofText (text : String) : Value := .string (some text)

/-- A number of 64 bits as a value. -/
def ofWord (n : UInt64) : Value := .number (Nat.toDigits 10 n.toNat)

/-- A number as a value. -/
def ofNat (n : Nat) : Value := .number (Nat.toDigits 10 n)

/-- An object with these fields. -/
def ofFields (fields : List (String × Value)) : Value :=
  .object (fields.map fun (name, v) => (some name, v))

end Value

end Investigations.Json
