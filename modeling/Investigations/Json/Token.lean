/-
The tokens of a JSON text. A text is either cut into tokens as a whole or refused; white space
between tokens leaves no trace.
-/
import Investigations.Text.Hex

namespace Investigations.Json

/-- A token of a JSON text. -/
inductive Token where
  | openObject
  | closeObject
  | openArray
  | closeArray
  | comma
  | colon
  | null
  | bool (value : Bool)
  /-- A number as it is spelled. -/
  | number (spelled : List Char)
  /-- A string. It has no content if an escape names half of a surrogate pair without the other
  half: such a string is well formed, but no text. -/
  | string (content : Option String)
deriving DecidableEq

namespace Token

/-! ## Strings -/

/-- A unit of a written string: a character, or a number of 16 bits given by an escape. -/
inductive TextUnit where
  | char (c : Char)
  | code (n : Nat)

/-- The characters that units stand for. Two halves of a surrogate pair make one character, and a
half that stands alone makes none. -/
def joinUnits : List TextUnit → Option (List Char)
  | [] => some []
  | .char c :: rest => (joinUnits rest).map (c :: ·)
  | .code high :: .code low :: rest =>
    if 0xD800 ≤ high ∧ high < 0xDC00 then
      if 0xDC00 ≤ low ∧ low < 0xE000 then
        (joinUnits rest).map
          (Char.ofNat (0x10000 + (high - 0xD800) * 0x400 + (low - 0xDC00)) :: ·)
      else none
    else if 0xDC00 ≤ high ∧ high < 0xE000 then none
    else (joinUnits (.code low :: rest)).map (Char.ofNat high :: ·)
  | .code n :: rest =>
    if 0xD800 ≤ n ∧ n < 0xE000 then none else (joinUnits rest).map (Char.ofNat n :: ·)

/-- The character that a backslash and a letter stand for. -/
def shortEscape? : Char → Option Char
  | '"' => some '"'
  | '\\' => some '\\'
  | '/' => some '/'
  | 'b' => some '\x08'
  | 'f' => some '\x0c'
  | 'n' => some '\n'
  | 'r' => some '\r'
  | 't' => some '\t'
  | _ => none

/-- The units of a string up to its closing quote, and how many characters that takes, the quote
included. Control characters have to be escaped. -/
def scanString? : List Char → Option (List TextUnit × Nat)
  | [] => none
  | '"' :: _ => some ([], 1)
  | '\\' :: 'u' :: a :: b :: c :: d :: rest => do
    let n ← Text.hexNumber? [a, b, c, d]
    let (units, length) ← scanString? rest
    return (.code n :: units, length + 6)
  | '\\' :: letter :: rest => do
    let c ← shortEscape? letter
    let (units, length) ← scanString? rest
    return (.char c :: units, length + 2)
  | c :: rest =>
    if c.toNat < 0x20 then none
    else do
      let (units, length) ← scanString? rest
      return (.char c :: units, length + 1)

/-! ## Numbers -/

/-- What follows a run of digits, of which there has to be one at least. -/
def afterDigits? : List Char → Option (List Char)
  | [] => none
  | c :: rest => if c.isDigit then some (rest.dropWhile Char.isDigit) else none

/-- What follows the integer part of a number: a zero, or digits that do not start with one. -/
def afterInteger? : List Char → Option (List Char)
  | '0' :: rest => some rest
  | text => afterDigits? text

/-- What follows the decimal places, which a number need not have. -/
def afterFraction? : List Char → Option (List Char)
  | '.' :: rest => afterDigits? rest
  | text => some text

/-- What follows the exponent, which a number need not have. -/
def afterExponent? : List Char → Option (List Char)
  | e :: sign :: rest =>
    if e = 'e' ∨ e = 'E' then
      afterDigits? (if sign = '+' ∨ sign = '-' then rest else sign :: rest)
    else some (e :: sign :: rest)
  | text => some text

/-- The characters spell a number: a sign, integer part, decimal places and exponent. -/
def isNumber (spelled : List Char) : Bool :=
  let unsigned := if spelled.head? = some '-' then spelled.tail else spelled
  ((afterInteger? unsigned).bind afterFraction?).bind afterExponent? = some []

/-- A character that can stand in a number. -/
def isNumberChar (c : Char) : Bool :=
  c.isDigit || c = '-' || c = '+' || c = '.' || c = 'e' || c = 'E'

/-! ## Texts -/

/-- The white space of JSON. -/
def isSpace (c : Char) : Bool :=
  c = ' ' || c = '\t' || c = '\n' || c = '\r'

/-- The token that starts with `first`, and how many characters it takes after that one. -/
def scanOne? (first : Char) (rest : List Char) : Option (Token × Nat) :=
  match first with
  | '{' => some (.openObject, 0)
  | '}' => some (.closeObject, 0)
  | '[' => some (.openArray, 0)
  | ']' => some (.closeArray, 0)
  | ',' => some (.comma, 0)
  | ':' => some (.colon, 0)
  | '"' =>
    (scanString? rest).map fun (units, length) =>
      (.string ((joinUnits units).map String.ofList), length)
  | 'n' => if ['u', 'l', 'l'].isPrefixOf rest then some (.null, 3) else none
  | 't' => if ['r', 'u', 'e'].isPrefixOf rest then some (.bool true, 3) else none
  | 'f' => if ['a', 'l', 's', 'e'].isPrefixOf rest then some (.bool false, 4) else none
  | _ =>
    let more := rest.takeWhile isNumberChar
    if isNumber (first :: more) then some (.number (first :: more), more.length) else none

/-- The tokens of a text, of which the first `taken` characters belong to a token found before. -/
def scanFrom : (taken : Nat) → List Char → Option (List Token)
  | _, [] => some []
  | taken + 1, _ :: rest => scanFrom taken rest
  | 0, c :: rest =>
    if isSpace c then scanFrom 0 rest
    else do
      let (token, length) ← scanOne? c rest
      let tokens ← scanFrom length rest
      return token :: tokens

/-- The tokens of a text. -/
def scan (text : List Char) : Option (List Token) :=
  scanFrom 0 text

end Token

end Investigations.Json
