/-
The words of TOML: white space, comments, the ends of lines, strings in their four forms, and keys.
-/
import Investigations.Text.Hex
import Investigations.Toml.Reader

namespace Investigations.Toml

open Reader

/-! ## Between words -/

/-- White space within a line. -/
def isSpace (c : Char) : Bool :=
  c = ' ' || c = '\t'

/-- A character beyond ASCII. -/
def isBeyondAscii (c : Char) : Bool :=
  0x80 ≤ c.toNat

/-- A character that can be seen, a space or a tab. Control characters stand nowhere in a text. -/
def isPlain (c : Char) : Bool :=
  c = '\t' || (0x20 ≤ c.toNat && c.toNat ≤ 0x7E) || isBeyondAscii c

/-- White space within a line, if there is any. -/
def spaces : Reader Unit := do
  discard (takeWhile isSpace)

/-- A line feed, with or without a carriage return before it. -/
def newline : Reader Unit
  | '\n' :: rest => some ((), rest)
  | '\r' :: '\n' :: rest => some ((), rest)
  | _ => none

/-- The end of a line or of the text. -/
def lineEnd : Reader Unit := newline <|> atEnd

/-- A comment, up to the end of its line. -/
def comment : Reader Unit := do
  char '#'
  discard (takeWhile isPlain)

/-- White space, comments and ends of lines, as far as they go. -/
def gap : Reader Unit := do
  discard (many (discard (satisfy isSpace) <|> newline <|> comment))

/-! ## Strings -/

/-- The character that a backslash and a letter stand for. -/
def shortEscape? : Char → Option Char
  | 'b' => some '\x08'
  | 't' => some '\t'
  | 'n' => some '\n'
  | 'f' => some '\x0c'
  | 'r' => some '\r'
  | '"' => some '"'
  | '\\' => some '\\'
  | _ => none

/-- The character with a number in hexadecimal digits. Surrogates are none. -/
def hexChar? (digits : List Char) : Option Char := do
  let n ← Text.hexNumber? digits
  if n.isValidChar then some (Char.ofNat n) else none

/-- A character that stands for itself between double quotes. -/
def isBasicChar (c : Char) : Bool :=
  isPlain c && c ≠ '"' && c ≠ '\\'

/-- The rest of a line is blank, and there is a line after it. -/
def endsLine (text : List Char) : Bool :=
  (newline (text.dropWhile isSpace)).isSome

/-- The content of a string up to its closing double quote. -/
def basicBody : Reader (List Char)
  | [] => none
  | '"' :: rest => some ([], rest)
  | '\\' :: 'u' :: a :: b :: c :: d :: rest => do
    let x ← hexChar? [a, b, c, d]
    let (more, rest) ← basicBody rest
    return (x :: more, rest)
  | '\\' :: 'U' :: a :: b :: c :: d :: e :: f :: g :: h :: rest => do
    let x ← hexChar? [a, b, c, d, e, f, g, h]
    let (more, rest) ← basicBody rest
    return (x :: more, rest)
  | '\\' :: letter :: rest => do
    let x ← shortEscape? letter
    let (more, rest) ← basicBody rest
    return (x :: more, rest)
  | c :: rest =>
    if isBasicChar c then do
      let (more, rest) ← basicBody rest
      return (c :: more, rest)
    else none

/-- The content of a string over several lines up to its three closing double quotes. One or two
quotes that are not followed by the closing ones belong to the content, and so do two quotes right
before the closing ones. After a backslash at the end of a line, `trimming` leaves out all white
space up to the next word. -/
def blockBody : (trimming : Bool) → Reader (List Char)
  | _, [] => none
  | _, '"' :: '"' :: '"' :: '"' :: '"' :: rest => some (['"', '"'], rest)
  | _, '"' :: '"' :: '"' :: '"' :: rest => some (['"'], rest)
  | _, '"' :: '"' :: '"' :: rest => some ([], rest)
  | _, '"' :: rest => do
    let (more, rest) ← blockBody false rest
    return ('"' :: more, rest)
  | _, '\\' :: 'u' :: a :: b :: c :: d :: rest => do
    let x ← hexChar? [a, b, c, d]
    let (more, rest) ← blockBody false rest
    return (x :: more, rest)
  | _, '\\' :: 'U' :: a :: b :: c :: d :: e :: f :: g :: h :: rest => do
    let x ← hexChar? [a, b, c, d, e, f, g, h]
    let (more, rest) ← blockBody false rest
    return (x :: more, rest)
  | _, '\\' :: letter :: rest =>
    if endsLine (letter :: rest) then blockBody true (letter :: rest)
    else do
      let x ← shortEscape? letter
      let (more, rest) ← blockBody false rest
      return (x :: more, rest)
  | trimming, '\r' :: '\n' :: rest =>
    if trimming then blockBody true rest
    else do
      let (more, rest) ← blockBody false rest
      return ('\n' :: more, rest)
  | trimming, c :: rest =>
    if trimming && (isSpace c || c = '\n') then blockBody true rest
    else if c = '\n' || isBasicChar c then do
      let (more, rest) ← blockBody false rest
      return (c :: more, rest)
    else none

/-- The content of a literal string over several lines up to its three closing quotes. Quotes
count as in `blockBody`. -/
def literalBlockBody : Reader (List Char)
  | [] => none
  | '\'' :: '\'' :: '\'' :: '\'' :: '\'' :: rest => some (['\'', '\''], rest)
  | '\'' :: '\'' :: '\'' :: '\'' :: rest => some (['\''], rest)
  | '\'' :: '\'' :: '\'' :: rest => some ([], rest)
  | '\r' :: '\n' :: rest => do
    let (more, rest) ← literalBlockBody rest
    return ('\n' :: more, rest)
  | c :: rest =>
    if c = '\n' || isPlain c then do
      let (more, rest) ← literalBlockBody rest
      return (c :: more, rest)
    else none

/-- A string between double quotes. -/
def basicString : Reader (List Char) := do
  char '"'
  basicBody

/-- A string between single quotes, in which every character stands for itself. -/
def literalString : Reader (List Char) := do
  char '\''
  let content ← takeWhile fun c => isPlain c && c ≠ '\''
  char '\''
  return content

/-- A string between three double quotes. A line end right after the opening ones is left out. -/
def blockString : Reader (List Char) := do
  word ['"', '"', '"']
  discard (optionally newline)
  blockBody false

/-- A literal string between three single quotes. -/
def literalBlockString : Reader (List Char) := do
  word ['\'', '\'', '\'']
  discard (optionally newline)
  literalBlockBody

/-- A string in any form. -/
def string : Reader String := do
  let content ← blockString <|> basicString <|> literalBlockString <|> literalString
  return String.ofList content

/-! ## Keys -/

/-- A character of a key that stands without quotes. -/
def isBareKeyChar (c : Char) : Bool :=
  c.isAlphanum || c = '_' || c = '-'

/-- A key without quotes. -/
def bareKey : Reader (List Char) := do
  let first ← satisfy isBareKeyChar
  let more ← takeWhile isBareKeyChar
  return first :: more

/-- One part of a key, with white space around it. -/
def keyPart : Reader String := do
  spaces
  let content ← basicString <|> literalString <|> bareKey
  spaces
  return String.ofList content

/-- A key has fewer parts than this, and no value stands in this many brackets. -/
def nestingLimit : Nat := 80

/-- A key: the parts between dots. -/
def key : Reader (List String) := do
  let first ← keyPart
  let more ← many do
    char '.'
    keyPart
  guard (more.length + 1 < nestingLimit)
  return first :: more

end Investigations.Toml
