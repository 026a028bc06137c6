/-
Readers: functions that take something off the front of a text. A reader that fails takes nothing,
so another one can be tried in its place.
-/
namespace Investigations.Toml

/-- Takes a value off the front of a text, or fails. -/
abbrev Reader := StateT (List Char) Option

namespace Reader

/-- The next character, which stays in the text. -/
def peek : Reader (Option Char) := fun text => some (text.head?, text)

/-- Takes a character that satisfies `p`. -/
def satisfy (p : Char → Bool) : Reader Char
  | [] => none
  | c :: rest => if p c then some (c, rest) else none

/-- Takes the character `c`. -/
def char (c : Char) : Reader Unit := do
  discard (satisfy (· = c))

/-- Takes the characters of `word`, in order. -/
def word : List Char → Reader Unit
  | [] => pure ()
  | c :: rest => do char c; word rest

/-- Takes all characters up to the first that does not satisfy `p`. -/
def takeWhile (p : Char → Bool) : Reader (List Char) := fun text =>
  some (text.takeWhile p, text.dropWhile p)

/-- Takes what `p` takes, or nothing if `p` fails. -/
def optionally {α : Type} (p : Reader α) : Reader (Option α) := fun text =>
  match p text with
  | some (a, rest) => some (some a, rest)
  | none => some (none, text)

/-- Takes what `p` takes again and again, until it fails or `limit` times are over. -/
def upTo {α : Type} (p : Reader α) : (limit : Nat) → Reader (List α)
  | 0 => pure []
  | limit + 1 => fun text =>
    match p text with
    | none => some ([], text)
    | some (a, rest) => (upTo p limit rest).map fun (more, rest) => (a :: more, rest)

/-- Takes what `p` takes again and again, until it fails. As `p` takes a character at least, the
length of the text bounds how often that can be. -/
def many {α : Type} (p : Reader α) : Reader (List α) := fun text =>
  upTo p text.length text

/-- Succeeds at the end of the text. -/
def atEnd : Reader Unit
  | [] => some ((), [])
  | _ :: _ => none

/-- What a reader gives that takes the whole text. -/
def run? {α : Type} (p : Reader α) (text : List Char) : Option α :=
  match p text with
  | some (a, []) => some a
  | _ => none

end Reader

end Investigations.Toml
