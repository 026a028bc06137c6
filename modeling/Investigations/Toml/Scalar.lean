/-
Numbers, dates and times of TOML. A setting is never one of them, so it only counts whether they
are well formed and within the range of their type.
-/
import Investigations.Toml.Lexical

namespace Investigations.Toml

open Reader

/-! ## Digits -/

/-- Digits that go on a run of digits. An underscore may stand between two of them. -/
def moreDigits (isDigit : Char → Bool) : Reader (List Char)
  | '_' :: c :: rest =>
    if isDigit c then (moreDigits isDigit rest).map fun (more, rest) => (c :: more, rest)
    else some ([], '_' :: c :: rest)
  | c :: rest =>
    if isDigit c then (moreDigits isDigit rest).map fun (more, rest) => (c :: more, rest)
    else some ([], c :: rest)
  | [] => some ([], [])

/-- A run of digits. -/
def digits (isDigit : Char → Bool) : Reader (List Char) := do
  let first ← satisfy isDigit
  let more ← moreDigits isDigit
  return first :: more

/-- The digits before the point: a zero, or digits that do not start with one. -/
def wholeDigits : Reader (List Char) := do
  if (← peek) = some '0' then
    char '0'
    return ['0']
  else digits Char.isDigit

/-- The number that digits of a base spell. -/
def digitsValue (base : Nat) (digits : List Char) : Nat :=
  digits.foldl (fun n c => n * base + (Text.hexDigit? c).getD 0) 0

/-- A sign. It is true for a minus. -/
def sign : Reader Bool := do
  let c ← satisfy fun c => c = '+' || c = '-'
  return c = '-'

/-! ## Numbers -/

/-- The least number that rounds past the greatest binary fraction of 64 bits. -/
def overflowBound : Nat := (Nat.pow 2 54 - 1) * Nat.pow 2 970

/-- `mantissa · 10 ^ exponent` is at least the overflow bound. The number of digits decides,
except close to the bound. -/
def overflows (mantissa : Nat) (exponent : Int) : Bool :=
  if mantissa = 0 then false
  else
    let magnitude := (Nat.toDigits 10 mantissa).length + exponent
    if magnitude < 309 then false
    else if 310 < magnitude then true
    else overflowBound * Nat.pow 10 (-exponent).toNat ≤ mantissa * Nat.pow 10 exponent.toNat

/-- The exponent of a number. -/
def exponentPart : Reader Int := do
  discard (satisfy fun c => c = 'e' || c = 'E')
  let negative := (← optionally sign).getD false
  let magnitude := digitsValue 10 (← digits Char.isDigit)
  return if negative then -magnitude else magnitude

/-- The decimal places of a number. -/
def fractionPart : Reader (List Char) := do
  char '.'
  digits Char.isDigit

/-- A number in base ten, whole or not. Whole numbers have 64 bits; of the others, only those are
out of range that are too great. -/
def decimalNumber : Reader Unit := do
  let negative := (← optionally sign).getD false
  let whole ← wholeDigits
  let next ← peek
  let fraction ← if next = some '.' then some <$> fractionPart else pure none
  let next ← peek
  let exponent ← if next = some 'e' ∨ next = some 'E' then some <$> exponentPart else pure none
  if fraction.isNone && exponent.isNone then
    guard (digitsValue 10 whole < Nat.pow 2 63 + if negative then 1 else 0)
  else
    let places := fraction.getD []
    guard (negative ||
      !overflows (digitsValue 10 (whole ++ places)) (exponent.getD 0 - places.length))

/-- A whole number in a base that is a power of two, after a zero and the letter of the base. -/
def baseNumber (letter : Char) (base : Nat) (isDigit : Char → Bool) : Reader Unit := do
  word ['0', letter]
  guard (digitsValue base (← digits isDigit) < Nat.pow 2 63)

/-- Infinity, or what is no number. -/
def specialNumber : Reader Unit := do
  discard (optionally sign)
  word ['i', 'n', 'f'] <|> word ['n', 'a', 'n']

/-- A number. -/
def number : Reader Unit :=
  baseNumber 'x' 16 (fun c => (Text.hexDigit? c).isSome)
    <|> baseNumber 'o' 8 (fun c => '0' ≤ c && c ≤ '7')
    <|> baseNumber 'b' 2 (fun c => c = '0' || c = '1')
    <|> specialNumber
    <|> decimalNumber

/-! ## Dates and times -/

/-- A number of so many digits, within bounds. -/
def fixedNumber (count low high : Nat) : Reader Nat := do
  let digits ← (List.replicate count ()).mapM fun _ => satisfy Char.isDigit
  let n := digitsValue 10 digits
  guard (low ≤ n ∧ n ≤ high)
  return n

/-- The number of days of a month. -/
def daysInMonth (year month : Nat) : Nat :=
  if month = 2 then
    if year % 4 = 0 ∧ (year % 100 ≠ 0 ∨ year % 400 = 0) then 29 else 28
  else if month = 4 ∨ month = 6 ∨ month = 9 ∨ month = 11 then 30
  else 31

/-- A date. -/
def date : Reader Unit := do
  let year ← fixedNumber 4 0 9999
  char '-'
  let month ← fixedNumber 2 1 12
  char '-'
  discard (fixedNumber 2 1 (daysInMonth year month))

/-- A time of day. The seconds have to be given; a leap second is one. -/
def time : Reader Unit := do
  discard (fixedNumber 2 0 23)
  char ':'
  discard (fixedNumber 2 0 59)
  char ':'
  discard (fixedNumber 2 0 60)
  discard (optionally do
    char '.'
    discard (satisfy Char.isDigit)
    takeWhile Char.isDigit)

/-- The distance from universal time. -/
def offset : Reader Unit :=
  discard (satisfy fun c => c = 'Z' || c = 'z')
    <|> do
      discard sign
      discard (fixedNumber 2 0 23)
      char ':'
      discard (fixedNumber 2 0 59)

/-- A date, a time, or both. -/
def dateTime : Reader Unit :=
  (do
    date
    discard (optionally do
      discard (satisfy fun c => c = 'T' || c = 't' || c = ' ')
      time
      optionally offset))
    <|> time

end Investigations.Toml
