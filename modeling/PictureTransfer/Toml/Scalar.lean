import PictureTransfer.Text.Numeral
import PictureTransfer.Toml.Scan
import PictureTransfer.Toml.Value

/-!
# Numbers, moments and truth values

The values that are neither texts nor made of other values. An integer fits 64 bits with a sign, a
float does not round up to infinity, and a date names a day of the calendar.
-/

namespace PictureTransfer.Toml.Scalar

open Scan Text

/-! ## Digits -/

/-- The digits at the front, with single underscores before some of them. -/
def digitsFrom (p : Char → Bool) : List Char → List Char × List Char
  | [] => ([], [])
  | '_' :: c :: rest =>
    if p c then
      let (digits, left) := digitsFrom p rest
      (c :: digits, left)
    else ([], '_' :: c :: rest)
  | c :: rest =>
    if p c then
      let (digits, left) := digitsFrom p rest
      (c :: digits, left)
    else ([], c :: rest)

/-- At least one digit; single underscores may stand between digits. -/
def digits (radix : Nat) : Scan (List Char) := do
  let first ← oneOf (Numeral.isDigit radix)
  let others ← fun rest => some (digitsFrom (Numeral.isDigit radix) rest)
  pure (first :: others)

/-- A sign, and whether it is a minus. -/
def negative : Scan Bool := do
  let mark ← maybe (oneOf fun c => c = '+' || c = '-')
  pure (mark = some '-')

/-- A decimal number with an optional sign and no leading zeros: whether it is negative, and its
digits. -/
def decimal : Scan (Bool × List Char) := do
  let minus ← negative
  let whole ← do
    let zero ← maybe (char '0')
    if zero.isSome then pure ['0'] else digits 10
  pure (minus, whole)

/-! ## Integers -/

/-- Whether a number fits 64 bits with a sign. -/
def fitsInt64 (n : Int) : Bool := Int64.minValue.toInt ≤ n && n ≤ Int64.maxValue.toInt

/-- Digits behind the letter of their radix. -/
def radixInteger (letter : Char) (radix : Nat) : Scan Int := do
  char '0'
  char letter
  let ds ← digits radix
  pure (Numeral.value radix ds)

def decimalInteger : Scan Int := do
  let (minus, ds) ← decimal
  let n : Int := Numeral.value 10 ds
  pure (if minus then -n else n)

/-- A decimal integer with an optional sign, or one in hexadecimal, octal or binary digits. -/
def integer : Scan Int := do
  let n ← radixInteger 'x' 16 <|> radixInteger 'o' 8 <|> radixInteger 'b' 2 <|> decimalInteger
  require (fitsInt64 n)
  pure n

/-! ## Floats -/

/-- From here on a number is rounded up to infinity. -/
def infinityBound : Nat := (1 <<< 1024) - (1 <<< 970)

/-- Whether `10 ^ exponent` times the number that the digits stand for is rounded up to
infinity. -/
def overflows (ds : List Char) (exponent : Int) : Bool :=
  let n := Numeral.value 10 ds
  -- Far from the bound the exponent alone decides, so that no power grows out of hand.
  match exponent with
  | .ofNat up => n != 0 && (400 < up || infinityBound ≤ n * Nat.pow 10 up)
  | .negSucc down => down < ds.length && infinityBound * Nat.pow 10 (down + 1) ≤ n

def exponent : Scan Int := do
  let _ ← oneOf fun c => c = 'e' || c = 'E'
  let minus ← negative
  let ds ← digits 10
  let n : Int := Numeral.value 10 ds
  pure (if minus then -n else n)

/-- A decimal number with a fraction, an exponent or both. -/
def decimalFloat : Scan Unit := do
  let (minus, whole) ← decimal
  let fraction ← maybe (do char '.'; digits 10)
  let power ← maybe exponent
  require (fraction.isSome || power.isSome)
  let places := fraction.getD []
  require (minus || !overflows (whole ++ places) (power.getD 0 - places.length))

/-- A float in digits, an infinity, or the value that is no number. -/
def float : Scan Unit := decimalFloat <|> do
  let _ ← negative
  word ['i', 'n', 'f'] <|> word ['n', 'a', 'n']

/-! ## Moments -/

/-- Exactly so many digits. -/
def fixedDigits : Nat → Scan (List Char)
  | 0 => pure []
  | n + 1 => do
    let c ← oneOf (Numeral.isDigit 10)
    let rest ← fixedDigits n
    pure (c :: rest)

/-- Two digits within bounds. -/
def twoDigits (low high : Nat) : Scan Nat := do
  let ds ← fixedDigits 2
  let n := Numeral.value 10 ds
  require (low ≤ n && n ≤ high)
  pure n

/-- How many days a month has. -/
def daysIn (year month : Nat) : Nat :=
  let leap := year % 4 = 0 ∧ (year % 100 ≠ 0 ∨ year % 400 = 0)
  if month = 2 then (if leap then 29 else 28)
  else if month = 4 ∨ month = 6 ∨ month = 9 ∨ month = 11 then 30
  else 31

def date : Scan Unit := do
  let year ← fixedDigits 4
  char '-'
  let month ← twoDigits 1 12
  char '-'
  let _ ← twoDigits 1 (daysIn (Numeral.value 10 year) month)

/-- A time of day; a minute may have a leap second. -/
def time : Scan Unit := do
  let _ ← twoDigits 0 23
  char ':'
  let _ ← twoDigits 0 59
  char ':'
  let _ ← twoDigits 0 60
  let _ ← maybe do
    char '.'
    let _ ← oneOf (Numeral.isDigit 10)
    fun rest => some ((), rest.dropWhile (Numeral.isDigit 10))

/-- What a time is ahead of universal time. -/
def offset : Scan Unit :=
  (do let _ ← oneOf fun c => c = 'Z' || c = 'z') <|> do
    let _ ← oneOf fun c => c = '+' || c = '-'
    let _ ← twoDigits 0 23
    char ':'
    let _ ← twoDigits 0 59

/-- A date, a time, or both with an optional offset. -/
def moment : Scan Unit :=
  (do
    date
    let _ ← maybe do
      let _ ← oneOf fun c => c = 'T' || c = 't' || c = ' '
      time
      let _ ← maybe offset) <|> time

/-- Any of the values of this file. -/
def value : Scan Value :=
  (do moment; pure .moment)
  <|> (do float; pure .float)
  <|> Value.integer <$> integer
  <|> (do word ['t', 'r', 'u', 'e'] <|> word ['f', 'a', 'l', 's', 'e']; pure .boolean)

end PictureTransfer.Toml.Scalar
