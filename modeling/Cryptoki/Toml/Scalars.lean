import Cryptoki.Toml.Strings
import Cryptoki.Toml.Value

/-!
Numbers, dates and times.
-/

namespace Cryptoki.Toml

open Text Reader

/-- Digits of a base, between which single underscores may stand. -/
def digits (base : Nat) : Reader (List Char) := do
  let d ← satisfy (isDigitOf base)
  return d :: (← many (do
    let _ ← optional (char '_')
    satisfy (isDigitOf base)))

/-- Whether there is a minus sign. -/
def sign : Reader Bool := (do char '-'; return true) <|> (do char '+'; return false) <|> pure false

/-- A decimal numeral without superfluous zeros. -/
def wholePart : Reader (List Char) := (do char '0'; return ['0']) <|> digits 10

/-- The values of 64 bits. -/
def minInteger : Int := -9223372036854775808
def maxInteger : Int := 9223372036854775807

def prefixed (mark : String) (base : Nat) : Reader Int := do
  text mark
  return numeral base (← digits base)

def decimalInteger : Reader Int := do
  let negative ← sign
  let n := numeral 10 (← wholePart)
  return if negative then -(n : Int) else n

def integer : Reader Int := do
  let n ← prefixed "0x" 16 <|> prefixed "0o" 8 <|> prefixed "0b" 2 <|> decimalInteger
  if minInteger ≤ n ∧ n ≤ maxInteger then return n else failure

/-- The power of ten after an `e`. -/
def exponentPart : Reader Int := do
  let _ ← satisfy fun c => c = 'e' || c = 'E'
  let negative ← sign
  let n := numeral 10 (← digits 10)
  return if negative then -(n : Int) else n

def fractionPart : Reader (List Char) := do
  char '.'
  digits 10

/-- A number with a fraction, an exponent or both. It may be too small but not too large. -/
def decimalFloat : Reader Binary64 := do
  let negative ← sign
  let whole ← wholePart
  let fraction ← optional fractionPart
  let power ← if fraction.isSome then optional exponentPart else some <$> exponentPart
  let places := fraction.getD []
  let x := Binary64.ofDecimal negative (numeral 10 (whole ++ places))
    (power.getD 0 - places.length)
  if x = .infinite false then failure else return x

def specialFloat : Reader Binary64 := do
  let negative ← sign
  (do text "inf"; return .infinite negative) <|> (do text "nan"; return .notANumber)

def float : Reader Binary64 := decimalFloat <|> specialFloat

def boolean : Reader Bool := (do text "true"; return true) <|> (do text "false"; return false)

/-- A number of so many digits within bounds. -/
def field (places low high : Nat) : Reader Nat := do
  let ds ← (List.replicate places ()).mapM fun _ => satisfy (isDigitOf 10)
  let n := numeral 10 ds
  if low ≤ n ∧ n ≤ high then return n else failure

def daysIn (year month : Nat) : Nat :=
  if month = 2 then
    if year % 4 = 0 ∧ (year % 100 ≠ 0 ∨ year % 400 = 0) then 29 else 28
  else if month = 4 ∨ month = 6 ∨ month = 9 ∨ month = 11 then 30 else 31

def date : Reader Unit := do
  let year ← field 4 0 9999
  char '-'
  let month ← field 2 1 12
  char '-'
  let _ ← field 2 1 (daysIn year month)

/-- A time of day. There may be a leap second. -/
def time : Reader Unit := do
  let _ ← field 2 0 23
  char ':'
  let _ ← field 2 0 59
  char ':'
  let _ ← field 2 0 60
  let _ ← optional (do char '.'; let _ ← spanWhile1 (isDigitOf 10))

def offset : Reader Unit :=
  (do let _ ← satisfy fun c => c = 'Z' || c = 'z') <|> (do
    let _ ← satisfy fun c => c = '+' || c = '-'
    let _ ← field 2 0 23
    char ':'
    let _ ← field 2 0 59)

def datetime : Reader String := do
  let written ← taken ((do
    date
    let _ ← optional (do
      let _ ← satisfy fun c => c = 'T' || c = 't' || c = ' '
      time
      optional offset)) <|> time)
  return String.ofList written

/-- A value that contains no other values. -/
def scalar : Reader Value :=
  Value.string <$> string <|> Value.datetime <$> datetime <|> Value.float <$> float
    <|> Value.integer <$> integer <|> Value.boolean <$> boolean

end Cryptoki.Toml
