/-!
Readers: functions that take characters from the front of a text, or fail.

A reader that fails has taken nothing, so that another can be tried instead.
-/

namespace Cryptoki.Text

abbrev Reader := StateT (List Char) Option

/-- A stretch of a text. A reader knows only what is left of its text, so the places are counted
from the end: how many characters are left where the stretch begins, and how many after it. -/
structure Span where
  first : Nat
  rest : Nat
  deriving DecidableEq, Repr

namespace Reader

variable {α β : Type}

/-- What a reader makes of a whole text. -/
def readAll (p : Reader α) (s : String) : Option α :=
  match p s.toList with
  | some (a, []) => some a
  | _ => none

def satisfy (p : Char → Bool) : Reader Char
  | c :: cs => if p c then some (c, cs) else none
  | [] => none

def char (c : Char) : Reader Unit := do let _ ← satisfy (· = c)

def text (s : String) : Reader Unit := s.toList.forM char

def atEnd : Reader Unit
  | [] => some ((), [])
  | _ => none

/-- The longest run of characters that satisfy `p`, which may be empty. -/
def spanWhile (p : Char → Bool) : Reader (List Char) := fun cs => some (cs.span p)

/-- A run that is not empty. -/
def spanWhile1 (p : Char → Bool) : Reader (List Char) := do
  let c ← satisfy p
  return c :: (← spanWhile p)

def manyFrom (p : Reader α) : Nat → Reader (List α)
  | 0 => pure []
  | n + 1 => (do
      let a ← p
      return a :: (← manyFrom p n)) <|> pure []

/-- As many as there are of something that has one character at least. -/
def many (p : Reader α) : Reader (List α) := fun cs => manyFrom p cs.length cs

/-- One or more, with separators between them. -/
def sepBy1 (p : Reader α) (separator : Reader β) : Reader (List α) := do
  let a ← p
  return a :: (← many (separator *> p))

/-- Any number, with separators between them. -/
def sepBy (p : Reader α) (separator : Reader β) : Reader (List α) :=
  sepBy1 p separator <|> pure []

/-- The characters that a reader takes. -/
def taken (p : Reader α) : Reader (List Char) := fun cs =>
  match p cs with
  | some (_, rest) => some (cs.take (cs.length - rest.length), rest)
  | none => none

/-- What a reader reads, and where. -/
def spanned (p : Reader α) : Reader (α × Span) := fun cs =>
  match p cs with
  | some (a, rest) => some ((a, ⟨cs.length, rest.length⟩), rest)
  | none => none

end Reader

/-- The value of a digit in any base up to sixteen. -/
def digitValue? (c : Char) : Option Nat :=
  if '0' ≤ c ∧ c ≤ '9' then some (c.toNat - '0'.toNat)
  else if 'a' ≤ c ∧ c ≤ 'f' then some (c.toNat - 'a'.toNat + 10)
  else if 'A' ≤ c ∧ c ≤ 'F' then some (c.toNat - 'A'.toNat + 10)
  else none

/-- A digit of the base. -/
def isDigitOf (base : Nat) (c : Char) : Bool := (digitValue? c).any (· < base)

/-- The value of a numeral, the digit of the highest place first. -/
def numeral (base : Nat) (digits : List Char) : Nat :=
  digits.foldl (fun n c => n * base + (digitValue? c).getD 0) 0

end Cryptoki.Text
