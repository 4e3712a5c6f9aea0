import Cryptoki.Word

/-!
Words written in decimal.

A numeral is read from its first digit on, and each digit makes what was read before ten times as
large. It is no word if the result ever gets too large for one. That need not be looked at in a
numeral of few characters.
-/

namespace Cryptoki.Text.Numeral

def digit? (c : Char) : Option Word :=
  if c.isDigit then some (UInt64.ofNat (c.toNat - '0'.toNat)) else none

/-- The product, unless it is too large. -/
def mul? (m n : Word) : Option Word :=
  if m.toNat * n.toNat < UInt64.size then some (m * n) else none

/-- The sum, unless it is too large. -/
def add? (m n : Word) : Option Word :=
  if m.toNat + n.toNat < UInt64.size then some (m + n) else none

/-- Puts one more digit behind a number. -/
def push? (n : Word) (c : Char) : Option Word := do add? (← mul? n 10) (← digit? c)

/-- Puts one more digit behind a number that is known to be small enough. -/
def pushSmall? (n : Word) (c : Char) : Option Word := do return n * 10 + (← digit? c)

/-- So many digits always make a word. -/
def smallLength : Nat := 16

/-- The number that some digits make, of which there has to be one. -/
def digits? (cs : List Char) : Option Word :=
  if cs = [] then none
  else if cs.length ≤ smallLength then cs.foldlM pushSmall? 0
  else cs.foldlM push? 0

/-- Digits, in front of which a plus sign may stand. -/
def word? (s : String) : Option Word :=
  match s.toList with
  | '+' :: cs => digits? cs
  | cs => digits? cs

end Cryptoki.Text.Numeral
