/-!
Floating point numbers of 64 bits: the one nearest to a decimal numeral, and the shortest decimal
numeral that is nearest to it.

Both directions compute with whole numbers only, so they are exact.
-/

namespace Cryptoki.Text

/-- A finite number stands for `mantissa * 2 ^ exponent`, with a mantissa below `2 ^ 53`. -/
inductive Binary64 where
  | notANumber
  | infinite (negative : Bool)
  | finite (negative : Bool) (mantissa : Nat) (exponent : Int)
  deriving DecidableEq, Repr

namespace Binary64

/-- A fraction of whole numbers. -/
structure Ratio where
  num : Nat
  den : Nat
  deriving DecidableEq, Repr

namespace Ratio

/-- Multiplies by a power of the base, which may be negative. -/
def scale (r : Ratio) (base : Nat) (power : Int) : Ratio :=
  match power with
  | .ofNat n => ⟨r.num * Nat.pow base n, r.den⟩
  | .negSucc n => ⟨r.num, r.den * Nat.pow base (n + 1)⟩

def floor (r : Ratio) : Nat := r.num / r.den

/-- The nearest whole number, the even one of two that are equally near. -/
def round (r : Ratio) : Nat :=
  let q := r.num / r.den
  let twice := 2 * (r.num % r.den)
  if twice < r.den then q
  else if twice > r.den then q + 1
  else if q % 2 = 0 then q else q + 1

def less (r s : Ratio) : Bool := r.num * s.den < s.num * r.den

end Ratio

/-- The least mantissa of 53 bits. -/
def fullMantissa : Nat := 0x10000000000000

/-- The exponents of the smallest and the largest numbers. -/
def minExponent : Int := -1074
def maxExponent : Int := 971

/-- The exponent that gives a number a mantissa of 53 bits, or the smallest exponent. -/
def exponentFor (r : Ratio) : Int :=
  let e : Int := r.num.log2 - r.den.log2 - 52
  let e := if (r.scale 2 (-e)).floor < fullMantissa then e - 1 else e
  max e minExponent

def nearest (negative : Bool) (r : Ratio) : Binary64 :=
  let e := exponentFor r
  let m := (r.scale 2 (-e)).round
  let (m, e) := if m = 2 * fullMantissa then (fullMantissa, e + 1) else (m, e)
  if e > maxExponent then .infinite negative else .finite negative m e

/-- The number nearest to `digits * 10 ^ power`. Powers far out of reach are not computed. -/
def ofDecimal (negative : Bool) (digits : Nat) (power : Int) : Binary64 :=
  let places : Int := (Nat.toDigits 10 digits).length + power
  if digits = 0 ∨ places < -330 then .finite negative 0 minExponent
  else if places > 310 then .infinite negative
  else nearest negative (Ratio.scale ⟨digits, 1⟩ 10 power)

/-- The place of the first digit: the least `p` with the number below `10 ^ p`. -/
def firstPlace (r : Ratio) : Int :=
  let p := (List.range 650).find? fun i => r.less (Ratio.scale ⟨1, 1⟩ 10 (Int.ofNat i - 330))
  Int.ofNat (p.getD 0) - 330

/-- All numerals in the range from `low` to `high` have this number as the nearest one; the ends
belong to it if the mantissa is even. -/
structure Neighbourhood where
  low : Ratio
  value : Ratio
  high : Ratio
  closed : Bool

/-- Below a power of two the numbers are twice as dense as above it. -/
def neighbourhood (mantissa : Nat) (exponent : Int) : Neighbourhood :=
  let below := if mantissa = fullMantissa ∧ exponent > minExponent then 1 else 2
  { low := Ratio.scale ⟨4 * mantissa - below, 4⟩ 2 exponent
    value := Ratio.scale ⟨4 * mantissa, 4⟩ 2 exponent
    high := Ratio.scale ⟨4 * mantissa + 2, 4⟩ 2 exponent
    closed := mantissa % 2 = 0 }

def Neighbourhood.holds (h : Neighbourhood) (r : Ratio) : Bool :=
  if h.closed then !r.less h.low && !h.high.less r else h.low.less r && r.less h.high

/-- The numeral with so many digits that lies in the neighbourhood, and nearest to the number. -/
def numeralOf (h : Neighbourhood) (place : Int) (digits : Nat) : Option (Nat × Int) :=
  let power := place - digits
  let scaled := h.value.scale 10 (-power)
  let down := scaled.floor
  let inside (d : Nat) : Bool := h.holds (Ratio.scale ⟨d, 1⟩ 10 power)
  let upNearer := 2 * (scaled.num % scaled.den) ≥ scaled.den
  match inside down, inside (down + 1) with
  | true, true => some (if upNearer then down + 1 else down, power)
  | true, false => some (down, power)
  | false, true => some (down + 1, power)
  | false, false => none

/-- The shortest numeral. Seventeen digits are always enough. -/
def shortest (mantissa : Nat) (exponent : Int) : Nat × Int :=
  let h := neighbourhood mantissa exponent
  let place := firstPlace h.value
  ((List.range 17).findSome? fun n => numeralOf h place (n + 1)).getD (0, 0)

def zeros (n : Nat) : List Char := List.replicate n '0'

/-- A numeral without an exponent, with a decimal point only where it has a fraction. -/
def positional (digits : Nat) (power : Int) : List Char :=
  let shown := Nat.toDigits 10 digits
  match power with
  | .ofNat n => if digits = 0 then ['0'] else shown ++ zeros n
  | .negSucc n =>
    let padded := zeros (n + 2 - shown.length) ++ shown
    let whole := padded.take (padded.length - (n + 1))
    let fraction := padded.drop (padded.length - (n + 1))
    let kept := (fraction.reverse.dropWhile (· = '0')).reverse
    if kept.isEmpty then whole else whole ++ '.' :: kept

/-- The shortest text of a number; one without a fraction shows that it might have one. -/
def text : Binary64 → String
  | .notANumber => "NaN"
  | .infinite negative => if negative then "-inf" else "inf"
  | .finite negative mantissa exponent =>
    let (digits, power) := if mantissa = 0 then (0, 0) else shortest mantissa exponent
    let shown := positional digits power
    let shown := if shown.contains '.' then shown else shown ++ ['.', '0']
    (if negative then "-" else "") ++ String.ofList shown

end Binary64

end Cryptoki.Text
