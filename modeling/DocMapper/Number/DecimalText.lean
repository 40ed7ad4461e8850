import DocMapper.Number.Double

namespace DocMapper

/-! # Decimal text of doubles

A finite double is written with the fewest significant digits that read back as the same double,
and among those with the digits nearest to its value. The text is positional: it never has an
exponent, and whole numbers have no decimal point.
-/

/-- The number `digits * 10 ^ exponent`. -/
structure Decimal where
  digits : Nat
  exponent : Int
  deriving DecidableEq

namespace Decimal

/-- How many decimal digits a number has; `0` has one. -/
def digitCount (n : Nat) : Nat := (Nat.toDigits 10 n).length

/-- The exponent `e` with `10 ^ (e - 1) ≤ value < 10 ^ e`, for a positive value in units of
`2 ^ -1074`. -/
def pointPosition (magnitude : Nat) : Int :=
  if Double.unitsPerOne ≤ magnitude then digitCount (magnitude / Double.unitsPerOne)
  else 1 - (digitCount ((Double.unitsPerOne - 1) / magnitude) : Int)

/-- The value in units of `2 ^ -1074` as a multiple of `10 ^ exponent`: a quotient of two natural
numbers. -/
def onGrid (magnitude : Nat) (exponent : Int) : Nat × Nat :=
  match exponent with
  | .ofNat e => (magnitude, Double.unitsPerOne * Nat.pow 10 e)
  | .negSucc e => (magnitude * Nat.pow 10 (e + 1), Double.unitsPerOne)

/-- The point of the grid of `10 ^ exponent` that reads back as `x`: the nearer one if both
neighbours of the value do, and of two equally near ones the one farther from zero. -/
def readingBack? (x : Double) (exponent : Int) : Option Decimal :=
  let (num, den) := onGrid x.magnitude exponent
  let below := num / den
  let (nearer, farther) :=
    if den ≤ 2 * (num % den) then (below + 1, below) else (below, below + 1)
  if Double.ofDecimal x.isNegative nearer exponent = x then some ⟨nearer, exponent⟩
  else if Double.ofDecimal x.isNegative farther exponent = x then some ⟨farther, exponent⟩
  else none

/-- The point that reads back on the coarsest grid that has one. The first grid is that of the
next power of ten, to which a value just below it may read back; the last has `17` digits, and
always has a point. -/
def shortest (x : Double) : Decimal :=
  let point := pointPosition x.magnitude
  let tries := (List.range 18).findSome? fun n => readingBack? x (point - (n : Nat))
  tries.getD ⟨0, 0⟩

/-- Positional notation. -/
def text (d : Decimal) : String :=
  let digits := Nat.toDigits 10 d.digits
  match d.exponent with
  | .ofNat e => String.ofList (digits ++ List.replicate e '0')
  | .negSucc e =>
    let places := e + 1
    let padded := List.replicate (places + 1 - digits.length) '0' ++ digits
    let whole := padded.length - places
    String.ofList (padded.take whole ++ '.' :: padded.drop whole)

end Decimal

namespace Double

/-- The text of a double: `inf`, `NaN`, or its shortest decimal. -/
def text (x : Double) : String :=
  if x.isNaN then "NaN"
  else
    let sign := if x.isNegative then "-" else ""
    if x.isInfinite then sign ++ "inf"
    else if x.magnitude = 0 then sign ++ "0"
    else sign ++ (Decimal.shortest x).text

end Double

end DocMapper
