import DocMapper.Text

namespace DocMapper

/-! # Decimal floating point

Decimal numbers of 128 bits: a sign, a coefficient of up to 34 digits, and an exponent. The
exponent belongs to the number, so `1.5` and `1.50` are different.
-/

/-- A decimal number of 128 bits. -/
inductive Decimal128 where
  /-- The number `coefficient * 10 ^ exponent`, or its negative. -/
  | finite (negative : Bool) (coefficient : Nat) (exponent : Int)
  | infinite (negative : Bool)
  | nan (negative signaling : Bool)
  deriving DecidableEq

namespace Decimal128

/-- The most digits of a coefficient. -/
def maxDigits : Nat := 34

/-- The least exponent. -/
def minExponent : Int := -6176

/-- The greatest exponent. -/
def maxExponent : Int := 6111

/-- The bound of exponents that texts may write. -/
def writtenExponents : Int := 32768

/-! ## Fitting -/

/-- How many digits a coefficient has. -/
def digitCount (n : Nat) : Nat := (Nat.toDigits 10 n).length

/-- The number with `places` digits less at the end of its coefficient, which must be zeros. -/
def shorten? (n : Nat) (exponent : Int) (places : Nat) : Option (Nat × Int) :=
  let unit := Nat.pow 10 places
  if n % unit = 0 then some (n / unit, exponent + places) else none

/-- The number with `places` zeros more at the end of its coefficient, if there is room for
them. -/
def lengthen? (n : Nat) (exponent : Int) (places : Nat) : Option (Nat × Int) :=
  if digitCount n + places ≤ maxDigits then some (n * Nat.pow 10 places, exponent - places)
  else none

/-- The number with an exponent in range. A zero takes the nearest exponent; any other number must
keep its value. -/
def withExponentInRange? (n : Nat) (exponent : Int) : Option (Nat × Int) :=
  if n = 0 then some (0, max minExponent (min exponent maxExponent))
  else if exponent < minExponent then shorten? n exponent (minExponent - exponent).toNat
  else if maxExponent < exponent then lengthen? n exponent (exponent - maxExponent).toNat
  else some (n, exponent)

/-- The number with a coefficient and an exponent in range, if there is one of the same value. -/
def fit? (n : Nat) (exponent : Int) : Option (Nat × Int) := do
  let (n, exponent) ← shorten? n exponent (digitCount n - maxDigits)
  withExponentInRange? n exponent

/-! ## Reading -/

/-- Reads decimal digits. -/
def digits? (cs : List Char) : Option Nat :=
  if !cs.isEmpty && cs.all (·.isDigit) then
    some (cs.foldl (fun n c => 10 * n + (c.toNat - '0'.toNat)) 0)
  else none

/-- Splits a sign off. -/
def splitSign : List Char → Bool × List Char
  | '-' :: rest => (true, rest)
  | '+' :: rest => (false, rest)
  | cs => (false, cs)

/-- Reads an exponent. -/
def exponent? (cs : List Char) : Option Int := do
  let (negative, cs) := splitSign cs
  let n ← digits? cs
  let e : Int := if negative then -n else n
  if -writtenExponents ≤ e ∧ e < writtenExponents then some e else none

/-- Reads digits, among which there may be a point, as a whole number and how many of its digits
stand after the point. -/
def coefficient? (cs : List Char) : Option (Nat × Nat) :=
  match Text.cut '.' cs with
  | (whole, []) => (digits? whole).map (·, 0)
  | (whole, [fraction]) => (digits? (whole ++ fraction)).map (·, fraction.length)
  | _ => none

/-- Reads digits and perhaps an exponent after the letter `e`. -/
def finite? (negative : Bool) (cs : List Char) : Option Decimal128 := do
  let (coefficient, exponent) ← match Text.cut 'e' cs with
    | (coefficient, []) => some (coefficient, 0)
    | (coefficient, [exponent]) => (exponent? exponent).map (coefficient, ·)
    | _ => none
  let (n, places) ← coefficient? coefficient
  let (n, exponent) ← fit? n (exponent - places)
  return finite negative n exponent

/-- The number that a text writes, with letters in either case. -/
def ofText? (text : String) : Option Decimal128 :=
  let (negative, cs) := splitSign text.toList
  let cs := cs.map Char.toLower
  match String.ofList cs with
  | "nan" => some (nan negative false)
  | "snan" => some (nan negative true)
  | "inf" | "infinity" => some (infinite negative)
  | _ => finite? negative cs

/-! ## Writing -/

/-- The digits of a coefficient with the point before the last `places` of them. -/
def withPoint (digits : List Char) (places : Nat) : List Char :=
  if places = 0 then digits
  else
    let padded := List.replicate (places + 1 - digits.length) '0' ++ digits
    let whole := padded.length - places
    padded.take whole ++ '.' :: padded.drop whole

/-- A coefficient with the point after its first digit, and the exponent that goes with it. -/
def scientific (digits : List Char) (exponent : Int) : List Char :=
  let point := if digits.length ≤ 1 then [] else ['.']
  let sign := if 0 < exponent then ['+'] else []
  digits.take 1 ++ point ++ digits.drop 1 ++ 'E' :: sign ++ (toString exponent).toList

/-- The text of a number. An exponent is written if it is positive, or if there would be more than
five zeros after the point. -/
def text : Decimal128 → String
  | nan _ _ => "NaN"
  | infinite negative => if negative then "-Infinity" else "Infinity"
  | finite negative coefficient exponent =>
    let digits := Nat.toDigits 10 coefficient
    let leading := exponent + digits.length - 1
    let written :=
      if exponent ≤ 0 ∧ -6 ≤ leading then withPoint digits exponent.natAbs
      else scientific digits leading
    String.ofList (if negative then '-' :: written else written)

end Decimal128

end DocMapper
