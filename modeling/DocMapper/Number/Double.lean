namespace DocMapper

/-! # Binary64 numbers

A double is its 64 bits. Every operation here works on the exact value of a double, an
integer in units of `2 ^ -1074` (the smallest positive double), so that equality, order and
rounding are statements about integers. An infinity sits where the next larger exponent would
put it, above every finite double.
-/

/-- A binary64 floating-point number, given by its bits. -/
structure Double where
  bits : BitVec 64
  deriving DecidableEq

namespace Double

/-- The sign bit is set. -/
def isNegative (x : Double) : Bool := x.bits.msb

/-- The bits without the sign bit: they grow with the absolute value. -/
def rank (x : Double) : Nat := (x.bits.setWidth 63).toNat

/-- How many ranks share an exponent. -/
def binade : Nat := Nat.pow 2 52

/-- The rank of the infinities. Larger ranks are not numbers. -/
def infiniteRank : Nat := 2047 * binade

/-- The double is no number. -/
def isNaN (x : Double) : Bool := infiniteRank < x.rank

/-- The double is an infinity. -/
def isInfinite (x : Double) : Bool := x.rank == infiniteRank

/-- The double is a number. -/
def isFinite (x : Double) : Bool := x.rank < infiniteRank

/-- The absolute value of the double with the given rank, in units of `2 ^ -1074`. -/
def magnitudeOfRank (rank : Nat) : Nat :=
  let exponent := rank / binade
  let fraction := rank % binade
  if exponent = 0 then fraction else (binade + fraction) * Nat.pow 2 (exponent - 1)

/-- The absolute value in units of `2 ^ -1074`. -/
def magnitude (x : Double) : Nat := magnitudeOfRank x.rank

/-- The value in units of `2 ^ -1074`. Both zeros have the value `0`. -/
def scaled (x : Double) : Int := if x.isNegative then -(x.magnitude : Int) else x.magnitude

/-- The double with the given sign and rank. -/
def ofRank (negative : Bool) (rank : Nat) : Double :=
  ⟨BitVec.ofBool negative ++ BitVec.ofNat 63 rank⟩

/-- The canonical value that is not a number. -/
def nan : Double := ofRank false (infiniteRank + binade / 2)

/-- The infinity of a sign. -/
def infinity (negative : Bool) : Double := ofRank negative infiniteRank

/-- The zero of a sign. -/
def zero (negative : Bool) : Double := ofRank negative 0

/-- The quotient rounded to the nearest integer, a half going to the even one. -/
def roundQuotient (num den : Nat) : Nat :=
  let q := num / den
  let r := num % den
  if 2 * r < den then q
  else if den < 2 * r then q + 1
  else q + q % 2

/-- The rank of the double nearest to `num / den` units of `2 ^ -1074`, ties going to the even
significand. A significand of 53 bits at shift `s` has the rank `s * binade + significand`, and
a significand that rounds up to `2 ^ 53` carries into the exponent by the same formula. -/
def nearestRank (num den : Nat) : Nat :=
  let shift := (num / den).log2 - 52
  min (shift * binade + roundQuotient num (den * Nat.pow 2 shift)) infiniteRank

/-- The double nearest to `± num / den` units of `2 ^ -1074`. -/
def nearest (negative : Bool) (num den : Nat) : Double :=
  ofRank negative (nearestRank num den)

/-- The number of units in one. -/
def unitsPerOne : Nat := Nat.pow 2 1074

/-- The double nearest to an integer. -/
def ofInt (n : Int) : Double := nearest (n < 0) (n.natAbs * unitsPerOne) 1

/-- The double nearest to `digits * 10 ^ exponent`, as reading a decimal numeral gives it. -/
def ofDecimal (negative : Bool) (digits : Nat) (exponent : Int) : Double :=
  match exponent with
  | .ofNat e => nearest negative (digits * Nat.pow 10 e * unitsPerOne) 1
  | .negSucc e => nearest negative (digits * unitsPerOne) (Nat.pow 10 (e + 1))

/-- The sum, rounded once. Opposite infinities have no sum, and an exact zero is negative only
when both operands are. -/
def add (x y : Double) : Double :=
  if x.isNaN then x
  else if y.isNaN then y
  else if x.isInfinite then
    if y.isInfinite && x.isNegative != y.isNegative then nan else x
  else if y.isInfinite then y
  else
    let sum := x.scaled + y.scaled
    if sum = 0 then zero (x.isNegative && y.isNegative)
    else nearest (sum < 0) sum.natAbs 1

/-- The quotient by a positive whole number, rounded once. -/
def divideBy (x : Double) (count : Nat) : Double :=
  if x.isNaN then x
  else if x.isInfinite then x
  else nearest x.isNegative x.magnitude count

/-- Equality of values: both zeros are equal, and a NaN equals nothing. -/
def equals (x y : Double) : Bool :=
  !x.isNaN && !y.isNaN && x.scaled == y.scaled

/-- The integer that a finite double denotes, if it denotes one. -/
def toInt? (x : Double) : Option Int :=
  if x.isFinite && x.magnitude % unitsPerOne == 0 then
    let n : Int := (x.magnitude / unitsPerOne : Nat)
    some (if x.isNegative then -n else n)
  else
    none

/-- The value cut toward zero and held to the range of an unsigned word of `width` bits; a NaN
gives `0`. -/
def toUnsigned (width : Nat) (x : Double) : Nat :=
  if x.isNaN || x.isNegative then 0
  else min (x.magnitude / unitsPerOne) (Nat.pow 2 width - 1)

end Double

end DocMapper
