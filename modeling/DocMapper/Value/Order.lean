import DocMapper.Value.Equality

namespace DocMapper

/-! # Numbers among values, and the order of values

Numbers of any width are compared on one line: the line of doubles, onto which a 64-bit integer
is rounded. Other values compare only with values of their own type.
-/

/-- A number as comparisons see it: a place in units of `2 ^ -1074`, or no place at all. -/
inductive Magnitude where
  | exact (n : Int)
  | nan
  deriving DecidableEq

namespace Magnitude

/-- The place of a double. -/
def ofDouble (x : Double) : Magnitude := if x.isNaN then nan else exact x.scaled

/-- Places are equal; a NaN equals nothing. -/
def equals : Magnitude → Magnitude → Bool
  | exact m, exact n => m == n
  | _, _ => false

/-- The order of places; a NaN has none. -/
def compare? : Magnitude → Magnitude → Option Ordering
  | exact m, exact n => some (compare m n)
  | _, _ => none

end Magnitude

namespace Value

/-- The integer that an integer value holds. -/
def toInt? : Value → Option Int
  | .int32 n => some n.toInt
  | .int64 n => some n.toInt
  | _ => none

/-- The double nearest to a number. -/
def toDouble? : Value → Option Double
  | .int32 n => some (.ofInt n.toInt)
  | .int64 n => some (.ofInt n.toInt)
  | .double x => some x
  | _ => none

/-- A number's place among the doubles. -/
def magnitude? (v : Value) : Option Magnitude := v.toDouble?.map .ofDouble

/-- Equality in the store: numbers by their places whatever their widths, anything else by type
and content. -/
def equals (a b : Value) : Bool :=
  match a.magnitude?, b.magnitude? with
  | some m, some n => m.equals n
  | _, _ => a == b

/-- The order of two values of one kind; values of other kinds, or of different kinds, have
none. -/
def compare? (a b : Value) : Option Ordering :=
  match a.magnitude?, b.magnitude? with
  | some m, some n => m.compare? n
  | _, _ =>
    match a, b with
    | .string s, .string t => some (compare s t)
    | .bool p, .bool q => some (compare p q)
    | .dateTime m, .dateTime n => some (compare m.toInt n.toInt)
    | .objectId i, .objectId j => some (compare i.bits.toNat j.bits.toNat)
    | _, _ => none

/-- The place of a value's type in a sorted list. A missing value sorts with null. -/
def rank : Option Value → Nat
  | none => 0
  | some .null => 0
  | some (.int32 _) => 1
  | some (.int64 _) => 1
  | some (.double _) => 1
  | some (.string _) => 2
  | some (.document _) => 3
  | some (.array _) => 4
  | some (.objectId _) => 5
  | some (.bool _) => 6
  | some (.dateTime _) => 7
  | some _ => 8

/-- The order of sorting: by value where the two have an order, by type otherwise. -/
def order (a b : Option Value) : Ordering :=
  match a, b with
  | some x, some y => (x.compare? y).getD (compare (rank a) (rank b))
  | _, _ => compare (rank a) (rank b)

/-- An integer as a 64-bit value, if it fits. -/
def ofInt64? (n : Int) : Option Value :=
  if Int64.minValue.toInt ≤ n ∧ n ≤ Int64.maxValue.toInt then some (.int64 (Int64.ofInt n))
  else none

/-- The sum of two numbers. Integers add exactly: two of 32 bits stay so while the sum fits and
widen otherwise, and a sum beyond 64 bits does not exist. Anything else adds as doubles. -/
def add? (a b : Value) : Option Value :=
  match a, b with
  | .int32 m, .int32 n =>
    let sum := m.toInt + n.toInt
    if Int32.minValue.toInt ≤ sum ∧ sum ≤ Int32.maxValue.toInt then
      some (.int32 (Int32.ofInt sum))
    else some (.int64 (Int64.ofInt sum))
  | _, _ =>
    match a.toInt?, b.toInt? with
    | some m, some n => ofInt64? (m + n)
    | _, _ =>
      match a.toDouble?, b.toDouble? with
      | some x, some y => some (.double (x.add y))
      | _, _ => none

end Value

end DocMapper
