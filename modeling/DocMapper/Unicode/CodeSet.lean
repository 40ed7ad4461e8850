import DocMapper.Text

namespace DocMapper

/-! # Sets of code points

Sets of code points as ranges, with the algebra of sets, and their written form in the tables of
character properties.
-/

/-- The code points from `first` to `last`. -/
structure CodeRange where
  first : Nat
  last : Nat
  deriving DecidableEq

/-- A set of code points, as ranges in ascending order with gaps between them. -/
structure CodeSet where
  ranges : List CodeRange
  deriving DecidableEq

namespace CodeSet

/-- Sets are told apart quickly by the number of their ranges and the first of them. -/
instance : Hashable CodeSet where
  hash s := mixHash (hash s.ranges.length) (hash (s.ranges.head?.map (·.first)))

/-- The last code point. -/
def lastCode : Nat := 0x10FFFF

/-- No code point. -/
def empty : CodeSet := ⟨[]⟩

/-- Every code point. -/
def all : CodeSet := ⟨[⟨0, lastCode⟩]⟩

/-- The code points from `first` to `last`. -/
def range (first last : Nat) : CodeSet := ⟨[⟨first, last⟩]⟩

/-- The code point belongs to the set. -/
def contains (s : CodeSet) (code : Nat) : Bool :=
  s.ranges.any fun r => r.first ≤ code && code ≤ r.last

/-! ## Algebra -/

/-- Puts a range before ranges that start no earlier, and joins it with those that it meets or
touches. -/
def join (r : CodeRange) : List CodeRange → List CodeRange
  | [] => [r]
  | s :: rest =>
    if s.first ≤ r.last + 1 then join ⟨r.first, max r.last s.last⟩ rest else r :: s :: rest

/-- The set that ranges in any order make up. -/
def ofRanges (ranges : List CodeRange) : CodeSet :=
  let sorted := ranges.mergeSort fun a b => a.first ≤ b.first
  ⟨sorted.foldr join []⟩

/-- The code points of both sets together. -/
def union (a b : CodeSet) : CodeSet := ofRanges (a.ranges ++ b.ranges)

/-- The code points of several sets together. -/
def unions (sets : List CodeSet) : CodeSet := ofRanges (sets.flatMap (·.ranges))

/-- The ranges between the given ones, from `next` on. -/
def gaps (next : Nat) : List CodeRange → List CodeRange
  | [] => if next ≤ lastCode then [⟨next, lastCode⟩] else []
  | r :: rest =>
    if next < r.first then ⟨next, r.first - 1⟩ :: gaps (r.last + 1) rest
    else gaps (r.last + 1) rest

/-- The other code points. -/
def complement (s : CodeSet) : CodeSet := ⟨gaps 0 s.ranges⟩

/-- The code points that both sets have. -/
def inter (a b : CodeSet) : CodeSet := (a.complement.union b.complement).complement

/-- The code points of `a` that `b` does not have. -/
def diff (a b : CodeSet) : CodeSet := (a.complement.union b).complement

/-- The code points of one of the sets alone. -/
def symmDiff (a b : CodeSet) : CodeSet := (a.diff b).union (b.diff a)

/-! ## Written form

A set is written as ranges between blanks: `41-5A` from one hexadecimal code point to another,
`5F` for a single one, and `100-12E/2` for every second one of a range.
-/

/-- Every second code point, `count` of them. -/
def alternate (first : Nat) : (count : Nat) → List CodeRange
  | 0 => []
  | count + 1 => ⟨first, first⟩ :: alternate (first + 2) count

/-- Reads one written range. -/
def readRange (word : List Char) : List CodeRange :=
  let number (digits : List Char) : Nat := (Text.ofHexDigits? digits).getD 0
  let (bounds, steps) := Text.cut '/' word
  let (first, last) := Text.cut '-' bounds
  let first := number first
  let last := (last.map number).headD first
  if steps.isEmpty then [⟨first, last⟩] else alternate first ((last - first) / 2 + 1)

/-- Reads a written set. -/
def ofText (text : String) : CodeSet :=
  let (first, others) := Text.cut ' ' (text.toList.map fun c => if c = '\n' then ' ' else c)
  ofRanges (((first :: others).filter (!·.isEmpty)).flatMap readRange)

end CodeSet

end DocMapper
