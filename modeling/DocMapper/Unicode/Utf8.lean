import DocMapper.Unicode.CodeSet

namespace DocMapper

/-! # Ranges of encoded code points

The UTF-8 encodings of a range of code points, as sequences of ranges of bytes: a sequence stands
for all texts that take one byte of each of its ranges.
-/

/-- The bytes from `first` to `last`. -/
structure ByteRange where
  first : Nat
  last : Nat
  deriving DecidableEq

namespace Utf8

/-- How many bytes the encoding of a code point has. -/
def width (code : Nat) : Nat :=
  if code < 0x80 then 1 else if code < 0x800 then 2 else if code < 0x10000 then 3 else 4

/-- The encoding of a code point. -/
def bytes (code : Nat) : List Nat :=
  let following (n : Nat) : Nat := 0x80 + n % 0x40
  match width code with
  | 1 => [code]
  | 2 => [0xC0 + code / 0x40, following code]
  | 3 => [0xE0 + code / 0x1000, following (code / 0x40), following code]
  | _ => [0xF0 + code / 0x40000, following (code / 0x1000), following (code / 0x40), following code]

/-- Where a range of code points has to be cut, as the last code point before the cut: between
encodings of different widths, and where a part of a block of `64`, of `64 * 64` or of
`64 * 64 * 64` code points meets another block. -/
def cut? (first last : Nat) : Option Nat :=
  let atWidth := [0x7F, 0x7FF, 0xFFFF].find? fun n => first ≤ n && n < last
  let atBlock (size : Nat) : Option Nat :=
    if first / size = last / size then none
    else if first % size ≠ 0 then some (first / size * size + (size - 1))
    else if last % size ≠ size - 1 then some (last / size * size - 1)
    else none
  if last < 0x80 then none
  else atWidth <|> atBlock 0x40 <|> atBlock 0x1000 <|> atBlock 0x40000

/-- The encodings of the code points of a range, in order. Surrogates have none. A range is cut in
two at most a few times for every byte of an encoding. -/
def sequences : (fuel : Nat) → (first last : Nat) → List (List ByteRange)
  | 0, _, _ => []
  | fuel + 1, first, last =>
    if first < 0xE000 ∧ 0xD7FF < last then
      sequences fuel first 0xD7FF ++ sequences fuel 0xE000 last
    else if last < first then []
    else
      match cut? first last with
      | some n => sequences fuel first n ++ sequences fuel (n + 1) last
      | none => [(bytes first).zipWith ByteRange.mk (bytes last)]

/-- The encodings of the code points of a set, in order. -/
def sequencesOf (s : CodeSet) : List (List ByteRange) :=
  s.ranges.flatMap fun r => sequences 32 r.first r.last

end Utf8

end DocMapper
