import DocMapper.Unicode.CaseFolding
import DocMapper.Unicode.CharKind

namespace DocMapper

/-! # Sets of characters

The sets of characters that patterns are made of, as they are written, and their code points.
-/

/-- A set of characters. -/
inductive CharSet where
  | empty
  | range (first last : Char)
  | digit
  | blank
  | word
  /-- The characters with the given code points. -/
  | codes (s : CodeSet)
  | union (a b : CharSet)
  | inter (a b : CharSet)
  | diff (a b : CharSet)
  | symmDiff (a b : CharSet)
  | complement (a : CharSet)
  /-- The characters of the set, in any case. -/
  | anyCase (a : CharSet)
  /-- The characters of the set, letters of ASCII in any case. -/
  | anyAsciiCase (a : CharSet)
  deriving DecidableEq, Hashable

namespace CharSet

/-- One character. -/
def single (c : Char) : CharSet := range c c

/-- Every character. -/
def all : CharSet := complement empty

/-- The capital letters of ASCII. -/
def asciiUpper : CharSet := range 'A' 'Z'

/-- The small letters of ASCII. -/
def asciiLower : CharSet := range 'a' 'z'

/-- The letters of ASCII. -/
def asciiLetter : CharSet := union asciiUpper asciiLower

/-- The decimal digits of ASCII. -/
def asciiDigit : CharSet := range '0' '9'

/-- The white space of ASCII. -/
def asciiBlank : CharSet := union (range '\t' '\r') (single ' ')

/-- The characters of ASCII that words are made of. -/
def asciiWord : CharSet := union (union asciiDigit asciiLetter) (single '_')

/-- The character belongs to the set. -/
def contains : CharSet → Char → Bool
  | empty, _ => false
  | range first last, c => first ≤ c && c ≤ last
  | digit, c => CharKind.isDigit c
  | blank, c => CharKind.isBlank c
  | word, c => CharKind.isWord c
  | codes s, c => s.contains c.toNat
  | union a b, c => a.contains c || b.contains c
  | inter a b, c => a.contains c && b.contains c
  | diff a b, c => a.contains c && !b.contains c
  | symmDiff a b, c => a.contains c != b.contains c
  | complement a, c => !a.contains c
  | anyCase a, c => (CaseFolding.variants c).any a.contains
  | anyAsciiCase a, c => a.contains c || a.contains c.toUpper || a.contains c.toLower

/-- The code points of the set. -/
def toCodes : CharSet → CodeSet
  | empty => .empty
  | range first last => .range first.toNat last.toNat
  | digit => GeneralCategory.decimalNumber
  | blank => BooleanProperty.whiteSpace
  | word => CharKind.words
  | codes s => s
  | union a b => a.toCodes.union b.toCodes
  | inter a b => a.toCodes.inter b.toCodes
  | diff a b => a.toCodes.diff b.toCodes
  | symmDiff a b => a.toCodes.symmDiff b.toCodes
  | complement a => a.toCodes.complement
  | anyCase a => CaseFolding.close a.toCodes
  | anyAsciiCase a =>
    let s := a.toCodes
    let letters : List CodeRange := (List.range 26).flatMap fun n =>
      let upper := 'A'.toNat + n
      let lower := 'a'.toNat + n
      if s.contains upper || s.contains lower then [⟨upper, upper⟩, ⟨lower, lower⟩] else []
    s.union (.ofRanges letters)

end CharSet

end DocMapper
