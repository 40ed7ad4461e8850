import DocMapper.Unicode.BooleanProperty

namespace DocMapper

/-! # Kinds of characters

The decimal digits, the blanks and the characters that make up words, in all scripts and among the
first 128 characters.
-/

namespace CharKind

open GeneralCategory BooleanProperty

/-- Letters, marks, digits, connectors and joiners. -/
def words : CodeSet :=
  .unions [alphabetic, mark, decimalNumber, connectorPunctuation, joinControl]

/-- A decimal digit of any script. -/
def isDigit (c : Char) : Bool := decimalNumber.contains c.toNat

/-- White space. -/
def isBlank (c : Char) : Bool := whiteSpace.contains c.toNat

/-- A character that words are made of. -/
def isWord (c : Char) : Bool := words.contains c.toNat

/-- A letter or digit of ASCII, or an underscore. -/
def isAsciiWord (c : Char) : Bool := c.isAlphanum || c = '_'

/-- A letter of any script, or what is used like one. -/
def isLetter (c : Char) : Bool := alphabetic.contains c.toNat

/-- A number of any script. -/
def isNumber (c : Char) : Bool := number.contains c.toNat

end CharKind

end DocMapper
