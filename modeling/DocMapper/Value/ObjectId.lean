import DocMapper.Text

namespace DocMapper

/-! # Object identifiers -/

/-- A twelve-byte identifier. -/
structure ObjectId where
  bits : BitVec 96
  deriving DecidableEq

namespace ObjectId

/-- The identifier as 24 hexadecimal digits in lower case. -/
def hex (id : ObjectId) : String := String.ofList (Text.hexDigits 24 id.bits.toNat)

/-- Reads 24 hexadecimal digits in either case. -/
def ofHex? (s : String) : Option ObjectId :=
  let digits := s.toList
  if digits.length = 24 then
    (Text.ofHexDigits? digits).map fun n => ⟨BitVec.ofNat 96 n⟩
  else
    none

end ObjectId

end DocMapper
