import DocMapper.Number.DecimalText
import DocMapper.Value.Basic

namespace DocMapper

/-! # Identities of values

The identity of a value is its extended JSON form, in which every type has a notation of its own,
as the sequence of its tokens. Whole numbers share one notation whatever their width, so that a
number has the same identity before and after it was stored. The order of keys counts.
-/

/-- A token of extended JSON. -/
inductive IdentityToken where
  | null
  | bool (b : Bool)
  | text (s : String)
  | number (n : Nat)
  /-- A double that is written as a bare number. -/
  | bareDouble (x : Double)
  | listStart
  | listEnd
  | objectStart
  | objectEnd
  deriving DecidableEq

/-- The tokens of a value in extended JSON. -/
abbrev Identity := List IdentityToken

namespace Identity

/-- An object with one member. -/
def tagged (key : String) (content : Identity) : Identity :=
  .objectStart :: .text key :: content ++ [.objectEnd]

/-- An object whose only member is a text. -/
def taggedText (key s : String) : Identity := tagged key [.text s]

/-- A whole number. -/
def ofInt (n : Int) : Identity := taggedText "$numberLong" (toString n)

/-- A double in a notation that only doubles have. The very small ones have none but the bare
number. -/
def ofOwnDouble (x : Double) : Identity :=
  let sign := if x.isNegative then "-" else ""
  if x.isNaN then taggedText "$numberDouble" (sign ++ "NaN")
  else if x.isInfinite then taggedText "$numberDouble" (sign ++ "Infinity")
  else if x.toInt?.isSome then taggedText "$numberDouble" (x.text ++ ".0")
  else if x.rank < Double.binade then [.bareDouble x]
  else taggedText "$numberDouble" x.text

/-- A double. Those that denote integers of less than 64 bits are whole numbers. -/
def ofDouble (x : Double) : Identity :=
  match x.toInt? with
  | some n => if n.natAbs ≤ Int64.maxValue.toInt.toNat then ofInt n else ofOwnDouble x
  | none => ofOwnDouble x

/-- The letters of a text in order of their codes. -/
def sortedLetters (s : String) : String :=
  String.ofList (s.toList.mergeSort fun a b => a.toNat ≤ b.toNat)

end Identity

/-- How numbers are written: whole numbers in one notation, or each type in its own. -/
inductive Numerals where
  | shared
  | own

namespace Numerals

/-- A number of 32 bits. -/
def ofInt32 : Numerals → Int32 → Identity
  | shared, n => Identity.ofInt n.toInt
  | own, n => Identity.taggedText "$numberInt" (toString n.toInt)

/-- A double. -/
def ofDouble : Numerals → Double → Identity
  | shared, x => Identity.ofDouble x
  | own, x => Identity.ofOwnDouble x

@[simp] theorem ofInt32_shared (n : Int32) : shared.ofInt32 n = Identity.ofInt n.toInt := rfl

@[simp] theorem ofDouble_shared (x : Double) : shared.ofDouble x = Identity.ofDouble x := rfl

end Numerals

mutual

/-- The tokens of a value, with its numbers written as told. What the scope of code holds is never
rewritten, so its numbers keep the notations of their types. -/
def Value.tokens (numerals : Numerals) : Value → Identity
  | .null => [.null]
  | .bool b => [.bool b]
  | .int32 n => numerals.ofInt32 n
  | .int64 n => Identity.ofInt n.toInt
  | .double x => numerals.ofDouble x
  | .string s => [.text s]
  | .array items => .listStart :: tokensOfItems numerals items ++ [.listEnd]
  | .document fields => .objectStart :: tokensOfFields numerals fields ++ [.objectEnd]
  | .objectId id => Identity.taggedText "$oid" id.hex
  | .dateTime millis => Identity.tagged "$date" (Identity.ofInt millis.toInt)
  | .binary subtype bytes =>
    Identity.tagged "$binary"
      [.objectStart, .text "base64", .text (String.ofList (Text.base64 bytes)),
        .text "subType", .text (String.ofList (Text.hexDigits 2 subtype.toNat)), .objectEnd]
  | .decimal n => Identity.taggedText "$numberDecimal" n.text
  | .regex pattern options =>
    Identity.tagged "$regularExpression"
      [.objectStart, .text "pattern", .text pattern,
        .text "options", .text (Identity.sortedLetters options), .objectEnd]
  | .timestamp time increment =>
    Identity.tagged "$timestamp"
      [.objectStart, .text "t", .number time.toNat,
        .text "i", .number increment.toNat, .objectEnd]
  | .symbol s => Identity.taggedText "$symbol" s
  | .code s => Identity.taggedText "$code" s
  | .scopedCode s scope =>
    .objectStart :: .text "$code" :: .text s :: .text "$scope" ::
      .objectStart :: tokensOfFields .own scope ++ [.objectEnd, .objectEnd]
  | .pointer collection id =>
    Identity.tagged "$dbPointer"
      (.objectStart :: .text "$ref" :: .text collection :: .text "$id" ::
        Identity.taggedText "$oid" id.hex ++ [.objectEnd])
  | .minKey => Identity.tagged "$minKey" [.number 1]
  | .maxKey => Identity.tagged "$maxKey" [.number 1]
  | .undefined => Identity.tagged "$undefined" [.bool true]

/-- The tokens of items, one after the other. -/
def Value.tokensOfItems (numerals : Numerals) : List Value → Identity
  | [] => []
  | v :: rest => v.tokens numerals ++ tokensOfItems numerals rest

/-- The tokens of entries, each after its key. -/
def Value.tokensOfFields (numerals : Numerals) : List (String × Value) → Identity
  | [] => []
  | (key, v) :: rest => .text key :: v.tokens numerals ++ tokensOfFields numerals rest

end

/-- The identity of a value. -/
def Value.identity (v : Value) : Identity := v.tokens .shared

end DocMapper
