import DocMapper.Number.DecimalText
import DocMapper.Value.Basic
import DocMapper.Value.Instant

namespace DocMapper

/-! # Values as text

The text of a value inside messages. Nothing in it is escaped: the text is for reading, not for
reading back.
-/

mutual

/-- The text of a value. -/
def Value.display : Value → String
  | .null => "null"
  | .bool b => if b then "true" else "false"
  | .int32 n => toString n.toInt
  | .int64 n => toString n.toInt
  | .double x => x.text
  | .string s => "\"" ++ s ++ "\""
  | .array items => "[" ++ displayItems items ++ "]"
  | .document [] => "\x7b\x7d"
  | .document (field :: fields) => "\x7b " ++ displayFields (field :: fields) ++ " \x7d"
  | .objectId id => "ObjectId(\"" ++ id.hex ++ "\")"
  | .dateTime millis => "DateTime(\"" ++ Instant.text millis.toInt ++ "\")"
  | .binary subtype bytes =>
    "Binary(0x" ++ String.ofList (Nat.toDigits 16 subtype.toNat) ++ ", " ++
      String.ofList (Text.base64 bytes) ++ ")"
  | .decimal n => n.text
  | .regex pattern options => "/" ++ pattern ++ "/" ++ options
  | .timestamp time increment =>
    "Timestamp(" ++ toString time.toNat ++ ", " ++ toString increment.toNat ++ ")"
  | .symbol s => "Symbol(\"" ++ s ++ "\")"
  | .code s | .scopedCode s _ => s
  | .pointer collection id => "DbPointer(" ++ collection ++ ", " ++ id.hex ++ ")"
  | .minKey => "MinKey"
  | .maxKey => "MaxKey"
  | .undefined => "undefined"

/-- The items of a list, separated by commas. -/
def Value.displayItems : List Value → String
  | [] => ""
  | [v] => v.display
  | v :: w :: rest => v.display ++ ", " ++ displayItems (w :: rest)

/-- The entries of a document, separated by commas. -/
def Value.displayFields : List (String × Value) → String
  | [] => ""
  | [(key, v)] => "\"" ++ key ++ "\": " ++ v.display
  | (key, v) :: field :: rest =>
    "\"" ++ key ++ "\": " ++ v.display ++ ", " ++ displayFields (field :: rest)

end

/-- The text of a document. -/
def Document.display (d : Document) : String := Value.display (.document d)

end DocMapper
