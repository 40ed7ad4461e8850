import DocMapper.Value.Basic

namespace DocMapper

/-! # Field types

The types that a model declares for its fields, and the names that types have in messages.
-/

/-- The declared type of a field. -/
inductive FieldType where
  | string
  /-- Integers of 32 or 64 bits. -/
  | int
  /-- Numbers of any kind. -/
  | double
  | bool
  | dateTime
  | objectId
  | binary
  | decimal
  /-- Lists whose items all have one type. -/
  | array (items : FieldType)
  /-- Documents with free keys, which nested paths may address. -/
  | mapping
  /-- The type or null. -/
  | optional (inner : FieldType)
  | any
  deriving DecidableEq

namespace FieldType

/-- The name of the type in messages. -/
def name : FieldType → String
  | string => "string"
  | int => "int"
  | double => "double"
  | bool => "bool"
  | dateTime => "datetime"
  | objectId => "objectid"
  | binary => "binary"
  | decimal => "decimal128"
  | array items => "array<" ++ items.name ++ ">"
  | mapping => "mapping"
  | optional inner => "optional<" ++ inner.name ++ ">"
  | any => "any"

/-- Nested paths may address what lies inside values of this type. -/
def isMapping : FieldType → Bool
  | mapping => true
  | any => true
  | optional inner => inner.isMapping
  | _ => false

/-- Null belongs to the type on its own account. -/
def isNullable : FieldType → Bool
  | optional _ => true
  | any => true
  | _ => false

/-- The type of the items, when values are lists. -/
def element? : FieldType → Option FieldType
  | array items => some items
  | optional inner => inner.element?
  | _ => none

end FieldType

/-- The name of a value's type in messages. -/
def Value.typeName : Value → String
  | .double _ => "double"
  | .string _ => "string"
  | .array _ => "array"
  | .document _ => "object"
  | .bool _ => "bool"
  | .null => "null"
  | .int32 _ => "int32"
  | .int64 _ => "int64"
  | .timestamp _ _ => "timestamp"
  | .binary _ _ => "binary"
  | .objectId _ => "objectid"
  | .dateTime _ => "datetime"
  | .symbol _ => "symbol"
  | .decimal _ => "decimal128"
  | _ => "unknown"

end DocMapper
