import DocMapper.Number.Decimal128
import DocMapper.Number.Double
import DocMapper.Value.ObjectId

namespace DocMapper

/-! # Values and documents

A value of the document store, and a document: keys with their values, in order. Each key of a
document occurs once; every operation below keeps it so.
-/

/-- A value that a document can hold under a key. -/
inductive Value where
  | null
  | bool (b : Bool)
  | int32 (n : Int32)
  | int64 (n : Int64)
  | double (x : Double)
  | string (s : String)
  | array (items : List Value)
  | document (fields : List (String × Value))
  | objectId (id : ObjectId)
  /-- Milliseconds since the start of 1970. -/
  | dateTime (millis : Int64)
  | binary (subtype : UInt8) (bytes : List UInt8)
  | decimal (n : Decimal128)
  | regex (pattern options : String)
  | timestamp (time increment : UInt32)
  | symbol (s : String)
  | code (s : String)
  /-- Code with the values of its free names. -/
  | scopedCode (s : String) (scope : List (String × Value))
  /-- A reference to a document of a collection, by its identifier. -/
  | pointer (collection : String) (id : ObjectId)
  | minKey
  | maxKey
  | undefined
  deriving Inhabited

/-- Keys with their values, in order. -/
abbrev Document := List (String × Value)

namespace Document

/-- The value under a key. -/
def get? (d : Document) (key : String) : Option Value :=
  (d.find? (·.1 = key)).map (·.2)

/-- The keys in order. -/
def keys (d : Document) : List String := d.map (·.1)

/-- The document has a value under the key. -/
def hasKey (d : Document) (key : String) : Bool := d.any (·.1 = key)

/-- Puts a value under a key: in place when the key is there, at the end when it is new. -/
def insert (d : Document) (key : String) (value : Value) : Document :=
  match d with
  | [] => [(key, value)]
  | (k, v) :: rest => if k = key then (k, value) :: rest else (k, v) :: insert rest key value

/-- Takes a key away; the others keep their order. -/
def erase (d : Document) (key : String) : Document := d.filter (·.1 ≠ key)

/-- Inserts the entries of `other` one by one. -/
def insertAll (d other : Document) : Document :=
  other.foldl (fun out entry => insert out entry.1 entry.2) d

/-- The document of the given entries; a repeated key keeps its first place and its last value. -/
def ofEntries (entries : List (String × Value)) : Document := insertAll [] entries

/-- The key of the identifier. -/
def idKey : String := "_id"

/-- The identifier of a document. -/
def id? (d : Document) : Option Value := get? d idKey

end Document

/-- The value is null. -/
def Value.isNull : Value → Bool
  | .null => true
  | _ => false

/-- The value is an integer of either width. -/
def Value.isInteger : Value → Bool
  | .int32 _ => true
  | .int64 _ => true
  | _ => false

/-- A key that starts with `$` names an operator. -/
def isOperatorKey (key : String) : Bool := key.toList.head? == some '$'

end DocMapper
