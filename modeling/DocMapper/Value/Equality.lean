import DocMapper.Value.Basic

namespace DocMapper

/-! # Equality of values

Two values are equal when they have the same type and the same content. Doubles are equal as
numbers, so a NaN differs from itself; documents are equal whatever the order of their keys.
-/

mutual

/-- Equality of type and content, without regard to the order of keys. -/
def Value.beq : Value → Value → Bool
  | .null, .null => true
  | .bool a, .bool b => a == b
  | .int32 a, .int32 b => a == b
  | .int64 a, .int64 b => a == b
  | .double a, .double b => a.equals b
  | .string a, .string b => a == b
  | .array a, .array b => beqItems a b
  | .document a, .document b => a.length == b.length && beqFields a b
  | .objectId a, .objectId b => a == b
  | .dateTime a, .dateTime b => a == b
  | .binary s a, .binary t b => s == t && a == b
  | .decimal a, .decimal b => a == b
  | .regex p o, .regex q r => p == q && o == r
  | .timestamp t i, .timestamp u j => t == u && i == j
  | .symbol a, .symbol b => a == b
  | .code a, .code b => a == b
  | .scopedCode s a, .scopedCode t b => s == t && (a.length == b.length && beqFields a b)
  | .pointer c i, .pointer d j => c == d && i == j
  | .minKey, .minKey => true
  | .maxKey, .maxKey => true
  | .undefined, .undefined => true
  | _, _ => false

/-- Equality of lists, item by item. -/
def Value.beqItems : List Value → List Value → Bool
  | [], [] => true
  | a :: as, b :: bs => a.beq b && beqItems as bs
  | _, _ => false

/-- Every entry on the left has an equal one under its key on the right. -/
def Value.beqFields : List (String × Value) → List (String × Value) → Bool
  | [], _ => true
  | (key, a) :: rest, d =>
    (match Document.get? d key with
      | some b => a.beq b
      | none => false) && beqFields rest d

end

instance : BEq Value := ⟨Value.beq⟩

/-- Equality of documents without regard to the order of keys. -/
def Document.beq (a b : Document) : Bool := Value.beq (.document a) (.document b)

end DocMapper
