import DocMapper.Error

namespace DocMapper

/-! # Values against types

A value conforms to a type, or the check names the place where it does not. Operands of
comparisons are checked less strictly than stored values, and no value may smuggle in operators
that run code in the store.
-/

namespace FieldType

/-- Checks the items of a list one by one; the path of an item ends with its index. -/
def checkItems (check : String → Value → Except Error Unit) (path : String) :
    (index : Nat) → List Value → Except Error Unit
  | _, [] => .ok ()
  | index, item :: rest => do
    check (path ++ "[" ++ toString index ++ "]") item
    checkItems check path (index + 1) rest

/-- Checks that a value has the type. The path says in messages where the value stands. -/
def check (path : String) (value : Value) : FieldType → Except Error Unit
  | any => .ok ()
  | optional inner =>
    match value with
    | .null => .ok ()
    | _ => inner.check path value
  | array items =>
    match value with
    | .array vs => checkItems (fun path value => items.check path value) path 0 vs
    | _ => .error (.validation (.typeMismatch path (array items) value))
  | type =>
    let conforms :=
      match type, value with
      | string, .string _ => true
      | int, .int32 _ => true
      | int, .int64 _ => true
      | double, .double _ => true
      | double, .int32 _ => true
      | double, .int64 _ => true
      | bool, .bool _ => true
      | dateTime, .dateTime _ => true
      | objectId, .objectId _ => true
      | binary, .binary _ _ => true
      | decimal, .decimal _ => true
      | mapping, .document _ => true
      | _, _ => false
    if conforms then .ok () else .error (.validation (.typeMismatch path type value))

/-- Checks an operand of a comparison. Null compares with anything, and a list compares with
whole lists and with single items. -/
def checkOperand (path : String) (value : Value) (type : FieldType) : Except Error Unit :=
  match value with
  | .null => .ok ()
  | .array _ => type.check path value
  | _ => (type.element?.getD type).check path value

end FieldType

/-- Operators that run code in the store. -/
def dangerousOperators : List String := ["$where", "$function", "$accumulator"]

mutual

/-- The first key at any depth of a value that is a dangerous operator. -/
def Value.dangerousKey? : Value → Option String
  | .document fields => dangerousKeyOfFields? fields
  | .array items => dangerousKeyOfItems? items
  | _ => none

/-- The first dangerous operator inside items. -/
def Value.dangerousKeyOfItems? : List Value → Option String
  | [] => none
  | item :: rest => item.dangerousKey?.or (dangerousKeyOfItems? rest)

/-- The first dangerous operator among entries and inside their values. -/
def Value.dangerousKeyOfFields? : List (String × Value) → Option String
  | [] => none
  | (key, value) :: rest =>
    if key ∈ dangerousOperators then some key
    else value.dangerousKey?.or (dangerousKeyOfFields? rest)

end

/-- Refuses values that hold a dangerous operator at any depth. -/
def Value.rejectDangerous (v : Value) : Except Error Unit :=
  match v.dangerousKey? with
  | some key => .error (.validation (.dangerousOperator key))
  | none => .ok ()

/-- Refuses documents that hold a dangerous operator at any depth. -/
def Document.rejectDangerous (d : Document) : Except Error Unit :=
  Value.rejectDangerous (.document d)

mutual

/-- An identifier given as 24 hexadecimal digits becomes an object identifier, also inside lists;
any other value stays as it is. -/
def Value.readId : Value → Value
  | .string s =>
    match ObjectId.ofHex? s with
    | some id => .objectId id
    | none => .string s
  | .array items => .array (readIds items)
  | v => v

/-- Reads identifiers among items. -/
def Value.readIds : List Value → List Value
  | [] => []
  | v :: rest => v.readId :: readIds rest

end

end DocMapper
