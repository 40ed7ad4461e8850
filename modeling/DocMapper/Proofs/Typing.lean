import DocMapper.Proofs.Types

namespace DocMapper

/-! # Typing

The check of a value is a function that walks through it. What it decides is said here without the
walk, by rules: the scalar types have the values of their kinds, a double may be an integer, a list
has a type when all its items have it, and the optional types add null.
-/

/-- The value has the type. -/
inductive Value.HasType : Value → FieldType → Prop
  | string (s : String) : HasType (.string s) .string
  | int32 (n : Int32) : HasType (.int32 n) .int
  | int64 (n : Int64) : HasType (.int64 n) .int
  | double (x : Double) : HasType (.double x) .double
  /-- Integers are accepted where doubles are. -/
  | whole {v : Value} (h : HasType v .int) : HasType v .double
  | bool (b : Bool) : HasType (.bool b) .bool
  | dateTime (millis : Int64) : HasType (.dateTime millis) .dateTime
  | objectId (id : ObjectId) : HasType (.objectId id) .objectId
  | binary (subtype : UInt8) (bytes : List UInt8) : HasType (.binary subtype bytes) .binary
  | decimal (n : Decimal128) : HasType (.decimal n) .decimal
  | array {items : List Value} {element : FieldType} (h : ∀ v ∈ items, HasType v element) :
      HasType (.array items) (.array element)
  | mapping (fields : Document) : HasType (.document fields) .mapping
  | null (inner : FieldType) : HasType .null (.optional inner)
  | present {v : Value} {inner : FieldType} (h : HasType v inner) : HasType v (.optional inner)
  | any (v : Value) : HasType v .any

namespace FieldType

variable {type : FieldType} {v : Value} {path : String}

/-- A value that has a type passes the check for it, wherever it stands. -/
theorem admits_of_hasType (h : v.HasType type) : type.Admits v := by
  induction h with
  | array _ ih => exact admits_array.mpr ⟨_, rfl, ih⟩
  | null inner => exact admits_optional.mpr (Or.inl rfl)
  | present _ ih => exact admits_optional.mpr (Or.inr ih)
  | whole _ ih => exact admits_double.mpr (Or.inl (admits_int.mp ih))
  | _ =>
    intro path
    rfl

theorem hasType_int_of_isInteger (h : v.isInteger = true) : v.HasType .int := by
  cases v with
  | int32 n => exact .int32 n
  | int64 n => exact .int64 n
  | _ => cases h

/-- A value that passes the check for a type has the type. -/
theorem hasType_of_admits (h : type.Admits v) : v.HasType type := by
  induction type generalizing v with
  | any => exact .any v
  | optional inner ih =>
    rcases admits_optional.mp h with rfl | h
    · exact .null inner
    · exact .present (ih h)
  | array element ih =>
    rcases admits_array.mp h with ⟨items, rfl, hitems⟩
    apply Value.HasType.array
    intro w hw
    exact ih (hitems w hw)
  | int => exact hasType_int_of_isInteger (admits_int.mp h)
  | double =>
    rcases admits_double.mp h with hinteger | ⟨x, rfl⟩
    · exact .whole (hasType_int_of_isInteger hinteger)
    · exact .double x
  | _ =>
    -- each remaining type has values of one kind, and the check of any other value fails
    have hcheck := h ""
    cases v <;> first | constructor | cases hcheck

/-- The check of a value succeeds exactly when it has the type. -/
theorem check_eq_ok : type.check path v = .ok () ↔ v.HasType type :=
  ⟨fun h => hasType_of_admits (admits_of_check h), fun h => admits_of_hasType h path⟩

end FieldType

end DocMapper
