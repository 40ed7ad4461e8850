import DocMapper.Schema.Conformance
import DocMapper.Value.Order

namespace DocMapper

/-! # Values of a type

Whether a check succeeds depends on the type and the value, and not on the path, which only
stands in messages. A type that admits one document admits every document, and a type that admits
two numbers to be added admits their sum.
-/

namespace FieldType

/-- The type admits the value: its check succeeds, whatever the path. -/
def Admits (type : FieldType) (v : Value) : Prop := ∀ path, type.check path v = .ok ()

theorem checkItems_of_forall {check check' : String → Value → Except Error Unit}
    (h : ∀ p q v, check p v = .ok () → check' q v = .ok ()) {p : String} (q : String)
    {i : Nat} {vs : List Value} (hvs : checkItems check p i vs = .ok ()) :
    checkItems check' q i vs = .ok () := by
  induction vs generalizing i with
  | nil => rfl
  | cons v rest ih =>
    rw [checkItems] at hvs ⊢
    cases hv : check (p ++ "[" ++ toString i ++ "]") v with
    | error e =>
      rw [hv] at hvs
      cases hvs
    | ok u =>
      rw [hv] at hvs
      rw [h _ (q ++ "[" ++ toString i ++ "]") v hv]
      exact ih hvs

theorem check_of_check {type : FieldType} {v : Value} {p q : String}
    (h : type.check p v = .ok ()) : type.check q v = .ok () := by
  induction type generalizing v p q with
  | any => rfl
  | optional inner ih =>
    rw [check.eq_def] at h ⊢
    cases v with
    | null => rfl
    | _ => exact ih h
  | array items ih =>
    cases v with
    | array vs =>
      rw [check] at h ⊢
      refine checkItems_of_forall ?_ q h
      intro p q v hv
      exact ih hv
    | _ => cases h
  | _ =>
    -- the path of a type without parts stands in the message only
    cases v <;> first | rfl | cases h

theorem admits_of_check {type : FieldType} {v : Value} {path : String}
    (h : type.check path v = .ok ()) : type.Admits v :=
  fun _ => check_of_check h

theorem admits_optional {inner : FieldType} {v : Value} :
    (optional inner).Admits v ↔ v = .null ∨ inner.Admits v := by
  constructor
  · intro h
    cases v with
    | null => exact Or.inl rfl
    | _ => exact Or.inr fun path => h path
  · rintro (rfl | h) path
    · rfl
    · cases v with
      | null => rfl
      | _ => exact h path

theorem checkItems_eq_ok {type : FieldType} {path : String} {index : Nat} {vs : List Value} :
    checkItems (fun path v => type.check path v) path index vs = .ok () ↔
      ∀ v ∈ vs, type.Admits v := by
  induction vs generalizing index with
  | nil => exact ⟨fun _ v hv => absurd hv List.not_mem_nil, fun _ => rfl⟩
  | cons v rest ih =>
    rw [checkItems, List.forall_mem_cons]
    cases hv : type.check (path ++ "[" ++ toString index ++ "]") v with
    | error e =>
      refine ⟨fun h => (by cases h), fun h => ?_⟩
      rw [h.1] at hv
      cases hv
    | ok u =>
      change checkItems _ path (index + 1) rest = .ok () ↔ _
      rw [ih]
      exact ⟨fun h => ⟨admits_of_check hv, h⟩, fun h => h.2⟩

/-- The type of a list admits the lists of what the type of the items admits. -/
theorem admits_array {items : FieldType} {v : Value} :
    (array items).Admits v ↔ ∃ vs, v = .array vs ∧ ∀ w ∈ vs, items.Admits w := by
  constructor
  · intro h
    have hcheck := h ""
    cases v with
    | array vs => exact ⟨vs, rfl, checkItems_eq_ok.mp hcheck⟩
    | _ => cases hcheck
  · rintro ⟨vs, rfl, hvs⟩ path
    exact checkItems_eq_ok.mpr hvs

/-- A type that admits a document admits every document. -/
theorem admits_document {type : FieldType} {d : Document} (h : type.Admits (.document d))
    (e : Document) : type.Admits (.document e) := by
  induction type with
  | any => exact fun _ => rfl
  | optional inner ih =>
    rcases admits_optional.mp h with hnull | h
    · cases hnull
    · exact admits_optional.mpr (Or.inr (ih h))
  | mapping => exact fun _ => rfl
  | _ => cases h ""

/-- A type with nested paths admits documents. -/
theorem admits_document_of_isMapping {type : FieldType} (h : type.isMapping = true) (d : Document) :
    type.Admits (.document d) := by
  induction type with
  | any => exact fun _ => rfl
  | optional inner ih => exact admits_optional.mpr (Or.inr (ih h))
  | mapping => exact fun _ => rfl
  | _ => cases h

/-- A type that admits integers is no type of lists. -/
theorem element?_of_admits_integer {type : FieldType} {a : Value} (ha : type.Admits a)
    (hinteger : a.isInteger = true) : type.element? = none := by
  induction type with
  | array items =>
    obtain ⟨vs, rfl, -⟩ := admits_array.mp ha
    cases hinteger
  | optional inner ih =>
    rcases admits_optional.mp ha with rfl | ha
    · cases hinteger
    · exact ih ha
  | _ => rfl

/-- A type that admits integers and documents admits everything. -/
theorem admits_of_admits_integer_document {type : FieldType} {a : Value} {d : Document}
    (ha : type.Admits a) (hinteger : a.isInteger = true) (hd : type.Admits (.document d))
    (v : Value) : type.Admits v := by
  induction type with
  | any => exact fun _ => rfl
  | optional inner ih =>
    rcases admits_optional.mp ha with rfl | ha
    · cases hinteger
    rcases admits_optional.mp hd with hnull | hd
    · cases hnull
    exact admits_optional.mpr (Or.inr (ih ha hd))
  | mapping =>
    have hcheck := ha ""
    cases a with
    | int32 n => cases hcheck
    | int64 n => cases hcheck
    | _ => cases hinteger
  | _ => cases hd ""

/-- Integers may be added to the value: if the type admits any, it admits the value, or the value is
null. -/
def Incrementable (type : FieldType) (v : Value) : Prop :=
  ∀ a : Value, a.isInteger = true → type.Admits a → v = .null ∨ type.Admits v

/-- An operand of a comparison is null or of the type, if that is no type of lists. -/
theorem admits_of_checkOperand {type : FieldType} (helement : type.element? = none) {v : Value}
    {path : String} (h : checkOperand path v type = .ok ()) : v = .null ∨ type.Admits v := by
  cases v with
  | null => exact Or.inl rfl
  | array items => exact Or.inr (admits_of_check h)
  | _ =>
    rw [checkOperand, helement] at h
    · exact Or.inr (admits_of_check h)
    · simp
    · simp

/-- An operand of a comparison may be an item in place of a list, but that is no matter where
integers are added. -/
theorem incrementable_of_checkOperand {type : FieldType} {v : Value} {path : String}
    (h : checkOperand path v type = .ok ()) : type.Incrementable v :=
  fun _ hinteger ha => admits_of_checkOperand (element?_of_admits_integer ha hinteger) h

theorem admits_int {v : Value} : int.Admits v ↔ v.isInteger = true := by
  constructor
  · intro h
    have hcheck := h ""
    cases v <;> first | rfl | cases hcheck
  · intro h path
    cases v <;> first | rfl | cases h

theorem admits_double {v : Value} :
    double.Admits v ↔ v.isInteger = true ∨ ∃ x, v = .double x := by
  constructor
  · intro h
    have hcheck := h ""
    cases v <;> first | exact Or.inl rfl | exact Or.inr ⟨_, rfl⟩ | cases hcheck
  · rintro (h | ⟨x, rfl⟩) path
    · cases v <;> first | rfl | cases h
    · rfl

end FieldType

namespace Value

variable {a b c : Value}

theorem isInteger_of_ofInt64? {n : Int} (h : ofInt64? n = some c) : c.isInteger = true := by
  unfold ofInt64? at h
  split at h
  · cases h
    rfl
  · cases h

/-- Integers add up to an integer. -/
theorem isInteger_of_add? (ha : a.isInteger = true) (hb : b.isInteger = true)
    (h : a.add? b = some c) : c.isInteger = true := by
  unfold add? at h
  split at h
  · dsimp only at h
    split at h <;> cases h <;> rfl
  · split at h
    · exact isInteger_of_ofInt64? h
    · rename_i hnone
      -- two integers have been read as such
      cases a <;> cases ha <;> cases b <;> cases hb <;> exact absurd rfl (hnone _ _ rfl)

/-- A sum is an integer or a double. -/
theorem add?_eq_some (h : a.add? b = some c) : c.isInteger = true ∨ ∃ x, c = .double x := by
  unfold add? at h
  split at h
  · dsimp only at h
    split at h <;> cases h <;> exact Or.inl rfl
  · split at h
    · exact Or.inl (isInteger_of_ofInt64? h)
    · split at h
      · cases h
        exact Or.inr ⟨_, rfl⟩
      · cases h

end Value

namespace FieldType

/-- A type that admits a number and an integer to be added to it admits their sum. -/
theorem admits_add {type : FieldType} {a b c : Value} (ha : type.Admits a) (hb : type.Admits b)
    (hinteger : b.isInteger = true) (h : a.add? b = some c) : type.Admits c := by
  induction type with
  | any => exact fun _ => rfl
  | optional inner ih =>
    have ha' : inner.Admits a := by
      rcases admits_optional.mp ha with rfl | ha
      · cases h
      · exact ha
    have hb' : inner.Admits b := by
      rcases admits_optional.mp hb with rfl | hb
      · cases hinteger
      · exact hb
    exact admits_optional.mpr (Or.inr (ih ha' hb'))
  | int => exact admits_int.mpr (Value.isInteger_of_add? (admits_int.mp ha) hinteger h)
  | double => exact admits_double.mpr (Value.add?_eq_some h)
  | _ =>
    -- no other type admits an integer
    have hcheck := hb ""
    cases b with
    | int32 n => cases hcheck
    | int64 n => cases hcheck
    | _ => cases hinteger

end FieldType

end DocMapper
