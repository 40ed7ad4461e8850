import DocMapper.Lowering
import DocMapper.Proofs.Schemas

namespace DocMapper

/-! # What keywords address

With a schema, a keyword addresses a field that the schema knows: the field itself, or a place
inside it when the keyword is nested. The path of either starts with the name of the field.
-/

namespace Lowering

variable {l : Lowering} {schema : Schema} {key : String} {k : Keyword} {s : Subject}

/-- What a subject has to do with the field that it lies in. -/
inductive Addresses (field : Field) : Subject → Prop
  /-- The field itself, with its type. -/
  | whole : Addresses field
      { path := field.name, type? := some field.type, isId := field.name = Document.idKey,
        queryable := field.queryable }
  /-- A place inside the field, without a type. -/
  | inside {inner : List String} (hne : inner ≠ []) : Addresses field
      { path := String.intercalate "." (field.name :: inner), type? := none,
        isId := field.name = Document.idKey, queryable := field.queryable }

/-- The field of a keyword has the name that stands for it: the first segment of a nested keyword,
or the whole of it. -/
theorem name_of_fieldOf {field : Field} (h : l.fieldOf schema key k = .ok field) :
    schema.field? field.name = some field ∧ (field.name = k.field ∨ field.name = k.literal) := by
  have hdeclared : ∀ {name : String}, schema.declared name = .ok field →
      schema.field? field.name = some field ∧ field.name = name := by
    intro name hd
    have hsome := Schema.declared_eq_ok.mp hd
    have hname := (Schema.field?_eq_some hsome).1
    exact ⟨hname ▸ hsome, hname⟩
  rw [fieldOf] at h
  -- a flat key names a field, a nested one a mapping or else a field by its literal spelling
  split at h
  swap
  · exact ⟨(hdeclared h).1, Or.inl (hdeclared h).2⟩
  split at h
  · rename_i found hfound
    split at h
    · cases h
      have hname := (Schema.field?_eq_some hfound).1
      exact ⟨hname ▸ hfound, Or.inl hname⟩
    · split at h
      · exact ⟨(hdeclared h).1, Or.inr (hdeclared h).2⟩
      · cases h
  · split at h
    · exact ⟨(hdeclared h).1, Or.inr (hdeclared h).2⟩
    · cases h

/-- With a schema, what a keyword addresses lies in the field found for it, and is the whole of the
field unless the keyword is nested. -/
theorem fieldOf_of_subject (hl : l.schema? = some schema) (h : l.subject key k = .ok s) :
    ∃ field, l.fieldOf schema key k = .ok field ∧ Addresses field s ∧
      (s.type? = none → k.isNested = true) := by
  simp only [subject, hl, bind_eq_ok, pure_eq_ok] at h
  obtain ⟨field, hfield, rfl⟩ := h
  obtain ⟨-, hname⟩ := name_of_fieldOf hfield
  refine ⟨field, hfield, ?_⟩
  -- a nested keyword that is taken literally addresses a whole field
  cases hnested : (k.isNested && field.name != k.literal) with
  | false => exact ⟨by simpa using Addresses.whole, by simp⟩
  | true =>
    rw [Bool.and_eq_true, bne_iff_ne] at hnested
    have hinner : k.inner ≠ [] := by
      intro he
      simp [Keyword.isNested, he] at hnested
    have hdotted : k.dotted = String.intercalate "." (field.name :: k.inner) := by
      rw [Keyword.dotted, Keyword.path, hname.resolve_right hnested.2]
    exact ⟨by simpa [hdotted] using Addresses.inside hinner, fun _ => hnested.1⟩

/-- With a schema, what a keyword addresses lies in a field that the schema knows. -/
theorem addresses_of_subject (hl : l.schema? = some schema) (h : l.subject key k = .ok s) :
    ∃ field, schema.field? field.name = some field ∧ Addresses field s := by
  obtain ⟨field, hfield, haddresses, -⟩ := fieldOf_of_subject hl h
  exact ⟨field, (name_of_fieldOf hfield).1, haddresses⟩

/-- A schema that was built has no field named by the whole of a nested keyword, so the first
segment alone says which field a keyword addresses. A place inside the field is addressed only if
the field accepts nested paths. -/
theorem field_of_subject (hl : l.schema? = some schema) (hs : schema.WellFormed)
    (h : l.subject key k = .ok s) :
    ∃ field, schema.field? k.field = some field ∧ Addresses field s ∧
      (s.type? = none → field.type.isMapping = true) := by
  obtain ⟨field, hfield, haddresses, hinside⟩ := fieldOf_of_subject hl h
  obtain ⟨hsome, hname⟩ := name_of_fieldOf hfield
  have hlegal := hs.legal_of_field? hsome
  have hfirst : field.name = k.field := by
    rcases hname with hname | hname
    · exact hname
    cases hnested : k.isNested with
    | true => exact absurd hname (hlegal.ne_literal hnested)
    | false =>
      have hinner : k.inner = [] := by simpa [Keyword.isNested] using hnested
      simpa [Keyword.literal, Keyword.path, hinner] using hname
  rw [hfirst] at hsome
  refine ⟨field, hsome, haddresses, fun hnone => ?_⟩
  -- a nested keyword that is not refused goes into its field
  have hnested := hinside hnone
  rw [fieldOf, if_pos hnested, hsome] at hfield
  dsimp only at hfield
  split at hfield
  · assumption
  split at hfield
  · have hliteral := (Schema.field?_eq_some (Schema.declared_eq_ok.mp hfield)).1
    exact absurd hliteral (hlegal.ne_literal hnested)
  · cases hfield

/-- The name of a field, with any operator or none, is a keyword that addresses it. -/
theorem subject_of_name {l : Lowering} (hl : l.schema? = some schema) {field : Field}
    {operator : Operator} (h : schema.field? field.name = some field) (key : String) :
    l.subject key { field := field.name, inner := [], operator } =
      .ok { path := field.name, type? := some field.type, isId := field.name = Document.idKey,
            queryable := field.queryable } := by
  have hfield : l.fieldOf schema key { field := field.name, inner := [], operator } =
      .ok field := by
    simp [fieldOf, Keyword.isNested, Schema.declared_eq_ok.mpr h]
  simp [subject, hl, hfield, Keyword.isNested]

namespace Addresses

variable {field : Field} {s : Subject}

/-- The path of a subject starts with the name of its field. -/
theorem path_head (h : Addresses field s) (hlegal : LegalName field.name) :
    (Path.ofString s.path).head = field.name := by
  cases h with
  | whole => rw [hlegal.path]
  | inside hne => exact (hlegal.path_intercalate hne).1

/-- The path of a subject is no operator. -/
theorem isOperatorKey_path (h : Addresses field s) (hlegal : LegalName field.name) :
    isOperatorKey s.path = false := by
  cases h with
  | whole => exact hlegal.plain
  | @inside inner hne =>
    obtain ⟨c, rest, hc⟩ : ∃ c rest, field.name.toList = c :: rest :=
      List.exists_cons_of_ne_nil fun he => hlegal.nonempty (String.toList_eq_nil_iff.mp he)
    obtain ⟨next, others, rfl⟩ := List.exists_cons_of_ne_nil hne
    have hplain := hlegal.plain
    simp only [isOperatorKey, hc] at hplain
    simp only [isOperatorKey, String.intercalate_cons_cons, String.toList_append, hc]
    exact hplain

end Addresses

end Lowering

namespace Subject

variable {s : Subject} {check : String → Value → FieldType → Except Error Unit} {key : String}
  {v w : Value}

/-- An operand that is accepted comes back with its identifiers read, and has the declared type
where there is one. -/
theorem accept_eq_ok (h : s.accept check v = .ok w) :
    w = (if s.isId then v.readId else v) ∧
      ∀ type, s.type? = some type → check s.path w type = .ok () := by
  simp only [accept, bind_eq_ok] at h
  obtain ⟨⟨⟩, -, h⟩ := h
  split at h
  · rename_i type htype
    obtain ⟨⟨⟩, hcheck, h⟩ := bind_eq_ok.mp h
    rw [pure_eq_ok] at h
    refine ⟨h.symm, fun type' htype' => ?_⟩
    rw [htype] at htype'
    cases htype'
    exact h ▸ hcheck
  · rename_i hnone
    rw [ok_bind, pure_eq_ok] at h
    exact ⟨h.symm, fun type' htype' => by simp [hnone] at htype'⟩

/-- The amount of an increment is the integer given, of the declared type where there is one. -/
theorem increment_eq_ok (h : s.increment key v = .ok w) :
    w = v ∧ v.isInteger = true ∧
      ∀ type, s.type? = some type → type.check s.path v = .ok () := by
  unfold increment at h
  split at h
  swap
  · cases h
  rename_i hinteger
  split at h
  · rename_i type htype
    obtain ⟨⟨⟩, hcheck, h⟩ := bind_eq_ok.mp h
    refine ⟨(pure_eq_ok.mp h).symm, hinteger, fun type' htype' => ?_⟩
    rw [htype, Option.some.injEq] at htype'
    exact htype' ▸ hcheck
  · rename_i hnone
    refine ⟨(Except.ok.inj h).symm, hinteger, fun type' htype' => ?_⟩
    rw [hnone] at htype'
    cases htype'

end Subject

end DocMapper
