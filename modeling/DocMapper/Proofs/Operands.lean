import DocMapper.Proofs.ExactTypes
import DocMapper.Proofs.ServerCode
import DocMapper.Proofs.SingleKeys
import DocMapper.Proofs.Typing

namespace DocMapper

/-! # Operands at fields of lists

A field of lists is compared with whole lists and with single items. Which of the two an operand is
meant to be, its shape says: a list is taken for a whole one. So every item may be an operand unless
the items are lists again; such an item is an operand only if it is a whole list of the field as
well.
-/

/-- The value is a list. -/
def Value.isList : Value → Bool
  | .array _ => true
  | _ => false

namespace FieldType

variable {type element inner : FieldType} {v : Value} {items : List Value} {path : String}

/-! ## Types of lists -/

/-- A list has a type of lists when its items have the type of the items. -/
theorem hasType_array_iff (h : type.element? = some element) :
    (Value.array items).HasType type ↔ ∀ v ∈ items, v.HasType element := by
  induction type with
  | array inner =>
    cases h
    constructor
    · intro hitems
      cases hitems with
      | array hitems => exact hitems
    · exact .array
  | optional inner ih =>
    rw [← ih h]
    constructor
    · intro hitems
      cases hitems with
      | present hitems => exact hitems
    · exact .present
  | _ => cases h

/-- The values of a type of lists are lists, or null. -/
theorem null_or_isList_of_hasType (h : type.element? = some element) (hv : v.HasType type) :
    v = .null ∨ v.isList = true := by
  induction type with
  | array inner =>
    cases hv
    exact Or.inr rfl
  | optional inner ih =>
    cases hv with
    | null => exact Or.inl rfl
    | present hv => exact ih h hv
  | _ => cases h

/-- A type that has a list, but is no type of lists, has every value. -/
theorem hasType_of_isList (h : type.element? = none) (hlist : v.isList = true)
    (hv : v.HasType type) (w : Value) : w.HasType type := by
  induction type with
  | any => exact .any w
  | optional inner ih =>
    cases hv with
    | null => cases hlist
    | present hv => exact .present (ih h hv)
  | array inner => cases h
  | double =>
    cases hv with
    | double => cases hlist
    | whole hv => cases hv <;> cases hlist
  | _ =>
    -- the values of the remaining types are no lists
    cases hv <;> cases hlist

/-- What passes as an operand at a field of lists: null, a whole list, or an item that is no
list. -/
theorem checkOperand_eq_ok (h : type.element? = some element) :
    checkOperand path v type = .ok () ↔
      v = .null ∨ if v.isList = true then v.HasType type else v.HasType element := by
  cases v with
  | null => exact ⟨fun _ => Or.inl rfl, fun _ => rfl⟩
  | array items =>
    show type.check path (.array items) = .ok () ↔ _
    rw [check_eq_ok]
    simp [Value.isList]
  | _ =>
    rw [checkOperand, h]
    · show element.check path _ = .ok () ↔ _
      rw [check_eq_ok]
      simp [Value.isList]
    · simp
    · simp

/-- At a field of lists a whole list passes as an operand. -/
theorem checkOperand_of_check (h : type.element? = some element) (hv : type.check path v = .ok ()) :
    checkOperand path v type = .ok () := by
  rw [check_eq_ok] at hv
  rw [checkOperand_eq_ok h]
  rcases null_or_isList_of_hasType h hv with hnull | hlist
  · exact Or.inl hnull
  · exact Or.inr ((if_pos hlist).mpr hv)

/-- At a field of lists an item passes as an operand when it is no list, or a whole one. -/
theorem checkOperand_item_iff (h : type.element? = some element)
    (hv : element.check path v = .ok ()) :
    checkOperand path v type = .ok () ↔ (v.isList = true → type.check path v = .ok ()) := by
  rw [check_eq_ok] at hv
  rw [checkOperand_eq_ok h, check_eq_ok]
  cases v with
  | null => simp [Value.isList]
  | array items => simp [Value.isList]
  | _ => simp [Value.isList, hv]

/-! ## Lists of lists -/

/-- Every type has a value that is not null and that, taken as a list, is no list of values of the
type. -/
theorem exists_hasType_not_items (type : FieldType) :
    ∃ w : Value, w.HasType type ∧ w ≠ .null ∧
      ∀ items, w = .array items → ∃ v ∈ items, v ≠ .null ∧ ¬ v.HasType type := by
  induction type with
  | array inner ih =>
    rcases ih with ⟨w, hw, hnull, hitems⟩
    -- the sample of the inner type, put in a list, is no list of lists
    have hnot : ¬ w.HasType (array inner) := by
      intro hlist
      cases hlist with
      | array hall =>
        rcases hitems _ rfl with ⟨v, hv, -, hnot⟩
        exact hnot (hall v hv)
    refine ⟨.array [w], .array (List.forall_mem_singleton.mpr hw), by simp, ?_⟩
    intro items h
    cases h
    exact ⟨w, List.mem_singleton_self w, hnull, hnot⟩
  | optional inner ih =>
    rcases ih with ⟨w, hw, hnull, hitems⟩
    refine ⟨w, .present hw, hnull, ?_⟩
    intro items h
    rcases hitems items h with ⟨v, hv, hvnull, hnot⟩
    refine ⟨v, hv, hvnull, ?_⟩
    intro hoptional
    cases hoptional with
    | null => exact hvnull rfl
    | present hv => exact hnot hv
  | _ =>
    -- the sample of any other type is no list
    refine ⟨_, hasType_of_admits (sample_spec _).1, (sample_spec _).2.1, ?_⟩
    intro items h
    cases h

/-- Among lists of lists there is an item that is no whole list. -/
theorem exists_item_refused (h : type.element? = some element)
    (hinner : element.element? = some inner) :
    ∃ v : Value, v.HasType element ∧ v.isList = true ∧ ¬ v.HasType type := by
  rcases exists_hasType_not_items inner with ⟨w, hw, hnull, hitems⟩
  refine ⟨.array [w], ?_, rfl, ?_⟩
  · rw [hasType_array_iff hinner]
    exact List.forall_mem_singleton.mpr hw
  · rw [hasType_array_iff h, List.forall_mem_singleton]
    intro hlist
    rcases null_or_isList_of_hasType hinner hlist with hw | hw
    · exact hnull hw
    · cases w with
      | array items =>
        rcases hitems items rfl with ⟨v, hv, -, hnot⟩
        exact hnot ((hasType_array_iff hinner).mp hlist v hv)
      | _ => cases hw

/-- Every item passes as an operand exactly when the items are not of a type of lists. -/
theorem items_pass_iff (h : type.element? = some element) :
    (∀ path v, element.check path v = .ok () → checkOperand path v type = .ok ()) ↔
      element.element? = none := by
  constructor
  · intro hall
    cases hinner : element.element? with
    | none => rfl
    | some inner =>
      rcases exists_item_refused h hinner with ⟨v, hv, hlist, hnot⟩
      have hcheck : element.check "" v = .ok () := check_eq_ok.mpr hv
      have hwhole := (checkOperand_item_iff h hcheck).mp (hall "" v hcheck) hlist
      exact absurd (check_eq_ok.mp hwhole) hnot
  · intro hnone path v hv
    rw [checkOperand_item_iff h hv, check_eq_ok]
    intro hlist
    rw [check_eq_ok] at hv
    -- only a type of all values has lists without being a type of lists
    have hevery : ∀ w : Value, w.HasType element := hasType_of_isList hnone hlist hv
    cases v with
    | array items =>
      rw [hasType_array_iff h]
      intro w _
      exact hevery w
    | _ => cases hlist

end FieldType

/-! ## Filters that compare -/

/-- The values that an operator compares a field with, when its operand has the shape that it asks
for. -/
def FilterOperator.comparands? (o : FilterOperator) (v : Value) : Option (List Value) :=
  match o, v with
  | .eq, v | .ne, v | .gt, v | .gte, v | .lt, v | .lte, v => some [v]
  | .inList, .array items | .notIn, .array items => some items
  | .range, .array [low, high] => some [low, high]
  | _, _ => none

namespace Subject

variable {s : Subject} {o : FilterOperator} {v : Value} {vs : List Value} {draft : FilterDraft}

/-- A condition is written exactly when every value that it compares with is accepted. -/
theorem exists_constrain_iff (h : o.comparands? v = some vs) :
    (∃ draft', s.constrain o v draft = .ok draft') ↔ ∀ w ∈ vs, ∃ u, s.comparand w = .ok u := by
  -- the operators compare either with the operand itself or with each of its items
  have hone : ∀ write : Value → FilterDraft,
      (∃ draft', (s.comparand v >>= fun w => pure (write w)) = .ok draft') ↔
        ∀ w ∈ [v], ∃ u, s.comparand w = .ok u := by
    intro write
    rw [List.forall_mem_singleton]
    cases s.comparand v <;> simp
  have hmany : ∀ (items : List Value) (write : List Value → FilterDraft),
      (∃ draft', (items.mapM s.comparand >>= fun ws => pure (write ws)) = .ok draft') ↔
        ∀ w ∈ items, ∃ u, s.comparand w = .ok u := by
    intro items write
    rw [← exists_mapM_eq_ok_iff]
    cases items.mapM s.comparand <;> simp
  cases o with
  | eq | ne | gt | gte | lt | lte =>
    cases h
    exact hone _
  | inList | notIn =>
    cases v with
    | array items =>
      cases h
      exact hmany _ _
    | _ => cases h
  | range =>
    cases v with
    | array items =>
      -- a range has exactly two bounds, any other list has no comparands
      rcases items with _ | ⟨low, _ | ⟨high, _ | ⟨third, rest⟩⟩⟩
      · cases h
      · cases h
      · cases h
        rw [List.forall_mem_cons, List.forall_mem_singleton, constrain]
        cases s.comparand low <;> cases s.comparand high <;> simp
      · cases h
    | _ => cases h
  | _ => cases h

end Subject

namespace Lowering

variable {l : Lowering} {schema : Schema} {field : Field} {key : String} {o : FilterOperator}
  {v : Value} {vs : List Value}

/-- A field other than the identifier accepts what is vetted and passes as an operand. -/
theorem exists_comparand_iff (hid : field.name ≠ Document.idKey) :
    (∃ w, field.subject.comparand v = .ok w) ↔
      v.Vetted ∧ FieldType.checkOperand field.name v field.type = .ok () := by
  rw [← Value.rejectDangerous_eq_ok]
  simp only [Subject.comparand, Subject.accept, Field.subject, decide_eq_true_eq, hid, if_false,
    check_bind_eq_ok, pure_eq_ok]
  constructor
  · rintro ⟨w, hreject, hcheck, -⟩
    exact ⟨hreject, hcheck⟩
  · rintro ⟨hreject, hcheck⟩
    exact ⟨v, hreject, hcheck, rfl⟩

/-- A filter that compares a field is accepted exactly when every value that it compares with is
vetted and passes as an operand. -/
theorem Applies.accepts_comparison_iff (happlies : l.Applies key v (.filter o) field)
    (hqueryable : field.queryable = true) (hid : field.name ≠ Document.idKey)
    (h : o.comparands? v = some vs) :
    l.Accepts [(key, v)] ↔
      ∀ w ∈ vs, w.Vetted ∧ FieldType.checkOperand field.name w field.type = .ok () := by
  rw [happlies.accepts_iff hqueryable, Subject.exists_constrain_iff h]
  constructor
  · intro hall w hw
    exact (exists_comparand_iff hid).mp (hall w hw)
  · intro hall w hw
    exact (exists_comparand_iff hid).mpr (hall w hw)

/-- At a field of lists, values that may be stored are accepted by a filter that compares, whole
lists and items alike, as long as each list among them is a whole one. -/
theorem accepts_storable_iff {type element : FieldType} (h : type.element? = some element)
    (hl : l.schema? = some schema) (hfield : schema.field? field.name = some field)
    (htype : field.type = type) (hqueryable : field.queryable = true)
    (hparse : Keyword.parse key =
      .ok { field := field.name, inner := [], operator := .filter o })
    (hvs : o.comparands? v = some vs)
    (hstorable : ∀ w ∈ vs, w.Vetted ∧
      (type.check field.name w = .ok () ∨ element.check field.name w = .ok ())) :
    l.Accepts [(key, v)] ↔ ∀ w ∈ vs, w.isList = true → type.check field.name w = .ok () := by
  have hid : field.name ≠ Document.idKey := by
    intro hid
    -- the identifier may be anything, so it is no field of lists
    rw [hid, Schema.field?, if_pos rfl] at hfield
    cases hfield
    subst htype
    cases h
  have happlies := applies_of_parse hl hfield hparse v
  rw [happlies.accepts_comparison_iff hqueryable hid hvs, htype]
  constructor
  · intro hall w hw hlist
    rcases (hstorable w hw).2 with htyped | htyped
    · exact htyped
    · exact (FieldType.checkOperand_item_iff h htyped).mp (hall w hw).2 hlist
  · intro hall w hw
    refine ⟨(hstorable w hw).1, ?_⟩
    rcases (hstorable w hw).2 with htyped | htyped
    · exact FieldType.checkOperand_of_check h htyped
    · exact (FieldType.checkOperand_item_iff h htyped).mpr (hall w hw)

end Lowering

namespace FieldType

variable {type element : FieldType}

/-- At a field of lists every whole list passes as an operand, and an item does exactly when it is
no list or a whole list as well. So every item passes exactly when the items are not of a type of
lists, and otherwise some do not. The filters that compare the field accept values accordingly. -/
theorem elements_are_operands_iff (h : type.element? = some element) :
    (∀ path v, type.check path v = .ok () → checkOperand path v type = .ok ()) ∧
    (∀ path v, element.check path v = .ok () →
      (checkOperand path v type = .ok () ↔
        (v.isList = true → type.check path v = .ok ()))) ∧
    ((∀ path v, element.check path v = .ok () → checkOperand path v type = .ok ()) ↔
      element.element? = none) ∧
    ∀ (l : Lowering) schema, l.schema? = some schema →
      ∀ field, schema.field? field.name = some field → field.type = type →
      field.queryable = true →
      ∀ key (o : FilterOperator) v vs,
      Keyword.parse key = .ok { field := field.name, inner := [], operator := .filter o } →
      o.comparands? v = some vs →
      (∀ w ∈ vs, w.Vetted ∧
        (type.check field.name w = .ok () ∨ element.check field.name w = .ok ())) →
      (l.Accepts [(key, v)] ↔
        ∀ w ∈ vs, w.isList = true → type.check field.name w = .ok ()) := by
  refine ⟨?_, ?_, items_pass_iff h, ?_⟩
  · intro path v hv
    exact checkOperand_of_check h hv
  · intro path v hv
    exact checkOperand_item_iff h hv
  · intro l schema hl field hfield htype hqueryable key o v vs hparse hvs hstorable
    exact Lowering.accepts_storable_iff h hl hfield htype hqueryable hparse hvs hstorable

/-- Tags, which may be null. -/
def tags : Field := { name := "tags", type := .optional (.array .string) }

/-- The theorem at tags: every tag passes as an operand, and a filter asks for a tag or for a whole
list of tags. -/
theorem elements_are_operands_of_tags :
    (∀ path v, string.check path v = .ok () → checkOperand path v tags.type = .ok ()) ∧
    Lowering.Accepts { schema? := some ⟨⟨"t"⟩, [tags]⟩ }
      [("tags__in", .array [.string "a", .array [.string "b", .string "c"]])] := by
  have htags := @elements_are_operands_iff tags.type .string rfl
  have hstorable : ∀ w ∈ [Value.string "a", .array [.string "b", .string "c"]], w.Vetted ∧
      (check tags.name w tags.type = .ok () ∨ string.check tags.name w = .ok ()) := by
    simp only [List.forall_mem_cons]
    exact ⟨⟨Value.rejectDangerous_eq_ok.mp rfl, Or.inr rfl⟩,
      ⟨Value.rejectDangerous_eq_ok.mp rfl, Or.inl rfl⟩, fun _ h => absurd h List.not_mem_nil⟩
  have hfilter := htags.2.2.2 { schema? := some ⟨⟨"t"⟩, [tags]⟩ } _ rfl tags rfl rfl rfl "tags__in"
    .inList (.array [.string "a", .array [.string "b", .string "c"]]) _ rfl rfl hstorable
  refine ⟨htags.2.2.1.mpr rfl, hfilter.mpr ?_⟩
  simp only [List.forall_mem_cons]
  exact ⟨fun h => (by cases h), fun _ => rfl, fun _ h => absurd h List.not_mem_nil⟩

/-- A list of numbers is an item of a list of such lists, but it is taken for a whole one. -/
theorem element_of_lists_is_no_operand :
    (array (array int)).element? = some (array int) ∧
    (array int).check "a" (.array [.int32 1]) = .ok () ∧
    checkOperand "a" (.array [.int32 1]) (array (array int)) =
      .error (.validation (.typeMismatch "a[0]" (array int) (.int32 1))) :=
  ⟨rfl, rfl, rfl⟩

end FieldType

end DocMapper
