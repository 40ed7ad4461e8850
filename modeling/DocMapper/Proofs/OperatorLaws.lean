import DocMapper.Proofs.SingleKeys
import DocMapper.Proofs.Types

namespace DocMapper

/-! # Laws of the operators

Membership is equality with one of the items, and its denial, the denial of equality and the range
are what their names say: the filters of single keys keep to these laws on every document. A range
is also written as its two bounds. The laws hold of a field unless its name is that of a mapping
with an underscore behind it, where the suffixes are about the mapping.
-/

namespace FieldType

/-- The types of single values that have one form each. -/
def scalarTypes : List FieldType :=
  [string, int, double, bool, dateTime, objectId, binary, decimal]

/-- A scalar type, or one with null beside it. -/
def isScalar : FieldType → Bool
  | optional inner => inner.isScalar
  | type => type ∈ scalarTypes

variable {type : FieldType} {v : Value}

theorem element?_of_isScalar (h : type.isScalar = true) : type.element? = none := by
  induction type with
  | optional inner ih => exact ih h
  | array items => cases h
  | _ => rfl

theorem not_admits_document (h : type.isScalar = true) (d : Document) :
    ¬ type.Admits (.document d) := by
  intro hadmits
  induction type with
  | optional inner ih =>
    rcases admits_optional.mp hadmits with hnull | hinner
    · cases hnull
    · exact ih h hinner
  | array items => cases h
  | mapping => cases h
  | any => cases h
  | _ => cases hadmits ""

/-- What a scalar is compared with is no list of operators. -/
theorem isOperators_of_checkOperand (h : type.isScalar = true)
    {path : String} (hv : checkOperand path v type = .ok ()) : v.isOperators = false := by
  rcases admits_of_checkOperand (element?_of_isScalar h) hv with rfl | hadmits
  · rfl
  · cases v with
    | document d => exact absurd hadmits (not_admits_document h d)
    | _ => rfl

end FieldType

namespace Lowering

/-! ## What the single operators answer -/

section Reached

variable {l : Lowering} {field : Field} {key : String} {v : Value} {d : Document} {b : Bool}

variable (hqueryable : field.queryable = true) (hplain : isOperatorKey field.name = false)

include hqueryable hplain

theorem Applies.answers_eq (h : l.Applies key v (.filter .eq) field)
    (hscalar : field.type.isScalar = true) :
    l.Answers [(key, v)] d b ↔ ∃ w, field.subject.comparand v = .ok w ∧
      Value.equalsOperand (Document.getPath? d field.name) w = b := by
  have hsatisfies : ∀ w, field.subject.comparand v = .ok w →
      Document.satisfies d [(field.name, w)] =
        .ok (Value.equalsOperand (Document.getPath? d field.name) w) := by
    intro w hw
    -- a scalar field accepts no operand that would run as operators
    have hoperators : w.isOperators = false :=
      FieldType.isOperators_of_checkOperand hscalar ((Subject.accept_eq_ok hw).2 _ rfl)
    rw [Document.satisfies_singleton hplain, Value.meets_of_not_operators hoperators]
  have hform : field.subject.constrain .eq v [] =
      field.subject.comparand v >>= fun w => pure [(field.name, { equal? := some w })] := rfl
  rw [Answers, h.filter_eq hqueryable, hform]
  constructor
  · rintro ⟨filter, hfilter, hb⟩
    rcases map_eq_ok.mp hfilter with ⟨draft, hdraft, rfl⟩
    rcases bind_eq_ok.mp hdraft with ⟨w, hw, hdraft⟩
    cases hdraft
    exact ⟨w, hw, Except.ok.inj ((hsatisfies w hw).symm.trans hb)⟩
  · rintro ⟨w, hw, rfl⟩
    rw [hw]
    exact ⟨_, rfl, hsatisfies w hw⟩

theorem Applies.answers_ne (h : l.Applies key v (.filter .ne) field) :
    l.Answers [(key, v)] d b ↔ ∃ w, field.subject.comparand v = .ok w ∧
      (!Value.equalsOperand (Document.getPath? d field.name) w) = b := by
  rw [h.answers_operator hqueryable hplain rfl (fun w => w) rfl]
  simp only [Value.passes, Except.ok.injEq]

theorem Applies.answers_gte (h : l.Applies key v (.filter .gte) field) :
    l.Answers [(key, v)] d b ↔ ∃ w, field.subject.comparand v = .ok w ∧
      Value.liesAt [.gt, .eq] w (Document.getPath? d field.name) = b := by
  rw [h.answers_operator hqueryable hplain rfl (fun w => w) rfl]
  simp only [Value.passes, Except.ok.injEq]

theorem Applies.answers_lte (h : l.Applies key v (.filter .lte) field) :
    l.Answers [(key, v)] d b ↔ ∃ w, field.subject.comparand v = .ok w ∧
      Value.liesAt [.lt, .eq] w (Document.getPath? d field.name) = b := by
  rw [h.answers_operator hqueryable hplain rfl (fun w => w) rfl]
  simp only [Value.passes, Except.ok.injEq]

theorem Applies.answers_inList {items : List Value}
    (h : l.Applies key (.array items) (.filter .inList) field) :
    l.Answers [(key, .array items)] d b ↔ ∃ ws, items.mapM field.subject.comparand = .ok ws ∧
      ws.any (Value.equalsOperand (Document.getPath? d field.name)) = b := by
  rw [h.answers_operator hqueryable hplain rfl .array rfl]
  simp only [Value.passes, Value.isMember, Except.ok.injEq]

theorem Applies.answers_notIn {items : List Value}
    (h : l.Applies key (.array items) (.filter .notIn) field) :
    l.Answers [(key, .array items)] d b ↔ ∃ ws, items.mapM field.subject.comparand = .ok ws ∧
      (!ws.any (Value.equalsOperand (Document.getPath? d field.name))) = b := by
  rw [h.answers_operator hqueryable hplain rfl .array rfl]
  simp only [Value.passes, Value.isMember, Except.map, Except.ok.injEq]

theorem Applies.answers_range {low high : Value}
    (h : l.Applies key (.array [low, high]) (.filter .range) field) :
    l.Answers [(key, .array [low, high])] d b ↔ ∃ low' high',
      field.subject.comparand low = .ok low' ∧ field.subject.comparand high = .ok high' ∧
        (Value.liesAt [.gt, .eq] low' (Document.getPath? d field.name) &&
          Value.liesAt [.lt, .eq] high' (Document.getPath? d field.name)) = b := by
  -- both bounds go into the one operator document of the path
  have hdocument : ∀ low' high',
      ((FilterDraft.addOperator [] field.subject.path "$gte" low').addOperator field.subject.path
        "$lte" high').toDocument =
          [(field.name, .document [("$gte", low'), ("$lte", high')])] := by
    intro low' high'
    rw [FilterDraft.addOperator, FilterDraft.addOperator, FilterDraft.modify_modify]
    rfl
  -- their conjunction is answered at once, since neither can fail
  have hsatisfies : ∀ low' high',
      Document.satisfies d [(field.name, .document [("$gte", low'), ("$lte", high')])] =
        .ok (Value.liesAt [.gt, .eq] low' (Document.getPath? d field.name) &&
          Value.liesAt [.lt, .eq] high' (Document.getPath? d field.name)) := by
    intro low' high'
    have hoperators : (Value.document [("$gte", low'), ("$lte", high')]).isOperators = true := rfl
    rw [Document.satisfies_singleton hplain, Value.meets_of_operators hoperators, Value.passesAll,
      Value.passesAll, Value.passesAll, Value.passes, Value.passes]
    cases Value.liesAt [.gt, .eq] low' (Document.getPath? d field.name) <;>
      cases Value.liesAt [.lt, .eq] high' (Document.getPath? d field.name) <;> rfl
  rw [Answers, h.filter_eq hqueryable]
  constructor
  · rintro ⟨filter, hfilter, hb⟩
    rcases map_eq_ok.mp hfilter with ⟨draft, hdraft, rfl⟩
    rcases bind_eq_ok.mp hdraft with ⟨low', hlow, hdraft⟩
    rcases bind_eq_ok.mp hdraft with ⟨high', hhigh, hdraft⟩
    cases hdraft
    rw [hdocument, hsatisfies, Except.ok.injEq] at hb
    exact ⟨low', high', hlow, hhigh, hb⟩
  · rintro ⟨low', high', hlow, hhigh, rfl⟩
    refine ⟨[(field.name, .document [("$gte", low'), ("$lte", high')])], ?_,
      hsatisfies low' high'⟩
    simp only [Subject.constrain, hlow, hhigh, ok_bind]
    exact congrArg Except.ok (hdocument low' high')

end Reached

/-! ## The laws -/

variable {l : Lowering} {schema : Schema} {field : Field}

/-- The laws of the operators at a field, for all operands that are accepted. -/
structure ObeysLaws (l : Lowering) (f : Field) : Prop where
  inList : ∀ items, l.Accepts [(f.suffixed "in", .array items)] → ∀ d,
    ∃ b, l.Answers [(f.suffixed "in", .array items)] d b ∧
      (b = true ↔ ∃ v ∈ items, l.Answers [(f.name, v)] d true)
  notIn : ∀ items, l.Accepts [(f.suffixed "nin", .array items)] → ∀ d,
    ∃ b, l.Answers [(f.suffixed "nin", .array items)] d (!b) ∧
      l.Answers [(f.suffixed "in", .array items)] d b
  ne : ∀ v, l.Accepts [(f.suffixed "ne", v)] → ∀ d,
    ∃ b, l.Answers [(f.suffixed "ne", v)] d (!b) ∧ l.Answers [(f.name, v)] d b
  range : ∀ low high, l.Accepts [(f.suffixed "range", .array [low, high])] → ∀ d,
    ∃ b c, l.Answers [(f.suffixed "range", .array [low, high])] d (b && c) ∧
      l.Answers [(f.suffixed "gte", low)] d b ∧ l.Answers [(f.suffixed "lte", high)] d c
  bounds : ∀ before after low high filter,
    l.filter (before ++ (f.suffixed "range", .array [low, high]) :: after) = .ok filter ↔
      l.filter (before ++ (f.suffixed "gte", low) :: (f.suffixed "lte", high) :: after) =
        .ok filter

/-- A range adds its two bounds, the lower one first. -/
theorem constrain_range (s : Subject) (low high : Value) (draft : FilterDraft) :
    s.constrain .range (.array [low, high]) draft =
      s.constrain .gte low draft >>= fun draft => s.constrain .lte high draft := by
  simp only [Subject.constrain]
  cases s.comparand low <;> rfl

section Reached

variable (hl : l.schema? = some schema) (hs : schema.WellFormed)
  (hfield : schema.field? field.name = some field) (hqueryable : field.queryable = true)
  (hlast : field.name.toList.getLast? ≠ some '_')

include hl hs hfield hqueryable hlast

/-- In any place among keyword arguments, a range and its two bounds make the same filter, or fail
in the same way. -/
theorem filter_range_eq (before after : Document) (low high : Value) :
    l.filter (before ++ (field.suffixed "range", .array [low, high]) :: after) =
      l.filter
        (before ++ (field.suffixed "gte", low) :: (field.suffixed "lte", high) :: after) := by
  have happlies := applies_of_suffix hl hs hfield hlast
  have hrange := happlies "range" (.filter .range) rfl (.array [low, high])
  have hgte := happlies "gte" (.filter .gte) rfl low
  have hlte := happlies "lte" (.filter .lte) rfl high
  -- whatever the arguments before have left, the range adds what the bounds add one by one
  have hstep : ∀ draft : FilterDraft,
      l.addFilter draft (field.suffixed "range", .array [low, high]) =
        l.addFilter draft (field.suffixed "gte", low) >>= fun draft =>
          l.addFilter draft (field.suffixed "lte", high) := by
    intro draft
    rw [hrange.filters, hgte.filters, filterAt, filterAt, if_pos hqueryable, if_pos hqueryable,
      constrain_range]
    refine bind_congr fun draft => ?_
    rw [hlte.filters, filterAt, if_pos hqueryable]
  unfold Lowering.filter
  rw [List.foldlM_append, List.foldlM_append]
  simp only [List.foldlM_cons, hstep, bind_assoc]

/-- Where the suffixes reach a scalar field, the operators obey their laws. -/
theorem obeysLaws_of_reached (hscalar : field.type.isScalar = true) : l.ObeysLaws field := by
  have hplain : isOperatorKey field.name = false := (hs.legal_of_field? hfield).plain
  have heq := applies_of_name hl hs hfield
  have happlies := applies_of_suffix hl hs hfield hlast
  -- one case for each law; every operand that is accepted has been read
  constructor
  · intro items haccepts d
    have hin := happlies "in" (.filter .inList) rfl (.array items)
    rcases (hin.accepts_iff hqueryable).mp haccepts with ⟨draft, hdraft⟩
    rcases bind_eq_ok.mp hdraft with ⟨ws, hws, -⟩
    refine ⟨_, (hin.answers_inList hqueryable hplain).mpr ⟨ws, hws, rfl⟩, ?_⟩
    rw [List.any_eq_true]
    constructor
    · rintro ⟨w, hw, hequal⟩
      rcases exists_of_mem_mapM hws hw with ⟨v, hv, hvw⟩
      exact ⟨v, hv, ((heq v).answers_eq hqueryable hplain hscalar).mpr ⟨w, hvw, hequal⟩⟩
    · rintro ⟨v, hv, hanswers⟩
      rcases ((heq v).answers_eq hqueryable hplain hscalar).mp hanswers with ⟨w, hvw, hequal⟩
      exact ⟨w, mem_of_mapM_eq_ok hws hv hvw, hequal⟩
  · intro items haccepts d
    have hin := happlies "in" (.filter .inList) rfl (.array items)
    have hnin := happlies "nin" (.filter .notIn) rfl (.array items)
    rcases (hnin.accepts_iff hqueryable).mp haccepts with ⟨draft, hdraft⟩
    rcases bind_eq_ok.mp hdraft with ⟨ws, hws, -⟩
    exact ⟨_, (hnin.answers_notIn hqueryable hplain).mpr ⟨ws, hws, rfl⟩,
      (hin.answers_inList hqueryable hplain).mpr ⟨ws, hws, rfl⟩⟩
  · intro v haccepts d
    have hne := happlies "ne" (.filter .ne) rfl v
    rcases (hne.accepts_iff hqueryable).mp haccepts with ⟨draft, hdraft⟩
    rcases bind_eq_ok.mp hdraft with ⟨w, hw, -⟩
    exact ⟨_, (hne.answers_ne hqueryable hplain).mpr ⟨w, hw, rfl⟩,
      ((heq v).answers_eq hqueryable hplain hscalar).mpr ⟨w, hw, rfl⟩⟩
  · intro low high haccepts d
    have hrange := happlies "range" (.filter .range) rfl (.array [low, high])
    have hgte := happlies "gte" (.filter .gte) rfl low
    have hlte := happlies "lte" (.filter .lte) rfl high
    rcases (hrange.accepts_iff hqueryable).mp haccepts with ⟨draft, hdraft⟩
    rcases bind_eq_ok.mp hdraft with ⟨low', hlow, hdraft⟩
    rcases bind_eq_ok.mp hdraft with ⟨high', hhigh, -⟩
    exact ⟨_, _, (hrange.answers_range hqueryable hplain).mpr ⟨low', high', hlow, hhigh, rfl⟩,
      (hgte.answers_gte hqueryable hplain).mpr ⟨low', hlow, rfl⟩,
      (hlte.answers_lte hqueryable hplain).mpr ⟨high', hhigh, rfl⟩⟩
  · intro before after low high filter
    rw [filter_range_eq hl hs hfield hqueryable hlast]

end Reached

/-- Where the name ends in an underscore and diverts nothing, all suffixes are refused, and so the
laws have nothing to say. -/
theorem obeysLaws_of_refused (hl : l.schema? = some schema) (hs : schema.WellFormed)
    (hlegal : LegalName field.name) (hlast : field.name.toList.getLast? = some '_')
    (hdiverts : ¬ schema.Diverts field.name) : l.ObeysLaws field := by
  -- a key with a suffix is read as a path into another field, and there is no such field
  have hrefused : ∀ suffix operator, Operator.ofSuffix? suffix = some operator →
      ∀ (before after : Document) (v : Value) (filter : Document),
        l.filter (before ++ (field.suffixed suffix, v) :: after) ≠ .ok filter := by
    intro suffix operator hoperator before after v filter hfilter
    rcases bind_eq_ok.mp hfilter with ⟨draft, hdraft, -⟩
    rcases exists_step_of_foldlM hdraft _ (List.mem_append_right _ List.mem_cons_self) with
      ⟨c, c', hstep⟩
    exact hdiverts (diverts_of_addFilter hl hs hlegal hlast operator hoperator hstep)
  -- nothing accepted is left, so every law that asks for an accepted key holds of none
  have hnone : ∀ suffix operator, Operator.ofSuffix? suffix = some operator →
      ∀ v, ¬ l.Accepts [(field.suffixed suffix, v)] := by
    rintro suffix operator hoperator v ⟨filter, hfilter⟩
    exact hrefused suffix operator hoperator [] [] v filter hfilter
  constructor
  · exact fun items haccepts => absurd haccepts (hnone "in" _ rfl _)
  · exact fun items haccepts => absurd haccepts (hnone "nin" _ rfl _)
  · exact fun v haccepts => absurd haccepts (hnone "ne" _ rfl v)
  · exact fun low high haccepts => absurd haccepts (hnone "range" _ rfl _)
  · intro before after low high filter
    exact iff_of_false (hrefused "range" _ rfl before after _ filter)
      (hrefused "gte" _ rfl before _ low filter)

/-- The operators obey their laws at a queryable scalar field, for all operands that are accepted
and on all documents, exactly when the name of the field is not that of a field that accepts nested
paths with an underscore behind it. -/
theorem operators_obey_laws_iff {draft : SchemaDraft} (hbuild : draft.build = .ok schema)
    (policy : SuffixPolicy) (hfield : schema.field? field.name = some field)
    (hscalar : field.type.isScalar = true) (hqueryable : field.queryable = true) :
    ObeysLaws { schema? := some schema, policy } field ↔ ¬ schema.Diverts field.name := by
  have hs := SchemaDraft.build_wellFormed hbuild
  have hlegal := hs.legal_of_field? hfield
  constructor
  · rintro hlaws ⟨stem, other, hstem, hother, hmapping⟩
    -- both membership and its denial ask for equality inside the other field
    have hanswers : ∀ (suffix : String) (operator : Operator),
        Operator.ofSuffix? suffix = some operator →
        Answers { schema? := some schema, policy } [(field.suffixed suffix, .array [])] []
          (!other.queryable) := by
      intro suffix operator hoperator
      rw [Field.suffixed, hstem]
      refine answers_of_diverted rfl hs (hstem ▸ hlegal) hother hmapping operator hoperator rfl
        ?_ List.not_mem_nil
      rintro w (rfl | rfl)
      · rfl
      · rfl
    have hin := hanswers "in" (.filter .inList) rfl
    have hnin := hanswers "nin" (.filter .notIn) rfl
    rcases hlaws.notIn [] ⟨_, hnin.choose_spec.1⟩ [] with ⟨b, hb, hb'⟩
    have hsame : (!b) = b := (hb.unique hnin).trans (hin.unique hb')
    cases b with
    | true => cases hsame
    | false => cases hsame
  · intro hdiverts
    by_cases hlast : field.name.toList.getLast? = some '_'
    · exact obeysLaws_of_refused rfl hs hlegal hlast hdiverts
    · exact obeysLaws_of_reached rfl hs hfield hqueryable hlast hscalar

/-- The laws hold at a number that may be null, and fail at the number behind a mapping of almost
the same name. -/
theorem operators_obey_laws_iff_of_number :
    ObeysLaws { schema? := some ⟨⟨"t"⟩, [{ name := "n", type := .optional .int }]⟩ }
      { name := "n", type := .optional .int } ∧
    ¬ ObeysLaws { schema? := some underscored } { name := "a_", type := .int } := by
  have hbuild : SchemaDraft.build
      { collection := "t", fields := [{ name := "n", type := .optional .int }] } =
      .ok ⟨⟨"t"⟩, [{ name := "n", type := .optional .int }]⟩ :=
    SchemaDraft.build_one_field rfl rfl (by decide) rfl
  have hnumber := @operators_obey_laws_iff ⟨⟨"t"⟩, [{ name := "n", type := .optional .int }]⟩
    { name := "n", type := .optional .int } _ hbuild .reject rfl rfl rfl
  have hdiverted := @operators_obey_laws_iff underscored { name := "a_", type := .int } _
    build_underscored .reject rfl rfl rfl
  refine ⟨hnumber.mpr ?_, fun hlaws => hdiverted.mp hlaws ?_⟩
  · rintro ⟨stem, other, hstem, -⟩
    have hlast : (stem ++ "_").toList.getLast? = some '_' := by simp
    rw [← hstem] at hlast
    cases hlast
  · exact ⟨"a", { name := "a", type := .mapping }, rfl, rfl, rfl⟩

/-- Asking for a number finds a document that asking for membership in a list of the number alone
does not. -/
theorem membership_misses_underscored_field :
    let d : Document := [("_id", .int32 1), ("a", .document []), ("a_", .int32 1)]
    SchemaDraft.build
      { collection := "t"
        fields := [{ name := "a", type := .mapping }, { name := "a_", type := .int }] } =
      .ok underscored ∧
    underscored.field? "a_" = some { name := "a_", type := .int } ∧
    Answers { schema? := some underscored } [("a_", .int32 1)] d true ∧
    Answers { schema? := some underscored }
      [("a_" ++ "__" ++ "in", .array [.int32 1])] d false := by
  intro d
  have hequal : (Value.int32 1).equals (.int32 1) = true := by decide +kernel
  have hselected : Document.satisfies d [("a_", .int32 1)] = .ok true := by
    rw [Document.satisfies_singleton rfl]
    show Except.ok ((Value.int32 1).equals (.int32 1)) = .ok true
    rw [hequal]
  -- the key is cut at its first separator, so the field `a` is asked for `_in`
  have hmissed : Document.satisfies d [("a._in", .array [.int32 1])] = .ok false := by
    rw [Document.satisfies_singleton rfl]
    rfl
  exact ⟨build_underscored, rfl, ⟨[("a_", .int32 1)], rfl, hselected⟩,
    ⟨[("a._in", .array [.int32 1])], rfl, hmissed⟩⟩

end Lowering

end DocMapper
