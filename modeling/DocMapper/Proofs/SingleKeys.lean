import DocMapper.Proofs.Suffixes

namespace DocMapper

/-! # Filters of one key

The filter of one keyword argument has at most one condition, so it says of every document whether
it selects it. What it says is read off the operator of the key, unless the name of the field ends
in an underscore: then the key is refused, or it is about a place inside another field.
-/

/-- A condition of one operator holds when the operator does. -/
theorem Value.meets_operator {operator : String} (h : isOperatorKey operator = true)
    (operand : Value) (value : Option Value) :
    meets value (.document [(operator, operand)]) =
      passes [(operator, operand)] value operator operand := by
  have hoperators : (Value.document [(operator, operand)]).isOperators = true := h
  rw [meets_of_operators hoperators, passesAll]
  cases passes [(operator, operand)] value operator operand with
  | error e => rfl
  | ok b => cases b <;> rfl

/-- The schema has a field whose name is the given one without the underscore at its end, and which
accepts nested paths. The suffixes of the given name then lead into that field. -/
def Schema.Diverts (schema : Schema) (name : String) : Prop :=
  ∃ stem other, name = stem ++ "_" ∧ schema.field? stem = some other ∧
    other.type.isMapping = true

namespace Lowering

/-- The keyword arguments have a filter. -/
def Accepts (l : Lowering) (kwargs : Document) : Prop := ∃ filter, l.filter kwargs = .ok filter

/-- The keyword arguments have a filter, and the filter says of a document whether it selects
it. -/
def Answers (l : Lowering) (kwargs d : Document) (b : Bool) : Prop :=
  ∃ filter, l.filter kwargs = .ok filter ∧ Document.satisfies d filter = .ok b

variable {l : Lowering} {schema : Schema} {field other : Field} {key suffix stem : String}
  {o : FilterOperator} {v : Value} {d : Document} {b c : Bool}

theorem Answers.unique {kwargs : Document} (hb : l.Answers kwargs d b) (hc : l.Answers kwargs d c) :
    b = c := by
  rcases hb with ⟨filter, hfilter, hb⟩
  rcases hc with ⟨filter', hfilter', hc⟩
  cases hfilter.symm.trans hfilter'
  exact Except.ok.inj (hb.symm.trans hc)

/-! ## Keys that reach their field -/

namespace Applies

theorem filter_eq (h : l.Applies key v (.filter o) field) (hqueryable : field.queryable = true) :
    l.filter [(key, v)] = (field.subject.constrain o v []).map FilterDraft.toDocument := by
  have hstep : l.addFilter [] (key, v) = field.subject.constrain o v [] := by
    rw [h.filters, filterAt, if_pos hqueryable]
  rw [Lowering.filter, List.foldlM_cons, hstep]
  cases field.subject.constrain o v [] <;> rfl

theorem accepts_iff (h : l.Applies key v (.filter o) field) (hqueryable : field.queryable = true) :
    l.Accepts [(key, v)] ↔ ∃ draft, field.subject.constrain o v [] = .ok draft := by
  rw [Accepts, h.filter_eq hqueryable]
  constructor
  · rintro ⟨filter, hfilter⟩
    rcases map_eq_ok.mp hfilter with ⟨draft, hdraft, -⟩
    exact ⟨draft, hdraft⟩
  · rintro ⟨draft, hdraft⟩
    exact ⟨_, map_eq_ok.mpr ⟨draft, hdraft, rfl⟩⟩

/-- A key that adds one operator to a filter is accepted with its operand, and the filter says of
every document what the operator says of the value at the field. -/
theorem answers_operator {α : Type} {operand : Except Error α} {operator : String}
    (h : l.Applies key v (.filter o) field) (hqueryable : field.queryable = true)
    (hplain : isOperatorKey field.name = false) (hoperator : isOperatorKey operator = true)
    (f : α → Value)
    (hform : field.subject.constrain o v [] =
      operand >>= fun a => pure (FilterDraft.addOperator [] field.name operator (f a))) :
    l.Answers [(key, v)] d b ↔ ∃ a, operand = .ok a ∧
      Value.passes [(operator, f a)] (Document.getPath? d field.name) operator (f a) = .ok b := by
  -- the draft holds one operator, so the operator alone decides
  have hsatisfies : ∀ a, Document.satisfies d
      (FilterDraft.addOperator [] field.name operator (f a)).toDocument =
      Value.passes [(operator, f a)] (Document.getPath? d field.name) operator (f a) := by
    intro a
    rw [← Value.meets_operator hoperator]
    exact Document.satisfies_singleton hplain d _
  rw [Answers, h.filter_eq hqueryable, hform]
  cases operand with
  | error e =>
    constructor
    · rintro ⟨filter, hfilter, -⟩
      cases hfilter
    · rintro ⟨a, ha, -⟩
      cases ha
  | ok a =>
    constructor
    · rintro ⟨filter, hfilter, hb⟩
      cases hfilter
      exact ⟨a, rfl, (hsatisfies a).symm.trans hb⟩
    · rintro ⟨a', ha, hb⟩
      cases ha
      exact ⟨_, rfl, (hsatisfies a).trans hb⟩

end Applies

/-- A suffix reaches a field whose name does not end in an underscore. -/
theorem applies_of_suffix (hl : l.schema? = some schema) (hs : schema.WellFormed)
    (hfield : schema.field? field.name = some field)
    (hlast : field.name.toList.getLast? ≠ some '_') (suffix : String) (operator : Operator)
    (hoperator : Operator.ofSuffix? suffix = some operator) (v : Value) :
    l.Applies (field.suffixed suffix) v operator field :=
  applies_of_parse hl hfield ((hs.legal_of_field? hfield).parse_suffixed hlast hoperator) v

theorem applies_of_name (hl : l.schema? = some schema) (hs : schema.WellFormed)
    (hfield : schema.field? field.name = some field) (v : Value) :
    l.Applies field.name v (.filter .eq) field :=
  applies_of_parse hl hfield (hs.legal_of_field? hfield).parse v

/-! ## Keys that miss their field -/

/-- Behind a name that ends in an underscore, a key that does anything to a filter is about another
field. -/
theorem diverts_of_addFilter (hl : l.schema? = some schema) (hs : schema.WellFormed)
    (hlegal : LegalName field.name) (hlast : field.name.toList.getLast? = some '_')
    (operator : Operator) (hoperator : Operator.ofSuffix? suffix = some operator)
    {draft draft' : FilterDraft}
    (h : l.addFilter draft (field.suffixed suffix, v) = .ok draft') :
    schema.Diverts field.name := by
  rcases exists_stem hlast with ⟨stem, hstem⟩
  have hlegal' : LegalName (stem ++ "_") := hstem ▸ hlegal
  have hparse := hlegal'.parse_suffixed_of_last hoperator
  rw [← hstem, ← Field.suffixed] at hparse
  rcases bind_eq_ok.mp h with ⟨k, hk, h⟩
  rcases bind_eq_ok.mp h with ⟨s, hsubject, -⟩
  -- nothing before the underscore is an empty segment
  rw [hparse] at hk
  split at hk
  · cases hk
  · cases hk
    rcases LegalName.pairless_stem hlegal' with ⟨hpairless, hfree⟩
    rcases inside_of_suffixed hl hs hpairless hfree hsubject with ⟨-, -, -, hpath⟩
    rcases field_of_subject hl hs hsubject with ⟨other, hother, haddresses, hmapping⟩
    refine ⟨stem, other, hstem, hother, ?_⟩
    cases haddresses with
    | inside => exact hmapping rfl
    | whole =>
      have hname : other.name = stem := (Schema.field?_eq_some hother).1
      have hlength : stem.length = (stem ++ "._" ++ suffix).length :=
        congrArg String.length (hname.symm.trans hpath)
      have hdots : "._".length = 2 := rfl
      rw [String.length_append, String.length_append] at hlength
      omega

/-- What a diverted key is about. -/
theorem subject_of_diverted (hl : l.schema? = some schema) (hs : schema.WellFormed)
    (hother : schema.field? stem = some other) (hmapping : other.type.isMapping = true)
    (suffix : String) (operator : Operator) (key : String) :
    ∃ path, l.subject key { field := stem, inner := ["_" ++ suffix], operator } =
        .ok { path, type? := none, isId := stem = Document.idKey, queryable := other.queryable } ∧
      isOperatorKey path = false ∧ (Path.ofString path).head = stem := by
  have hname : other.name = stem := (Schema.field?_eq_some hother).1
  have hlegal : LegalName stem := hname ▸ hs.legal_of_field? hother
  have hnested : (Keyword.mk stem ["_" ++ suffix] operator).isNested = true := rfl
  have hne : (stem != (Keyword.mk stem ["_" ++ suffix] operator).literal) = true :=
    bne_iff_ne.mpr (hlegal.ne_literal hnested)
  have hfield : l.fieldOf schema key { field := stem, inner := ["_" ++ suffix], operator } =
      .ok other := by
    rw [fieldOf, if_pos hnested]
    simp only [hother, hmapping, if_true]
  have hinside : Addresses other
      { path := String.intercalate "." [stem, "_" ++ suffix], type? := none,
        isId := stem = Document.idKey, queryable := other.queryable } := by
    subst hname
    exact .inside (List.cons_ne_nil _ _)
  refine ⟨_, ?_, hinside.isOperatorKey_path (hname ▸ hlegal), ?_⟩
  · simp only [subject, hl, hfield, ok_bind, hnested, Bool.true_and, hname, hne, if_true]
    rfl
  · exact (hinside.path_head (hname ▸ hlegal)).trans hname

/-- A diverted key asks for its operand inside the other field. A document without that field is
selected only where filters leave the other field out of account. -/
theorem answers_of_diverted (hl : l.schema? = some schema) (hs : schema.WellFormed)
    (hlegal : LegalName (stem ++ "_")) (hother : schema.field? stem = some other)
    (hmapping : other.type.isMapping = true) (operator : Operator)
    (hoperator : Operator.ofSuffix? suffix = some operator)
    (hsafe : v.rejectDangerous = .ok ())
    (hmiss : ∀ w, w = v ∨ w = v.readId → Value.meets none w = .ok false)
    (hd : stem ∉ Document.keys d) :
    l.Answers [(stem ++ "_" ++ "__" ++ suffix, v)] d (!other.queryable) := by
  have hne : stem ≠ "" := (Schema.field?_eq_some hother).1 ▸ (hs.legal_of_field? hother).nonempty
  have hparse := hlegal.parse_suffixed_of_last hoperator
  rw [if_neg hne] at hparse
  rcases subject_of_diverted hl hs hother hmapping suffix (.filter .eq)
    (stem ++ "_" ++ "__" ++ suffix) with ⟨path, hsubject, hplain, hhead⟩
  -- nothing is stored under the stem, so the path inside it leads to nothing
  have hnone : Document.getPath? d path = none := by
    rw [Document.getPath?, Document.at?, hhead, Document.get?_eq_none_iff.mpr hd, Option.bind_none]
  cases hqueryable : other.queryable with
  | false =>
    -- a field that is not queryable leaves the filter empty, and it selects everything
    refine ⟨[], ?_, rfl⟩
    rw [hqueryable] at hsubject
    simp only [Lowering.filter, List.foldlM_cons, List.foldlM_nil, addFilter, hparse, hsubject,
      ok_bind]
    rfl
  | true =>
    rw [hqueryable] at hsubject
    have hcomparand : Subject.comparand
        { path, type? := none, isId := stem = Document.idKey, queryable := true } v =
        .ok (if stem = Document.idKey then v.readId else v) := by
      simp only [Subject.comparand, Subject.accept, hsafe, ok_bind, decide_eq_true_eq]
      rfl
    refine ⟨[(path, if stem = Document.idKey then v.readId else v)], ?_, ?_⟩
    · simp only [Lowering.filter, List.foldlM_cons, List.foldlM_nil, addFilter, hparse, hsubject,
        ok_bind, if_true, Subject.constrain, hcomparand]
      rfl
    · rw [Document.satisfies_singleton hplain, hnone]
      apply hmiss
      by_cases hid : stem = Document.idKey
      · exact Or.inr (if_pos hid)
      · exact Or.inl (if_neg hid)

end Lowering

end DocMapper
