import DocMapper.Proofs.Matching
import DocMapper.Proofs.Subjects
import DocMapper.Reconciliation.Basic

namespace DocMapper

/-! # Keywords that ask for equality

A keyword without an operator becomes a condition that is the value itself. The matching reads a
document whose first key starts with `$` as a list of operators, so such a value is carried out
and not compared. Any other value is compared, and with a value that equals itself the two
readings never agree on all documents.
-/

/-! ## Operators on documents nested deeper than their operands -/

namespace Value

variable {operators : Document} {d e : Document} {operand : Value}

theorem equals_eq_false_of_depth_lt (h : operand.depth < (Value.document d).depth) :
    (Value.document d).equals operand = false := by
  rw [← Bool.not_eq_true]
  intro heq
  have hle : (Value.document d).depth ≤ operand.depth := depth_le_of_equals rfl heq
  omega

theorem isMember_eq_of_depth_lt (operator : String) {items : List Value}
    (h : depthOfItems items < (Value.document d).depth) :
    isMember operator (.array items) (some (.document d)) = .ok false := by
  have hnone : items.any (equalsOperand (some (.document d))) = false := by
    rw [List.any_eq_false]
    intro item hitem
    have hle := depth_le_depthOfItems hitem
    have hlt : item.depth < (Value.document d).depth := by omega
    simp [equals_eq_false_of_depth_lt hlt]
  rw [isMember, hnone]

/-- No operator tells apart two documents that are nested deeper than its operand: neither is
equal to the operand or to an item of it, neither has an order, and neither is a text. -/
theorem passes_eq_of_depth_lt (operator : String) (hd : operand.depth < (Value.document d).depth)
    (he : operand.depth < (Value.document e).depth) :
    passes operators (some (.document d)) operator operand =
      passes operators (some (.document e)) operator operand := by
  have hequals : equalsOperand (some (.document d)) operand =
      equalsOperand (some (.document e)) operand := by
    simp [equals_eq_false_of_depth_lt hd, equals_eq_false_of_depth_lt he]
  have hmember : isMember operator operand (some (.document d)) =
      isMember operator operand (some (.document e)) := by
    cases operand with
    | array items =>
      have hd' : depthOfItems items < (Value.document d).depth := Nat.lt_of_succ_lt hd
      have he' : depthOfItems items < (Value.document e).depth := Nat.lt_of_succ_lt he
      rw [isMember_eq_of_depth_lt operator hd', isMember_eq_of_depth_lt operator he']
    | _ => rfl
  unfold passes
  split <;> first | rw [hequals] | rw [hmember] | rfl

/-- A list of operators cannot tell itself from a document that holds it. -/
theorem meets_self_eq_meets_nested (key : String)
    (h : (Value.document operators).isOperators = true) :
    meets (some (.document operators)) (.document operators) =
      meets (some (.document [(key, .document operators)])) (.document operators) := by
  rw [meets_of_operators h, meets_of_operators h]
  -- the operands are smaller than the document of operators, so none equals either value
  have hall : ∀ rest : Document, (∀ entry ∈ rest, entry ∈ operators) →
      passesAll operators (some (.document operators)) rest =
        passesAll operators (some (.document [(key, .document operators)])) rest := by
    intro rest
    induction rest with
    | nil => intro _; rfl
    | cons entry rest ih =>
      intro hmem
      obtain ⟨operator, operand⟩ := entry
      have hdepth : operand.depth < (Value.document operators).depth :=
        Nat.lt_succ_of_le (depth_le_depthOfFields (hmem _ List.mem_cons_self))
      have hnested : (Value.document operators).depth <
          (Value.document [(key, .document operators)]).depth := by
        simp [depth, depthOfFields]
      rw [passesAll, passesAll, passes_eq_of_depth_lt operator hdepth (Nat.lt_trans hdepth hnested),
        ih fun entry hentry => hmem entry (List.mem_cons_of_mem _ hentry)]
  exact hall operators fun _ h => h

/-- A list of operators that equals itself is not a comparison with itself: it treats some value
otherwise than equality does. -/
theorem exists_meets_ne_equalsOperand {condition : Value} (h : condition.isOperators = true)
    (hself : condition.equals condition = true) :
    ∃ w, meets (some w) condition ≠ .ok (equalsOperand (some w) condition) := by
  cases condition with
  | document operators =>
    by_cases htrue : meets (some (.document operators)) (.document operators) = .ok true
    · -- the nested document meets the condition too, but is not equal to it
      refine ⟨.document [("", .document operators)], ?_⟩
      have hdepth : (Value.document operators).depth <
          (Value.document [("", .document operators)]).depth := by
        simp [depth, depthOfFields]
      rw [← meets_self_eq_meets_nested "" h, htrue, equalsOperand_document,
        equals_eq_false_of_depth_lt hdepth]
      simp
    · refine ⟨.document operators, ?_⟩
      rw [equalsOperand_document, hself]
      exact htrue
  | _ => simp [isOperators] at h

end Value

/-! ## The filter of one equality -/

namespace Lowering

variable {l : Lowering} {schema : Schema} {field : Field} {v : Value}

/-- The filter of a field and a value has the value as its only condition, with identifiers
read. -/
theorem filter_of_name (hl : l.schema? = some schema) (hs : schema.WellFormed)
    (hfield : schema.field? field.name = some field) (hqueryable : field.queryable = true)
    {filter : Document} (h : l.filter [(field.name, v)] = .ok filter) :
    filter = [(field.name, Reconciler.comparand field.name v)] := by
  have hparse := (hs.legal_of_field? hfield).parse
  simp only [Lowering.filter, List.foldlM_cons, List.foldlM_nil, addFilter, hparse,
    subject_of_name hl hfield, hqueryable, Subject.constrain, Subject.comparand, ok_bind,
    if_true, bind_eq_ok, pure_eq_ok] at h
  obtain ⟨draft, ⟨_, ⟨w, hw, rfl⟩, rfl⟩, rfl⟩ := h
  have hcomparand : w = Reconciler.comparand field.name v := by
    simpa [Reconciler.comparand] using (Subject.accept_eq_ok hw).1
  simp [FilterDraft.setEqual, FilterDraft.modify, FilterDraft.toDocument, Conditions.toValue,
    hcomparand]

/-- An equality keyword compares: the filter of a queryable field and a value succeeds on every
document and says whether the value at the field equals the operand. It does so exactly when the
operand is no document of operators; an operand that is one, and equals itself, is carried out
instead, and every document can be given a value in the field on which that makes a
difference. -/
theorem equality_keyword_compares {draft : SchemaDraft} (hbuild : draft.build = .ok schema)
    (policy : SuffixPolicy) (hfield : schema.field? field.name = some field)
    (hqueryable : field.queryable = true) {filter : Document}
    (hfilter : Lowering.filter { schema? := some schema, policy } [(field.name, v)] =
      .ok filter) :
    ((Reconciler.comparand field.name v).isOperators = false →
      ∀ d, Document.satisfies d filter =
        .ok (Value.equalsOperand (Document.getPath? d field.name)
          (Reconciler.comparand field.name v))) ∧
    ((Reconciler.comparand field.name v).isOperators = true →
      (Reconciler.comparand field.name v).equals (Reconciler.comparand field.name v) = true →
      ∀ d, ∃ w, Document.satisfies (Document.insert d field.name w) filter ≠
        .ok (Value.equalsOperand (Document.getPath? (Document.insert d field.name w) field.name)
          (Reconciler.comparand field.name v))) := by
  have hs := SchemaDraft.build_wellFormed hbuild
  have hlegal := hs.legal_of_field? hfield
  have heq := filter_of_name rfl hs hfield hqueryable hfilter
  subst heq
  constructor
  · intro hplain d
    rw [Document.satisfies_singleton hlegal.plain, Value.meets_of_not_operators hplain]
  · -- the operators pass the document of them and one that nests it alike, but it equals only one
    intro hoperators hself d
    obtain ⟨w, hw⟩ := Value.exists_meets_ne_equalsOperand hoperators hself
    refine ⟨w, ?_⟩
    rw [Document.satisfies_singleton hlegal.plain, Document.getPath?_of_legalName hlegal,
      Document.get?_insert_self]
    exact hw

/-- The theorem at a mapping that is no document of operators, and at one that is. -/
theorem equality_keyword_compares_mapping :
    (∀ d, Document.satisfies d [("cfg", .document [("a", .int32 1)])] =
      .ok (Value.equalsOperand (Document.getPath? d "cfg") (.document [("a", .int32 1)]))) ∧
    ∃ w, Document.satisfies (Document.insert [("_id", .int32 1)] "cfg" w)
        [("cfg", .document [("$exists", .bool true)])] ≠
      .ok (Value.equalsOperand
        (Document.getPath? (Document.insert [("_id", .int32 1)] "cfg" w) "cfg")
        (.document [("$exists", .bool true)])) := by
  have hbuild : SchemaDraft.build
      { collection := "t", fields := [{ name := "cfg", type := .mapping }] } =
      .ok { collection := ⟨"t"⟩, fields := [{ name := "cfg", type := .mapping }] } :=
    SchemaDraft.build_one_field rfl rfl (by decide) rfl
  have hfield : Schema.field? ⟨⟨"t"⟩, [{ name := "cfg", type := .mapping }]⟩
      (Field.name { name := "cfg", type := .mapping }) =
      some { name := "cfg", type := .mapping } := rfl
  have hplain : Lowering.filter
      { schema? := some ⟨⟨"t"⟩, [{ name := "cfg", type := .mapping }]⟩, policy := .reject }
      [(Field.name { name := "cfg", type := .mapping }, .document [("a", .int32 1)])] =
      .ok [("cfg", .document [("a", .int32 1)])] := rfl
  have hcarried : Lowering.filter
      { schema? := some ⟨⟨"t"⟩, [{ name := "cfg", type := .mapping }]⟩, policy := .reject }
      [(Field.name { name := "cfg", type := .mapping }, .document [("$exists", .bool true)])] =
      .ok [("cfg", .document [("$exists", .bool true)])] := rfl
  have hdata := equality_keyword_compares hbuild .reject hfield rfl hplain
  have hoperators := equality_keyword_compares hbuild .reject hfield rfl hcarried
  exact ⟨hdata.1 rfl, hoperators.2 rfl rfl _⟩

/-- Asking for the mapping `{$exists: true}` selects a document that has another one. -/
theorem equality_with_operators_selects_unequal :
    ∃ draft schema filter,
      SchemaDraft.build draft = .ok schema ∧
      schema.field? "cfg" = some { name := "cfg", type := .mapping } ∧
      Lowering.filter { schema? := some schema, policy := .reject }
        [("cfg", .document [("$exists", .bool true)])] = .ok filter ∧
      Document.satisfies [("_id", .int32 1), ("cfg", .document [("a", .int32 1)])] filter =
        .ok true ∧
      Value.equalsOperand
        (Document.getPath? [("_id", .int32 1), ("cfg", .document [("a", .int32 1)])] "cfg")
        (.document [("$exists", .bool true)]) = false := by
  refine ⟨{ collection := "t", fields := [{ name := "cfg", type := .mapping }] },
    { collection := ⟨"t"⟩, fields := [{ name := "cfg", type := .mapping }] },
    [("cfg", .document [("$exists", .bool true)])],
    SchemaDraft.build_one_field rfl rfl (by decide) rfl, rfl, ?_, rfl, rfl⟩
  rfl

end Lowering

end DocMapper
