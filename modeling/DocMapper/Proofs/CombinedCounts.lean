import DocMapper.Proofs.Counts
import DocMapper.Proofs.Numbers
import DocMapper.Proofs.Schemas

namespace DocMapper

/-! # Counts by combined values

Counting by several fields groups by documents of their values, and documents are equal only if the
values in them have equal types and contents. Counting by one field groups by its values, of which
numbers are equal whatever their types. With one field in the combination the two calls therefore
agree as long as no two numbers are equal only in the second way.
-/

namespace Value

variable {v w : Value}

theorem equals_doubles (x y : Double) :
    (Value.double x).equals (.double y) = (Value.double x).beq (.double y) := by
  have hplaces : (Value.double x).equals (.double y) =
      (Magnitude.ofDouble x).equals (.ofDouble y) := equals_of_magnitude? rfl rfl
  rw [hplaces, Magnitude.ofDouble, Magnitude.ofDouble, Value.beq, Double.equals]
  cases x.isNaN <;> cases y.isNaN <;> rfl

/-- An integer equals itself. -/
theorem equals_self_of_toInt? {n : Int} (h : v.toInt? = some n) : v.equals v = true := by
  have hdouble : ∀ n : Int, (Value.double (.ofInt n)).equals (.double (.ofInt n)) = true := by
    intro n
    rw [equals_doubles, Value.beq, Double.equals, Double.isNaN_ofInt]
    simp
  cases v with
  | int32 i => exact hdouble i.toInt
  | int64 i => exact hdouble i.toInt
  | _ => cases h

/-- Values of equal type and content are equal in the store. -/
theorem equals_of_beq (h : v.beq w = true) : v.equals w = true := by
  cases alike_of_beq h with
  | same =>
    cases v with
    | int32 | int64 => exact equals_self_of_toInt? rfl
    | double x => rwa [equals_doubles]
    | _ => exact h
  | doubles => rwa [equals_doubles]
  | arrays | documents | scopes => exact h

/-- What equals itself in the store has its own type and content. -/
theorem beq_self_of_equals (h : v.equals v = true) : v.beq v = true := by
  cases v with
  | int32 | int64 => simp [Value.beq]
  | double x => rwa [← equals_doubles]
  | _ => exact h

/-- Documents with one key are equal if the values have equal types and contents. -/
theorem equals_singletons (key : String) (v w : Value) :
    (Value.document [(key, v)]).equals (.document [(key, w)]) = v.beq w := by
  rw [equals_eq_beq rfl, Value.beq, beqFields, beqFields, Document.get?_cons_self]
  simp

end Value

/-! ## The combination of one field -/

namespace Document

variable {field : String} {d : Document} {docs : List Document}

/-- A document with the field is grouped by a document of its value. -/
theorem groupValue_combined (hplain : isOperatorKey field = false)
    (hhas : ∃ v, getPath? d field = some v) :
    groupValue (.document [(field, .ofField field)]) d =
      .document [(field, valueOrNull field d)] := by
  obtain ⟨v, hv⟩ := hhas
  have heval : (Value.document [(field, .ofField field)]).evalIn d =
      some (.document [(field, v)]) := by
    simp [Value.evalIn, Value.isOperators, hplain, Value.evalFieldsIn, evalIn_ofField, hv]
  rw [groupValue, heval, valueOrNull, hv]
  rfl

/-- Counts by the combination of one field are those of the classes of values of equal types and
contents. -/
theorem countsByAllOf_groupsBy (hplain : isOperatorKey field = false)
    (hhas : ∀ d ∈ docs, ∃ v, getPath? d field = some v) :
    Pipeline.countsByAllOf ((groupsBy (.document [(field, .ofField field)]) docs).map
        Pipeline.countRow) =
      (classes Value.beq (docs.map (valueOrNull field))).map fun c =>
        ([(field, c.1)], min c.2.length Pipeline.largestCount) := by
  have hvalue : ∀ d ∈ docs, groupValue (.document [(field, .ofField field)]) d =
      .document [(field, valueOrNull field d)] := fun d hd => groupValue_combined hplain (hhas d hd)
  have hsame : ∀ d ∈ docs, ∀ e ∈ docs,
      sameGroup (.document [(field, .ofField field)]) d e =
        (valueOrNull field d).beq (valueOrNull field e) := fun d hd e he => by
    rw [sameGroup, hvalue d hd, hvalue e he, Value.equals_singletons]
  rw [Pipeline.countsByAllOf, countsOf_groupsBy, classes_congr hsame, classes_map, List.map_map,
    List.map_map]
  refine List.map_congr_left fun c hc => ?_
  have hfirst : c.1 ∈ docs :=
    (classified_classes _ docs).byFirst.subset (List.mem_map_of_mem hc)
  dsimp only [Function.comp]
  rw [hvalue c.1 hfirst, Pipeline.countOf, List.length_map]

/-- The values of documents with distinct keys are related symmetrically by both equalities. -/
theorem relates_values (field : String) (hkeys : ∀ d ∈ docs, (Value.document d).DistinctKeys) :
    Relates Value.equals (docs.map (valueOrNull field)) ∧
      Relates Value.beq (docs.map (valueOrNull field)) := by
  have hdistinct : ∀ v ∈ docs.map (valueOrNull field), v.DistinctKeys := by
    intro v hv
    obtain ⟨d, hd, rfl⟩ := List.mem_map.mp hv
    exact distinctKeys_valueOrNull field (hkeys d hd)
  exact ⟨⟨fun v hv _ _ h => Value.equals_symm (hdistinct v hv) h,
      fun _ _ _ h h' => Value.equals_trans h h'⟩,
    ⟨fun v hv _ _ h => Value.beq_symm (hdistinct v hv) h, fun _ _ _ h h' => Value.beq_trans h h'⟩⟩

/-- The classes of both equalities have the same counts exactly when the equalities agree on the
values. -/
theorem combined_eq_iff (field : String) (hkeys : ∀ d ∈ docs, (Value.document d).DistinctKeys) :
    (classes Value.beq (docs.map (valueOrNull field))).map (fun c =>
        (([(field, c.1)] : Document), min c.2.length Pipeline.largestCount)) =
      (countsBy field docs).map (fun c => ([(field, c.1)], c.2)) ↔
    ∀ v ∈ docs.map (valueOrNull field), ∀ w ∈ docs.map (valueOrNull field),
      v.equals w = true → v.beq w = true := by
  obtain ⟨hequals, hbeq⟩ := relates_values field hkeys
  rw [countsBy_eq, List.map_map]
  constructor
  · intro h v hv w hw hvw
    -- the keys alone decide it, since they are the first members of the classes
    have hfirsts := congrArg (List.map fun c => (get? c.1 field).getD .null) h
    simp only [List.map_map, Function.comp_def, get?_cons_self, Option.getD_some] at hfirsts
    exact related_of_firsts_eq hbeq hequals (fun _ _ => Value.equals_of_beq)
      (fun _ => Value.beq_self_of_equals) hfirsts hv hw hvw
  · intro h
    have hsame : ∀ v ∈ docs.map (valueOrNull field), ∀ w ∈ docs.map (valueOrNull field),
        v.beq w = v.equals w := fun v hv w hw =>
      Bool.eq_iff_iff.mpr ⟨Value.equals_of_beq, h v hv w hw⟩
    rw [classes_congr hsame]
    rfl

end Document

namespace Model

variable {m : Model} {field : String} {kwargs filter : Document} {selected : List Document}
  {s : Store}

/-- A call for counts by the combination of one field counts the selected documents by documents
of that field. -/
theorem countByAll_apply (collection : String → List Document) {f : Field}
    (hdeclared : m.schema.declared field = .ok f) (hfilter : m.filter kwargs = .ok filter)
    (hselect : Document.select filter s.documents = .ok selected) :
    m.countByAll collection [field] kwargs s =
      (.ok (Pipeline.countsByAllOf ((Document.groupsBy (.document [(field, .ofField field)])
        selected).map Pipeline.countRow)), s) := by
  have hchecked : m.schema.checkDeclared [field] = .ok () :=
    forM_eq_ok.mpr fun name hname => by
      rw [List.mem_singleton.mp hname, hdeclared]
      rfl
  have hsome : m.requireSome [field] = .ok () := by
    rw [requireSome, hchecked]
    rfl
  have hrun : Stage.runAll collection (Pipeline.countByAll [field] filter) s.documents =
      .ok ((Document.groupsBy (.document [(field, .ofField field)]) selected).map
        Pipeline.countRow) := by
    refine (Pipeline.runAll_counting collection _ filter _).trans ?_
    rw [hselect]
    rfl
  rw [countByAll, Action.check_bind_apply hsome, Action.check_bind_apply hfilter,
    Action.aggregate, Action.read_bind_apply hrun]
  rfl

/-- Counts by a field and counts by the combination of it alone agree exactly when values of the
matching documents that are equal in the store have equal types and contents. They do not agree when
a number occurs in two types, or when two integers are rounded to one double. -/
theorem combined_counts_agree_iff (collection : String → List Document) {draft : SchemaDraft}
    (hbuild : draft.build = .ok m.schema) {f : Field}
    (hdeclared : m.schema.declared field = .ok f) (hfilter : m.filter kwargs = .ok filter)
    (hselect : Document.select filter s.documents = .ok selected)
    (hkeys : ∀ d ∈ s.documents, (Value.document d).DistinctKeys)
    (hhas : ∀ d ∈ selected, ∃ v, Document.getPath? d field = some v) :
    ∃ counts combined, m.countBy collection field kwargs s = (.ok counts, s) ∧
      m.countByAll collection [field] kwargs s = (.ok combined, s) ∧
      (combined = counts.map (fun c => ([(field, c.1)], c.2)) ↔
        ∀ v ∈ selected.map (Document.valueOrNull field),
          ∀ w ∈ selected.map (Document.valueOrNull field),
            v.equals w = true → v.beq w = true) := by
  have hfield := Schema.declared_eq_ok.mp hdeclared
  have hlegal : LegalName field := (Schema.field?_eq_some hfield).1 ▸
    (SchemaDraft.build_wellFormed hbuild).legal_of_field? hfield
  have hselected : ∀ d ∈ selected, (Value.document d).DistinctKeys := fun d hd =>
    hkeys d ((Document.mem_select hselect).mp hd).1
  refine ⟨_, _, countBy_apply hdeclared hfilter hselect,
    countByAll_apply collection hdeclared hfilter hselect, ?_⟩
  -- both calls count the selected documents, but by two equalities
  rw [Document.countsByAllOf_groupsBy hlegal.plain hhas]
  exact Document.combined_eq_iff field hselected

/-- What a schema of a number and a tag is built from. -/
def taggedDraft : SchemaDraft :=
  { collection := "t"
    fields := [{ name := "n", type := .int }, { name := "tag", type := .string }] }

/-- The theorem for two numbers in different types, one of which occurs twice. -/
theorem combined_counts_agree_on_integers :
    let s := numberStore [.int32 2, .int64 3, .int32 2]
    taggedDraft.build = .ok taggedModel.schema ∧
      taggedModel.schema.declared "n" = .ok { name := "n", type := .int } ∧
      taggedModel.filter [] = .ok [] ∧ Document.select [] s.documents = .ok s.documents ∧
      (∀ d ∈ s.documents, (Value.document d).DistinctKeys) ∧
      (∀ d ∈ s.documents, ∃ v, Document.getPath? d "n" = some v) ∧
      taggedModel.countBy (fun _ => []) "n" [] s = (.ok [(.int32 2, 2), (.int64 3, 1)], s) ∧
      taggedModel.countByAll (fun _ => []) ["n"] [] s =
        (.ok [([("n", .int32 2)], 2), ([("n", .int64 3)], 1)], s) := by
  intro s
  have hbuild : taggedDraft.build = .ok taggedModel.schema := rfl
  have hdeclared : taggedModel.schema.declared "n" = .ok { name := "n", type := .int } := rfl
  have hfilter : taggedModel.filter [] = .ok [] := rfl
  have hselect : Document.select [] s.documents = .ok s.documents := rfl
  have hkeys : ∀ d ∈ s.documents, (Value.document d).DistinctKeys := by
    simp [s, numberStore, Value.DistinctKeys, Value.DistinctKeysOfFields]
  have hhas : ∀ d ∈ s.documents, ∃ v, Document.getPath? d "n" = some v := by
    simp only [s, numberStore, List.forall_mem_map]
    exact fun entry _ => ⟨entry.1, rfl⟩
  have hvalues : s.documents.map (Document.valueOrNull "n") = [.int32 2, .int64 3, .int32 2] := rfl
  have hcounts : Document.countsBy "n" s.documents = [(.int32 2, 2), (.int64 3, 1)] := by
    -- the comparisons that the groups are made by
    have htwo : [Value.int64 3, .int32 2].map (Value.int32 2).equals = [false, true] := by
      decide +kernel
    simp only [List.map_cons, List.map_nil, List.cons.injEq, and_true] at htwo
    rw [Document.countsBy_eq, hvalues]
    simp [classes, unrelated, htwo, Pipeline.largestCount]
  obtain ⟨counts, combined, hcall, hcall', hagree⟩ :=
    combined_counts_agree_iff (fun _ => []) hbuild hdeclared hfilter hselect hkeys hhas
  cases (hcall.symm.trans (countBy_apply hdeclared hfilter hselect)).trans (by rw [hcounts])
  rw [hvalues] at hagree
  cases hagree.mpr (by decide +kernel)
  exact ⟨hbuild, hdeclared, hfilter, hselect, hkeys, hhas, hcall, hcall'⟩

/-- A number in two types is counted once by the field, and twice by its combination. -/
theorem combined_counts_split_types :
    let s := numberStore [.int32 1, .int64 1]
    taggedModel.countBy (fun _ => []) "n" [] s = (.ok [(.int32 1, 2)], s) ∧
      taggedModel.countByAll (fun _ => []) ["n"] [] s =
        (.ok [([("n", .int32 1)], 1), ([("n", .int64 1)], 1)], s) := by
  intro s
  have hvalues : s.documents.map (Document.valueOrNull "n") = [.int32 1, .int64 1] := rfl
  have hcounts : Document.countsBy "n" s.documents = [(.int32 1, 2)] := by
    have hequal : (Value.int32 1).equals (.int64 1) = true := by decide +kernel
    rw [Document.countsBy_eq, hvalues]
    simp [classes, unrelated, hequal, Pipeline.largestCount]
  refine ⟨?_, rfl⟩
  rw [← hcounts]
  exact countBy_apply rfl rfl rfl

end Model

end DocMapper
