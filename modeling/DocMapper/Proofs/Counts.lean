import Mathlib.Algebra.GroupWithZero.Nat
import DocMapper.Proofs.Groups
import DocMapper.Proofs.Sums

namespace DocMapper

/-! # Counts by the values of a field

A group is counted by a sum of ones, which is the number of its documents as long as that has 64
bits. What is counted is grouped by equality in the store. That equality is transitive and, for
documents without repeated keys, symmetric, so that the groups are those of a partition. A NaN
equals nothing, and each one makes a group of its own.
-/

namespace Pipeline

/-- The largest integer of 64 bits, at which a count stops. -/
def largestCount : Nat := 9223372036854775807

/-- Ones are added to a total until it is the largest integer. -/
theorem toInt?_addOnes {v : Value} {n : Nat} (hv : v.toInt? = some (n : Int))
    (hn : n ≤ largestCount) (k : Nat) :
    ((List.replicate k (.int32 1)).foldl Accumulator.addTo v).toInt? =
      some ((min (n + k) largestCount : Nat) : Int) := by
  induction k generalizing v n with
  | zero =>
    rw [Nat.add_zero, Nat.min_eq_left hn]
    exact hv
  | succ k ih =>
    have hone : (Value.int32 1).toInt? = some 1 := rfl
    have hstep := Value.toInt?_addTo hv hone
    have hfits : Fits64 ((n : Int) + 1) ↔ n + 1 ≤ largestCount := by
      rw [fits64_iff, largestCount]
      omega
    rw [List.replicate_succ, List.foldl_cons]
    by_cases h : n + 1 ≤ largestCount
    · rw [if_pos (hfits.mpr h)] at hstep
      rw [ih hstep h, Nat.add_right_comm, Nat.add_assoc]
    · -- the total is the largest integer, and stays so
      rw [if_neg (mt hfits.mp h)] at hstep
      rw [ih hstep hn]
      exact congrArg some (congrArg Nat.cast (by omega))

/-- A count reads the integer of a value. -/
theorem readCount_of_toInt? {v : Value} {n : Nat} (h : v.toInt? = some (n : Int)) :
    readCount (some v) = n := by
  have hword : ∀ i : Int64, i.toInt = n → i.toUInt64.toNat = n := by
    intro i hi
    have hnonneg : 0 ≤ i := by
      rw [Int64.le_iff_toInt_le, hi]
      exact Int.natCast_nonneg n
    rw [Int64.toNat_toUInt64_of_le hnonneg, Int64.toNatClampNeg, hi, Int.toNat_natCast]
  cases v with
  | int32 i => exact hword i.toInt64 (by rw [Int32.toInt_toInt64]; exact Option.some.inj h)
  | int64 i => exact hword i (Option.some.inj h)
  | _ => cases h

/-- The count of documents. -/
def countOf (docs : List Document) : Nat := min docs.length largestCount

/-- The row of a group whose documents are counted. -/
def countRow (g : Value × List Document) : Document :=
  [(Document.idKey, g.1), (countKey, Accumulator.total .sum (Accumulator.valuesOf (.int32 1) g.2))]

theorem readCount_countRow (g : Value × List Document) :
    readCount (Document.get? (countRow g) countKey) = countOf g.2 := by
  have hones : Accumulator.valuesOf (.int32 1) g.2 =
      List.replicate g.2.length (.int32 1) := by
    rw [← List.map_const']
    exact congrFun List.filterMap_eq_map' g.2
  have hzero : (Value.int32 0).toInt? = some ((0 : Nat) : Int) := rfl
  have hrun := toInt?_addOnes hzero (Nat.zero_le largestCount) g.2.length
  rw [Nat.zero_add, ← hones] at hrun
  exact readCount_of_toInt? hrun

/-- Grouping what a filter selects answers one row for each group. -/
theorem runAll_counting (collection : String → List Document) (expression : Value)
    (filter : Document) (docs : List Document) :
    Stage.runAll collection [matching filter, grouping expression counting] docs =
      (Document.select filter docs).map fun selected =>
        (Document.groupsBy expression selected).map countRow := by
  have hstage : Stage.ofDocument (grouping expression counting) =
      .ok (.group expression [⟨countKey, Accumulator.sum.key, .int32 1⟩]) := rfl
  have hgroup : ∀ selected, Stage.runDocument collection selected (grouping expression counting) =
      .ok ((Document.groupsBy expression selected).map countRow) := by
    intro selected
    rw [Stage.runDocument, hstage, ok_bind, Stage.run, Document.group]
    refine mapM_eq_ok_of_forall₂ ?_
    rw [List.forall₂_map_right_iff]
    exact List.forall₂_same.mpr fun g _ => rfl
  exact runAll_matching hgroup filter docs

end Pipeline

namespace Document

variable {field : String} {d e : Document} {docs : List Document}

/-- The value of a field, null when it is missing. -/
def valueOrNull (field : String) (d : Document) : Value := (getPath? d field).getD .null

/-- Two documents have equal values of the field. -/
def sameValue (field : String) (d e : Document) : Bool :=
  (valueOrNull field d).equals (valueOrNull field e)

/-- The values of a field with the counts of their documents. -/
def countsBy (field : String) (docs : List Document) : List (Value × Nat) :=
  (classes (sameValue field) docs).map fun c => (valueOrNull field c.1, Pipeline.countOf c.2)

theorem groupValue_ofField (field : String) :
    groupValue (.ofField field) = valueOrNull field := by
  funext d
  rw [groupValue, evalIn_ofField, valueOrNull]

/-- The rows of groups are read as the values of the groups and their counts. -/
theorem countsOf_groupsBy (expression : Value) (docs : List Document) :
    Pipeline.countsOf ((groupsBy expression docs).map Pipeline.countRow) =
      (classes (sameGroup expression) docs).map fun c =>
        (groupValue expression c.1, Pipeline.countOf c.2) := by
  have hrow : ∀ g : Value × List Document, ((id? (Pipeline.countRow g)).getD .null,
      Pipeline.readCount (get? (Pipeline.countRow g) Pipeline.countKey)) =
        (g.1, Pipeline.countOf g.2) := fun g => by
    rw [Pipeline.readCount_countRow]
    rfl
  rw [Pipeline.countsOf, groupsBy_eq_classes, List.map_map, List.map_map]
  exact List.map_congr_left fun c _ => hrow _

/-- The groups by a field are counted by its values. -/
theorem countsOf_groupsBy_ofField (field : String) (docs : List Document) :
    Pipeline.countsOf ((groupsBy (.ofField field) docs).map Pipeline.countRow) =
      countsBy field docs := by
  have hsame : sameGroup (.ofField field) = sameValue field := by
    funext d e
    rw [sameGroup, groupValue_ofField, sameValue]
  rw [countsOf_groupsBy, hsame, groupValue_ofField, countsBy]

/-- The values that are counted are the classes of the values of the documents. -/
theorem countsBy_eq (field : String) (docs : List Document) :
    countsBy field docs = (classes Value.equals (docs.map (valueOrNull field))).map fun c =>
      (c.1, min c.2.length Pipeline.largestCount) := by
  rw [classes_map, List.map_map]
  exact List.map_congr_left fun c _ => by
    rw [Pipeline.countOf, Function.comp, List.length_map]

theorem distinctKeys_valueOrNull (field : String) (hd : (Value.document d).DistinctKeys) :
    (valueOrNull field d).DistinctKeys := by
  rw [valueOrNull]
  cases hget : getPath? d field with
  | none => trivial
  | some v =>
    have hfollow : (Value.document d).follow (Path.ofString field).segments = some v := hget
    exact Value.distinctKeys_follow hd hfollow

theorem relates_sameValue (field : String) (hkeys : ∀ d ∈ docs, (Value.document d).DistinctKeys) :
    Relates (sameValue field) docs :=
  ⟨fun d hd _ _ h => Value.equals_symm (distinctKeys_valueOrNull field (hkeys d hd)) h,
    fun _ _ _ hde hef => Value.equals_trans hde hef⟩

/-! ## What the counts say -/

theorem countOf_eq (h : docs.length ≤ Pipeline.largestCount) :
    Pipeline.countOf docs = docs.length := Nat.min_eq_left h

/-- Every document is counted once. -/
theorem sum_countsBy (field : String) (h : docs.length ≤ Pipeline.largestCount) :
    ((countsBy field docs).map (·.2)).sum = docs.length := by
  have hclasses := classified_classes (sameValue field) docs
  have hcounts : (countsBy field docs).map (·.2) =
      (classes (sameValue field) docs).map fun c => c.2.length := by
    rw [countsBy, List.map_map]
    exact List.map_congr_left fun c hc =>
      countOf_eq ((hclasses.inOrder c hc).length_le.trans h)
  rw [hcounts, ← List.length_flatMap, hclasses.covers.length_eq]

/-- No value is counted twice. -/
theorem pairwise_countsBy (field : String) (hkeys : ∀ d ∈ docs, (Value.document d).DistinctKeys) :
    (countsBy field docs).Pairwise fun a b =>
      a.1.equals b.1 = false ∧ b.1.equals a.1 = false := by
  have hfirsts := pairwise_firsts (relates_sameValue field hkeys)
  rw [List.pairwise_map] at hfirsts
  rw [countsBy, List.pairwise_map]
  exact hfirsts

theorem pos_of_mem_countsBy {c : Value × Nat} (hc : c ∈ countsBy field docs) : 0 < c.2 := by
  have hclasses := classified_classes (sameValue field) docs
  obtain ⟨g, hg, rfl⟩ := List.mem_map.mp hc
  exact Nat.lt_min.mpr ⟨List.length_pos_of_mem (hclasses.first_mem hg), by decide⟩

/-- A value that equals itself is counted in all documents that have an equal one. -/
theorem count_of_self (hkeys : ∀ d ∈ docs, (Value.document d).DistinctKeys)
    (h : docs.length ≤ Pipeline.largestCount) {c : Value × Nat} (hc : c ∈ countsBy field docs)
    (hself : c.1.equals c.1 = true) :
    c.2 = docs.countP fun d => c.1.equals (valueOrNull field d) := by
  have hclasses := classified_classes (sameValue field) docs
  obtain ⟨g, hg, rfl⟩ := List.mem_map.mp hc
  have hall : g.2 = docs.filter (sameValue field g.1) :=
    class_eq_filter (relates_sameValue field hkeys) hg hself
  dsimp only
  rw [countOf_eq ((hclasses.inOrder g hg).length_le.trans h), hall,
    ← List.countP_eq_length_filter]
  rfl

/-- The counts are those of classes of the documents at their places. -/
theorem exists_classified (field : String) (docs : List Document) :
    ∃ groups, Classified (fun p q => sameValue field p.1 q.1) docs.zipIdx groups ∧
      countsBy field docs = groups.map fun c =>
        (valueOrNull field c.1.1, Pipeline.countOf (c.2.map (·.1))) := by
  have hdocs : docs.zipIdx.map Prod.fst = docs := List.zipIdx_map_fst 0 docs
  refine ⟨classes (fun p q => sameValue field p.1 q.1) docs.zipIdx, classified_classes _ _, ?_⟩
  conv_lhs => rw [countsBy, ← hdocs, classes_map, List.map_map]
  rfl

end Document

namespace Model

variable {m : Model} {collection : String → List Document} {field : String}
  {kwargs filter : Document} {selected : List Document} {counts : List (Value × Nat)}
  {s s' : Store}

/-- A call for counts counts the selected documents. -/
theorem countBy_apply {f : Field} (hdeclared : m.schema.declared field = .ok f)
    (hfilter : m.filter kwargs = .ok filter)
    (hselect : Document.select filter s.documents = .ok selected) :
    m.countBy collection field kwargs s = (.ok (Document.countsBy field selected), s) := by
  have hrun : Stage.runAll collection (Pipeline.countBy field filter) s.documents =
      .ok ((Document.groupsBy (.ofField field) selected).map Pipeline.countRow) := by
    rw [Pipeline.countBy, Pipeline.runAll_counting, hselect]
    rfl
  rw [countBy, Action.check_bind_apply hdeclared, Action.check_bind_apply hfilter,
    Action.aggregate, Action.read_bind_apply hrun, ← Document.countsOf_groupsBy_ofField]
  rfl

/-- A call for counts that succeeds has counted the selected documents. -/
theorem countBy_eq_ok (h : m.countBy collection field kwargs s = (.ok counts, s')) :
    s' = s ∧ ∃ filter selected, m.filter kwargs = .ok filter ∧
      Document.select filter s.documents = .ok selected ∧
      counts = Document.countsBy field selected := by
  have hcall := h
  rw [countBy] at h
  obtain ⟨f, _, hcheck, h⟩ := Action.bind_apply_eq_ok.mp h
  obtain ⟨hdeclared, rfl⟩ := Action.check_apply_eq_ok.mp hcheck
  obtain ⟨filter, _, hcheck, h⟩ := Action.bind_apply_eq_ok.mp h
  obtain ⟨hfilter, rfl⟩ := Action.check_apply_eq_ok.mp hcheck
  obtain ⟨rows, _, hrows, -⟩ := Action.bind_apply_eq_ok.mp h
  obtain ⟨hrun, rfl⟩ := Prod.mk.inj hrows
  obtain ⟨selected, hselect, -⟩ :=
    map_eq_ok.mp ((Pipeline.runAll_counting collection _ filter _).symm.trans hrun)
  cases hcall.symm.trans (countBy_apply hdeclared hfilter hselect)
  exact ⟨rfl, filter, selected, hfilter, hselect, rfl⟩

/-- Counts by a field are those of a partition of the matching documents, told by their places; no
document has a key twice. The groups are in the order of their first documents, and each is counted
under the value of its first one, null when it is missing. No two of the values are equal, and no
count is zero. Unless there are more documents than a count can say, the counts add up to the number
of matching documents, and a value that equals itself, as any does that neither is a NaN nor
contains one, is counted in all documents that have an equal one. -/
theorem counts_partition_matches (hkeys : ∀ d ∈ s.documents, (Value.document d).DistinctKeys)
    (h : m.countBy collection field kwargs s = (.ok counts, s')) :
    s' = s ∧ ∃ filter selected groups,
      m.filter kwargs = .ok filter ∧ Document.select filter s.documents = .ok selected ∧
      m.count kwargs s = (.ok selected.length, s) ∧
      Classified (fun p q => Document.sameValue field p.1 q.1) selected.zipIdx groups ∧
      counts = groups.map (fun c =>
        (Document.valueOrNull field c.1.1, min c.2.length Pipeline.largestCount)) ∧
      (counts.Pairwise fun a b => a.1.equals b.1 = false ∧ b.1.equals a.1 = false) ∧
      (∀ c ∈ counts, 0 < c.2) ∧
      (selected.length ≤ Pipeline.largestCount →
        (counts.map (·.2)).sum = selected.length ∧
        ∀ c ∈ counts, c.1.equals c.1 = true →
          c.2 = selected.countP fun d => c.1.equals (Document.valueOrNull field d)) := by
  obtain ⟨hstore, filter, selected, hfilter, hselect, rfl⟩ := countBy_eq_ok h
  -- the counts are those of classes of equal values, in the order in which they begin
  obtain ⟨groups, hgroups, hcounts⟩ := Document.exists_classified field selected
  have hselected : ∀ d ∈ selected, (Value.document d).DistinctKeys := fun d hd =>
    hkeys d ((Document.mem_select hselect).mp hd).1
  refine ⟨hstore, filter, selected, groups, hfilter, hselect, count_apply hfilter hselect,
    hgroups, ?_, Document.pairwise_countsBy field hselected,
    fun c => Document.pos_of_mem_countsBy, fun hlength =>
      ⟨Document.sum_countsBy field hlength, fun c => Document.count_of_self hselected hlength⟩⟩
  rw [hcounts]
  exact List.map_congr_left fun c _ => by rw [Pipeline.countOf, List.length_map]

/-- The theorem for an integer in two widths, two that have no value, and two NaN. -/
theorem counts_partition_mixed_matches :
    let s : Store :=
      { documents := [[("_id", .int32 0), ("n", .int32 1)], [("_id", .int32 1)],
          [("_id", .int32 2), ("n", .int64 1)], [("_id", .int32 3), ("n", .double .nan)],
          [("_id", .int32 4), ("n", .null)], [("_id", .int32 5), ("n", .double .nan)]]
        ids := ⟨fun _ => ⟨0⟩, 0⟩ }
    let counts := [(Value.int32 1, 2), (.null, 2), (.double .nan, 1), (.double .nan, 1)]
    (∀ d ∈ s.documents, (Value.document d).DistinctKeys) ∧
      taggedModel.countBy (fun _ => []) "n" [] s = (.ok counts, s) ∧
      taggedModel.count [] s = (.ok 6, s) ∧
      (counts.Pairwise fun a b => a.1.equals b.1 = false ∧ b.1.equals a.1 = false) ∧
      (counts.map (·.2)).sum = 6 ∧
      ∀ c ∈ counts, c.1.equals c.1 = true →
        c.2 = s.documents.countP fun d => c.1.equals (Document.valueOrNull "n" d) := by
  intro s counts
  have hkeys : ∀ d ∈ s.documents, (Value.document d).DistinctKeys := by
    simp [s, Value.DistinctKeys, Value.DistinctKeysOfFields]
  have hvalues : s.documents.map (Document.valueOrNull "n") =
      [.int32 1, .null, .int64 1, .double .nan, .null, .double .nan] := rfl
  have hcounts : Document.countsBy "n" s.documents = counts := by
    -- the comparisons that the groups are made by
    have hone : [Value.null, .int64 1, .double .nan].map (Value.int32 1).equals =
        [false, true, false] := by decide +kernel
    have hnull : [Value.double .nan, .null].map Value.null.equals = [false, true] := by
      decide +kernel
    have hnan : (Value.double .nan).equals (.double .nan) = false := by decide +kernel
    simp only [List.map_cons, List.map_nil, List.cons.injEq, and_true] at hone hnull
    rw [Document.countsBy_eq, hvalues]
    simp [counts, classes, unrelated, hone, hnull, hnan, Pipeline.largestCount]
  have hcall : taggedModel.countBy (fun _ => []) "n" [] s = (.ok counts, s) := by
    rw [← hcounts]
    exact countBy_apply rfl rfl rfl
  obtain ⟨-, filter, selected, groups, hfilter, hselect, hcount, -, -, hapart, -, hexact⟩ :=
    counts_partition_matches hkeys hcall
  cases hfilter
  cases hselect
  obtain ⟨hsum, hself⟩ := hexact (by decide)
  exact ⟨hkeys, hcall, hcount, hapart, hsum, hself⟩

end Model

end DocMapper
