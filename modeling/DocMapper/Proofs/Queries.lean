import DocMapper.Proofs.Matching
import DocMapper.Query

namespace DocMapper

/-! # What combined queries mean

A query is a tree: keyword arguments at the leaves, conjunctions and disjunctions above them. Its
filter has the shape of the tree, and it selects by the boolean value of the tree. Conjunctions
that flow together are evaluated one after the other like the parts they came from, errors
included.
-/

namespace Document

variable {d : Document}

/-! ## Clauses -/

theorem satisfiesAll_singleton (d filter : Document) :
    satisfiesAll d ([filter].map Value.document) = satisfies d filter := by
  rw [List.map_singleton, satisfiesAll]
  rcases satisfies d filter with e | _ | _ <;> rfl

theorem satisfiesAny_singleton (d filter : Document) :
    satisfiesAny d ([filter].map Value.document) = satisfies d filter := by
  rw [List.map_singleton, satisfiesAny]
  rcases satisfies d filter with e | _ | _ <;> rfl

/-- Clauses one after the other are those of the first list and then those of the second. -/
theorem satisfiesAll_append (d : Document) (first second : List Document) :
    satisfiesAll d (first.map Value.document ++ second.map Value.document) = (do
      if ← satisfiesAll d (first.map Value.document) then
        satisfiesAll d (second.map Value.document)
      else return false) := by
  induction first with
  | nil => rfl
  | cons filter rest ih =>
    rw [List.map_cons, List.cons_append, satisfiesAll, satisfiesAll, ih]
    rcases satisfies d filter with e | _ | _ <;> rfl

theorem satisfiesAny_append (d : Document) (first second : List Document) :
    satisfiesAny d (first.map Value.document ++ second.map Value.document) = (do
      if ← satisfiesAny d (first.map Value.document) then return true
      else satisfiesAny d (second.map Value.document)) := by
  induction first with
  | nil => rfl
  | cons filter rest ih =>
    rw [List.map_cons, List.cons_append, satisfiesAny, satisfiesAny, ih]
    rcases satisfies d filter with e | _ | _ <;> rfl

end Document

namespace Query

/-! ## Trees -/

mutual

/-- The keyword arguments at the leaves, from left to right. -/
def leaves : Query → List Document
  | leaf kwargs => [kwargs]
  | and parts => leavesOf parts
  | or parts => leavesOf parts

/-- The leaves of several queries. -/
def leavesOf : List Query → List Document
  | [] => []
  | q :: rest => leaves q ++ leavesOf rest

end

mutual

/-- The boolean value of a tree over the values of its leaves. -/
def value (leafValue : Document → Bool) : Query → Bool
  | leaf kwargs => leafValue kwargs
  | and parts => allHold leafValue parts
  | or parts => someHold leafValue parts

/-- All of several trees have the value true. -/
def allHold (leafValue : Document → Bool) : List Query → Bool
  | [] => true
  | q :: rest => value leafValue q && allHold leafValue rest

/-- Some of several trees has the value true. -/
def someHold (leafValue : Document → Bool) : List Query → Bool
  | [] => false
  | q :: rest => value leafValue q || someHold leafValue rest

end

variable {l : Lowering} {d : Document}

/-- The filter of a leaf evaluates to true on a document. -/
def leafSelects (l : Lowering) (d kwargs : Document) : Bool :=
  match l.filter kwargs >>= Document.satisfies d with
  | .ok selected => selected
  | .error _ => false

/-! ## Lowering -/

/-- The filters of several queries are documents. -/
theorem exists_documents_of_toFilters {parts : List Query} {values : List Value}
    (h : toFilters l parts = .ok values) :
    ∃ filters : List Document, values = filters.map Value.document := by
  induction parts generalizing values with
  | nil =>
    cases h
    exact ⟨[], rfl⟩
  | cons q rest ih =>
    rw [toFilters] at h
    obtain ⟨filter, -, h⟩ := bind_eq_ok.mp h
    obtain ⟨values', hvalues', h⟩ := bind_eq_ok.mp h
    obtain ⟨filters, rfl⟩ := ih hvalues'
    cases pure_eq_ok.mp h
    exact ⟨filter :: filters, rfl⟩

theorem toFilters_singleton {q : Query} {filter : Document} (h : q.toFilter l = .ok filter) :
    toFilters l [q] = .ok ([filter].map Value.document) := by
  rw [toFilters, h]
  rfl

theorem toFilters_append {first second : List Query} {values values' : List Value}
    (h : toFilters l first = .ok values) (h' : toFilters l second = .ok values') :
    toFilters l (first ++ second) = .ok (values ++ values') := by
  induction first generalizing values with
  | nil =>
    cases h
    exact h'
  | cons q rest ih =>
    rw [toFilters] at h
    obtain ⟨filter, hfilter, h⟩ := bind_eq_ok.mp h
    obtain ⟨others, hothers, h⟩ := bind_eq_ok.mp h
    cases pure_eq_ok.mp h
    rw [List.cons_append, toFilters, hfilter, ok_bind, ih hothers]
    rfl

mutual

/-- A query is lowered when all of its leaves are. -/
theorem exists_toFilter : ∀ q : Query, (∃ filter, q.toFilter l = .ok filter) ↔
    ∀ kwargs ∈ q.leaves, ∃ filter, l.filter kwargs = .ok filter
  | leaf kwargs => by simp [toFilter, leaves]
  | and parts => by
    rw [leaves, ← exists_toFilters parts, toFilter]
    simp only [bind_eq_ok, pure_eq_ok]
    exact ⟨fun ⟨_, values, hvalues, _⟩ => ⟨values, hvalues⟩,
      fun ⟨values, hvalues⟩ => ⟨_, values, hvalues, rfl⟩⟩
  | or parts => by
    rw [leaves, ← exists_toFilters parts, toFilter]
    simp only [bind_eq_ok, pure_eq_ok]
    exact ⟨fun ⟨_, values, hvalues, _⟩ => ⟨values, hvalues⟩,
      fun ⟨values, hvalues⟩ => ⟨_, values, hvalues, rfl⟩⟩

theorem exists_toFilters : ∀ parts : List Query, (∃ values, toFilters l parts = .ok values) ↔
    ∀ kwargs ∈ leavesOf parts, ∃ filter, l.filter kwargs = .ok filter
  | [] => by simp [toFilters, leavesOf]
  | q :: rest => by
    rw [leavesOf, List.forall_mem_append, ← exists_toFilter q, ← exists_toFilters rest, toFilters]
    simp only [bind_eq_ok, pure_eq_ok]
    exact ⟨fun ⟨_, filter, hfilter, values, hvalues, _⟩ => ⟨⟨filter, hfilter⟩, values, hvalues⟩,
      fun ⟨⟨filter, hfilter⟩, values, hvalues⟩ => ⟨_, filter, hfilter, values, hvalues, rfl⟩⟩

end

/-! ## Evaluation -/

/-- The filters of these leaves have an answer for the document. -/
def Answered (l : Lowering) (d : Document) (kwargs : List Document) : Prop :=
  ∀ k ∈ kwargs, ∃ selected, (l.filter k >>= Document.satisfies d) = .ok selected

mutual

/-- Where the leaves have answers, a query selects by the value of its tree. -/
theorem satisfies_toFilter : ∀ {q : Query} {filter : Document}, q.toFilter l = .ok filter →
    Answered l d q.leaves → Document.satisfies d filter = .ok (q.value (leafSelects l d))
  | leaf kwargs, filter, h, hleaves => by
    rw [toFilter] at h
    obtain ⟨selected, hselected⟩ := hleaves kwargs (List.mem_singleton_self _)
    rw [value, leafSelects, hselected, ← hselected, h, ok_bind]
  | and parts, filter, h, hleaves => by
    rw [toFilter] at h
    obtain ⟨values, hvalues, h⟩ := bind_eq_ok.mp h
    obtain ⟨filters, rfl⟩ := exists_documents_of_toFilters hvalues
    -- a conjunction holds of a document as all of its parts do
    cases pure_eq_ok.mp h
    rw [Document.satisfies_and, value]
    exact satisfiesAll_toFilters hvalues hleaves
  | or parts, filter, h, hleaves => by
    rw [toFilter] at h
    obtain ⟨values, hvalues, h⟩ := bind_eq_ok.mp h
    obtain ⟨filters, rfl⟩ := exists_documents_of_toFilters hvalues
    cases pure_eq_ok.mp h
    rw [Document.satisfies_or, value]
    exact satisfiesAny_toFilters hvalues hleaves

theorem satisfiesAll_toFilters : ∀ {parts : List Query} {values : List Value},
    toFilters l parts = .ok values → Answered l d (leavesOf parts) →
      Document.satisfiesAll d values = .ok (allHold (leafSelects l d) parts)
  | [], values, h, _ => by
    cases h
    rfl
  | q :: rest, values, h, hleaves => by
    rw [toFilters] at h
    obtain ⟨filter, hfilter, h⟩ := bind_eq_ok.mp h
    obtain ⟨values', hvalues', h⟩ := bind_eq_ok.mp h
    cases pure_eq_ok.mp h
    obtain ⟨hq, hrest⟩ := List.forall_mem_append.mp hleaves
    rw [Document.satisfiesAll, satisfies_toFilter hfilter hq, ok_bind, allHold,
      satisfiesAll_toFilters hvalues' hrest]
    cases q.value (leafSelects l d) <;> rfl

theorem satisfiesAny_toFilters : ∀ {parts : List Query} {values : List Value},
    toFilters l parts = .ok values → Answered l d (leavesOf parts) →
      Document.satisfiesAny d values = .ok (someHold (leafSelects l d) parts)
  | [], values, h, _ => by
    cases h
    rfl
  | q :: rest, values, h, hleaves => by
    rw [toFilters] at h
    obtain ⟨filter, hfilter, h⟩ := bind_eq_ok.mp h
    obtain ⟨values', hvalues', h⟩ := bind_eq_ok.mp h
    cases pure_eq_ok.mp h
    obtain ⟨hq, hrest⟩ := List.forall_mem_append.mp hleaves
    rw [Document.satisfiesAny, satisfies_toFilter hfilter hq, ok_bind, someHold,
      satisfiesAny_toFilters hvalues' hrest]
    cases q.value (leafSelects l d) <;> rfl

end

/-! ## Combining queries -/

theorem both_assoc (a b c : Query) : (a.both b).both c = a.both (b.both c) := by
  simp only [both, conjuncts, List.append_assoc]

theorem either_assoc (a b c : Query) : (a.either b).either c = a.either (b.either c) := by
  simp only [either, disjuncts, List.append_assoc]

/-- The conjuncts of a query are clauses that amount to its filter. -/
theorem toFilters_conjuncts {q : Query} {filter : Document} (h : q.toFilter l = .ok filter) :
    ∃ filters : List Document, toFilters l q.conjuncts = .ok (filters.map Value.document) ∧
      ∀ d, Document.satisfiesAll d (filters.map Value.document) =
        Document.satisfies d filter := by
  cases q with
  | leaf _ | or _ =>
    exact ⟨[filter], toFilters_singleton h, fun d => Document.satisfiesAll_singleton d filter⟩
  | and parts =>
    rw [toFilter] at h
    obtain ⟨values, hvalues, h⟩ := bind_eq_ok.mp h
    obtain ⟨filters, rfl⟩ := exists_documents_of_toFilters hvalues
    cases pure_eq_ok.mp h
    exact ⟨filters, hvalues, fun d => (Document.satisfies_and d filters).symm⟩

theorem toFilters_disjuncts {q : Query} {filter : Document} (h : q.toFilter l = .ok filter) :
    ∃ filters : List Document, toFilters l q.disjuncts = .ok (filters.map Value.document) ∧
      ∀ d, Document.satisfiesAny d (filters.map Value.document) =
        Document.satisfies d filter := by
  cases q with
  | leaf _ | and _ =>
    exact ⟨[filter], toFilters_singleton h, fun d => Document.satisfiesAny_singleton d filter⟩
  | or parts =>
    rw [toFilter] at h
    obtain ⟨values, hvalues, h⟩ := bind_eq_ok.mp h
    obtain ⟨filters, rfl⟩ := exists_documents_of_toFilters hvalues
    cases pure_eq_ok.mp h
    exact ⟨filters, hvalues, fun d => (Document.satisfies_or d filters).symm⟩

variable {a b : Query} {fa fb : Document}

/-- Both queries select what the first selects and then the second. -/
theorem toFilter_both (ha : a.toFilter l = .ok fa) (hb : b.toFilter l = .ok fb) :
    ∃ filter, (a.both b).toFilter l = .ok filter ∧ ∀ d, Document.satisfies d filter = (do
      if ← Document.satisfies d fa then Document.satisfies d fb else return false) := by
  obtain ⟨first, hfirst, hselects⟩ := toFilters_conjuncts ha
  obtain ⟨second, hsecond, hselects'⟩ := toFilters_conjuncts hb
  refine ⟨[("$and", .array ((first ++ second).map Value.document))], ?_, fun d => ?_⟩
  · rw [both, toFilter, toFilters_append hfirst hsecond, List.map_append]
    rfl
  · rw [Document.satisfies_and, List.map_append, Document.satisfiesAll_append, hselects,
      hselects']

/-- Either query selects what the first selects or else the second. -/
theorem toFilter_either (ha : a.toFilter l = .ok fa) (hb : b.toFilter l = .ok fb) :
    ∃ filter, (a.either b).toFilter l = .ok filter ∧ ∀ d, Document.satisfies d filter = (do
      if ← Document.satisfies d fa then return true else Document.satisfies d fb) := by
  obtain ⟨first, hfirst, hselects⟩ := toFilters_disjuncts ha
  obtain ⟨second, hsecond, hselects'⟩ := toFilters_disjuncts hb
  refine ⟨[("$or", .array ((first ++ second).map Value.document))], ?_, fun d => ?_⟩
  · rw [either, toFilter, toFilters_append hfirst hsecond, List.map_append]
    rfl
  · rw [Document.satisfies_or, List.map_append, Document.satisfiesAny_append, hselects,
      hselects']

/-! ## The meaning of queries -/

/-- Lowering a query fails exactly when it fails at a leaf. The filter selects every document for
which the leaves have answers by the boolean value of the tree. Combining queries is associative,
and what combined queries select is what one and then the other selects, errors included. -/
theorem query_means_its_tree (l : Lowering) :
    (∀ q : Query, (∃ e, q.toFilter l = .error e) ↔
      ∃ kwargs ∈ q.leaves, ∃ e, l.filter kwargs = .error e) ∧
    (∀ (q : Query) (filter d : Document), q.toFilter l = .ok filter → Answered l d q.leaves →
      Document.satisfies d filter = .ok (q.value (leafSelects l d))) ∧
    (∀ a b c : Query, (a.both b).both c = a.both (b.both c) ∧
      (a.either b).either c = a.either (b.either c)) ∧
    ∀ (a b : Query) (fa fb : Document), a.toFilter l = .ok fa → b.toFilter l = .ok fb →
      (∃ filter, (a.both b).toFilter l = .ok filter ∧ ∀ d, Document.satisfies d filter = (do
        if ← Document.satisfies d fa then Document.satisfies d fb else return false)) ∧
      ∃ filter, (a.either b).toFilter l = .ok filter ∧ ∀ d, Document.satisfies d filter = (do
        if ← Document.satisfies d fa then return true else Document.satisfies d fb) := by
  refine ⟨fun q => ?_, fun q filter d => satisfies_toFilter, fun a b c =>
    ⟨both_assoc a b c, either_assoc a b c⟩, fun a b fa fb ha hb =>
    ⟨toFilter_both ha hb, toFilter_either ha hb⟩⟩
  have herror : ∀ x : Except Error Document, (∃ e, x = .error e) ↔ ¬ ∃ f, x = .ok f := by
    intro x
    cases x <;> simp
  simp only [herror, exists_toFilter, not_forall, exists_prop]

/-- The theorem at a disjunction of a text that differs, a conjunction of two that agree, and an
empty disjunction; and at its conjunction with another leaf. -/
theorem query_means_its_tree_nested :
    ∃ (q r : Query) (l : Lowering) (d filter other filter' : Document),
      q = or [leaf [("a", .string "x")],
        and [leaf [("b", .string "y")], leaf [("c", .string "z")]], or []] ∧
      r = leaf [("c", .string "w")] ∧ d = [("b", .string "y"), ("c", .string "z")] ∧
      q.toFilter l = .ok filter ∧ r.toFilter l = .ok other ∧
      (q.both r).toFilter l = .ok filter' ∧ Answered l d q.leaves ∧
      Document.satisfies d filter = .ok true ∧ Document.satisfies d filter' = .ok false := by
  let q := or [leaf [("a", .string "x")],
    and [leaf [("b", .string "y")], leaf [("c", .string "z")]], or []]
  let d : Document := [("b", .string "y"), ("c", .string "z")]
  have hq : q.toFilter {} = .ok [("$or", .array [.document [("a", .string "x")],
      .document [("$and", .array [.document [("b", .string "y")],
        .document [("c", .string "z")]])], .document [("$or", .array [])]])] := rfl
  have hr : (leaf [("c", .string "w")]).toFilter {} = .ok [("c", .string "w")] := rfl
  -- the first leaf fails on the document, the other two hold of it
  have hanswered : Answered {} d q.leaves := by
    intro k hk
    rcases List.mem_cons.mp hk with rfl | hk
    · exact ⟨false, rfl⟩
    · rcases List.mem_pair.mp hk with rfl | rfl
      · exact ⟨true, rfl⟩
      · exact ⟨true, rfl⟩
  have hselects : Document.satisfies d _ = .ok true :=
    (query_means_its_tree {}).2.1 q _ d hq hanswered
  obtain ⟨filter', hboth, hmeans⟩ := ((query_means_its_tree {}).2.2.2 q _ _ _ hq hr).1
  refine ⟨q, _, {}, d, _, _, filter', rfl, rfl, rfl, hq, hr, hboth, hanswered, hselects, ?_⟩
  rw [hmeans, hselects]
  rfl

end Query

end DocMapper
