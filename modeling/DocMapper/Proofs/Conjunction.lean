import DocMapper.Proofs.Lowered

namespace DocMapper

/-! # Filters as conjunctions

A keyword filter means the conjunction of its keys as long as the keys on each path agree. Where
they do not, a later key takes the place of an earlier one, and the filter selects documents that
the earlier key excludes.
-/

namespace Lowering

variable {l : Lowering} {schema : Schema} {kwargs filter : Document} {entry : String × Value}

/-! ## What keyword arguments ask for -/

/-- The conditions that keyword arguments put on each path; none when the arguments are in
error. -/
def conditions (l : Lowering) (kwargs : Document) : FilterDraft :=
  match kwargs.foldlM l.addFilter [] with
  | .ok draft => draft
  | .error _ => []

/-- Keyword arguments are compatible when what any two of them ask for on one path agrees. -/
def Compatible (l : Lowering) (kwargs : Document) : Prop :=
  ∀ e ∈ kwargs, ∀ e' ∈ kwargs, ∀ path a b, (l.conditions [e]).lookup path = some a →
    (l.conditions [e']).lookup path = some b → a.Agree b

/-- What one of the keyword arguments asks for on its own is in force: the filter of all of them
still asks for it. -/
def InForce (l : Lowering) (kwargs : Document) (entry : String × Value) : Prop :=
  ∀ path own, (l.conditions [entry]).lookup path = some own →
    ∃ c, (l.conditions kwargs).lookup path = some c ∧ c.Keeps own

/-- What the keyword arguments ask for on a path, each on its own. -/
def onPath (l : Lowering) (kwargs : Document) (path : String) : List Conditions :=
  kwargs.filterMap fun e => (l.conditions [e]).lookup path

theorem mem_onPath {path : String} {own : Conditions} :
    own ∈ l.onPath kwargs path ↔ ∃ e ∈ kwargs, (l.conditions [e]).lookup path = some own :=
  List.mem_filterMap

theorem filter_eq_ok : l.filter kwargs = .ok filter ↔
    kwargs.foldlM l.addFilter [] = .ok (l.conditions kwargs) ∧
      (l.conditions kwargs).toDocument = filter := by
  rw [Lowering.filter, bind_eq_ok, conditions]
  constructor
  · rintro ⟨draft, hdraft, h⟩
    rw [hdraft]
    exact ⟨rfl, pure_eq_ok.mp h⟩
  · rintro ⟨hdraft, h⟩
    exact ⟨_, hdraft, pure_eq_ok.mpr h⟩

theorem conditions_singleton {draft : FilterDraft} (h : l.addFilter [] entry = .ok draft) :
    l.conditions [entry] = draft := by
  rw [conditions, List.foldlM_cons, h]
  rfl

/-! ## One key after another -/

/-- A keyword argument changes every draft in the same way: it leaves it as it is, or puts
conditions of its own on one path. -/
theorem addFilter_eq_ok (hl : l.schema? = some schema) (hs : schema.WellFormed)
    {draft draft' : FilterDraft} (h : l.addFilter draft entry = .ok draft') :
    (∀ D, l.addFilter D entry = .ok D) ∨
      ∃ path own, isOperatorKey path = false ∧ own.Single ∧
        ∀ D, l.addFilter D entry = .ok (D.modify path (·.join own)) := by
  obtain ⟨s, ⟨k, -, hsubject⟩, hcases⟩ := addFilter_cases h
  rcases hcases with ⟨-, hkeep⟩ | ⟨-, own, hown, -, hmodify⟩
  · exact Or.inl (hkeep entry.2)
  · obtain ⟨field, hfield, haddresses⟩ := addresses_of_subject hl hsubject
    have hpath := haddresses.isOperatorKey_path (hs.legal_of_field? hfield)
    exact Or.inr ⟨s.path, own, hpath, hown, hmodify⟩

theorem single_of_lookup (hl : l.schema? = some schema) (hs : schema.WellFormed) {path : String}
    {own : Conditions} (h : (l.conditions [entry]).lookup path = some own) : own.Single := by
  cases hadd : l.addFilter [] entry with
  | error e =>
    -- an argument in error asks for nothing
    have hnone : l.conditions [entry] = [] := by
      rw [conditions, List.foldlM_cons, hadd]
      rfl
    rw [hnone] at h
    cases h
  | ok draft =>
    rcases addFilter_eq_ok hl hs hadd with hkeep | ⟨p, c, -, hc, hmodify⟩
    · rw [conditions_singleton (hkeep [])] at h
      cases h
    · rw [conditions_singleton (hmodify []), FilterDraft.lookup_modify] at h
      split at h
      · rw [Option.some.injEq, List.lookup_nil, Option.getD_none,
          Conditions.empty_join hc.toProper] at h
        exact h ▸ hc
      · cases h

/-- A fold over keyword arguments leaves, at each path, the conditions of the keys on the path
written over those that were there. -/
theorem lookup_foldlM (hl : l.schema? = some schema) (hs : schema.WellFormed)
    {draft draft' : FilterDraft} (h : kwargs.foldlM l.addFilter draft = .ok draft')
    (path : String) :
    draft'.lookup path =
      if l.onPath kwargs path = [] then draft.lookup path
      else some ((l.onPath kwargs path).foldl Conditions.join
        ((draft.lookup path).getD {})) := by
  -- the draft that the fold starts from is whatever the keys before have left
  induction kwargs generalizing draft with
  | nil =>
    rw [List.foldlM_nil, pure_eq_ok] at h
    rw [h]
    rfl
  | cons entry rest ih =>
    rw [List.foldlM_cons] at h
    obtain ⟨next, hnext, hrest⟩ := bind_eq_ok.mp h
    rw [ih hrest]
    rcases addFilter_eq_ok hl hs hnext with hkeep | ⟨p, own, -, hown, hmodify⟩
    · have hsame : next = draft := by
        rw [hkeep draft, Except.ok.injEq] at hnext
        exact hnext.symm
      have honPath : l.onPath (entry :: rest) path = l.onPath rest path := by
        rw [onPath, List.filterMap_cons, conditions_singleton (hkeep [])]
        rfl
      rw [hsame, honPath]
    · have hnew : next = draft.modify p (·.join own) := by
        rw [hmodify draft, Except.ok.injEq] at hnext
        exact hnext.symm
      have halone : (l.conditions [entry]).lookup path = if p = path then some own else none := by
        rw [conditions_singleton (hmodify []), FilterDraft.lookup_modify, List.lookup_nil,
          List.lookup_nil, Option.getD_none, Conditions.empty_join hown.toProper]
      rw [hnew, FilterDraft.lookup_modify]
      by_cases hp : p = path
      · -- a key on this path is written over what stands there
        subst hp
        have honPath : l.onPath (entry :: rest) p = own :: l.onPath rest p := by
          rw [onPath, List.filterMap_cons, halone, if_pos rfl]
          rfl
        rw [honPath, if_pos rfl, if_neg (List.cons_ne_nil _ _), List.foldl_cons]
        split
        · rename_i hnil
          rw [hnil]
          rfl
        · rfl
      · have honPath : l.onPath (entry :: rest) path = l.onPath rest path := by
          rw [onPath, List.filterMap_cons, halone, if_neg hp]
          rfl
        rw [honPath, if_neg hp]

/-- At each path, a filter has the conditions of the keys on the path written over each other. -/
theorem lookup_conditions (hl : l.schema? = some schema) (hs : schema.WellFormed)
    (hfilter : l.filter kwargs = .ok filter) (path : String) :
    (l.conditions kwargs).lookup path =
      if l.onPath kwargs path = [] then none
      else some (Conditions.joined (l.onPath kwargs path)) :=
  lookup_foldlM hl hs (filter_eq_ok.mp hfilter).1 path

theorem conditions_proper (hl : l.schema? = some schema) (hs : schema.WellFormed)
    (hfilter : l.filter kwargs = .ok filter) : (l.conditions kwargs).Proper := by
  refine foldlM_induction FilterDraft.Proper ?_ FilterDraft.proper_nil
    (filter_eq_ok.mp hfilter).1
  intro entry _ draft draft' hdraft hadd
  rcases addFilter_eq_ok hl hs hadd with hkeep | ⟨path, own, hpath, -, hmodify⟩
  · rw [hkeep draft, Except.ok.injEq] at hadd
    exact hadd ▸ hdraft
  · rw [hmodify draft, Except.ok.injEq] at hadd
    exact hadd ▸ hdraft.modify hpath _

theorem satisfies_filter (hl : l.schema? = some schema) (hs : schema.WellFormed)
    (hfilter : l.filter kwargs = .ok filter) (d : Document) :
    Document.satisfies d filter = .ok true ↔
      ∀ path c, (l.conditions kwargs).lookup path = some c →
        Value.meets (Document.getPath? d path) c.toValue = .ok true := by
  rw [← (filter_eq_ok.mp hfilter).2]
  exact FilterDraft.satisfies_toDocument (conditions_proper hl hs hfilter) d

/-! ## All keys -/

/-- Each key of a filter is a filter by itself. -/
theorem exists_filter_singleton (hl : l.schema? = some schema) (hs : schema.WellFormed)
    (hfilter : l.filter kwargs = .ok filter) (hentry : entry ∈ kwargs) :
    ∃ part, l.filter [entry] = .ok part := by
  -- that a key adds to some draft already shows that it adds to the empty one
  obtain ⟨draft, draft', hadd⟩ := exists_step_of_foldlM (filter_eq_ok.mp hfilter).1 entry hentry
  obtain ⟨own, hown⟩ : ∃ own, l.addFilter [] entry = .ok own := by
    rcases addFilter_eq_ok hl hs hadd with hkeep | ⟨path, own, -, -, hmodify⟩
    · exact ⟨_, hkeep []⟩
    · exact ⟨_, hmodify []⟩
  refine ⟨own.toDocument, ?_⟩
  rw [Lowering.filter, List.foldlM_cons, hown]
  rfl

theorem single_of_mem_onPath (hl : l.schema? = some schema) (hs : schema.WellFormed)
    {path : String} {own : Conditions} (h : own ∈ l.onPath kwargs path) : own.Single := by
  obtain ⟨e, -, hlookup⟩ := mem_onPath.mp h
  exact single_of_lookup hl hs hlookup

theorem Compatible.agree (h : Compatible l kwargs) (path : String) :
    ∀ a ∈ l.onPath kwargs path, ∀ b ∈ l.onPath kwargs path, a.Agree b := by
  intro a ha b hb
  obtain ⟨e, he, ha⟩ := mem_onPath.mp ha
  obtain ⟨e', he', hb⟩ := mem_onPath.mp hb
  exact h e he e' he' path a b ha hb

/-- Keyword arguments are compatible exactly when all of them are in force. -/
theorem compatible_iff_inForce (hl : l.schema? = some schema) (hs : schema.WellFormed)
    (hfilter : l.filter kwargs = .ok filter) :
    Compatible l kwargs ↔ ∀ e ∈ kwargs, InForce l kwargs e := by
  constructor
  · intro hcompatible e he path own hlookup
    have hown := mem_onPath.mpr ⟨e, he, hlookup⟩
    have hjoined := lookup_conditions hl hs hfilter path
    rw [if_neg (List.ne_nil_of_mem hown)] at hjoined
    have hproper : ∀ c ∈ l.onPath kwargs path, c.Proper :=
      fun c hc => (single_of_mem_onPath hl hs hc).toProper
    exact ⟨_, hjoined, (Conditions.agree_iff_keeps hproper).mp (hcompatible.agree path) own hown⟩
  · intro hinForce e₁ he₁ e₂ he₂ path a b ha hb
    obtain ⟨c, hc, hkeeps⟩ := hinForce e₁ he₁ path a ha
    obtain ⟨c', hc', hkeeps'⟩ := hinForce e₂ he₂ path b hb
    rw [hc, Option.some.injEq] at hc'
    exact hkeeps.agree (hc' ▸ hkeeps')

/-- The filter of compatible keyword arguments selects what each of them alone selects. -/
theorem satisfies_iff_of_compatible (hl : l.schema? = some schema) (hs : schema.WellFormed)
    (hfilter : l.filter kwargs = .ok filter) (hcompatible : Compatible l kwargs)
    (d : Document) :
    Document.satisfies d filter = .ok true ↔
      ∀ e ∈ kwargs, ∀ part, l.filter [e] = .ok part →
        Document.satisfies d part = .ok true := by
  -- on one path, compatible keywords say together what they say alone
  have hmeets : ∀ path, l.onPath kwargs path ≠ [] →
      (Value.meets (Document.getPath? d path)
          (Conditions.joined (l.onPath kwargs path)).toValue = .ok true ↔
        ∀ own ∈ l.onPath kwargs path,
          Value.meets (Document.getPath? d path) own.toValue = .ok true) := by
    intro path hne
    have hsingle : ∀ c ∈ l.onPath kwargs path, c.Single :=
      fun c hc => single_of_mem_onPath hl hs hc
    have hkeeps := (Conditions.agree_iff_keeps fun c hc => (hsingle c hc).toProper).mp
      (hcompatible.agree path)
    exact Conditions.meets_joined hsingle hne hkeeps
  rw [satisfies_filter hl hs hfilter]
  constructor
  · -- a keyword by itself has one of the conditions that are joined on its path
    intro hall e he part hpart
    rw [satisfies_filter hl hs hpart]
    intro path own hlookup
    have hown := mem_onPath.mpr ⟨e, he, hlookup⟩
    have hne := List.ne_nil_of_mem hown
    have hjoined := lookup_conditions hl hs hfilter path
    rw [if_neg hne] at hjoined
    exact (hmeets path hne).mp (hall path _ hjoined) own hown
  · -- and a path of the filter has conditions of the keywords on it only
    intro hall path c hlookup
    rw [lookup_conditions hl hs hfilter] at hlookup
    split at hlookup
    · cases hlookup
    rename_i hne
    cases hlookup
    refine (hmeets path hne).mpr fun own hown => ?_
    obtain ⟨e, he, halone⟩ := mem_onPath.mp hown
    obtain ⟨part, hpart⟩ := exists_filter_singleton hl hs hfilter he
    exact (satisfies_filter hl hs hpart d).mp (hall e he part hpart) path own halone

/-- A keyword filter means the conjunction of its keys, and keeps what each of them asks for,
exactly when the keys are compatible. Each of the keys is a filter by itself. -/
theorem filter_means_conjunction_iff {draft : SchemaDraft} (hbuild : draft.build = .ok schema)
    (policy : SuffixPolicy)
    (hfilter : Lowering.filter { schema? := some schema, policy } kwargs = .ok filter) :
    (∀ e ∈ kwargs, ∃ part, Lowering.filter { schema? := some schema, policy } [e] = .ok part) ∧
    (Compatible { schema? := some schema, policy } kwargs ↔
      (∀ e ∈ kwargs, InForce { schema? := some schema, policy } kwargs e) ∧
      ∀ d, Document.satisfies d filter = .ok true ↔
        ∀ e ∈ kwargs, ∀ part,
          Lowering.filter { schema? := some schema, policy } [e] = .ok part →
            Document.satisfies d part = .ok true) := by
  have hs := SchemaDraft.build_wellFormed hbuild
  refine ⟨fun e he => exists_filter_singleton rfl hs hfilter he, ?_⟩
  constructor
  · intro hcompatible
    exact ⟨(compatible_iff_inForce rfl hs hfilter).mp hcompatible,
      satisfies_iff_of_compatible rfl hs hfilter hcompatible⟩
  · intro h
    exact (compatible_iff_inForce rfl hs hfilter).mpr h.1

/-- The theorem at a lower and an upper bound, which are compatible. -/
theorem filter_means_conjunction_of_bounds :
    Compatible { schema? := some ⟨⟨"t"⟩, [{ name := "age", type := .int }]⟩ }
      [("age__gte", .int32 5), ("age__lte", .int32 10)] ∧
    ∀ d, Document.satisfies d
        [("age", .document [("$gte", .int32 5), ("$lte", .int32 10)])] = .ok true ↔
      Document.satisfies d [("age", .document [("$gte", .int32 5)])] = .ok true ∧
      Document.satisfies d [("age", .document [("$lte", .int32 10)])] = .ok true := by
  have hbuild : SchemaDraft.build
      { collection := "t", fields := [{ name := "age", type := .int }] } =
      .ok { collection := ⟨"t"⟩, fields := [{ name := "age", type := .int }] } :=
    SchemaDraft.build_one_field rfl rfl (by decide) rfl
  have hfilter : Lowering.filter { schema? := some ⟨⟨"t"⟩, [{ name := "age", type := .int }]⟩ }
      [("age__gte", .int32 5), ("age__lte", .int32 10)] =
      .ok [("age", .document [("$gte", .int32 5), ("$lte", .int32 10)])] := rfl
  have hlaw := (filter_means_conjunction_iff hbuild .reject hfilter).2
  have hlow : conditions { schema? := some ⟨⟨"t"⟩, [{ name := "age", type := .int }]⟩ }
      [("age__gte", .int32 5)] = [("age", { operators := [("$gte", .int32 5)] })] := rfl
  have hhigh : conditions { schema? := some ⟨⟨"t"⟩, [{ name := "age", type := .int }]⟩ }
      [("age__lte", .int32 10)] = [("age", { operators := [("$lte", .int32 10)] })] := rfl
  -- both keywords have their condition on the same path
  have hlookup : ∀ {path a} {c : Conditions}, List.lookup path [("age", c)] = some a → a = c := by
    intro path a c h
    rw [List.lookup_cons] at h
    split at h
    · exact (Option.some.inj h).symm
    · cases h
  have hcompatible : Compatible { schema? := some ⟨⟨"t"⟩, [{ name := "age", type := .int }]⟩ }
      [("age__gte", .int32 5), ("age__lte", .int32 10)] := by
    -- operators of different names agree, and a condition agrees with itself
    intro e he e' he' path a b ha hb
    rcases List.mem_pair.mp he with rfl | rfl <;> rcases List.mem_pair.mp he' with rfl | rfl <;>
      simp only [hlow, hhigh] at ha hb <;> rw [hlookup ha, hlookup hb]
    · exact (Conditions.single_operator _ _ rfl (by decide) (by decide)).agree_self
    · exact Conditions.agree_of_disjoint rfl (by simp [Document.keys])
    · exact Conditions.agree_of_disjoint rfl (by simp [Document.keys])
    · exact (Conditions.single_operator _ _ rfl (by decide) (by decide)).agree_self
  refine ⟨hcompatible, fun d => ?_⟩
  rw [(hlaw.mp hcompatible).2 d]
  constructor
  · intro hall
    exact ⟨hall _ (List.mem_pair.mpr (Or.inl rfl)) _ rfl,
      hall _ (List.mem_pair.mpr (Or.inr rfl)) _ rfl⟩
  · rintro ⟨hlower, hupper⟩ e he part hpart
    rcases List.mem_pair.mp he with rfl | rfl
    · cases hpart
      exact hlower
    · cases hpart
      exact hupper

/-- A range replaces the lower bound asked for beside it: the filter of both selects a document
that the lower bound alone excludes, and no evaluation is an error. -/
theorem range_replaces_lower_bound :
    ∃ draft schema filter low range,
      SchemaDraft.build draft = .ok schema ∧
      Lowering.filter { schema? := some schema, policy := .reject }
        [("age__gte", .int32 5), ("age__range", .array [.int32 0, .int32 10])] = .ok filter ∧
      Lowering.filter { schema? := some schema, policy := .reject }
        [("age__gte", .int32 5)] = .ok low ∧
      Lowering.filter { schema? := some schema, policy := .reject }
        [("age__range", .array [.int32 0, .int32 10])] = .ok range ∧
      Document.satisfies [("_id", .int32 1), ("age", .int32 3)] filter = .ok true ∧
      Document.satisfies [("_id", .int32 1), ("age", .int32 3)] low = .ok false ∧
      Document.satisfies [("_id", .int32 1), ("age", .int32 3)] range = .ok true := by
  have hage : Document.getPath? [("_id", .int32 1), ("age", .int32 3)] "age" =
      some (.int32 3) := rfl
  -- what the filter became asks for no more than the range does,
  have hrange : Document.satisfies [("_id", .int32 1), ("age", .int32 3)]
      [("age", .document [("$gte", .int32 0), ("$lte", .int32 10)])] = .ok true := by
    have hgte : Value.liesAt [.gt, .eq] (.int32 0) (some (.int32 3)) = true := by decide +kernel
    have hlte : Value.liesAt [.lt, .eq] (.int32 10) (some (.int32 3)) = true := by
      decide +kernel
    rw [Document.satisfies_singleton rfl, Value.meets_of_operators rfl, hage]
    simp only [Value.passesAll, Value.passes, hgte, hlte]
    rfl
  -- though the lower bound alone leaves the document out
  have hlow : Document.satisfies [("_id", .int32 1), ("age", .int32 3)]
      [("age", .document [("$gte", .int32 5)])] = .ok false := by
    have hgte : Value.liesAt [.gt, .eq] (.int32 5) (some (.int32 3)) = false := by
      decide +kernel
    rw [Document.satisfies_singleton rfl, Value.meets_of_operators rfl, hage]
    simp only [Value.passesAll, Value.passes, hgte]
    rfl
  exact ⟨{ collection := "t", fields := [{ name := "age", type := .int }] },
    { collection := ⟨"t"⟩, fields := [{ name := "age", type := .int }] },
    [("age", .document [("$gte", .int32 0), ("$lte", .int32 10)])],
    [("age", .document [("$gte", .int32 5)])],
    [("age", .document [("$gte", .int32 0), ("$lte", .int32 10)])],
    SchemaDraft.build_one_field rfl rfl (by decide) rfl, rfl, rfl, rfl, hrange, hlow, hrange⟩

end Lowering

end DocMapper
