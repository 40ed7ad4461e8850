import DocMapper.Proofs.Confinement
import DocMapper.Proofs.Harmless
import DocMapper.Proofs.SelectedUpdates

namespace DocMapper

/-! # Operators that run code in the store

Every value of a keyword argument is searched for operators that run code on its way into a filter
or an update, whatever operator takes it there. Two things are not searched. The keys become paths;
a schema knows no field of such a name, but without a schema every key is a path. And the scopes of
code in the values are passed on as they are.
-/

/-! ## What has passed the checks -/

namespace Subject

variable {s : Subject} {check : String → Value → FieldType → Except Error Unit} {key code : String}
  {v w : Value} {scope : Document}

theorem vetted_of_accept (h : s.accept check v = .ok w) : w.Vetted := by
  obtain ⟨hw, -⟩ := accept_eq_ok h
  obtain ⟨⟨⟩, hreject, -⟩ := bind_eq_ok.mp h
  have hv := Value.rejectDangerous_eq_ok.mp hreject
  rw [hw]
  split
  · exact hv.readId
  · exact hv

/-- Scopes are not made by the checks. -/
theorem standsIn_of_accept (h : s.accept check v = .ok w)
    (hin : (Value.scopedCode code scope).StandsIn w) :
    (Value.scopedCode code scope).StandsIn v := by
  obtain ⟨hw, -⟩ := accept_eq_ok h
  rw [hw] at hin
  split at hin
  · exact Value.standsIn_of_readId (fun _ => by simp) (fun _ => by simp) hin
  · exact hin

theorem Operand.vetted (h : s.Operand v key w) : key ∉ dangerousOperators ∧ w.Vetted := by
  cases h with
  | compared hkey hw =>
    have hall : ∀ key ∈ ["$ne", "$gt", "$gte", "$lt", "$lte"], key ∉ dangerousOperators := by decide
    exact ⟨hall key hkey, vetted_of_accept hw⟩
  | bound _ _ hkey hw =>
    have hall : ∀ key ∈ ["$gte", "$lte"], key ∉ dangerousOperators := by decide
    exact ⟨hall key hkey, vetted_of_accept hw⟩
  | members _ hkey hws =>
    have hall : ∀ key ∈ ["$in", "$nin"], key ∉ dangerousOperators := by decide
    refine ⟨hall key hkey, Value.vetted_array.mpr fun w hw => ?_⟩
    obtain ⟨item, -, hitem⟩ := exists_of_mem_mapM hws hw
    exact vetted_of_accept hitem
  | present b => exact ⟨by decide, fun _ hin => by cases hin⟩
  | pattern text => exact ⟨by decide, fun _ hin => by cases hin⟩
  | letters => exact ⟨by decide, fun _ hin => by cases hin⟩

/-- What stands in an operand as a scope was given. -/
theorem Operand.standsIn (h : s.Operand v key w)
    (hin : (Value.scopedCode code scope).StandsIn w) :
    (Value.scopedCode code scope).StandsIn v := by
  cases h with
  | compared _ hw => exact standsIn_of_accept hw hin
  | bound hgiven hv _ hw =>
    rw [hgiven]
    exact .item hv (standsIn_of_accept hw hin)
  | members hgiven _ hws =>
    rcases Value.standsIn_array.mp hin with heq | ⟨u, hu, hin⟩
    · cases heq
    · obtain ⟨item, hitem, haccept⟩ := exists_of_mem_mapM hws hu
      rw [hgiven]
      exact .item hitem (standsIn_of_accept haccept hin)
  | present | pattern | letters => cases hin

end Subject

namespace Lowering

variable {l : Lowering} {schema : Schema} {kwargs : Document} {path operator key code : String}
  {c : Conditions} {v : Value} {s : Subject} {scope : Document}

/-- Every scope in the value was given with a keyword argument. -/
def ScopesGiven (kwargs : Document) (v : Value) : Prop :=
  ∀ code scope, (Value.scopedCode code scope).StandsIn v →
    ∃ entry ∈ kwargs, (Value.scopedCode code scope).StandsIn entry.2

theorem GivenOn.scopesGiven (h : l.GivenOn kwargs path s v) : ScopesGiven kwargs v := by
  obtain ⟨⟨entry, hentry, -, rfl⟩, -⟩ := h
  exact fun code scope hin => ⟨entry, hentry, hin⟩

/-- The scopes of a document were given when those of its values were. -/
theorem scopesGiven_document {fields : Document}
    (h : ∀ entry ∈ fields, ScopesGiven kwargs entry.2) :
    ScopesGiven kwargs (.document fields) := by
  intro code scope hin
  rcases Value.standsIn_document.mp hin with heq | ⟨entry, hentry, hin⟩
  · cases heq
  · exact h entry hentry code scope hin

theorem Lowered.vetted (hc : l.Lowered kwargs path c) : c.toValue.Vetted := by
  have hoperators : ∀ entry ∈ c.operators, entry.1 ∉ dangerousOperators ∧ entry.2.Vetted := by
    intro entry hentry
    obtain ⟨s, v, -, -, hoperand⟩ := hc.operand entry hentry
    exact hoperand.vetted
  rw [Conditions.toValue]
  split
  · exact Value.vetted_document.mpr hoperators
  · rename_i w hequal
    obtain ⟨s, v, -, -, hw⟩ := hc.equal w hequal
    have hvetted := Subject.vetted_of_accept hw
    split
    · exact hvetted
    · refine Value.vetted_document.mpr fun entry hentry => ?_
      rcases Document.mem_of_mem_insertAll hentry with hentry | hentry
      · exact hoperators entry hentry
      · have hequality : "$eq" ∉ dangerousOperators := by decide
        rw [List.mem_singleton.mp hentry]
        exact ⟨hequality, hvetted⟩

theorem Lowered.scopesGiven (hc : l.Lowered kwargs path c) : ScopesGiven kwargs c.toValue := by
  have hoperators : ∀ entry ∈ c.operators, ScopesGiven kwargs entry.2 := by
    intro entry hentry code scope hin
    obtain ⟨s, v, hgiven, -, hoperand⟩ := hc.operand entry hentry
    exact hgiven.scopesGiven code scope (hoperand.standsIn hin)
  rw [Conditions.toValue]
  split
  · exact scopesGiven_document hoperators
  · rename_i w hequal
    obtain ⟨s, v, hgiven, -, hw⟩ := hc.equal w hequal
    have hequality : ScopesGiven kwargs w := fun code scope hin =>
      hgiven.scopesGiven code scope (Subject.standsIn_of_accept hw hin)
    split
    · exact hequality
    · refine scopesGiven_document fun entry hentry => ?_
      rcases Document.mem_of_mem_insertAll hentry with hentry | hentry
      · exact hoperators entry hentry
      · exact List.mem_singleton.mp hentry ▸ hequality

theorem Writes.vetted (h : l.Writes kwargs operator path v) : v.Vetted := by
  cases h with
  | set _ hw => exact Subject.vetted_of_accept hw
  | inc _ hw =>
    obtain ⟨rfl, hinteger, -⟩ := Subject.increment_eq_ok hw
    cases v with
    | int32 n => exact fun _ hin => by cases hin
    | int64 n => exact fun _ hin => by cases hin
    | _ => cases hinteger

theorem Writes.scopesGiven (h : l.Writes kwargs operator path v) : ScopesGiven kwargs v := by
  cases h with
  | set hgiven hw =>
    exact fun code scope hin =>
      hgiven.scopesGiven code scope (Subject.standsIn_of_accept hw hin)
  | inc hgiven hw =>
    obtain ⟨rfl, -, -⟩ := Subject.increment_eq_ok hw
    exact hgiven.scopesGiven

/-- A filter is vetted exactly when its paths are no operators that run code. -/
theorem vetted_filter_iff {filter : Document} (h : l.filter kwargs = .ok filter) :
    (Value.document filter).Vetted ↔
      ∀ path ∈ Document.keys filter, path ∉ dangerousOperators := by
  rw [Value.vetted_document]
  constructor
  · intro hall path hpath
    obtain ⟨v, hv⟩ := Document.exists_of_mem_keys hpath
    exact (hall _ hv).1
  · intro hall entry hentry
    obtain ⟨c, hc, hvalue⟩ := lowered_of_filter h entry hentry
    exact ⟨hall _ (Document.mem_keys_of_mem hentry), hvalue ▸ hc.vetted⟩

theorem scopesGiven_of_filter {filter : Document} (h : l.filter kwargs = .ok filter) :
    ScopesGiven kwargs (.document filter) := by
  refine scopesGiven_document fun entry hentry => ?_
  obtain ⟨c, hc, hvalue⟩ := lowered_of_filter h entry hentry
  exact hvalue ▸ hc.scopesGiven

/-- The changes of an update are vetted exactly when the paths at which they write are no operators
that run code. -/
theorem vetted_update_iff {change : ScopedUpdate} (h : l.update kwargs = .ok change) :
    (Value.document change.update).Vetted ↔
      ∀ path ∈ Document.writtenPaths change.update, path ∉ dangerousOperators := by
  rw [Value.vetted_document]
  constructor
  · intro hall path hpath
    obtain ⟨operator, fields, hentry, hpath⟩ := Document.mem_writtenPaths.mp hpath
    obtain ⟨v, hv⟩ := Document.exists_of_mem_keys hpath
    exact (Value.vetted_document.mp (hall _ hentry).2 _ hv).1
  · rintro hall ⟨operator, operand⟩ hentry
    obtain ⟨hoperator, fields, rfl, -, hwrites⟩ := writes_of_update h _ hentry
    have hnames : ∀ key ∈ ["$set", "$inc"], key ∉ dangerousOperators := by decide
    refine ⟨hnames _ hoperator, Value.vetted_document.mpr fun e he => ?_⟩
    have hpath := Document.mem_writtenPaths.mpr
      ⟨operator, fields, hentry, Document.mem_keys_of_mem he⟩
    exact ⟨hall _ hpath, (hwrites e he).vetted⟩

theorem scopesGiven_of_update {change : ScopedUpdate} (h : l.update kwargs = .ok change) :
    ScopesGiven kwargs (.document change.update) := by
  refine scopesGiven_document fun entry hentry => ?_
  obtain ⟨-, fields, hfields, -, hwrites⟩ := writes_of_update h _ hentry
  rw [hfields]
  exact scopesGiven_document fun e he => (hwrites e he).scopesGiven

/-! ## Paths -/

/-- Without a schema, no keyword has an operator that runs code for its path. -/
def PathsHarmless (l : Lowering) (kwargs : Document) : Prop :=
  l.schema? = none → ∀ entry ∈ kwargs, ∀ k, Keyword.parse entry.1 = .ok k →
    k.literal ∉ dangerousOperators

/-- Without a schema, a keyword addresses what it says, as it is written. -/
theorem Finds.literal (hl : l.schema? = none) (h : l.Finds key s) :
    ∃ k, Keyword.parse key = .ok k ∧ s.path = k.literal ∧ s.queryable = true := by
  obtain ⟨k, hk, hsubject⟩ := h
  simp only [subject, hl] at hsubject
  split at hsubject
  · cases hsubject
  · cases hsubject
    exact ⟨k, hk, rfl, rfl⟩

theorem PathsHarmless.not_mem (h : l.PathsHarmless kwargs)
    (hl : ∀ schema, l.schema? = some schema → schema.WellFormed) (hs : l.OnPath kwargs path s) :
    path ∉ dangerousOperators := by
  obtain ⟨⟨entry, hentry, hs⟩, rfl⟩ := hs
  cases hschema : l.schema? with
  | none =>
    obtain ⟨k, hk, hpath, -⟩ := hs.literal hschema
    rw [hpath]
    exact h hschema entry hentry k hk
  | some schema =>
    have hoperators : ∀ key ∈ dangerousOperators, isOperatorKey key = true := by decide
    have hplain := (hs.reaches hschema (hl schema hschema)).1
    intro hmem
    rw [hoperators _ hmem] at hplain
    cases hplain

/-- Where every keyword argument has its path among harmless ones, the keywords are harmless. -/
theorem pathsHarmless_of_covers {paths : List String}
    (hcovers : ∀ entry ∈ kwargs, l.Covers paths entry)
    (hpaths : ∀ path ∈ paths, path ∉ dangerousOperators) : l.PathsHarmless kwargs := by
  intro hnone entry hentry k hk
  obtain ⟨s, hs, hmem⟩ := hcovers entry hentry
  obtain ⟨k', hk', hpath, hqueryable⟩ := hs.literal hnone
  rw [hk, Except.ok.injEq] at hk'
  rw [hk', ← hpath]
  exact hpaths _ (hmem hqueryable)

/-- Whatever is lowered carries no operator that runs code in the store, at any depth, exactly when
no keyword is such an operator itself, alone or with a suffix, and no scope of code in the result
carries one. With a schema there are no such keywords. The scopes were given with the keyword
arguments, so there are no such scopes where none was given. -/
theorem lowered_runs_no_code_iff (l : Lowering)
    (hl : ∀ schema, l.schema? = some schema → ∃ draft : SchemaDraft, draft.build = .ok schema)
    (kwargs : Document) :
    (∀ filter, l.filter kwargs = .ok filter →
      ((Value.document filter).Harmless ↔
        l.PathsHarmless kwargs ∧ (Value.document filter).ScopesHarmless) ∧
      ScopesGiven kwargs (.document filter)) ∧
    ∀ change, l.update kwargs = .ok change →
      ((Value.document change.filter).Harmless ∧ (Value.document change.update).Harmless ↔
        l.PathsHarmless kwargs ∧ (Value.document change.filter).ScopesHarmless ∧
          (Value.document change.update).ScopesHarmless) ∧
      ScopesGiven kwargs (.document change.filter) ∧
      ScopesGiven kwargs (.document change.update) := by
  have hwellFormed : ∀ schema, l.schema? = some schema → schema.WellFormed := by
    intro schema hschema
    obtain ⟨draft, hbuild⟩ := hl schema hschema
    exact SchemaDraft.build_wellFormed hbuild
  -- every path of a filter is the path of a keyword argument
  have hfilters : ∀ args filter, (∀ entry ∈ args, entry ∈ kwargs) → l.filter args = .ok filter →
      l.PathsHarmless kwargs → (Value.document filter).Vetted := by
    intro args filter hsub hfilter hharmless
    refine (vetted_filter_iff hfilter).mpr fun path hpath => ?_
    obtain ⟨v, hv⟩ := Document.exists_of_mem_keys hpath
    obtain ⟨c, hc, -⟩ := lowered_of_filter hfilter _ hv
    obtain ⟨s, hs, -⟩ := hc.exists_onPath
    exact hharmless.not_mem hwellFormed (hs.mono hsub)
  constructor
  · intro filter hfilter
    have hpaths : (Value.document filter).Vetted ↔ l.PathsHarmless kwargs :=
      ⟨fun h => pathsHarmless_of_covers (covers_of_filter hfilter)
          ((vetted_filter_iff hfilter).mp h),
        hfilters kwargs filter (fun _ h => h) hfilter⟩
    rw [Value.harmless_iff, hpaths]
    exact ⟨Iff.rfl, scopesGiven_of_filter hfilter⟩
  · intro change hchange
    have hselecting := filter_selecting hchange
    -- a keyword argument has its path in the filter or among the changes
    have hpaths : (Value.document change.filter).Vetted ∧ (Value.document change.update).Vetted ↔
        l.PathsHarmless kwargs := by
      constructor
      · rintro ⟨hfilter, hupdate⟩
        refine pathsHarmless_of_covers (covers_of_update hchange) fun path hpath => ?_
        rcases List.mem_append.mp hpath with hpath | hpath
        · exact (vetted_filter_iff hselecting).mp hfilter path hpath
        · exact (vetted_update_iff hchange).mp hupdate path hpath
      · intro hharmless
        refine ⟨hfilters _ _ (fun _ h => (List.mem_filter.mp h).1) hselecting hharmless, ?_⟩
        refine (vetted_update_iff hchange).mpr fun path hpath => ?_
        obtain ⟨step, hstep, rfl⟩ := List.mem_map.mp hpath
        obtain ⟨s, hs⟩ := (writes_of_mem_steps hchange hstep).exists_onPath
        exact hharmless.not_mem hwellFormed hs
    have hgiven : ScopesGiven kwargs (.document change.filter) := by
      intro code scope hin
      obtain ⟨entry, hentry, hin⟩ := scopesGiven_of_filter hselecting code scope hin
      exact ⟨entry, (List.mem_filter.mp hentry).1, hin⟩
    refine ⟨?_, hgiven, scopesGiven_of_update hchange⟩
    rw [Value.harmless_iff, Value.harmless_iff, ← hpaths]
    exact and_and_and_comm

/-- The theorem at a schema with a mapping: an update that asks for an item and sets a text, which
may spell the name of an operator, beside code with a scope of one number. -/
theorem lowered_runs_no_code_in_mapping :
    ∃ change, Lowering.update { schema? := some ⟨⟨"t"⟩, [{ name := "a", type := .mapping }]⟩ }
        [("a__x__in", .array [.document [("b", .int32 1)]]),
          ("a__y__set", .document [("c", .string "$where"),
            ("f", .scopedCode "f(n)" [("n", .int32 1)])])] = .ok change ∧
      (Value.document change.filter).Harmless ∧ (Value.document change.update).Harmless := by
  let l : Lowering := { schema? := some ⟨⟨"t"⟩, [{ name := "a", type := .mapping }]⟩ }
  let kwargs : Document := [("a__x__in", .array [.document [("b", .int32 1)]]),
    ("a__y__set", .document [("c", .string "$where"),
      ("f", .scopedCode "f(n)" [("n", .int32 1)])])]
  have hbuild : ∀ schema, l.schema? = some schema →
      ∃ draft : SchemaDraft, draft.build = .ok schema := by
    intro schema hschema
    cases hschema
    exact ⟨{ collection := "t", fields := [{ name := "a", type := .mapping }] },
      SchemaDraft.build_one_field rfl rfl (by decide) rfl⟩
  have hchange : l.update kwargs =
      .ok { filter := [("a.x", .document [("$in", .array [.document [("b", .int32 1)]])])],
            update := [("$set", .document [("a.y", .document [("c", .string "$where"),
              ("f", .scopedCode "f(n)" [("n", .int32 1)])])])] } := rfl
  have hnone : l.schema? ≠ none := Option.some_ne_none _
  obtain ⟨hiff, hfilter, hupdate⟩ := (lowered_runs_no_code_iff l hbuild kwargs).2 _ hchange
  -- one scope was given, and it has no keys but `n`
  have hgiven : ∀ v, ScopesGiven kwargs v → v.ScopesHarmless := by
    intro v hv code scope hin
    obtain ⟨entry, hentry, hin⟩ := hv code scope hin
    have hscope : scope = [("n", .int32 1)] := by
      simp only [kwargs, List.mem_cons, List.not_mem_nil, or_false] at hentry
      rcases hentry with rfl | rfl
      · simp [Value.standsIn_array, Value.standsIn_document] at hin
        cases hin
      · simp [Value.standsIn_document] at hin
        rcases hin with hin | hin
        · cases hin
        · cases hin
          rfl
    rw [hscope, Value.harmless_iff]
    refine ⟨Value.dangerousKey?_eq_none _ |>.mp rfl, fun code scope hin => ?_⟩
    rcases Value.standsIn_document.mp hin with heq | ⟨e, he, hin⟩
    · cases heq
    · cases List.mem_singleton.mp he
      cases hin
  exact ⟨_, hchange, hiff.mpr ⟨fun h => absurd h hnone, hgiven _ hfilter, hgiven _ hupdate⟩⟩

/-- Without a schema, an operator that runs code is a keyword like any other, and stands in the
filter as it is. The same document is refused where the search is made of the whole of it. With a
schema, the scope of code in a mapping takes the operator into the filter. -/
theorem keyword_runs_code_without_schema :
    (Lowering.filter {} [("$where", .string "sleep(1000)")] =
      .ok [("$where", .string "sleep(1000)")] ∧
    ¬ (Value.document [("$where", .string "sleep(1000)")]).Harmless ∧
    Document.rejectDangerous [("$where", .string "sleep(1000)")] =
      .error (.validation (.dangerousOperator "$where"))) ∧
    Lowering.filter { schema? := some ⟨⟨"t"⟩, [{ name := "a", type := .mapping }]⟩ }
        [("a", .document [("b", .scopedCode "f()" [("$where", .string "x")])])] =
      .ok [("a", .document [("b", .scopedCode "f()" [("$where", .string "x")])])] ∧
    ¬ (Value.document
        [("a", .document [("b", .scopedCode "f()" [("$where", .string "x")])])]).Harmless := by
  refine ⟨⟨rfl, fun h => ?_, rfl⟩, rfl, fun h => ?_⟩
  · exact h "$where" List.mem_cons_self (.here .itself List.mem_cons_self)
  · have hin : (Value.scopedCode "f()" [("$where", .string "x")]).StandsIn
        (.document [("a", .document [("b", .scopedCode "f()" [("$where", .string "x")])])]) :=
      .entry List.mem_cons_self (.entry List.mem_cons_self .itself)
    exact h "$where" List.mem_cons_self (.inScope hin (.here .itself List.mem_cons_self))

end Lowering

end DocMapper
