import DocMapper.Proofs.Lowered

namespace DocMapper

/-! # Lowering keeps to the declared fields

With a schema, every path of a filter or an update starts with a field that the schema knows, and
goes on only if the field accepts nested paths. A filter has no path in a field that filters leave
out of account, and the value of a keyword argument for such a field is not even looked at.
-/

/-- A fold that passes over a key, whatever its value is, gives the same when the value changes. -/
theorem Document.foldlM_insert {β : Type} {f : β → String × Value → Except Error β} {d : Document}
    {key : String} (hf : ∀ v b, f b (key, v) = .ok b) (hkey : key ∈ keys d) (v : Value) (b : β) :
    (insert d key v).foldlM f b = d.foldlM f b := by
  induction d generalizing b with
  | nil => exact absurd hkey List.not_mem_nil
  | cons entry rest ih =>
    obtain ⟨k, w⟩ := entry
    rw [insert_cons]
    by_cases hk : k = key
    · rw [if_pos hk, hk, List.foldlM_cons, List.foldlM_cons, hf, hf]
    · have hrest : key ∈ keys rest := (List.mem_cons.mp hkey).resolve_left fun he => hk he.symm
      rw [if_neg hk, List.foldlM_cons, List.foldlM_cons]
      exact bind_congr fun c => ih hrest c

/-- A path lies in a field that the schema knows: its first segment is the name of the field, and
it goes on only where the field accepts nested paths. -/
structure Schema.Reaches (schema : Schema) (path : String) (field : Field) : Prop where
  known : schema.field? (Path.ofString path).head = some field
  inside : path = field.name ∨ field.type.isMapping = true ∧ (Path.ofString path).rest ≠ []

/-- A path that goes on inside a declared field is there because the field accepts nested paths. -/
theorem Schema.Reaches.isMapping {schema : Schema} {path : String} {field f : Field}
    (h : schema.Reaches path field) (hs : schema.WellFormed) (hf : f ∈ schema.fields)
    (hhead : (Path.ofString path).head = f.name) (hrest : (Path.ofString path).rest ≠ []) :
    f.type.isMapping = true := by
  have hknown := h.known
  rw [hhead, hs.field?_of_mem hf, Option.some.injEq] at hknown
  subst hknown
  rcases h.inside with rfl | ⟨hmapping, -⟩
  · rw [(hs.legal f hf).path] at hrest
    exact absurd rfl hrest
  · exact hmapping

namespace Lowering

variable {l : Lowering} {schema : Schema} {kwargs : Document} {path key : String} {s : Subject}

/-- With a schema, what a key addresses lies in the field of its first segment. -/
theorem Finds.reaches (hl : l.schema? = some schema) (hs : schema.WellFormed)
    (h : l.Finds key s) :
    isOperatorKey s.path = false ∧
      ∃ k field, Keyword.parse key = .ok k ∧ schema.field? k.field = some field ∧
        schema.Reaches s.path field ∧ s.queryable = field.queryable := by
  obtain ⟨k, hk, hsubject⟩ := h
  obtain ⟨field, hfield, haddresses, hmapping⟩ := field_of_subject hl hs hsubject
  have hname := (Schema.field?_eq_some hfield).1
  have hlegal := hs.legal_of_field? hfield
  have hknown : schema.field? (Path.ofString s.path).head = some field := by
    rw [haddresses.path_head hlegal, hname, hfield]
  refine ⟨haddresses.isOperatorKey_path hlegal, k, field, hk, hfield, ⟨hknown, ?_⟩, ?_⟩
  · cases haddresses with
    | whole => exact Or.inl rfl
    | inside hne => exact Or.inr ⟨hmapping rfl, (hlegal.path_intercalate hne).2⟩
  · cases haddresses <;> rfl

/-- Every path of a filter lies in a queryable field, and is no operator. -/
theorem reaches_of_filter (hl : l.schema? = some schema) (hs : schema.WellFormed)
    {filter : Document} (h : l.filter kwargs = .ok filter) (hpath : path ∈ Document.keys filter) :
    isOperatorKey path = false ∧
      ∃ field, schema.Reaches path field ∧ field.queryable = true := by
  obtain ⟨v, hv⟩ := Document.exists_of_mem_keys hpath
  obtain ⟨c, hc, -⟩ := lowered_of_filter h _ hv
  obtain ⟨s, ⟨⟨entry, -, hfinds⟩, rfl⟩, hqueryable⟩ := hc.exists_onPath
  obtain ⟨hplain, k, field, -, -, hreaches, hsame⟩ := hfinds.reaches hl hs
  exact ⟨hplain, field, hreaches, hsame ▸ hqueryable⟩

/-- A keyword argument for a field that filters leave out of account does nothing to a filter,
whatever its value is. -/
theorem addFilter_of_excluded (hl : l.schema? = some schema) (hs : schema.WellFormed)
    {filter : Document} (h : l.filter kwargs = .ok filter) (hkey : key ∈ Document.keys kwargs)
    {k : Keyword} (hk : Keyword.parse key = .ok k) {field : Field}
    (hfield : schema.field? k.field = some field) (hexcluded : field.queryable = false)
    (v : Value) (draft : FilterDraft) : l.addFilter draft (key, v) = .ok draft := by
  obtain ⟨draft, hdraft, -⟩ := bind_eq_ok.mp h
  obtain ⟨w, hw⟩ := Document.exists_of_mem_keys hkey
  obtain ⟨D, D', hadd⟩ := exists_step_of_foldlM hdraft _ hw
  obtain ⟨s, hfinds, hcases⟩ := addFilter_cases hadd
  obtain ⟨-, k', field', hk', hfield', -, hsame⟩ := hfinds.reaches hl hs
  cases hk.symm.trans hk'
  cases hfield.symm.trans hfield'
  rcases hcases with ⟨-, hkeep⟩ | ⟨hqueryable, -⟩
  · exact hkeep v _
  · rw [hsame, hexcluded] at hqueryable
    cases hqueryable

/-- Every path at which an update writes lies in a field that the schema knows. -/
theorem Writes.reaches (hl : l.schema? = some schema) (hs : schema.WellFormed) {operator : String}
    {v : Value} (h : l.Writes kwargs operator path v) : ∃ field, schema.Reaches path field := by
  obtain ⟨s, ⟨entry, -, hfinds⟩, rfl⟩ := h.exists_onPath
  obtain ⟨-, k, field, -, -, hreaches, -⟩ := hfinds.reaches hl hs
  exact ⟨field, hreaches⟩

/-- With a schema, filters and updates keep to the declared fields. Every path of a filter lies in a
queryable field, none is an operator, and the value of a keyword argument for a field that is not
queryable does not matter. An update sets values or adds amounts, at least one of the two, and every
path at which it does lies in a field that the schema knows. -/
theorem lowering_is_confined {draft : SchemaDraft} (hbuild : draft.build = .ok schema)
    (policy : SuffixPolicy) (kwargs : Document) :
    (∀ filter, Lowering.filter { schema? := some schema, policy } kwargs = .ok filter →
      (∀ path ∈ Document.keys filter, isOperatorKey path = false ∧
        ∃ field, schema.Reaches path field ∧ field.queryable = true) ∧
      ∀ key ∈ Document.keys kwargs, ∀ k field, Keyword.parse key = .ok k →
        schema.field? k.field = some field → field.queryable = false →
        ∀ v, Lowering.filter { schema? := some schema, policy } (Document.insert kwargs key v) =
          .ok filter) ∧
    ∀ change, Lowering.update { schema? := some schema, policy } kwargs = .ok change →
      change.update ≠ [] ∧
      ∀ entry ∈ change.update, entry.1 ∈ ["$set", "$inc"] ∧
        ∃ fields, entry.2 = .document fields ∧ fields ≠ [] ∧
          ∀ path ∈ Document.keys fields, ∃ field, schema.Reaches path field := by
  have hs := SchemaDraft.build_wellFormed hbuild
  refine ⟨fun filter hfilter => ⟨fun path hpath => reaches_of_filter rfl hs hfilter hpath, ?_⟩, ?_⟩
  · intro key hkey k field hk hfield hexcluded v
    -- an argument on an excluded field adds nothing to the filter, whatever its value
    have hskip := addFilter_of_excluded rfl hs hfilter hkey hk hfield hexcluded
    rw [Lowering.filter, Document.foldlM_insert hskip hkey]
    exact hfilter
  · intro change hchange
    -- an update is made of operators that each write at least one path
    obtain ⟨draft, -, hsome, -, hchanges⟩ := update_eq_ok hchange
    refine ⟨hchanges ▸ hsome, fun entry hentry => ?_⟩
    obtain ⟨hoperator, fields, hfields, hne, hwrites⟩ := writes_of_update hchange entry hentry
    refine ⟨hoperator, fields, hfields, hne, fun path hpath => ?_⟩
    obtain ⟨v, hv⟩ := Document.exists_of_mem_keys hpath
    exact (hwrites _ hv).reaches rfl hs

/-- The theorem at a schema whose names are left out of account: no name changes the filter of the
other key, and an increment stays inside the mapping. -/
theorem lowering_is_confined_excluding_names :
    ∃ (schema : Schema) (filter : Document) (change : ScopedUpdate),
      SchemaDraft.build
        { collection := "t"
          fields := [{ name := "name", type := .string }, { name := "a", type := .mapping }]
          excluded := ["name"] } = .ok schema ∧
      filter = [("a.x", .document [("$gte", .int32 1)])] ∧
      (∀ v, Lowering.filter { schema? := some schema } [("name", v), ("a__x__gte", .int32 1)] =
        .ok filter) ∧
      (∃ field, schema.Reaches "a.x" field ∧ field.queryable = true) ∧
      Lowering.update { schema? := some schema } [("a__y__inc", .int32 1)] = .ok change ∧
      change.update = [("$inc", .document [("a.y", .int32 1)])] ∧
      ∃ field, schema.Reaches "a.y" field := by
  let schema : Schema := ⟨⟨"t"⟩,
    [{ name := "name", type := .string, queryable := false }, { name := "a", type := .mapping }]⟩
  have hbuild : SchemaDraft.build
      { collection := "t"
        fields := [{ name := "name", type := .string }, { name := "a", type := .mapping }]
        excluded := ["name"] } = .ok schema := rfl
  have hfilter : Lowering.filter { schema? := some schema }
      [("name", .string "b"), ("a__x__gte", .int32 1)] =
      .ok [("a.x", .document [("$gte", .int32 1)])] := rfl
  have hupdate : Lowering.update { schema? := some schema } [("a__y__inc", .int32 1)] =
      .ok { filter := [], update := [("$inc", .document [("a.y", .int32 1)])] } := rfl
  obtain ⟨hpaths, hvalues⟩ := (lowering_is_confined hbuild .reject _).1 _ hfilter
  obtain ⟨-, hwrites⟩ := (lowering_is_confined hbuild .reject _).2 _ hupdate
  obtain ⟨-, fields, hfields, -, hinside⟩ := hwrites _ List.mem_cons_self
  cases hfields
  refine ⟨schema, _, _, hbuild, rfl, ?_, (hpaths _ List.mem_cons_self).2, hupdate, rfl,
    hinside _ List.mem_cons_self⟩
  exact hvalues "name" List.mem_cons_self _ _ rfl rfl rfl

end Lowering

end DocMapper
