import DocMapper.Proofs.Document
import DocMapper.Proofs.Names

namespace DocMapper

/-! # Schemas that were built

A schema that comes out of a draft has legal and distinct field names, none of them the
identifier's. This is all that later proofs use of how a schema was made.
-/

namespace Schema

/-- The fields of a schema have legal and distinct names, and leave the identifier alone. -/
structure WellFormed (s : Schema) : Prop where
  legal : ∀ f ∈ s.fields, LegalName f.name
  noId : Document.idKey ∉ s.fieldNames
  distinct : s.fieldNames.Nodup

end Schema

namespace SchemaDraft

variable {collection : CollectionName} {fields fields' : List Field}

/-- What declaring a field takes, and what it does. -/
theorem declare_eq_ok {field : Field} (h : declare collection fields field = .ok fields') :
    LegalName field.name ∧ field.name ≠ Document.idKey ∧
      (∀ f ∈ fields, f.name ≠ field.name) ∧
      (∀ v, field.default? = some v → field.type.check field.name v = .ok ()) ∧
      fields' = fields ++ [field] := by
  -- the checks in their order: of the name, of its being no identifier and new, of the default
  simp only [declare, bind_eq_ok] at h
  rcases h with ⟨⟨⟩, hname, h⟩
  split at h
  · cases h
  rename_i hid
  split at h
  · cases h
  rename_i hnew
  have hnew' : ∀ f ∈ fields, f.name ≠ field.name := by
    intro f hf he
    exact hnew (List.any_eq_true.mpr ⟨f, hf, by simpa using he⟩)
  refine ⟨LegalName.of_checkName hname, hid, hnew', ?_⟩
  split at h
  · rename_i v hv
    rcases check_bind_eq_ok.mp h with ⟨hcheck, h⟩
    refine ⟨?_, (pure_eq_ok.mp h).symm⟩
    intro w hw
    rw [hv, Option.some.injEq] at hw
    exact hw ▸ hcheck
  · rename_i hnone
    refine ⟨?_, (pure_eq_ok.mp h).symm⟩
    intro w hw
    rw [hnone] at hw
    cases hw

/-- Excluding a field from filters changes no more than that. -/
theorem exclude_eq_ok {name : String} (h : exclude collection fields name = .ok fields') :
    fields' = fields.map fun f => if f.name = name then { f with queryable := false } else f := by
  rw [exclude] at h
  split at h
  · exact (Except.ok.inj h).symm
  · cases h

/-- Fields are declared one by one, and then some are excluded. What both preserve holds of the
fields of a schema that was built. -/
theorem build_induction {draft : SchemaDraft} {schema : Schema} (P : List Field → Prop)
    (hnil : P [])
    (hdeclare : ∀ fields field fields', P fields →
      declare schema.collection fields field = .ok fields' → P fields')
    (hexclude : ∀ fields name fields', P fields →
      exclude schema.collection fields name = .ok fields' → P fields')
    (h : draft.build = .ok schema) : P schema.fields := by
  simp only [build, bind_eq_ok] at h
  rcases h with ⟨collection, -, fields, hfields, fields', hfields', h⟩
  rw [pure_eq_ok] at h
  subst h
  have hdeclared : P fields := by
    apply foldlM_induction P ?_ hnil hfields
    intro field _ fs fs' hfs hok
    exact hdeclare fs field fs' hfs hok
  apply foldlM_induction P ?_ hdeclared hfields'
  intro name _ fs fs' hfs hok
  exact hexclude fs name fs' hfs hok

theorem declare_wellFormed {field : Field} (h : declare collection fields field = .ok fields')
    (hwf : Schema.WellFormed ⟨collection, fields⟩) : Schema.WellFormed ⟨collection, fields'⟩ := by
  rcases declare_eq_ok h with ⟨hlegal, hid, hnew, -, rfl⟩
  refine ⟨?_, ?_, ?_⟩
  · intro f hf
    rcases List.mem_append.mp hf with hf | hf
    · exact hwf.legal f hf
    · rw [List.mem_singleton.mp hf]
      exact hlegal
  · intro hmem
    rw [Schema.fieldNames, List.map_append, List.mem_append] at hmem
    rcases hmem with hmem | hmem
    · exact hwf.noId hmem
    · exact hid (List.mem_singleton.mp hmem).symm
  · rw [Schema.fieldNames, List.map_append, List.nodup_append]
    refine ⟨hwf.distinct, List.nodup_singleton _, ?_⟩
    intro a ha b hb hab
    rcases List.mem_map.mp ha with ⟨f, hf, rfl⟩
    exact hnew f hf (hab.trans (List.mem_singleton.mp hb))

/-- Excluding a field from filters leaves its name alone. -/
theorem exclude_wellFormed {name : String} (h : exclude collection fields name = .ok fields')
    (hwf : Schema.WellFormed ⟨collection, fields⟩) : Schema.WellFormed ⟨collection, fields'⟩ := by
  have hkeeps : ∀ f : Field,
      (if f.name = name then { f with queryable := false } else f).name = f.name := by
    intro f
    split <;> rfl
  have hnames : fields'.map (·.name) = fields.map (·.name) := by
    rw [exclude_eq_ok h, List.map_map]
    exact List.map_congr_left fun f _ => hkeeps f
  refine ⟨?_, ?_, ?_⟩
  · intro f hf
    rw [exclude_eq_ok h] at hf
    rcases List.mem_map.mp hf with ⟨g, hg, rfl⟩
    rw [hkeeps]
    exact hwf.legal g hg
  · rw [Schema.fieldNames, hnames]
    exact hwf.noId
  · rw [Schema.fieldNames, hnames]
    exact hwf.distinct

theorem build_wellFormed {draft : SchemaDraft} {schema : Schema} (h : draft.build = .ok schema) :
    schema.WellFormed := by
  apply build_induction (fun fields => Schema.WellFormed ⟨schema.collection, fields⟩) ?_ ?_ ?_ h
  · exact ⟨fun _ hf => absurd hf List.not_mem_nil, List.not_mem_nil, List.nodup_nil⟩
  · intro fields field fields' hfields hok
    exact declare_wellFormed hok hfields
  · intro fields name fields' hfields hok
    exact exclude_wellFormed hok hfields

/-- A draft of one field without a default builds when its two names are legal. -/
theorem build_one_field {name : String} {field : Field}
    (hcollection : CollectionName.ofString name = .ok collection)
    (hname : Field.checkName field.name = .ok ()) (hid : field.name ≠ Document.idKey)
    (hdefault : field.default? = none) :
    build { collection := name, fields := [field] } = .ok { collection, fields := [field] } := by
  have hdeclare : declare collection [] field = .ok [field] := by
    simp only [declare, hname, ok_bind, if_neg hid, hdefault]
    rfl
  simp only [build, hcollection, ok_bind, List.foldlM_cons, hdeclare, List.foldlM_nil]
  rfl

end SchemaDraft

namespace Schema

variable {s : Schema}

theorem field?_eq_some {name : String} {f : Field} (h : s.field? name = some f) :
    f.name = name ∧ (f = .id ∨ f ∈ s.fields) := by
  rw [field?] at h
  split at h
  · rename_i hid
    cases h
    exact ⟨hid.symm, Or.inl rfl⟩
  · exact ⟨by simpa using List.find?_some h, Or.inr (List.mem_of_find?_eq_some h)⟩

/-- Every field that a schema knows, the identifier included, has a legal name. -/
theorem WellFormed.legal_of_field? (hs : s.WellFormed) {name : String} {f : Field}
    (h : s.field? name = some f) : LegalName f.name := by
  rcases (field?_eq_some h).2 with rfl | hf
  · exact LegalName.id
  · exact hs.legal f hf

theorem WellFormed.name_ne_id (hs : s.WellFormed) {f : Field} (hf : f ∈ s.fields) :
    f.name ≠ Document.idKey :=
  fun he => hs.noId (he ▸ List.mem_map_of_mem hf)

/-- A declared field is known by its name. -/
theorem WellFormed.eq_of_name_eq (hs : s.WellFormed) {f g : Field} (hf : f ∈ s.fields)
    (hg : g ∈ s.fields) (h : f.name = g.name) : f = g :=
  List.inj_on_of_nodup_map hs.distinct hf hg h

theorem WellFormed.field?_of_mem (hs : s.WellFormed) {f : Field} (hf : f ∈ s.fields) :
    s.field? f.name = some f := by
  rw [field?, if_neg (hs.name_ne_id hf)]
  cases hfind : s.fields.find? (·.name = f.name) with
  | none => exact absurd (List.find?_eq_none.mp hfind f hf) (by simp)
  | some g =>
    have hname : g.name = f.name := by simpa using List.find?_some hfind
    rw [hs.eq_of_name_eq (List.mem_of_find?_eq_some hfind) hf hname]

theorem declared_eq_ok {name : String} {f : Field} :
    s.declared name = .ok f ↔ s.field? name = some f := by
  rw [declared]
  split
  · rename_i g hg
    rw [hg, Except.ok.injEq, Option.some.injEq]
  · rename_i hnone
    simp [hnone]

end Schema

end DocMapper
