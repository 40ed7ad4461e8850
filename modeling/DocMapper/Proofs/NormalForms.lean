import DocMapper.Proofs.Conformance
import DocMapper.Proofs.Typing

namespace DocMapper

/-! # Normal forms

Every write brings its documents into normal form first. A document has one exactly when it can be
completed: its keys are known, its values have the types of their fields, and what is absent has a
default or may be null. The normal form is the completion. There is only one, since its keys and its
values are fixed, so it is its own normal form and does not depend on the order of the keys.
-/

namespace Document

/-- A document is known by its keys in order and their values, when every key occurs once. -/
theorem eq_of_keys_of_get? {d e : Document} (hkeys : keys d = keys e) (hd : (keys d).Nodup)
    (h : ∀ key ∈ keys d, get? d key = get? e key) : d = e := by
  induction d generalizing e with
  | nil => exact (List.map_eq_nil_iff.mp hkeys.symm).symm
  | cons entry rest ih =>
    rcases entry with ⟨k, v⟩
    cases e with
    | nil => cases hkeys
    | cons entry' rest' =>
      rcases entry' with ⟨k', v'⟩
      rw [keys_cons, keys_cons, List.cons.injEq] at hkeys
      rcases hkeys with ⟨rfl, hrest⟩
      rw [keys_cons, List.nodup_cons] at hd
      have hv : v = v' := by
        simpa using h k List.mem_cons_self
      have htail : rest = rest' := by
        apply ih hrest hd.2
        intro key hkey
        -- keys are distinct, so the other values are those of the rest
        have hne : k ≠ key := by
          rintro rfl
          exact hd.1 hkey
        have hget := h key (List.mem_cons_of_mem _ hkey)
        rwa [get?_cons_of_ne hne, get?_cons_of_ne hne] at hget
      rw [hv, htail]

/-- The order of the keys does not matter to reading, when every key occurs once. -/
theorem get?_perm {d e : Document} (hd : (keys d).Nodup) (h : e.Perm d) (key : String) :
    get? e key = get? d key := by
  have he : (keys e).Nodup := (h.map Prod.fst).nodup_iff.mpr hd
  apply Option.ext
  intro v
  rw [get?_eq_some_iff he, get?_eq_some_iff hd]
  exact h.mem_iff

theorem mem_keys_of_get?_eq_some {d : Document} {key : String} {v : Value}
    (h : get? d key = some v) : key ∈ keys d :=
  mem_keys_of_mem (mem_of_get?_eq_some h)

/-- The key of the entry of the identifier, if there is one. -/
theorem keys_idEntry (d : Document) :
    keys (idEntry d) = if hasKey d idKey then [idKey] else [] := by
  cases hid : id? d with
  | none =>
    have hnot : ¬ hasKey d idKey = true := by
      rw [hasKey_iff]
      exact get?_eq_none_iff.mp hid
    rw [idEntry, hid, if_neg hnot]
    rfl
  | some id =>
    have hhas : hasKey d idKey = true := hasKey_iff.mpr (mem_keys_of_get?_eq_some hid)
    rw [idEntry, hid, if_pos hhas]
    rfl

end Document

/-! ## Defaults -/

/-- The default of a field, if it has one, has the type of the field. -/
def Field.DefaultTyped (f : Field) : Prop := ∀ v, f.default? = some v → v.HasType f.type

namespace SchemaDraft

variable {collection : CollectionName} {fields fields' : List Field}

theorem declare_defaultTyped {field : Field} (h : declare collection fields field = .ok fields')
    (hfields : ∀ f ∈ fields, f.DefaultTyped) : ∀ f ∈ fields', f.DefaultTyped := by
  rcases declare_eq_ok h with ⟨-, -, -, hdefault, rfl⟩
  intro f hf
  rcases List.mem_append.mp hf with hf | hf
  · exact hfields f hf
  · rw [List.mem_singleton.mp hf]
    intro v hv
    exact FieldType.check_eq_ok.mp (hdefault v hv)

/-- Excluding a field from filters leaves its type and its default alone. -/
theorem exclude_defaultTyped {name : String} (h : exclude collection fields name = .ok fields')
    (hfields : ∀ f ∈ fields, f.DefaultTyped) : ∀ f ∈ fields', f.DefaultTyped := by
  rw [exclude_eq_ok h]
  intro f hf
  rcases List.mem_map.mp hf with ⟨g, hg, rfl⟩
  split
  · exact hfields g hg
  · exact hfields g hg

/-- The defaults of a schema that was built have the types of their fields. -/
theorem build_defaultTyped {draft : SchemaDraft} {schema : Schema}
    (h : draft.build = .ok schema) : ∀ f ∈ schema.fields, f.DefaultTyped := by
  apply build_induction (fun fields => ∀ f ∈ fields, f.DefaultTyped) ?_ ?_ ?_ h
  · intro f hf
    exact absurd hf List.not_mem_nil
  · intro fields field fields' hfields hok
    exact declare_defaultTyped hok hfields
  · intro fields name fields' hfields hok
    exact exclude_defaultTyped hok hfields

end SchemaDraft

namespace Field

variable {f : Field} {v : Value}

/-- Something stands for a field that is absent when the field has a default or may be null. -/
theorem absent?_eq_some (h : f.default?.isSome ∨ f.type.isNullable = true) :
    f.absent? = some (f.default?.getD .null) := by
  cases hdefault : f.default? with
  | some w => simp [absent?, hdefault]
  | none =>
    rw [hdefault] at h
    simp [absent?, hdefault, h.resolve_left (by simp)]

theorem supplied_of_absent? (h : f.absent? = some v) :
    f.default?.isSome ∨ f.type.isNullable = true := by
  unfold absent? at h
  split at h
  · rename_i w hw
    exact Or.inl (by rw [hw]; rfl)
  · split at h
    · exact Or.inr (by assumption)
    · cases h

/-- Null has every type that it belongs to on its own account. -/
theorem hasType_null_of_isNullable {type : FieldType} (h : type.isNullable = true) :
    Value.null.HasType type := by
  cases type with
  | optional inner => exact .null inner
  | any => exact .any .null
  | _ => cases h

/-- What stands for an absent field has the type of the field. -/
theorem hasType_of_absent? (hf : f.DefaultTyped) (h : f.absent? = some v) : v.HasType f.type := by
  unfold absent? at h
  split at h
  · rename_i w hw
    exact hf v (hw.trans h)
  · split at h
    · rename_i hnullable
      cases h
      exact hasType_null_of_isNullable hnullable
    · cases h

end Field

/-! ## Completing documents -/

namespace Schema

variable {s : Schema} {d d' e : Document}

/-- The document can be completed: its keys are declared or the identifier's, the values that are
there have the types of their fields, and every field that is absent has a default or may be
null. -/
structure Completable (s : Schema) (d : Document) : Prop where
  known : ∀ key ∈ Document.keys d, key = Document.idKey ∨ key ∈ s.fieldNames
  typed : ∀ f ∈ s.fields, ∀ v, Document.get? d f.name = some v → v.HasType f.type
  supplied : ∀ f ∈ s.fields, f.name ∉ Document.keys d →
    f.default?.isSome ∨ f.type.isNullable = true

/-- The second document is the first one completed: the identifier first, if there is one, and then
every declared field in order, with its value, or else its default or null. -/
structure Completes (s : Schema) (d d' : Document) : Prop where
  keys : Document.keys d' =
    (if Document.hasKey d Document.idKey then [Document.idKey] else []) ++ s.fieldNames
  id : Document.id? d' = Document.id? d
  present : ∀ f ∈ s.fields, ∀ v, Document.get? d f.name = some v →
    Document.get? d' f.name = some v
  absent : ∀ f ∈ s.fields, f.name ∉ Document.keys d →
    Document.get? d' f.name = some (f.default?.getD .null)

namespace Completes

/-- In a completed document every key occurs once. -/
theorem nodup_keys (hs : s.WellFormed) (h : s.Completes d d') : (Document.keys d').Nodup := by
  rw [h.keys]
  split
  · exact List.nodup_cons.mpr ⟨hs.noId, hs.distinct⟩
  · exact hs.distinct

theorem mem_keys_of_field (h : s.Completes d d') {f : Field} (hf : f ∈ s.fields) :
    f.name ∈ Document.keys d' := by
  rw [h.keys]
  exact List.mem_append_right _ (List.mem_map_of_mem hf)

theorem mem_keys (h : s.Completes d d') {key : String} (hkey : key ∈ Document.keys d') :
    key = Document.idKey ∨ key ∈ s.fieldNames := by
  rw [h.keys, List.mem_append] at hkey
  rcases hkey with hkey | hkey
  · split at hkey
    · exact Or.inl (List.mem_singleton.mp hkey)
    · cases hkey
  · exact Or.inr hkey

/-- There is one way to complete a document. -/
theorem unique (hs : s.WellFormed) (h : s.Completes d d') (h' : s.Completes d e) : d' = e := by
  apply Document.eq_of_keys_of_get? (h.keys.trans h'.keys.symm) (h.nodup_keys hs)
  intro key hkey
  rcases h.mem_keys hkey with rfl | hname
  · exact h.id.trans h'.id.symm
  · rcases List.mem_map.mp hname with ⟨f, hf, rfl⟩
    cases hv : Document.get? d f.name with
    | some v => rw [h.present f hf v hv, h'.present f hf v hv]
    | none =>
      have hnot := Document.get?_eq_none_iff.mp hv
      rw [h.absent f hf hnot, h'.absent f hf hnot]

/-- A completed document has nothing left to complete. -/
theorem self (h : s.Completes d d') : s.Completes d' d' where
  keys := by
    have hsame : Document.hasKey d' Document.idKey = Document.hasKey d Document.idKey := by
      apply Bool.eq_iff_iff.mpr
      rw [Document.hasKey_iff, Document.hasKey_iff, ← not_iff_not,
        ← Document.get?_eq_none_iff, ← Document.get?_eq_none_iff]
      exact iff_of_eq (congrArg (· = none) h.id)
    rw [hsame, ← h.keys]
  id := rfl
  present := fun _ _ _ hv => hv
  absent := by
    intro f hf hnot
    exact absurd (h.mem_keys_of_field hf) hnot

end Completes

/-- A document can be completed when every field of it can be. -/
theorem completable_iff (hdefaults : ∀ f ∈ s.fields, f.DefaultTyped) :
    s.Completable d ↔
      (∀ key ∈ Document.keys d, key = Document.idKey ∨ key ∈ s.fieldNames) ∧
        ∀ f ∈ s.fields, ∃ entry, f.complete d = .ok entry := by
  constructor
  · intro h
    refine ⟨h.known, ?_⟩
    intro f hf
    -- a field that is given is checked, and one that is not is filled in
    cases hv : Document.get? d f.name with
    | some v =>
      exact ⟨_, Field.complete_of_get? hv (FieldType.admits_of_hasType (h.typed f hf v hv))⟩
    | none =>
      have habsent := Field.absent?_eq_some (h.supplied f hf (Document.get?_eq_none_iff.mp hv))
      have htype := Field.hasType_of_absent? (hdefaults f hf) habsent
      refine ⟨(f.name, _), Field.complete_eq_ok.mpr
        ⟨rfl, ?_, FieldType.admits_of_hasType htype⟩⟩
      rw [hv, Option.none_or]
      exact habsent
  · rintro ⟨hknown, hcomplete⟩
    refine ⟨hknown, ?_, ?_⟩
    · -- what can be completed has the type of its field, whether given or filled in
      intro f hf v hv
      rcases hcomplete f hf with ⟨entry, hentry⟩
      rcases Field.complete_eq_ok.mp hentry with ⟨-, hvalue, hadmits⟩
      rw [hv, Option.some_or, Option.some.injEq] at hvalue
      exact hvalue ▸ FieldType.hasType_of_admits hadmits
    · intro f hf hnot
      rcases hcomplete f hf with ⟨entry, hentry⟩
      rcases Field.complete_eq_ok.mp hentry with ⟨-, hvalue, -⟩
      rw [Document.get?_eq_none_iff.mpr hnot, Option.none_or] at hvalue
      exact Field.supplied_of_absent? hvalue

/-- Normalizing succeeds exactly on what can be completed. -/
theorem exists_normalize_iff (hs : s.WellFormed) (hdefaults : ∀ f ∈ s.fields, f.DefaultTyped) :
    (∃ d', s.normalize d = .ok d') ↔ s.Completable d := by
  rw [completable_iff hdefaults, ← exists_mapM_eq_ok_iff]
  constructor
  · rintro ⟨d', h⟩
    rcases exists_of_normalize h with ⟨entries, hentries, -, -⟩
    exact ⟨fun key => mem_keys_of_normalize h, entries, hentries⟩
  · rintro ⟨hknown, entries, hentries⟩
    refine ⟨Document.idEntry d ++ entries, ?_⟩
    simp only [normalize, checkDeclared_of_known hs hknown, ok_bind, hentries]
    rfl

/-- What normalizing gives is the document completed. -/
theorem completes_of_normalize (hs : s.WellFormed) (hdefaults : ∀ f ∈ s.fields, f.DefaultTyped)
    (h : s.normalize d = .ok d') : s.Completes d d' := by
  have hd := (exists_normalize_iff hs hdefaults).mp ⟨d', h⟩
  constructor
  · rcases exists_of_normalize h with ⟨entries, -, rfl, hkeys⟩
    rw [Document.keys, List.map_append]
    exact congrArg₂ (· ++ ·) (Document.keys_idEntry d) hkeys
  · exact id?_of_normalize hs h
  · intro f _ v hv
    exact get?_of_normalize_of_some hs h hv
  · intro f hf hnot
    rw [get?_of_normalize hs h hf, Document.get?_eq_none_iff.mpr hnot, Option.none_or]
    exact Field.absent?_eq_some (hd.supplied f hf hnot)

/-- A document is the normal form of another exactly when that can be completed, and it is the
completion. -/
theorem normalize_eq_ok (hs : s.WellFormed) (hdefaults : ∀ f ∈ s.fields, f.DefaultTyped) :
    s.normalize d = .ok d' ↔ s.Completable d ∧ s.Completes d d' := by
  constructor
  · intro h
    exact ⟨(exists_normalize_iff hs hdefaults).mp ⟨d', h⟩, completes_of_normalize hs hdefaults h⟩
  · rintro ⟨hd, hd'⟩
    rcases (exists_normalize_iff hs hdefaults).mpr hd with ⟨e, he⟩
    rw [he, (completes_of_normalize hs hdefaults he).unique hs hd']

/-- A completed document can be completed. -/
theorem Completes.completable (hdefaults : ∀ f ∈ s.fields, f.DefaultTyped) (hd : s.Completable d)
    (h : s.Completes d d') : s.Completable d' where
  known := fun _ hkey => h.mem_keys hkey
  typed := by
    intro f hf v hv
    cases hown : Document.get? d f.name with
    | some w =>
      rw [h.present f hf w hown, Option.some.injEq] at hv
      exact hv ▸ hd.typed f hf w hown
    | none =>
      have hnot := Document.get?_eq_none_iff.mp hown
      have habsent := Field.absent?_eq_some (hd.supplied f hf hnot)
      rw [h.absent f hf hnot] at hv
      exact Field.hasType_of_absent? (hdefaults f hf) (habsent.trans hv)
  supplied := by
    intro f hf hnot
    exact absurd (h.mem_keys_of_field hf) hnot

/-- A normal form is its own normal form. -/
theorem normalize_of_normalize (hs : s.WellFormed) (hdefaults : ∀ f ∈ s.fields, f.DefaultTyped)
    (h : s.normalize d = .ok d') : s.normalize d' = .ok d' := by
  rcases (normalize_eq_ok hs hdefaults).mp h with ⟨hcompletable, hcompletes⟩
  apply (normalize_eq_ok hs hdefaults).mpr
  exact ⟨hcompletes.completable hdefaults hcompletable, hcompletes.self⟩

/-! ## The order of the keys -/

theorem Completable.perm (hd : (Document.keys d).Nodup) (hperm : e.Perm d) (h : s.Completable d) :
    s.Completable e where
  known := by
    intro key hkey
    exact h.known key ((hperm.map Prod.fst).mem_iff.mp hkey)
  typed := by
    intro f hf v hv
    exact h.typed f hf v (Document.get?_perm hd hperm f.name ▸ hv)
  supplied := by
    intro f hf hnot
    exact h.supplied f hf fun hkey => hnot ((hperm.map Prod.fst).mem_iff.mpr hkey)

theorem Completes.perm (hd : (Document.keys d).Nodup) (hperm : e.Perm d) (h : s.Completes d d') :
    s.Completes e d' where
  keys := by
    have hsame : Document.hasKey e Document.idKey = Document.hasKey d Document.idKey := by
      apply Bool.eq_iff_iff.mpr
      rw [Document.hasKey_iff, Document.hasKey_iff]
      exact (hperm.map Prod.fst).mem_iff
    rw [hsame, h.keys]
  id := h.id.trans (Document.get?_perm hd hperm Document.idKey).symm
  present := by
    intro f hf v hv
    exact h.present f hf v (Document.get?_perm hd hperm f.name ▸ hv)
  absent := by
    intro f hf hnot
    exact h.absent f hf fun hkey => hnot ((hperm.map Prod.fst).mem_iff.mpr hkey)

theorem normalize_perm (hs : s.WellFormed) (hdefaults : ∀ f ∈ s.fields, f.DefaultTyped)
    (hd : (Document.keys d).Nodup) (hperm : e.Perm d) :
    s.normalize e = .ok d' ↔ s.normalize d = .ok d' := by
  have he : (Document.keys e).Nodup := (hperm.map Prod.fst).nodup_iff.mpr hd
  rw [normalize_eq_ok hs hdefaults, normalize_eq_ok hs hdefaults]
  constructor
  · rintro ⟨hcompletable, hcompletes⟩
    exact ⟨hcompletable.perm he hperm.symm, hcompletes.perm he hperm.symm⟩
  · rintro ⟨hcompletable, hcompletes⟩
    exact ⟨hcompletable.perm hd hperm, hcompletes.perm hd hperm⟩

/-- A schema that was built normalizes exactly the documents that can be completed. The normal form
is the completion, with every key once; it is its own normal form, and the order in which the
document has its keys is no matter. -/
theorem normalize_computes_completion {draft : SchemaDraft} (hbuild : draft.build = .ok s)
    (d : Document) :
    ((∃ d', s.normalize d = .ok d') ↔ s.Completable d) ∧
    (∀ d', s.normalize d = .ok d' →
      s.Completes d d' ∧ (Document.keys d').Nodup ∧ s.normalize d' = .ok d') ∧
    ((Document.keys d).Nodup → ∀ e, e.Perm d → ∀ d',
      s.normalize e = .ok d' ↔ s.normalize d = .ok d') := by
  have hs := SchemaDraft.build_wellFormed hbuild
  have hdefaults := SchemaDraft.build_defaultTyped hbuild
  refine ⟨exists_normalize_iff hs hdefaults, ?_, ?_⟩
  · intro d' h
    have hcompletes := completes_of_normalize hs hdefaults h
    exact ⟨hcompletes, hcompletes.nodup_keys hs, normalize_of_normalize hs hdefaults h⟩
  · intro hd e hperm d'
    exact normalize_perm hs hdefaults hd hperm

/-- Tickets have a name, tags that are none unless they are given, and a note or none. -/
def tickets : Schema :=
  ⟨⟨"ticket"⟩, [{ name := "name", type := .string },
    { name := "tags", type := .array (.optional .string), default? := some (.array []) },
    { name := "note", type := .optional .string }]⟩

/-- The theorem at a ticket with its keys out of order and without a note. -/
theorem normalize_computes_completion_of_ticket :
    SchemaDraft.build { collection := "ticket", fields := tickets.fields } = .ok tickets ∧
    (Document.keys [("tags", .array [.string "a", .null]), ("_id", .int32 7),
      ("name", .string "first")]).Nodup ∧
    tickets.Completable [("tags", .array [.string "a", .null]), ("_id", .int32 7),
      ("name", .string "first")] ∧
    tickets.normalize [("_id", .int32 7), ("name", .string "first"),
      ("tags", .array [.string "a", .null]), ("note", .null)] =
      .ok [("_id", .int32 7), ("name", .string "first"), ("tags", .array [.string "a", .null]),
        ("note", .null)] ∧
    tickets.normalize [("name", .string "first"), ("tags", .array [.string "a", .null]),
      ("_id", .int32 7)] =
      .ok [("_id", .int32 7), ("name", .string "first"), ("tags", .array [.string "a", .null]),
        ("note", .null)] := by
  have hbuild : SchemaDraft.build { collection := "ticket", fields := tickets.fields } =
      .ok tickets := rfl
  have hnodup : (Document.keys [("tags", .array [.string "a", .null]), ("_id", .int32 7),
      ("name", .string "first")]).Nodup := by decide
  have hnormal : tickets.normalize [("tags", .array [.string "a", .null]), ("_id", .int32 7),
      ("name", .string "first")] =
      .ok [("_id", .int32 7), ("name", .string "first"), ("tags", .array [.string "a", .null]),
        ("note", .null)] := rfl
  rcases normalize_computes_completion hbuild _ with ⟨haccepts, hcompletes, horder⟩
  exact ⟨hbuild, hnodup, haccepts.mp ⟨_, hnormal⟩, (hcompletes _ hnormal).2.2,
    (horder hnodup _ (@List.perm_append_comm _ [("name", _)] _) _).mpr hnormal⟩

end Schema

end DocMapper
