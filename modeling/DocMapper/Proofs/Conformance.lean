import DocMapper.Proofs.Schemas
import DocMapper.Proofs.Types
import DocMapper.Proofs.Updates

namespace DocMapper

/-! # Documents that conform to a schema

Normal form is the identifier and then every declared field in order, each value of its type. What
is inserted or put in place of a document has the fields already, and gets its identifier from the
store; an update that the schema permits changes values within their types.
-/

/-- A document has a value for the field, and it is of the field's type. -/
def Field.TypedIn (f : Field) (d : Document) : Prop :=
  ∃ v, Document.get? d f.name = some v ∧ f.type.Admits v

namespace Field

variable {f : Field} {d : Document} {v : Value}

/-- A field is complete when it has a value, its own or one that stands for it, of its type. -/
theorem complete_eq_ok {entry : String × Value} :
    f.complete d = .ok entry ↔
      entry.1 = f.name ∧ (Document.get? d f.name).or f.absent? = some entry.2 ∧
        f.type.Admits entry.2 := by
  rcases entry with ⟨name, w⟩
  unfold complete
  split
  · rename_i hnone
    simp [hnone]
  · rename_i w' hw'
    rw [check_bind_eq_ok, pure_eq_ok, hw', Option.some.injEq, Prod.mk.injEq]
    constructor
    · rintro ⟨hcheck, rfl, rfl⟩
      exact ⟨rfl, rfl, FieldType.admits_of_check hcheck⟩
    · rintro ⟨hname, rfl, hadmits⟩
      exact ⟨hadmits f.name, hname.symm, rfl⟩

/-- A field with a value of its type is complete. -/
theorem complete_of_get? (h : Document.get? d f.name = some v) (hv : f.type.Admits v) :
    f.complete d = .ok (f.name, v) := by
  apply complete_eq_ok.mpr
  exact ⟨rfl, by rw [h, Option.some_or], hv⟩

end Field

namespace Schema

variable {s : Schema} {d d' : Document}

/-- Apart from its identifier, a document has the declared fields in order and nothing else, each
with a value of its type. -/
structure Describes (s : Schema) (d : Document) : Prop where
  names : Document.keys (Document.erase d Document.idKey) = s.fieldNames
  values : ∀ f ∈ s.fields, ∀ v, Document.get? d f.name = some v → f.type.Admits v

/-- A document has its identifier first and then the declared fields in order, each with a value
of its type. -/
structure Conforms (s : Schema) (d : Document) : Prop where
  keys : Document.keys d = Document.idKey :: s.fieldNames
  values : ∀ f ∈ s.fields, ∀ v, Document.get? d f.name = some v → f.type.Admits v

/-! ## Instances in normal form -/

/-- The keys that a schema allows are the identifier's and those of its fields. -/
theorem known_of_field? {name : String} {f : Field} (h : s.field? name = some f) :
    name = Document.idKey ∨ name ∈ s.fieldNames := by
  obtain ⟨hname, rfl | hmem⟩ := field?_eq_some h
  · exact Or.inl hname.symm
  · exact Or.inr (hname ▸ List.mem_map_of_mem hmem)

theorem known_of_checkDeclared {names : List String} (h : s.checkDeclared names = .ok ())
    {name : String} (hname : name ∈ names) : name = Document.idKey ∨ name ∈ s.fieldNames := by
  obtain ⟨f, hf, -⟩ := bind_eq_ok.mp (forM_eq_ok.mp h name hname)
  exact known_of_field? (declared_eq_ok.mp hf)

theorem checkDeclared_of_known (hs : s.WellFormed) {names : List String}
    (h : ∀ name ∈ names, name = Document.idKey ∨ name ∈ s.fieldNames) :
    s.checkDeclared names = .ok () := by
  refine forM_eq_ok.mpr fun name hname => ?_
  obtain ⟨f, hf⟩ : ∃ f, s.declared name = .ok f := by
    rcases h name hname with rfl | hname
    · exact ⟨.id, declared_eq_ok.mpr (by simp [field?])⟩
    · obtain ⟨f, hf, rfl⟩ := List.mem_map.mp hname
      exact ⟨f, declared_eq_ok.mpr (hs.field?_of_mem hf)⟩
  rw [hf]
  rfl

theorem keys_of_complete {fields : List Field} {entries : Document}
    (h : List.Forall₂ (fun f entry => Field.complete f d = .ok entry) fields entries) :
    Document.keys entries = fields.map (·.name) := by
  induction h with
  | nil => rfl
  | @cons f entry fields entries hf _ ih =>
    obtain ⟨k, v⟩ := entry
    rw [Document.keys_cons, List.map_cons, ih, ← (Field.complete_eq_ok.mp hf).1]

/-- The entry of the identifier is one entry or none. -/
theorem idEntry_cases (d : Document) :
    Document.idEntry d = [] ∨ ∃ id, Document.idEntry d = [(Document.idKey, id)] := by
  unfold Document.idEntry
  split
  · exact Or.inr ⟨_, rfl⟩
  · exact Or.inl rfl

/-- The entry of the identifier and described fields without it are described. -/
theorem describes_idEntry_append (hs : s.WellFormed) (hd : s.Describes d') (d : Document) :
    s.Describes (Document.idEntry d ++ d') := by
  rcases idEntry_cases d with hnone | ⟨id, hsome⟩
  · rw [hnone]
    exact hd
  · rw [hsome, List.singleton_append]
    constructor
    · rw [Document.erase_cons, if_pos rfl, hd.names]
    · intro f hf v hv
      rw [Document.get?_cons_of_ne (hs.name_ne_id hf).symm] at hv
      exact hd.values f hf v hv

/-- Normalizing puts the entry of the identifier before the completed fields. -/
theorem exists_of_normalize (h : s.normalize d = .ok d') :
    ∃ fields, s.fields.mapM (·.complete d) = .ok fields ∧
      d' = Document.idEntry d ++ fields ∧ Document.keys fields = s.fieldNames := by
  obtain ⟨⟨⟩, -, h⟩ := bind_eq_ok.mp h
  obtain ⟨fields, hfields, h⟩ := bind_eq_ok.mp h
  exact ⟨fields, hfields, (pure_eq_ok.mp h).symm,
    keys_of_complete (forall₂_of_mapM_eq_ok hfields)⟩

/-- Normalizing gives a document that the schema describes. -/
theorem describes_of_normalize (hs : s.WellFormed) (h : s.normalize d = .ok d') :
    s.Describes d' := by
  obtain ⟨fields, hfields, rfl, hkeys⟩ := exists_of_normalize h
  refine describes_idEntry_append hs ⟨?_, ?_⟩ d
  · rw [Document.erase_of_not_mem (hkeys ▸ hs.noId), hkeys]
  · intro f hf v hv
    obtain ⟨g, hg, hcomplete⟩ := exists_of_mem_mapM hfields (Document.mem_of_get?_eq_some hv)
    obtain ⟨hname, -, hadmits⟩ := Field.complete_eq_ok.mp hcomplete
    rwa [hs.eq_of_name_eq hf hg hname]

/-- Normalizing keeps the identifier. -/
theorem id?_of_normalize (hs : s.WellFormed) (h : s.normalize d = .ok d') :
    Document.id? d' = Document.id? d := by
  obtain ⟨fields, -, rfl, hkeys⟩ := exists_of_normalize h
  unfold Document.idEntry
  split
  · rename_i id hid
    rw [hid]
    exact Document.get?_cons_self _ _ _
  · rename_i hnone
    rw [hnone]
    exact Document.get?_eq_none_iff.mpr (hkeys ▸ hs.noId)

theorem Describes.exists_value (hd : s.Describes d) {f : Field} (hf : f ∈ s.fields) :
    ∃ v, Document.get? d f.name = some v := by
  have hname : f.name ∈ Document.keys (Document.erase d Document.idKey) :=
    hd.names ▸ List.mem_map_of_mem hf
  obtain ⟨v, hv⟩ := Document.exists_of_mem_keys hname
  exact Document.exists_get?_of_mem_keys (Document.mem_keys_of_mem (List.mem_of_mem_filter hv))

theorem Describes.erase (hs : s.WellFormed) (hd : s.Describes d) :
    s.Describes (Document.erase d Document.idKey) where
  names := by rw [Document.erase_erase, hd.names]
  values := by
    intro f hf v hv
    rw [Document.get?_erase_of_ne (hs.name_ne_id hf)] at hv
    exact hd.values f hf v hv

/-- A document that the schema describes conforms to it with an identifier before it. -/
theorem Describes.conforms (hs : s.WellFormed) (hd : s.Describes d) (id : Value) :
    s.Conforms ((Document.idKey, id) :: Document.erase d Document.idKey) where
  keys := by rw [Document.keys_cons, hd.names]
  values := by
    intro f hf v hv
    rw [Document.get?_cons_of_ne (hs.name_ne_id hf).symm] at hv
    exact (hd.erase hs).values f hf v hv

theorem Describes.mem_fields (hd : s.Describes d) {entry : String × Value}
    (h : entry ∈ d) (hid : entry.1 ≠ Document.idKey) :
    ∃ f ∈ s.fields, f.name = entry.1 := by
  have hmem : entry ∈ Document.erase d Document.idKey := List.mem_filter.mpr ⟨h, by simpa using hid⟩
  have hname := Document.mem_keys_of_mem hmem
  rw [hd.names] at hname
  exact List.mem_map.mp hname

/-- Normalizing keeps the values of the declared fields, and fills in those that are absent. -/
theorem get?_of_normalize (hs : s.WellFormed) (h : s.normalize d = .ok d') {f : Field}
    (hf : f ∈ s.fields) : Document.get? d' f.name = (Document.get? d f.name).or f.absent? := by
  obtain ⟨v, hv⟩ := (describes_of_normalize hs h).exists_value hf
  obtain ⟨fields, hfields, rfl, -⟩ := exists_of_normalize h
  have hmem : (f.name, v) ∈ fields := by
    rcases List.mem_append.mp (Document.mem_of_get?_eq_some hv) with hid | hmem
    · rcases idEntry_cases d with hnone | ⟨id, hsome⟩
      · rw [hnone] at hid
        exact absurd hid List.not_mem_nil
      · rw [hsome, List.mem_singleton, Prod.mk.injEq] at hid
        exact absurd hid.1 (hs.name_ne_id hf)
    · exact hmem
  -- the entry was completed for the field itself, since no other has its name
  obtain ⟨g, hg, hcomplete⟩ := exists_of_mem_mapM hfields hmem
  cases hs.eq_of_name_eq hf hg (Field.complete_eq_ok.mp hcomplete).1
  rw [hv]
  unfold Field.complete at hcomplete
  split at hcomplete
  · cases hcomplete
  · rename_i w hw
    obtain ⟨⟨⟩, -, hcomplete⟩ := bind_eq_ok.mp hcomplete
    cases pure_eq_ok.mp hcomplete
    exact hw.symm

/-- Only documents with declared keys can be normalized. -/
theorem mem_keys_of_normalize (h : s.normalize d = .ok d') {key : String}
    (hkey : key ∈ Document.keys d) : key = Document.idKey ∨ key ∈ s.fieldNames := by
  obtain ⟨⟨⟩, hdeclared, -⟩ := bind_eq_ok.mp h
  exact known_of_checkDeclared hdeclared hkey

/-- Normalizing keeps every value that is there. -/
theorem get?_of_normalize_of_some (hs : s.WellFormed) (h : s.normalize d = .ok d') {key : String}
    {v : Value} (hv : Document.get? d key = some v) : Document.get? d' key = some v := by
  rcases mem_keys_of_normalize h (Document.mem_keys_of_mem (Document.mem_of_get?_eq_some hv)) with
    rfl | hname
  · exact (id?_of_normalize hs h).trans hv
  · obtain ⟨f, hf, rfl⟩ := List.mem_map.mp hname
    rw [get?_of_normalize hs h hf, hv, Option.some_or]

theorem Describes.known (hd : s.Describes d) {key : String} (hkey : key ∈ Document.keys d) :
    key = Document.idKey ∨ key ∈ s.fieldNames := by
  by_cases hid : key = Document.idKey
  · exact Or.inl hid
  · exact Or.inr (hd.names ▸ Document.mem_keys_erase.mpr ⟨hid, hkey⟩)

/-- In normal form every key occurs once. -/
theorem nodup_keys_of_normalize (hs : s.WellFormed) (h : s.normalize d = .ok d') :
    (Document.keys d').Nodup := by
  obtain ⟨fields, -, rfl, hkeys⟩ := exists_of_normalize h
  have hfields : (Document.keys fields).Nodup := hkeys ▸ hs.distinct
  rcases idEntry_cases d with hnone | ⟨id, hsome⟩
  · rwa [hnone, List.nil_append]
  · rw [hsome, List.singleton_append, Document.keys_cons, List.nodup_cons]
    exact ⟨hkeys ▸ hs.noId, hfields⟩

/-! ## Instances that are complete -/

/-- The schema accepts the document as it is: its normal form is the document itself, but for the
order. -/
def Accepts (s : Schema) (d : Document) : Prop := ∃ d', s.normalize d = .ok d' ∧ d'.Perm d

/-- A schema accepts a document that has the declared fields, each with a value of its type, and
nothing else but an identifier. -/
theorem accepts_iff (hs : s.WellFormed) (hd : (Document.keys d).Nodup) :
    s.Accepts d ↔
      (∀ key ∈ Document.keys d, key = Document.idKey ∨ key ∈ s.fieldNames) ∧
        ∀ f ∈ s.fields, f.TypedIn d := by
  constructor
  · rintro ⟨d', hnormal, hperm⟩
    refine ⟨fun key => mem_keys_of_normalize hnormal, fun f hf => ?_⟩
    have hdescribes := describes_of_normalize hs hnormal
    obtain ⟨v, hv⟩ := hdescribes.exists_value hf
    have hmem := hperm.mem_iff.mp (Document.mem_of_get?_eq_some hv)
    exact ⟨v, (Document.get?_eq_some_iff hd).mpr hmem, hdescribes.values f hf v hv⟩
  · rintro ⟨hkeys, hfields⟩
    have hcomplete : ∀ f ∈ s.fields, ∃ entry, f.complete d = .ok entry := by
      intro f hf
      obtain ⟨v, hv, hadmits⟩ := hfields f hf
      exact ⟨_, Field.complete_of_get? hv hadmits⟩
    obtain ⟨fields, hmap⟩ := exists_mapM_eq_ok hcomplete
    obtain ⟨d', hnormal⟩ : ∃ d', s.normalize d = .ok d' := by
      refine ⟨Document.idEntry d ++ fields, ?_⟩
      simp only [Schema.normalize, checkDeclared_of_known hs hkeys, ok_bind, hmap]
      rfl
    refine ⟨d', hnormal, Document.perm_of_get? (nodup_keys_of_normalize hs hnormal) hd ?_⟩
    -- the identifier stays, a field that is there is not filled in, and there is nothing else
    intro key
    by_cases hid : key = Document.idKey
    · rw [hid]
      exact id?_of_normalize hs hnormal
    by_cases hname : key ∈ s.fieldNames
    · obtain ⟨f, hf, rfl⟩ := List.mem_map.mp hname
      obtain ⟨v, hv, -⟩ := hfields f hf
      rw [get?_of_normalize hs hnormal hf, hv, Option.some_or]
    · have hunknown : ¬ (key = Document.idKey ∨ key ∈ s.fieldNames) := by
        simp [hid, hname]
      have hbefore : key ∉ Document.keys d := fun h => hunknown (hkeys key h)
      have hafter : key ∉ Document.keys d' :=
        fun h => hunknown ((describes_of_normalize hs hnormal).known h)
      rw [Document.get?_eq_none_iff.mpr hbefore, Document.get?_eq_none_iff.mpr hafter]

/-! ## Stored documents -/

namespace Conforms

theorem nodup_keys (hs : s.WellFormed) (hd : s.Conforms d) : (Document.keys d).Nodup := by
  rw [hd.keys, List.nodup_cons]
  exact ⟨hs.noId, hs.distinct⟩

theorem exists_id (hd : s.Conforms d) : ∃ id, Document.id? d = some id :=
  Document.exists_get?_of_mem_keys (hd.keys ▸ List.mem_cons_self)

theorem mem_keys (hd : s.Conforms d) {f : Field} (hf : f ∈ s.fields) :
    f.name ∈ Document.keys d := by
  rw [hd.keys]
  exact List.mem_cons_of_mem _ (List.mem_map_of_mem hf)

theorem exists_value (hd : s.Conforms d) {f : Field} (hf : f ∈ s.fields) :
    ∃ v, Document.get? d f.name = some v :=
  Document.exists_get?_of_mem_keys (hd.mem_keys hf)

/-- A document that conforms is its own normal form. -/
theorem normalize (hs : s.WellFormed) (hd : s.Conforms d) : s.normalize d = .ok d := by
  have hdeclared : s.checkDeclared (Document.keys d) = .ok () := by
    refine checkDeclared_of_known hs fun name hname => ?_
    rw [hd.keys] at hname
    exact List.mem_cons.mp hname
  obtain ⟨⟨key, id⟩, rest, rfl⟩ := List.exists_cons_of_ne_nil
    (show d ≠ [] by rintro rfl; cases hd.keys)
  obtain ⟨rfl, hrest⟩ := List.cons.inj hd.keys
  have hnodup := hd.nodup_keys hs
  -- each entry after the identifier is what completing its field gives
  have hnames : List.Forall₂ (fun f entry => f.name = entry.1) s.fields rest := by
    rw [← List.forall₂_map_left_iff (f := Field.name) (R := fun n (entry : String × Value) =>
      n = entry.1), ← List.forall₂_map_right_iff (f := Prod.fst), List.forall₂_eq_eq_eq]
    exact hrest.symm
  have hcomplete : List.Forall₂ (fun f entry =>
      Field.complete f ((Document.idKey, id) :: rest) = .ok entry) s.fields rest := by
    refine List.forall₂_iff_zip.mpr ⟨hnames.length_eq, fun {f entry} hzip => ?_⟩
    have hname : f.name = entry.1 := List.forall₂_zip hnames hzip
    obtain ⟨hf, hentry⟩ := List.of_mem_zip hzip
    have hget : Document.get? ((Document.idKey, id) :: rest) f.name = some entry.2 :=
      (Document.get?_eq_some_iff hnodup).mpr (hname ▸ List.mem_cons_of_mem _ hentry)
    rw [Field.complete_of_get? hget (hd.values f hf entry.2 hget), hname]
  simp only [Schema.normalize, hdeclared, ok_bind, Document.id?, Document.get?_cons_self,
    mapM_eq_ok_of_forall₂ hcomplete]
  rfl

/-- Putting a value of the right type under a key that is there. -/
theorem insert (hd : s.Conforms d) {key : String} {v : Value} (hkey : key ∈ Document.keys d)
    (hv : ∀ f ∈ s.fields, f.name = key → f.type.Admits v) :
    s.Conforms (Document.insert d key v) where
  keys := by rw [Document.keys_insert_of_mem hkey, hd.keys]
  values := by
    intro f hf w hw
    rw [Document.get?_insert] at hw
    split at hw
    · rename_i heq
      cases hw
      exact hv f hf heq.symm
    · exact hd.values f hf w hw

/-- A replacement keeps the identifier and takes its fields from a described document. -/
theorem replace (hs : s.WellFormed) (hd : s.Conforms d) {replacement : Document}
    (hr : s.Describes replacement) (h : Document.replace d replacement = .ok d') :
    s.Conforms d' := by
  obtain ⟨id, hid⟩ := hd.exists_id
  unfold Document.replace at h
  split at h
  · cases h
  · cases h
    simp only [Document.idEntry, hid, List.singleton_append]
    exact hr.conforms hs id

end Conforms

/-- The document that a replacement creates is described as the replacement is. -/
theorem describes_of_upsertedReplacement {filter replacement : Document}
    (hs : s.WellFormed) (hr : s.Describes replacement)
    (h : Document.upsertedReplacement filter replacement = .ok d) : s.Describes d := by
  unfold Document.upsertedReplacement at h
  split at h
  · cases h
    exact hr
  · obtain ⟨seed, -, h⟩ := bind_eq_ok.mp h
    cases pure_eq_ok.mp h
    exact describes_idEntry_append hs hr seed

end Schema

end DocMapper
