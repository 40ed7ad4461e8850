import DocMapper.Proofs.StableCreation
import DocMapper.Proofs.SuppliedFields
import DocMapper.Proofs.Targets

namespace DocMapper

/-! # Repeating an upsert

An upsert by equality on fields of plain types, which writes to other fields only, creates a
document that its own filter selects: what the filter asks for is what the document starts from, and
no write touches it. So the same call, made again, reads a document. It then looks for the
identifier of this document among the stored ones, and identifiers that equal nothing, not even
themselves, are not found there. Such a document hides the created one as often as the call is
repeated, and every time another document is created.
-/

/-- A keyword argument asks for equality on a declared field of a plain type, or writes to a field
that is not the identifier, and which no keyword argument asks about. -/
def Schema.UpsertArgument (schema : Schema) (kwargs : Document) (entry : String × Value) : Prop :=
  (∃ f ∈ schema.fields, f.name = entry.1 ∧ f.queryable = true ∧ f.type.isPlain = true) ∨
  ∃ k, Keyword.parse entry.1 = .ok k ∧ k.operator.isUpdate = true ∧
    k.field ≠ Document.idKey ∧ k.field ∉ Document.keys kwargs

/-! ## The document that is created -/

namespace Value

variable {v : Value}

theorem IsPlain.ne_document (h : v.IsPlain) (fields : Document) : v ≠ .document fields := by
  rintro rfl
  rcases h with h | h <;> cases h

/-- A plain value that a filter asks for is fixed by it. -/
theorem IsPlain.fixed? (h : v.IsPlain) : v.fixed? = some v := by
  cases v with
  | document fields => exact absurd rfl (h.ne_document fields)
  | _ => rfl

end Value

namespace Lowering

variable {l : Lowering} {schema : Schema} {kwargs created d : Document} {change : ScopedUpdate}
  {path : String} {c : Conditions}

/-- Every step of an update comes from a keyword argument that writes, and its path starts with the
field that the keyword names. -/
theorem exists_writer_of_mem_steps (hl : l.schema? = some schema) (hs : schema.WellFormed)
    (h : l.update kwargs = .ok change) {step : String × String × Value}
    (hstep : step ∈ Document.steps change.update) :
    ∃ entry ∈ kwargs, ∃ k, Keyword.parse entry.1 = .ok k ∧ k.operator.isUpdate = true ∧
      (Path.ofString step.2.1).head = k.field := by
  have hhead : ∀ {key k s}, l.subject key k = .ok s → (Path.ofString s.path).head = k.field := by
    intro key k s hsubject
    obtain ⟨field, hfield, haddresses, -⟩ := field_of_subject hl hs hsubject
    rw [haddresses.path_head (hs.legal_of_field? hfield), (Schema.field?_eq_some hfield).1]
  obtain ⟨draft, hdraft, -, -, hchanges⟩ := update_eq_ok h
  have hpath : step.2.1 ∈ Document.writtenPaths change.update := List.mem_map_of_mem hstep
  rw [hchanges, UpdateDraft.mem_writtenPaths] at hpath
  -- each argument brings one path into the draft, or none
  refine foldlM_induction (fun D : UpdateDraft =>
    ∀ path, path ∈ Document.keys D.set ∨ path ∈ Document.keys D.inc →
      ∃ entry ∈ kwargs, ∃ k, Keyword.parse entry.1 = .ok k ∧ k.operator.isUpdate = true ∧
        (Path.ofString path).head = k.field) ?_ ?_ hdraft _ hpath
  · intro entry hentry D D' hD hadd path hpath
    obtain ⟨k, hk, hstep⟩ := updateStep_of_addUpdate hadd
    cases hstep with
    | set hoperator hsubject hw =>
      rcases hpath with hpath | hpath
      · rcases Document.mem_keys_insert.mp hpath with hpath | rfl
        · exact hD path (Or.inl hpath)
        · exact ⟨entry, hentry, k, hk, by rw [hoperator]; rfl, hhead hsubject⟩
      · exact hD path (Or.inr hpath)
    | inc hoperator hsubject hw =>
      rcases hpath with hpath | hpath
      · exact hD path (Or.inl hpath)
      · rcases Document.mem_keys_insert.mp hpath with hpath | rfl
        · exact hD path (Or.inr hpath)
        · exact ⟨entry, hentry, k, hk, by rw [hoperator]; rfl, hhead hsubject⟩
    | filter => exact hD path hpath
  · rintro path (hnone | hnone) <;> cases hnone

/-- The steps of an upsert touch neither the identifier nor a field that a keyword argument asks
about. -/
theorem head_of_mem_steps (hl : l.schema? = some schema) (hs : schema.WellFormed)
    (harguments : ∀ entry ∈ kwargs, schema.UpsertArgument kwargs entry)
    (h : l.update kwargs = .ok change) {step : String × String × Value}
    (hstep : step ∈ Document.steps change.update) :
    (Path.ofString step.2.1).head ≠ Document.idKey ∧
      (Path.ofString step.2.1).head ∉ Document.keys kwargs := by
  obtain ⟨entry, hentry, k, hk, hupdate, hhead⟩ := exists_writer_of_mem_steps hl hs h hstep
  rw [hhead]
  rcases harguments entry hentry with ⟨f, hf, hname, -, -⟩ | ⟨k', hk', -, hne, hnone⟩
  · -- the name of a field alone asks for equality
    have hparse := (hs.legal f hf).parse
    rw [hname, hk, Except.ok.injEq] at hparse
    rw [hparse] at hupdate
    cases hupdate
  · rw [hk, Except.ok.injEq] at hk'
    rw [hk']
    exact ⟨hne, hnone⟩

/-- The keyword arguments of an upsert that do not write ask for equality on fields of plain
types. -/
theorem plain_of_mem_selecting (harguments : ∀ entry ∈ kwargs, schema.UpsertArgument kwargs entry)
    {entry : String × Value} (hentry : entry ∈ selecting kwargs) :
    ∃ f ∈ schema.fields, f.name = entry.1 ∧ f.queryable = true ∧ f.type.isPlain = true := by
  obtain ⟨hmem, hselects⟩ := List.mem_filter.mp hentry
  rcases harguments entry hmem with hplain | ⟨k, hk, hupdate, -⟩
  · exact hplain
  · have hwrites : writes entry.1 = true := by rw [writes, hk, ← hupdate]
    rw [hwrites] at hselects
    cases hselects

/-- What the filter of an upsert asks for at a path: that a declared field equals a plain value. A
keyword argument asks about the field. -/
theorem asked_of_lookup (hl : l.schema? = some schema) (hs : schema.WellFormed)
    (harguments : ∀ entry ∈ kwargs, schema.UpsertArgument kwargs entry)
    (hfilter : l.filter (selecting kwargs) = .ok change.filter)
    (hc : (l.conditions (selecting kwargs)).lookup path = some c) :
    path ∈ Document.keys kwargs ∧ (∃ f ∈ schema.fields, f.name = path) ∧
      ∃ v : Value, v.IsPlain ∧ c = { equal? := some v } := by
  -- every selecting argument pins its field to one plain value, so a condition is an equality
  have hpins : schema.Pins (l.conditions (selecting kwargs))
      (Document.insertAll [] (Document.operands (selecting kwargs))) := by
    refine pins_of_foldlM hl hs (fun entry hentry => ?_) (fun _ _ hnone => by cases hnone)
      (filter_eq_ok.mp hfilter).1
    obtain ⟨f, hf, hname, -, hplain⟩ := plain_of_mem_selecting harguments hentry
    exact Or.inr ⟨f, hf, hname, hplain⟩
  obtain ⟨-, v, hv, hequal, hget⟩ := hpins path c hc
  obtain ⟨entry, hentry, rfl⟩ : ∃ entry ∈ selecting kwargs, entry.1 = path := by
    have hkey := Document.mem_keys_of_mem (Document.mem_of_get?_eq_some hget)
    rcases Document.mem_keys_insertAll.mp hkey with hnone | hkey
    · cases hnone
    · obtain ⟨w, hw⟩ := Document.exists_of_mem_keys hkey
      obtain ⟨entry, hentry, hsame⟩ := List.mem_map.mp hw
      exact ⟨entry, hentry, congrArg Prod.fst hsame⟩
  obtain ⟨f, hf, hname, -, -⟩ := plain_of_mem_selecting harguments hentry
  have hkey : entry.1 ∈ Document.keys kwargs := by
    exact Document.mem_keys_of_mem (List.mem_filter.mp hentry).1
  exact ⟨hkey, ⟨f, hf, hname⟩, v, hv, hequal⟩

/-- Every entry of the filter of an upsert is what it asks for at a path. -/
theorem lookup_of_mem_filter (hl : l.schema? = some schema) (hs : schema.WellFormed)
    (hfilter : l.filter kwargs = .ok d) {entry : String × Value} (hentry : entry ∈ d) :
    ∃ c, (l.conditions kwargs).lookup entry.1 = some c ∧ entry.2 = c.toValue := by
  rw [← (filter_eq_ok.mp hfilter).2] at hentry
  obtain ⟨⟨path, c⟩, hc, rfl⟩ := List.mem_map.mp hentry
  exact ⟨c, (FilterDraft.mem_iff_lookup (conditions_proper hl hs hfilter).distinct).mp hc, rfl⟩

/-- The document of an upsert has what its filter asks for. -/
theorem get?_of_upserted (hl : l.schema? = some schema) (hs : schema.WellFormed)
    (harguments : ∀ entry ∈ kwargs, schema.UpsertArgument kwargs entry)
    (h : l.update kwargs = .ok change)
    (hcreated : Document.upserted change.filter change.update = .ok created) {v : Value}
    (hc : (l.conditions (selecting kwargs)).lookup path = some { equal? := some v }) :
    Document.get? created path = some v := by
  obtain ⟨seed, hseed, hupdated⟩ := bind_eq_ok.mp hcreated
  have hfilter := filter_selecting h
  obtain ⟨hkey, ⟨f, hf, rfl⟩, w, hw, hequal⟩ := asked_of_lookup hl hs harguments hfilter hc
  cases hequal
  have hfixed : (f.name, v) ∈ Document.fixedValues change.filter := by
    have hproper := conditions_proper hl hs hfilter
    have hmem := (FilterDraft.mem_iff_lookup hproper.distinct).mpr hc
    rw [← (filter_eq_ok.mp hfilter).2]
    refine Document.mem_fixedValues.mpr ⟨v, List.mem_map_of_mem hmem, ?_, hw.fixed?⟩
    exact hproper.plain _ (FilterDraft.mem_paths hmem)
  have hget : Document.get? seed f.name = some v :=
    Document.get?_of_mem_fixedValues (hs.legal f hf) (nodup_keys_of_filter hl hs hfilter)
      (fun _ _ _ _ => hw.ne_document) hfixed hseed
  -- the update writes to other fields
  rw [← hget]
  refine Document.writesAt_applyAt.get?_of_ne (fun step hstep hhead => ?_)
    (Document.updated_eq_ok hupdated)
  exact (head_of_mem_steps hl hs harguments h hstep).2 (hhead ▸ hkey)

/-- The filter of an upsert selects what was created, and whatever keeps its values. -/
theorem satisfies_of_upserted (hl : l.schema? = some schema) (hs : schema.WellFormed)
    (harguments : ∀ entry ∈ kwargs, schema.UpsertArgument kwargs entry)
    (h : l.update kwargs = .ok change)
    (hcreated : Document.upserted change.filter change.update = .ok created)
    (hkeep : ∀ key v, Document.get? created key = some v → Document.get? d key = some v) :
    Document.satisfies d change.filter = .ok true := by
  have hfilter := filter_selecting h
  rw [satisfies_filter hl hs hfilter]
  intro path c hc
  obtain ⟨-, ⟨f, hf, rfl⟩, v, hv, rfl⟩ := asked_of_lookup hl hs harguments hfilter hc
  have hget := get?_of_upserted hl hs harguments h hcreated hc
  rw [Document.getPath?_of_legalName (hs.legal f hf), hkeep _ v hget]
  exact hv.meets_self

/-- The document of an upsert has no identifier before it is inserted. -/
theorem id?_of_upserted (hl : l.schema? = some schema) (hs : schema.WellFormed)
    (harguments : ∀ entry ∈ kwargs, schema.UpsertArgument kwargs entry)
    (h : l.update kwargs = .ok change)
    (hcreated : Document.upserted change.filter change.update = .ok created) :
    Document.id? created = none := by
  obtain ⟨seed, hseed, hupdated⟩ := bind_eq_ok.mp hcreated
  rw [Document.fixedBy_eq] at hseed
  refine Document.get?_eq_none_iff.mpr fun hid => ?_
  rw [Document.writesAt_applyAt.mem_keys (Document.updated_eq_ok hupdated),
    Document.writesAt_write.mem_keys hseed] at hid
  -- an identifier would come from an equality of the filter or from a step of the update, and both
  -- name a declared field
  rcases hid with (hnone | ⟨entry, hentry, hhead⟩) | ⟨step, hstep, hhead⟩
  · cases hnone
  · obtain ⟨condition, hmem, -, -⟩ := Document.mem_fixedValues.mp hentry
    have hfilter := filter_selecting h
    obtain ⟨c, hc, -⟩ := lookup_of_mem_filter hl hs hfilter hmem
    obtain ⟨-, ⟨f, hf, hname⟩, -⟩ := asked_of_lookup hl hs harguments hfilter hc
    dsimp only at hname
    rw [← hname, (hs.legal f hf).path] at hhead
    exact hs.name_ne_id hf hhead
  · exact (head_of_mem_steps hl hs harguments h hstep).1 hhead

end Lowering

/-! ## Looking for what was read -/

namespace Document

variable {filter d : Document} {options : ReadOptions} {docs : List Document}

/-- A document has an identifier, and one of the documents has it too. -/
def FoundAgain (docs : List Document) (d : Document) : Prop :=
  ∃ id, id? d = some id ∧ docs.any (hasId id) = true

/-- What is read and found again is the target. -/
theorem exists_target_iff {others : List Document}
    (h : find filter options.single docs = .ok (d :: others)) :
    (∃ i, target filter options docs = .ok (some i)) ↔ FoundAgain docs d := by
  rw [target_of_find h, List.head?_cons, Option.bind_some]
  constructor
  · rintro ⟨i, hi⟩
    obtain ⟨id, hid, hplace⟩ := Option.bind_eq_some_iff.mp (Except.ok.inj hi)
    refine ⟨id, hid, ?_⟩
    rw [← List.findIdx?_isSome, hplace, Option.isSome_some]
  · rintro ⟨id, hid, hany⟩
    rw [← List.findIdx?_isSome] at hany
    obtain ⟨i, hi⟩ := Option.isSome_iff_exists.mp hany
    refine ⟨i, ?_⟩
    rw [hid, Option.bind_some, hi]

/-- A target is the place of a document. -/
theorem exists_getElem?_of_target {i : Nat} (h : target filter options docs = .ok (some i)) :
    ∃ d, docs[i]? = some d := by
  obtain ⟨found, -, hplace⟩ := bind_eq_ok.mp h
  obtain ⟨d, -, hplace⟩ := Option.bind_eq_some_iff.mp (pure_eq_ok.mp hplace)
  obtain ⟨id, -, hplace⟩ := Option.bind_eq_some_iff.mp hplace
  obtain ⟨hlt, -⟩ := List.findIdx?_eq_some_iff_getElem.mp hplace
  exact ⟨docs[i], List.getElem?_eq_getElem hlt⟩

/-- A call that has or has not a target has made a selection. -/
theorem exists_select_of_target {place : Option Nat} (h : target filter options docs = .ok place) :
    ∃ selected, select filter docs = .ok selected := by
  obtain ⟨found, hfind, -⟩ := bind_eq_ok.mp h
  rw [find_eq] at hfind
  obtain ⟨selected, hselect, -⟩ := map_eq_ok.mp hfind
  exact ⟨selected, hselect⟩

theorem arranged_singleton (options : ReadOptions) (d : Document) : arranged options [d] = [d] := by
  rw [arranged]
  split
  · exact List.mergeSort_singleton d
  · rfl

/-- Without skipping, one document is read if anything is selected. -/
theorem exists_find_single (hskip : options.skip?.getD 0 = 0) {selected : List Document}
    (h : select filter docs = .ok selected) (hd : d ∈ selected) :
    ∃ first ∈ selected, find filter options.single docs = .ok [first] := by
  have hfind := find_single_of_select hskip h
  cases harranged : arranged options selected with
  | nil =>
    have hmem : d ∈ arranged options selected := mem_arranged.mpr hd
    rw [harranged] at hmem
    cases hmem
  | cons first rest =>
    rw [harranged] at hfind
    exact ⟨first, mem_arranged.mp (harranged ▸ List.mem_cons_self), hfind⟩

/-- Without skipping, nothing is selected where there is no target, if what is selected is found
again. -/
theorem select_eq_nil_of_target (hskip : options.skip?.getD 0 = 0)
    (hagain : ∀ d ∈ docs, satisfies d filter = .ok true → FoundAgain docs d)
    (h : target filter options docs = .ok none) : select filter docs = .ok [] := by
  obtain ⟨selected, hselect⟩ := exists_select_of_target h
  cases selected with
  | nil => exact hselect
  | cons d rest =>
    obtain ⟨first, hfirst, hfind⟩ := exists_find_single hskip hselect List.mem_cons_self
    obtain ⟨hmem, hsatisfies⟩ := (mem_select hselect).mp hfirst
    obtain ⟨i, hi⟩ := (exists_target_iff hfind).mpr (hagain first hmem hsatisfies)
    rw [h] at hi
    cases hi

end Document

namespace Store

variable {filter d found : Document} {options : ReadOptions} {upsert : Bool}
  {change : Document → Except Error Document} {create : Except Error Document} {s s' : Store}
  {answer : Option Document}

/-- A call that leaves more documents had no target, and has inserted what it created. -/
theorem insert_of_modifyOne
    (h : s.modifyOne filter options upsert change create = .ok (answer, s'))
    (hmore : s.documents.length < s'.documents.length) :
    Document.target filter options s.documents = .ok none ∧
      ∃ d id, create = .ok d ∧ s.insert d = .ok (id, s') := by
  cases htarget : Document.target filter options s.documents with
  | error e =>
    rw [modifyOne, htarget] at h
    cases h
  | ok place =>
    cases place with
    | some i =>
      -- a document that was found is changed in place, and the store does not grow
      obtain ⟨d, hd⟩ := Document.exists_getElem?_of_target htarget
      rw [modifyOne_of_target htarget hd] at h
      obtain ⟨next, -, h⟩ := map_eq_ok.mp h
      cases h
      rw [List.length_set] at hmore
      exact absurd hmore (Nat.lt_irrefl _)
    | none =>
      refine ⟨rfl, ?_⟩
      rw [modifyOne_of_no_target htarget] at h
      split at h
      · obtain ⟨d, hd, h⟩ := bind_eq_ok.mp h
        obtain ⟨⟨id, t⟩, hinsert, h⟩ := bind_eq_ok.mp h
        cases pure_eq_ok.mp h
        exact ⟨d, id, hd, hinsert⟩
      · cases pure_eq_ok.mp h
        exact absurd hmore (Nat.lt_irrefl _)

/-- An upsert that reads a document and creates others without identifiers leaves the number of
documents exactly when it finds the document again, or cannot insert because the fresh identifier is
in use. -/
theorem length_of_modifyOne_iff
    (hfind : Document.find filter options.single s.documents = .ok [found])
    (hcreate : create = .ok d) (hid : Document.id? d = none) :
    (Action.atomic (·.modifyOne filter options true change create) s).2.documents.length =
        s.documents.length ↔
      Document.FoundAgain s.documents found ∨
        s.documents.any (Document.hasId (.objectId s.ids.fresh)) = true := by
  unfold Action.atomic
  dsimp only
  by_cases hagain : Document.FoundAgain s.documents found
  · -- the document there is changed, or nothing
    obtain ⟨i, htarget⟩ := (Document.exists_target_iff hfind).mpr hagain
    obtain ⟨old, hold⟩ := Document.exists_getElem?_of_target htarget
    refine iff_of_true ?_ (Or.inl hagain)
    rw [modifyOne_of_target htarget hold]
    cases change old with
    | error e => rfl
    | ok next => exact List.length_set
  · have htarget : Document.target filter options s.documents = .ok none := by
      rw [Document.target_of_find hfind, Except.ok.injEq, Option.eq_none_iff_forall_ne_some]
      intro i hi
      refine hagain ((Document.exists_target_iff hfind).mp ⟨i, ?_⟩)
      rw [Document.target_of_find hfind, hi]
    rw [or_iff_right hagain, modifyOne_of_no_target htarget, if_pos rfl, hcreate, ok_bind]
    cases hinsert : s.insert d with
    | error e =>
      obtain ⟨hused, -⟩ := insert_eq_error hinsert
      rw [idFor, hid, Option.getD_none] at hused
      exact iff_of_true rfl hused
    | ok outcome =>
      obtain ⟨id, t⟩ := outcome
      have hinserted := insert_eq_ok hinsert
      refine iff_of_false ?_ ?_
      · change t.documents.length ≠ s.documents.length
        rw [hinserted.documents, List.length_append]
        exact Nat.succ_ne_self _
      · rw [← hinserted.fresh hid, List.any_eq_true]
        rintro ⟨e, he, hused⟩
        rw [hinserted.unused e he] at hused
        cases hused

/-- After an insertion, a call whose filter selects the inserted document alone changes it where it
was put. -/
theorem modifyOne_of_inserted (hskip : options.skip?.getD 0 = 0) {id : Value}
    (hinserted : s.Inserted d id s') (hself : id.equals id = true) :
    let new : Document := (Document.idKey, id) :: Document.erase d Document.idKey
    Document.select filter s'.documents = .ok [new] →
    s'.modifyOne filter options upsert change create = (change new).map fun next =>
      (some (Document.shaped options next), { s' with documents := s.documents ++ [next] }) := by
  intro new hselect
  have hdocuments : s'.documents = s.documents ++ [new] := hinserted.documents
  -- the new document is the only one selected, and it is stored last
  have htarget : Document.target filter options s'.documents = .ok (some s.documents.length) := by
    have hfind := Document.find_single_of_select hskip hselect
    rw [Document.arranged_singleton] at hfind
    have hid : Document.id? new = some id := Document.get?_cons_self _ _ _
    have hfound : Document.hasId id new = true := by
      rw [Document.hasId, hid, Option.any_some, hself]
    rw [Document.target_of_find hfind, List.take_succ_cons, List.head?_cons, Option.bind_some, hid,
      Option.bind_some, hdocuments, Document.findIdx?_hasId hinserted.unused hfound]
  have hplace : s'.documents[s.documents.length]? = some new := by
    rw [hdocuments, List.getElem?_concat_length]
  have hset : ∀ next, s'.documents.set s.documents.length next = s.documents ++ [next] := by
    intro next
    rw [hdocuments, List.set_append_right _ _ (Nat.le_refl _), Nat.sub_self, List.set_cons_zero]
  rw [modifyOne_of_target htarget hplace]
  simp only [hset]

end Store

namespace Model

variable {m : Model} {kwargs : Document} {options : ReadOptions} {upsert : Bool} {s s' : Store}
  {answer : Except Error (Option Document)}

/-! ## The call, made again -/

/-- The call leaves the store as the update of the lowered keyword arguments does. -/
theorem findOneAndUpdate_store {change : ScopedUpdate}
    (hchange : m.lowering.update kwargs = .ok change) (s : Store) :
    (m.findOneAndUpdate kwargs options upsert s).2 =
      (Action.atomic (·.modifyOne change.filter options.ordered upsert
        (Document.updated · change.update)
        (Document.upserted change.filter change.update)) s).2 := by
  rw [findOneAndUpdate_eq hchange, Action.atomic]
  split
  · rename_i found t hmodify
    rw [hmodify]
    exact m.decodeOption_store found t
  · rename_i e hmodify
    rw [hmodify]

/-- An upsert that creates a document, made again, adds no other document exactly when the document
that it then reads is found again by its identifier, or the next fresh identifier is in use. The
created document is at the end and selected by the filter. Where every document that the filter
selected before is found again by its identifier, the call made again updates the created document,
or it fails and changes nothing. -/
theorem repeated_upsert_adds_nothing_iff {draft : SchemaDraft}
    (hbuild : draft.build = .ok m.schema)
    (harguments : ∀ entry ∈ kwargs, m.schema.UpsertArgument kwargs entry)
    (hskip : options.skip?.getD 0 = 0)
    (h : m.findOneAndUpdate kwargs options true s = (answer, s'))
    (hadded : s.documents.length < s'.documents.length) :
    ∃ change new found, m.lowering.update kwargs = .ok change ∧
      s'.documents = s.documents ++ [new] ∧
      Document.satisfies new change.filter = .ok true ∧
      Document.find change.filter options.ordered.single s'.documents = .ok [found] ∧
      ((m.findOneAndUpdate kwargs options true s').2.documents.length = s'.documents.length ↔
        Document.FoundAgain s'.documents found ∨
          s'.documents.any (Document.hasId (.objectId s'.ids.fresh)) = true) ∧
      ((∀ d ∈ s.documents, Document.satisfies d change.filter = .ok true →
          Document.FoundAgain s.documents d) →
        (∃ e, m.findOneAndUpdate kwargs options true s' = (.error e, s')) ∨
        ∃ next, Document.updated new change.update = .ok next ∧
          (m.findOneAndUpdate kwargs options true s').2 =
            { s' with documents := s.documents ++ [next] }) := by
  have hs := SchemaDraft.build_wellFormed hbuild
  have hordered : options.ordered.skip?.getD 0 = 0 := hskip
  obtain ⟨change, shown, hchange, hmodify⟩ := modifyOne_of_findOneAndUpdate h (Nat.ne_of_gt hadded)
  obtain ⟨htarget, created, id, hcreated, hinsert⟩ := Store.insert_of_modifyOne hmodify hadded
  have hnone := Lowering.id?_of_upserted rfl hs harguments hchange hcreated
  have hinserted := Store.insert_eq_ok hinsert
  let new : Document := (Document.idKey, id) :: Document.erase created Document.idKey
  have hdocuments : s'.documents = s.documents ++ [new] := hinserted.documents
  -- the created document joins what the filter selected before
  have hnew : Document.satisfies new change.filter = .ok true :=
    Lowering.satisfies_of_upserted rfl hs harguments hchange hcreated
      fun _ _ => hinserted.get?_of_some
  have hselectNew : Document.select change.filter [new] = .ok [new] := by
    rw [Document.select, hnew]
    rfl
  obtain ⟨selected, hselect⟩ := Document.exists_select_of_target htarget
  have hselect' : Document.select change.filter s'.documents = .ok (selected ++ [new]) := by
    rw [hdocuments]
    exact Document.select_append hselect hselectNew
  obtain ⟨found, -, hfind⟩ := Document.exists_find_single hordered hselect'
    (List.mem_append_right _ List.mem_cons_self)
  refine ⟨change, new, found, hchange, hdocuments, hnew, hfind, ?_, fun hagain => ?_⟩
  · rw [findOneAndUpdate_store hchange]
    exact Store.length_of_modifyOne_iff hfind hcreated hnone
  -- nothing was selected before, so the created document is read, and found where it was put
  have hnil := Document.select_eq_nil_of_target hordered hagain htarget
  rw [hselect, Except.ok.injEq] at hnil
  subst hnil
  have hself : id.equals id = true := by
    rw [hinserted.fresh hnone]
    exact beq_self_eq_true s.ids.fresh
  have hrepeat : s'.modifyOne change.filter options.ordered true (Document.updated · change.update)
      (Document.upserted change.filter change.update) =
        (Document.updated new change.update).map fun next =>
          (some (Document.shaped options.ordered next),
            { s' with documents := s.documents ++ [next] }) :=
    Store.modifyOne_of_inserted hordered hinserted hself hselect'
  cases hnext : Document.updated new change.update with
  | error e =>
    refine Or.inl ⟨e, ?_⟩
    rw [findOneAndUpdate_eq hchange, hrepeat, hnext]
    rfl
  | ok next =>
    refine Or.inr ⟨next, rfl, ?_⟩
    rw [findOneAndUpdate_store hchange, Action.atomic, hrepeat, hnext]
    rfl

/-- The theorem at an increment, in a collection with a document that the filter does not select. -/
theorem repeated_upsert_adds_nothing_of_increment :
    ∃ (m : Model) (s s' : Store) (answer : Except Error (Option Document)),
      SchemaDraft.build
        { collection := "t"
          fields := [{ name := "name", type := .string }, { name := "n", type := .int }] } =
        .ok m.schema ∧
      s.documents = [[("_id", .int32 7), ("name", .string "b")]] ∧
      m.findOneAndUpdate [("name", .string "a"), ("n__inc", .int32 1)] {} true s = (answer, s') ∧
      s'.documents = [[("_id", .int32 7), ("name", .string "b")],
        [("_id", .objectId ⟨0⟩), ("name", .string "a"), ("n", .int32 1)]] ∧
      (m.findOneAndUpdate [("name", .string "a"), ("n__inc", .int32 1)] {} true s').2.documents =
        [[("_id", .int32 7), ("name", .string "b")],
          [("_id", .objectId ⟨0⟩), ("name", .string "a"), ("n", .int32 2)]] := by
  let m : Model := { schema := ⟨⟨"t"⟩,
    [{ name := "name", type := .string }, { name := "n", type := .int }]⟩ }
  let kwargs : Document := [("name", .string "a"), ("n__inc", .int32 1)]
  let s : Store :=
    { documents := [[("_id", .int32 7), ("name", .string "b")]]
      ids := ⟨fun i => ⟨.ofNat 96 i⟩, 0⟩ }
  let s' : Store :=
    { documents := [[("_id", .int32 7), ("name", .string "b")],
        [("_id", .objectId ⟨0⟩), ("name", .string "a"), ("n", .int32 1)]]
      ids := ⟨fun i => ⟨.ofNat 96 i⟩, 1⟩ }
  have hbuild : SchemaDraft.build
      { collection := "t"
        fields := [{ name := "name", type := .string }, { name := "n", type := .int }] } =
      .ok m.schema := rfl
  have harguments : ∀ entry ∈ kwargs, m.schema.UpsertArgument kwargs entry := by
    intro entry hentry
    rcases List.mem_pair.mp hentry with rfl | rfl
    · exact Or.inl ⟨_, List.mem_cons_self, rfl, rfl, rfl⟩
    · exact Or.inr ⟨⟨"n", [], .update .inc⟩, rfl, rfl, by decide, by decide⟩
  have hchange : m.lowering.update kwargs =
      .ok { filter := [("name", .string "a")],
            update := [("$inc", .document [("n", .int32 1)])] } := rfl
  have hinsert : s.insert [("name", .string "a"), ("n", .int32 1)] = .ok (.objectId ⟨0⟩, s') := rfl
  have hcall : m.findOneAndUpdate kwargs {} true s =
      (.ok (some [("_id", .objectId ⟨0⟩), ("name", .string "a"), ("n", .int32 1)]), s') :=
    (findOneAndUpdate_of_select_nil hchange rfl rfl hinsert).trans rfl
  obtain ⟨change, new, -, hsame, hdocuments, -, -, -, hrepeat⟩ :=
    repeated_upsert_adds_nothing_iff hbuild harguments rfl hcall (by decide)
  rw [hchange, Except.ok.injEq] at hsame
  subst hsame
  cases hdocuments
  have hagain : ∀ d ∈ s.documents, Document.satisfies d [("name", .string "a")] = .ok true →
      Document.FoundAgain s.documents d := by
    intro d hd hsatisfies
    cases List.mem_singleton.mp hd
    cases hsatisfies
  refine ⟨m, s, s', _, hbuild, rfl, hcall, rfl, ?_⟩
  rcases hrepeat hagain with ⟨e, herror⟩ | ⟨next, hnext, hstore⟩
  · -- the amount can be added again, so the call does not fail
    have hselect : Document.select [("name", .string "a")] s'.documents =
        .ok [[("_id", .objectId ⟨0⟩), ("name", .string "a"), ("n", .int32 1)]] := rfl
    have hordered : (ReadOptions.ordered {}).skip?.getD 0 = 0 := rfl
    have hfind := Document.find_single_of_select hordered hselect
    rw [Document.arranged_singleton] at hfind
    have htarget : Document.target [("name", .string "a")] (ReadOptions.ordered {}) s'.documents =
        .ok (some 1) := (Document.target_of_find hfind).trans rfl
    rw [findOneAndUpdate_eq hchange, Store.modifyOne_of_target htarget rfl] at herror
    cases herror
  · cases hnext
    rw [hstore]
    rfl

/-- A document whose identifier is no number is read and not found again. So the same call creates a
document each time, and the number of documents grows, while an update in the order of storage
changes the document in its place. -/
theorem repeated_upsert_adds_another :
    ∃ (m : Model) (s s' s'' t : Store) (answer answer' : Except Error (Option Document))
      (report : UpdateReport),
      SchemaDraft.build
        { collection := "t"
          fields := [{ name := "name", type := .string }, { name := "n", type := .int }] } =
        .ok m.schema ∧
      (∀ entry ∈ [("name", .string "a"), ("n__set", .int32 1)],
        m.schema.UpsertArgument [("name", .string "a"), ("n__set", .int32 1)] entry) ∧
      s.documents = [[("_id", .double .nan), ("name", .string "a"), ("n", .int32 0)]] ∧
      m.findOneAndUpdate [("name", .string "a"), ("n__set", .int32 1)] {} true s = (answer, s') ∧
      s'.documents =
        s.documents ++ [[("_id", .objectId ⟨0⟩), ("name", .string "a"), ("n", .int32 1)]] ∧
      m.findOneAndUpdate [("name", .string "a"), ("n__set", .int32 1)] {} true s' =
        (answer', s'') ∧
      s''.documents =
        s'.documents ++ [[("_id", .objectId ⟨1⟩), ("name", .string "a"), ("n", .int32 1)]] ∧
      m.updateOne [("name", .string "a"), ("n__set", .int32 1)] s = (.ok report, t) ∧
      t.documents = [[("_id", .double .nan), ("name", .string "a"), ("n", .int32 1)]] := by
  let m : Model := { schema := ⟨⟨"t"⟩,
    [{ name := "name", type := .string }, { name := "n", type := .int }]⟩ }
  let kwargs : Document := [("name", .string "a"), ("n__set", .int32 1)]
  let stored : Document := [("_id", .double .nan), ("name", .string "a"), ("n", .int32 0)]
  let first : Document := [("_id", .objectId ⟨0⟩), ("name", .string "a"), ("n", .int32 1)]
  let second : Document := [("_id", .objectId ⟨1⟩), ("name", .string "a"), ("n", .int32 1)]
  let ids : IdSource := ⟨fun i => ⟨.ofNat 96 i⟩, 0⟩
  let s : Store := { documents := [stored], ids }
  let s' : Store := { documents := [stored, first], ids := ids.advance }
  let s'' : Store := { documents := [stored, first, second], ids := ids.advance.advance }
  let t : Store :=
    { documents := [[("_id", .double .nan), ("name", .string "a"), ("n", .int32 1)]], ids }
  have harguments : ∀ entry ∈ kwargs, m.schema.UpsertArgument kwargs entry := by
    intro entry hentry
    rcases List.mem_pair.mp hentry with rfl | rfl
    · exact Or.inl ⟨_, List.mem_cons_self, rfl, rfl, rfl⟩
    · exact Or.inr ⟨⟨"n", [], .update .set⟩, rfl, rfl, by decide, by decide⟩
  have hchange : m.lowering.update kwargs =
      .ok { filter := [("name", .string "a")],
            update := [("$set", .document [("n", .int32 1)])] } := rfl
  have hordered : (ReadOptions.ordered {}).skip?.getD 0 = 0 := rfl
  -- the stored document is read first in both calls, and is not found again
  have htarget : Document.target [("name", .string "a")] (ReadOptions.ordered {}) s.documents =
      .ok none := by
    have hselect : Document.select [("name", .string "a")] s.documents = .ok [stored] := rfl
    have hfind := Document.find_single_of_select hordered hselect
    have hlost : s.documents.findIdx? (Document.hasId (.double .nan)) = none := by decide +kernel
    rw [Document.arranged_singleton] at hfind
    exact (Document.target_of_find hfind).trans (congrArg Except.ok hlost)
  have htarget' : Document.target [("name", .string "a")] (ReadOptions.ordered {}) s'.documents =
      .ok none := by
    have hselect : Document.select [("name", .string "a")] s'.documents = .ok [stored, first] := rfl
    have hfind := Document.find_single_of_select hordered hselect
    have hsorted : Document.arranged (ReadOptions.ordered {}) [stored, first] = [stored, first] :=
      List.mergeSort_of_pairwise (List.pairwise_pair.mpr (by decide +kernel))
    have hlost : s'.documents.findIdx? (Document.hasId (.double .nan)) = none := by decide +kernel
    rw [hsorted] at hfind
    exact (Document.target_of_find hfind).trans (congrArg Except.ok hlost)
  have hcall : m.findOneAndUpdate kwargs {} true s = (.ok (some first), s') := by
    rw [findOneAndUpdate_eq hchange, Store.modifyOne_of_no_target htarget]
    rfl
  have hcall' : m.findOneAndUpdate kwargs {} true s' = (.ok (some second), s'') := by
    rw [findOneAndUpdate_eq hchange, Store.modifyOne_of_no_target htarget']
    rfl
  obtain ⟨report, hupdate⟩ : ∃ report, m.updateOne kwargs s = (.ok report, t) := by
    rw [updateOne, Action.check_bind_apply hchange]
    change ∃ report, Change.ofFirst [("name", .string "a")] false
      (.update [("$set", .document [("n", .int32 1)])]) s = (.ok report, t)
    have hdocuments : s.documents = [] ++ stored :: [] := rfl
    have hmatch : Document.satisfies stored [("name", .string "a")] = .ok true := rfl
    have hnext : (Change.update [("$set", .document [("n", .int32 1)])]).apply stored =
        .ok [("_id", .double .nan), ("name", .string "a"), ("n", .int32 1)] := rfl
    exact Change.ofFirst_of_selected rfl hdocuments (fun _ h => absurd h List.not_mem_nil) hmatch
      hnext
  exact ⟨m, s, s', s'', t, _, _, report, rfl, harguments, rfl, hcall, rfl, hcall', rfl, hupdate,
    rfl⟩

end Model

end DocMapper
