import DocMapper.Proofs.Conjunction
import DocMapper.Proofs.ModelUpserts
import DocMapper.Proofs.Selection
import DocMapper.Proofs.Suffixes

namespace DocMapper

/-! # Finding what was created

A call that finds or creates an instance reads its keyword arguments twice: as a filter, and as the
values that a new instance starts from. For equality on fields of simple types and on the
identifier both readings have the same values. They stay through the defaults, the normal form and
the insertion, so a second call finds what the first has created.
-/

/-! ## Simple operands -/

namespace Value

variable {v : Value}

/-- Null, or a value of a simple type. -/
def IsPlain (v : Value) : Prop := v = .null ∨ v.isKey = true

/-- A plain value is compared, and a value meets itself. -/
theorem IsPlain.meets_self (h : v.IsPlain) : meets (some v) v = .ok true := by
  rcases h with rfl | hkey
  · rfl
  · have hequals : v.equals v = true := by
      refine equals_of_identity hkey rfl ?_
      rintro fields rfl
      cases hkey
    rw [meets_of_not_operators (isOperators_of_isKey hkey), equalsOperand_of_equals hequals]

end Value

namespace FieldType

variable {type : FieldType} {v : Value}

/-- The simple types, and those that allow null besides. -/
def isPlain : FieldType → Bool
  | optional inner => inner.isPlain
  | type => type ∈ keyTypes

theorem isPlain_of_admits (h : type.isPlain = true) (hv : type.Admits v) : v.IsPlain := by
  induction type with
  | optional inner ih =>
    rcases admits_optional.mp hv with rfl | hv
    · exact Or.inl rfl
    · exact ih h hv
  | _ => exact Or.inr (isKey_of_admits (of_decide_eq_true h) hv)

/-- Plain types are no types of lists. -/
theorem element?_of_isPlain (h : type.isPlain = true) : type.element? = none := by
  induction type with
  | optional inner ih => exact ih h
  | array items => cases h
  | _ => rfl

/-- A field of a plain type is compared with plain values only. -/
theorem isPlain_of_checkOperand {path : String} (h : type.isPlain = true)
    (hv : checkOperand path v type = .ok ()) : v.IsPlain := by
  rcases admits_of_checkOperand (element?_of_isPlain h) hv with hnull | hadmits
  · exact Or.inl hnull
  · exact isPlain_of_admits h hadmits

end FieldType

/-- A keyword argument asks for equality on a declared field of a plain type, or on the identifier,
given as an object identifier or as a text. -/
def Schema.PlainArgument (schema : Schema) (entry : String × Value) : Prop :=
  (entry.1 = Document.idKey ∧
    ((∃ id, entry.2 = .objectId id) ∨ ∃ text, entry.2 = .string text)) ∨
  ∃ f ∈ schema.fields, f.name = entry.1 ∧ f.type.isPlain = true

/-! ## Both readings of the keyword arguments -/

/-- What plain keyword arguments stand for: their values, with identifiers read. -/
def Document.operands (kwargs : Document) : Document :=
  kwargs.map fun (key, value) => (key, Reconciler.comparand key value)

/-- At each of its paths, which are filterable fields, a draft asks for equality with a plain value
that the document has there. -/
def Schema.Pins (schema : Schema) (draft : FilterDraft) (d : Document) : Prop :=
  ∀ path c, draft.lookup path = some c →
    (∃ f, schema.field? path = some f ∧ f.queryable = true) ∧
      ∃ v : Value, v.IsPlain ∧ c = { equal? := some v } ∧ Document.get? d path = some v

namespace Schema

variable {schema : Schema} {draft draft' : FilterDraft} {d d' : Document} {entry : String × Value}
  {f : Field} {v : Value}

theorem Pins.mono (h : schema.Pins draft d)
    (hkeep : ∀ key v, Document.get? d key = some v → Document.get? d' key = some v) :
    schema.Pins draft d' := by
  intro path c hc
  obtain ⟨hfield, v, hv, hequal, hget⟩ := h path c hc
  exact ⟨hfield, v, hv, hequal, hkeep path v hget⟩

/-- Asking for equality and having the value go together. -/
theorem Pins.setEqual (h : schema.Pins draft d) (hf : schema.field? f.name = some f)
    (hqueryable : f.queryable = true) (hv : v.IsPlain) :
    schema.Pins (draft.setEqual f.name v) (Document.insert d f.name v) := by
  intro path c hc
  rw [FilterDraft.setEqual, FilterDraft.lookup_modify] at hc
  split at hc
  · rename_i hpath
    subst hpath
    refine ⟨⟨f, hf, hqueryable⟩, v, hv, ?_, Document.get?_insert_self d f.name v⟩
    rw [← Option.some.inj hc]
    -- an earlier key on the path has asked for equality only, so the new value takes its place
    cases hbefore : draft.lookup f.name with
    | none => rfl
    | some before =>
      obtain ⟨-, w, -, rfl, -⟩ := h f.name before hbefore
      rfl
  · rename_i hne
    obtain ⟨hfield, w, hw, hequal, hget⟩ := h path c hc
    exact ⟨hfield, w, hw, hequal, by rw [Document.get?_insert_of_ne hne, hget]⟩

/-- A field that filters leave out of account may have any value. -/
theorem Pins.insert (h : schema.Pins draft d) (hf : schema.field? f.name = some f)
    (hqueryable : f.queryable = false) : schema.Pins draft (Document.insert d f.name v) := by
  intro path c hc
  obtain ⟨⟨g, hg, hqueryable'⟩, w, hw, hequal, hget⟩ := h path c hc
  have hne : f.name ≠ path := by
    rintro rfl
    rw [hf, Option.some.injEq] at hg
    rw [hg, hqueryable'] at hqueryable
    cases hqueryable
  exact ⟨⟨g, hg, hqueryable'⟩, w, hw, hequal, by rw [Document.get?_insert_of_ne hne, hget]⟩

/-- A plain keyword argument names a field, and what the field is compared with is plain. -/
theorem PlainArgument.exists_field (hs : schema.WellFormed) (h : schema.PlainArgument entry) :
    ∃ f, f.name = entry.1 ∧ schema.field? f.name = some f ∧
      ∀ w, f.subject.comparand entry.2 = .ok w →
        w = Reconciler.comparand entry.1 entry.2 ∧ w.IsPlain := by
  -- whatever the field is, an accepted operand is read as the reconciler reads it
  have hcomparand : ∀ {f : Field} {w}, f.name = entry.1 → f.subject.comparand entry.2 = .ok w →
      w = Reconciler.comparand entry.1 entry.2 := by
    intro f w hname hw
    rw [(Subject.accept_eq_ok hw).1, Reconciler.comparand, ← hname]
    simp [Field.subject]
  rcases h with ⟨hid, hvalue⟩ | ⟨f, hf, hname, htype⟩
  · refine ⟨.id, hid.symm, rfl, fun w hw => ⟨hcomparand hid.symm hw, ?_⟩⟩
    rw [hcomparand hid.symm hw, Reconciler.comparand, if_pos hid]
    rcases hvalue with ⟨id, hvalue⟩ | ⟨text, hvalue⟩
    · rw [hvalue]
      exact Or.inr rfl
    · rw [hvalue, Value.readId]
      split
      · exact Or.inr rfl
      · exact Or.inr rfl
  · refine ⟨f, hname, hs.field?_of_mem hf, fun w hw => ⟨hcomparand hname hw, ?_⟩⟩
    exact FieldType.isPlain_of_checkOperand htype ((Subject.accept_eq_ok hw).2 f.type rfl)

end Schema

namespace Lowering

variable {l : Lowering} {schema : Schema} {kwargs filter d : Document} {entry : String × Value}
  {draft draft' : FilterDraft}

/-- What a plain keyword argument adds to a filter, a document has that takes its operand. -/
theorem pins_of_addFilter (hl : l.schema? = some schema) (hs : schema.WellFormed)
    (hplain : schema.PlainArgument entry) (hpins : schema.Pins draft d)
    (h : l.addFilter draft entry = .ok draft') :
    schema.Pins draft' (Document.insert d entry.1 (Reconciler.comparand entry.1 entry.2)) := by
  obtain ⟨key, value⟩ := entry
  obtain ⟨f, hname, hf, hcomparand⟩ := hplain.exists_field hs
  change f.name = key at hname
  subst hname
  -- the name of a field alone is an equality on that field
  have happlies := applies_of_parse hl hf (hs.legal_of_field? hf).parse value
  have hadd : filterAt f f.name (.filter .eq) value draft = .ok draft' :=
    (happlies.filters draft).symm.trans h
  simp only [filterAt] at hadd
  split at hadd
  · rename_i hqueryable
    obtain ⟨w, hw, hadd⟩ := bind_eq_ok.mp hadd
    cases pure_eq_ok.mp hadd
    obtain ⟨rfl, hoperand⟩ := hcomparand w hw
    exact hpins.setEqual hf hqueryable hoperand
  · rename_i hqueryable
    cases hadd
    -- a field that is not queryable adds nothing to the filter
    exact hpins.insert hf (by simpa using hqueryable)

/-- What the filter of plain keyword arguments asks for, a document has that takes their
operands. -/
theorem pins_of_foldlM (hl : l.schema? = some schema) (hs : schema.WellFormed)
    (hplain : ∀ entry ∈ kwargs, schema.PlainArgument entry) (hpins : schema.Pins draft d)
    (h : kwargs.foldlM l.addFilter draft = .ok draft') :
    schema.Pins draft' (Document.insertAll d kwargs.operands) := by
  -- the draft and the document start from what the keys before have left
  induction kwargs generalizing draft d with
  | nil =>
    rw [List.foldlM_nil, pure_eq_ok] at h
    exact h ▸ hpins
  | cons entry rest ih =>
    rw [List.foldlM_cons] at h
    obtain ⟨next, hnext, hrest⟩ := bind_eq_ok.mp h
    have hstep := pins_of_addFilter hl hs (hplain entry List.mem_cons_self) hpins hnext
    exact ih (fun e he => hplain e (List.mem_cons_of_mem _ he)) hstep hrest

/-- The operands of plain keyword arguments satisfy the filter, and so does every document that has
them. -/
theorem satisfies_of_operands (hl : l.schema? = some schema) (hs : schema.WellFormed)
    (hplain : ∀ entry ∈ kwargs, schema.PlainArgument entry) (hfilter : l.filter kwargs = .ok filter)
    (hkeep : ∀ key v, Document.get? (Document.insertAll [] kwargs.operands) key = some v →
      Document.get? d key = some v) :
    Document.satisfies d filter = .ok true := by
  have hpins : schema.Pins (l.conditions kwargs) d :=
    (pins_of_foldlM hl hs hplain (fun _ _ hnone => by cases hnone)
      (filter_eq_ok.mp hfilter).1).mono hkeep
  rw [satisfies_filter hl hs hfilter]
  intro path c hc
  obtain ⟨⟨f, hf, -⟩, v, hv, rfl, hget⟩ := hpins path c hc
  have hlegal := hs.legal_of_field? hf
  rw [(Schema.field?_eq_some hf).1] at hlegal
  rw [Document.getPath?_of_legalName hlegal, hget]
  exact hv.meets_self

end Lowering

namespace Model

variable {m : Model} {kwargs defaults filter inst d : Document} {s s' : Store}

/-- What plain keyword arguments say about a new instance is their operands. -/
theorem seedOf_eq (hs : m.schema.WellFormed)
    (hplain : ∀ entry ∈ kwargs, m.schema.PlainArgument entry) :
    seedOf kwargs = .ok (Document.insertAll [] kwargs.operands) := by
  rw [seedOf]
  generalize ([] : Document) = seed
  induction kwargs generalizing seed with
  | nil => rfl
  | cons entry rest ih =>
    obtain ⟨key, value⟩ := entry
    obtain ⟨f, hname, hf, -⟩ := (hplain _ List.mem_cons_self).exists_field hs
    have hparse := (hs.legal_of_field? hf).parse
    rw [hname] at hparse
    have hrest := ih (fun e he => hplain e (List.mem_cons_of_mem _ he))
      (Document.insert seed key (Reconciler.comparand key value))
    rw [List.foldlM_cons]
    simp only [hparse, ok_bind]
    exact hrest

/-- Defaults leave the values alone that are there. -/
theorem get?_of_completed {key : String} {v : Value} (h : Document.get? d key = some v)
    (defaults : Document) : Document.get? (completed d defaults) key = some v := by
  rw [completed]
  induction defaults generalizing d with
  | nil => exact h
  | cons entry rest ih =>
    rw [List.foldl_cons]
    refine ih ?_
    dsimp only
    split
    · exact h
    · rename_i habsent
      have hne : entry.1 ≠ key := by
        rintro rfl
        have hmem := Document.mem_keys_of_mem (Document.mem_of_get?_eq_some h)
        exact habsent (Document.hasKey_iff.mpr hmem)
      rw [Document.get?_insert_of_ne hne, h]

/-! ## Creating and finding -/

/-- An instance is created when the filter selects nothing, and is made of the keyword arguments and
the defaults. -/
theorem getOrCreate_eq_created :
    m.getOrCreate kwargs defaults s = (.ok (inst, true), s') ↔
      ∃ filter seed d id, m.filter kwargs = .ok filter ∧
        Document.select filter s.documents = .ok [] ∧ seedOf kwargs = .ok seed ∧
        m.schema.normalize (completed seed defaults) = .ok d ∧ m.decode d = .ok d ∧
        s.insert d = .ok (id, s') ∧ inst = withId d id := by
  simp only [getOrCreate, Action.bind_apply_eq_ok, Action.check_apply_eq_ok]
  constructor
  · rintro ⟨filter, _, ⟨hfilter, rfl⟩, found, t, hfirst, h⟩
    cases found with
    | some d => cases h
    | none =>
      -- only a search that finds nothing leads to an insertion
      obtain ⟨hselect, rfl⟩ := first_eq_none.mp hfirst
      simp only [Action.bind_apply_eq_ok, Action.check_apply_eq_ok, Action.insertOne,
        Action.atomic_apply_eq_ok] at h
      obtain ⟨seed, _, ⟨hseed, rfl⟩, d, _, ⟨hnormal, rfl⟩, d', _, ⟨hdecode, rfl⟩, id, t, hinsert,
        h⟩ := h
      cases h
      obtain ⟨rfl, -⟩ := decode_eq_ok.mp hdecode
      exact ⟨filter, seed, d', id, hfilter, hselect, hseed, hnormal, hdecode, hinsert, rfl⟩
  · rintro ⟨filter, seed, d, id, hfilter, hselect, hseed, hnormal, hdecode, hinsert, rfl⟩
    refine ⟨filter, s, ⟨hfilter, rfl⟩, none, s, first_eq_none.mpr ⟨hselect, rfl⟩, ?_⟩
    simp only [Action.bind_apply_eq_ok, Action.check_apply_eq_ok, Action.insertOne,
      Action.atomic_apply_eq_ok]
    exact ⟨seed, s, ⟨hseed, rfl⟩, d, s, ⟨hnormal, rfl⟩, d, s, ⟨hdecode, rfl⟩, id, s', hinsert, rfl⟩

/-- An instance is found when its document is the only one that the filter selects, whatever the
defaults. -/
theorem getOrCreate_of_select (hfilter : m.filter kwargs = .ok filter)
    (hselect : Document.select filter s.documents = .ok [d]) (hdecode : m.decode d = .ok d)
    (defaults : Document) : m.getOrCreate kwargs defaults s = (.ok (d, false), s) := by
  rw [getOrCreate, Action.check_bind_apply hfilter, Action.bind_apply, first_apply hselect,
    Document.sortBy, List.mergeSort_singleton]
  dsimp only [List.head?_cons]
  rw [hdecode]
  rfl

/-- A new instance has the identifier under which it was inserted. -/
theorem id?_withId {id : Value} (h : s.Inserted d id s') :
    Document.id? (withId d id) = some id := by
  cases hid : Document.id? d with
  | none =>
    rw [h.fresh hid]
    exact Document.get?_insert_self _ _ _
  | some given =>
    rw [← h.given given hid] at hid
    cases id with
    | objectId i => exact Document.get?_insert_self _ _ _
    | _ => exact hid

/-- Finding or creating by plain keyword arguments is stable: after a call that has created an
instance, every call with the same arguments finds it under the same identifier, whatever the
defaults, and leaves the collection as it is. -/
theorem getOrCreate_is_stable {draft : SchemaDraft} (hbuild : draft.build = .ok m.schema)
    (hplain : ∀ entry ∈ kwargs, m.schema.PlainArgument entry)
    (h : m.getOrCreate kwargs defaults s = (.ok (inst, true), s')) :
    ∃ found id, s'.documents = s.documents ++ [found] ∧
      Document.id? inst = some id ∧ Document.id? found = some id ∧
      ∀ defaults', m.getOrCreate kwargs defaults' s' = (.ok (found, false), s') := by
  have hs := SchemaDraft.build_wellFormed hbuild
  obtain ⟨filter, seed, d, id, hfilter, hselect, hseed, hnormal, hdecode, hinsert, rfl⟩ :=
    getOrCreate_eq_created.mp h
  rw [seedOf_eq hs hplain, Except.ok.injEq] at hseed
  subst hseed
  have hinserted := Store.insert_eq_ok hinsert
  let found : Document := (Document.idKey, id) :: Document.erase d Document.idKey
  have hkeep : ∀ key v, Document.get? d key = some v → Document.get? found key = some v :=
    fun key v => hinserted.get?_of_some
  -- the operands stay through the defaults, the normal form and the insertion
  have hsatisfies : Document.satisfies found filter = .ok true := by
    refine Lowering.satisfies_of_operands rfl hs hplain hfilter fun key v hv => ?_
    exact hkeep key v (Schema.get?_of_normalize_of_some hs hnormal (get?_of_completed hv defaults))
  have honly : Document.select filter [found] = .ok [found] := by
    rw [Document.select, hsatisfies]
    rfl
  have hselect' : Document.select filter s'.documents = .ok [found] :=
    hinserted.documents ▸ Document.select_append hselect honly
  have hdecode' : m.decode found = .ok found := by
    refine decode_eq_ok.mpr ⟨rfl, fun name hname => ?_⟩
    obtain ⟨v, hv⟩ := Document.exists_get?_of_mem_keys ((decode_eq_ok.mp hdecode).2 name hname)
    exact Document.mem_keys_of_mem (Document.mem_of_get?_eq_some (hkeep name v hv))
  exact ⟨found, id, hinserted.documents, id?_withId hinserted, Document.get?_cons_self _ _ _,
    fun defaults' => getOrCreate_of_select hfilter hselect' hdecode' defaults'⟩

/-- Instances with a note that may be null and a number that filters leave out of account. -/
def notedModel : Model :=
  { schema := ⟨⟨"t"⟩, [{ name := "name", type := .string },
      { name := "note", type := .optional .string },
      { name := "n", type := .int, queryable := false }]⟩ }

theorem build_notedModel : SchemaDraft.build
    { collection := "t"
      fields := [{ name := "name", type := .string }, { name := "note", type := .optional .string },
        { name := "n", type := .int }]
      excluded := ["n"] } = .ok notedModel.schema := rfl

/-- The theorem at an identifier in hexadecimal digits, a null and a number that is left out of
account, with other defaults the second time. -/
theorem getOrCreate_is_stable_by_hex_text :
    ∃ (kwargs : Document) (s s' : Store) (inst found : Document),
      kwargs = [("_id", .string "0123456789abcdef01234567"), ("note", .null), ("n", .int32 5)] ∧
      s.documents = [[("_id", .objectId ⟨1⟩), ("name", .string "b"), ("note", .null),
        ("n", .int32 5)]] ∧
      notedModel.getOrCreate kwargs [("name", .string "a"), ("n", .int32 7)] s =
        (.ok (inst, true), s') ∧
      s'.documents = s.documents ++ [found] ∧
      Document.id? found = some (.objectId ⟨0x0123456789abcdef01234567⟩) ∧
      notedModel.getOrCreate kwargs [("name", .string "c")] s' = (.ok (found, false), s') := by
  let kwargs : Document :=
    [("_id", .string "0123456789abcdef01234567"), ("note", .null), ("n", .int32 5)]
  let other : Document :=
    [("_id", .objectId ⟨1⟩), ("name", .string "b"), ("note", .null), ("n", .int32 5)]
  let inst : Document :=
    [("_id", .objectId ⟨0x0123456789abcdef01234567⟩), ("name", .string "a"), ("note", .null),
      ("n", .int32 5)]
  let s : Store := { documents := [other], ids := ⟨fun _ => ⟨0⟩, 0⟩ }
  let s' : Store := { s with documents := [other, inst] }
  have hplain : ∀ entry ∈ kwargs, notedModel.schema.PlainArgument entry := by
    simp only [kwargs, List.forall_mem_cons]
    refine ⟨Or.inl ⟨rfl, Or.inr ⟨_, rfl⟩⟩, Or.inr ⟨_, List.mem_cons_of_mem _ List.mem_cons_self,
      rfl, rfl⟩, Or.inr ⟨_, List.mem_cons_of_mem _ (List.mem_cons_of_mem _ List.mem_cons_self),
      rfl, rfl⟩, fun _ h => absurd h List.not_mem_nil⟩
  -- the text is read as an identifier both in the filter and in the seed
  have hfilter : notedModel.filter kwargs =
      .ok [("_id", .objectId ⟨0x0123456789abcdef01234567⟩), ("note", .null)] := rfl
  have hseed : seedOf kwargs = .ok [("_id", .objectId ⟨0x0123456789abcdef01234567⟩),
      ("note", .null), ("n", .int32 5)] := rfl
  have hcall : notedModel.getOrCreate kwargs [("name", .string "a"), ("n", .int32 7)] s =
      (.ok (inst, true), s') :=
    getOrCreate_eq_created.mpr ⟨_, _, inst, _, hfilter, rfl, hseed, rfl, rfl, rfl, rfl⟩
  obtain ⟨found, id, hdocuments, hinst, hfound, hsecond⟩ :=
    getOrCreate_is_stable build_notedModel hplain hcall
  exact ⟨kwargs, s, s', inst, found, rfl, rfl, hcall, hdocuments, hfound.trans hinst.symm,
    hsecond _⟩

end Model

end DocMapper
