import DocMapper.Proofs.BatchUpserts

namespace DocMapper

/-! # Updating or creating instances

Instances of a model are matched by fields of simple types, batch after batch. When their keys are
distinct, a call that succeeds leaves each of them stored once, with its values, and disturbs
nothing else. Whatever the keys, afterwards all instances are found, so that another call succeeds
and only updates.
-/

namespace FieldType

/-- The types whose values identify an instance. -/
def keyTypes : List FieldType := [.string, .int, .bool, .dateTime, .objectId]

theorem isKey_of_admits {type : FieldType} (h : type ∈ keyTypes) {v : Value}
    (hv : type.Admits v) : v.isKey = true := by
  have hcheck := hv ""
  simp only [keyTypes, List.mem_cons, List.not_mem_nil, or_false] at h
  rcases h with rfl | rfl | rfl | rfl | rfl <;> cases v <;> first | rfl | cases hcheck

end FieldType

namespace Reconciler

variable {r : Reconciler} {d : Document}

/-- The fields that updates write. -/
def writtenFields (r : Reconciler) : List String := r.updateFields?.getD r.schema.fieldNames

/-- The query fields are declared with simple types, and the update fields are declared. -/
structure Regular (r : Reconciler) : Prop where
  wellFormed : r.schema.WellFormed
  query : ∀ name ∈ r.queryFields,
    ∃ f ∈ r.schema.fields, f.name = name ∧ f.type ∈ FieldType.keyTypes
  update : ∀ name ∈ r.writtenFields, name ∈ r.schema.fieldNames

namespace Regular

theorem ownFields (hr : r.Regular) : r.OwnFields := by
  intro name hname
  obtain ⟨f, hf, rfl, -⟩ := hr.query name hname
  exact ⟨hr.wellFormed.legal f hf, hr.wellFormed.name_ne_id hf⟩

/-- What updates write is there in every instance. -/
theorem mem_keys_written (hr : r.Regular) (hd : r.schema.Describes d) {name : String} :
    name ∈ Document.keys (r.written d) ↔ name ∈ r.writtenFields := by
  unfold written writtenFields
  cases hupdate : r.updateFields? with
  | none =>
    dsimp only
    rw [hd.names]
    rfl
  | some fields =>
    rw [Option.getD_some, Document.mem_keys_pick]
    refine and_iff_left_of_imp fun hname => ?_
    have hdeclared : name ∈ r.schema.fieldNames := hr.update name (by rwa [writtenFields, hupdate])
    obtain ⟨f, hf, rfl⟩ := List.mem_map.mp hdeclared
    obtain ⟨v, hv⟩ := hd.exists_value hf
    exact Document.mem_keys_of_mem (Document.mem_of_get?_eq_some hv)

/-- An instance of the schema can be matched and written. -/
theorem suits (hr : r.Regular) (hd : r.schema.Describes d)
    (hid : ∀ id, Document.id? d = some id → ∃ i : ObjectId, id = .objectId i) : r.Suits d where
  simple := by
    intro name hname
    obtain ⟨f, hf, rfl, htype⟩ := hr.query name hname
    obtain ⟨v, hv⟩ := hd.exists_value hf
    exact ⟨v, hv, FieldType.isKey_of_admits htype (hd.values f hf v hv)⟩
  settable := by
    intro entry hentry
    have hname := (hr.mem_keys_written hd).mp (Document.mem_keys_of_mem hentry)
    obtain ⟨f, hf, hfname⟩ := List.mem_map.mp (hr.update _ hname)
    rw [← hfname]
    exact ⟨hr.wellFormed.legal f hf, hr.wellFormed.name_ne_id hf⟩
  distinct := hd.nodup_keys_written hr.wellFormed r
  own := fun _ => hd.get?_of_mem_written hr.wellFormed
  objectId := hid

/-- A document that holds what an instance writes has its values in the written fields. -/
theorem get?_of_holds (hr : r.Regular) {inst : Document} (hinst : r.schema.Describes inst)
    (h : r.Holds inst d) {name : String} (hname : name ∈ r.writtenFields) :
    Document.get? d name = Document.get? inst name := by
  obtain ⟨v, hv⟩ := Document.exists_of_mem_keys ((hr.mem_keys_written hinst).mpr hname)
  rw [h _ hv, hinst.get?_of_mem_written hr.wellFormed hv]

end Regular

end Reconciler

namespace Model

variable {m : Model} {queryFields : List String} {updateFields? : Option (List String)}
  {instances docs : List Document} {batchSize : Option Nat} {s s' : Store}
  {summary : BatchSummary}

/-- Storing an instance keeps an object identifier. -/
theorem id?_of_encode (hs : m.schema.WellFormed) {inst d : Document} (h : m.encode inst = .ok d)
    (hid : ∀ id, Document.id? inst = some id → id = .null ∨ ∃ i : ObjectId, id = .objectId i)
    {id : Value} (hd : Document.id? d = some id) : ∃ i : ObjectId, id = .objectId i := by
  rw [id?_encoded hs h, Option.filter_eq_some_iff] at hd
  obtain ⟨hgiven, hnull⟩ := hd
  rcases hid id hgiven with rfl | hobject
  · cases hnull
  · exact hobject

/-- A call succeeds when the instances can be stored and matched, and the batches succeed. -/
theorem upsertInstances_eq_ok :
    m.upsertInstances instances queryFields updateFields? batchSize s = (.ok summary, s') ↔
      ∃ r docs, Reconciler.make m.schema queryFields updateFields? = .ok r ∧
        instances.mapM m.encode = .ok docs ∧ r.checkBatch docs = .ok () ∧
        sumUp r.upsertBatch (batchesOf (batchSize.getD defaultBatchSize) docs) s =
          (.ok summary, s') := by
  simp only [upsertInstances, Action.bind_apply_eq_ok, Action.check_apply_eq_ok]
  constructor
  · rintro ⟨r, _, ⟨hr, rfl⟩, docs, _, ⟨hdocs, rfl⟩, ⟨⟩, _, ⟨hcheck, rfl⟩, h⟩
    exact ⟨r, docs, hr, hdocs, hcheck, h⟩
  · rintro ⟨r, docs, hr, hdocs, hcheck, h⟩
    exact ⟨r, s, ⟨hr, rfl⟩, docs, s, ⟨hdocs, rfl⟩, (), s, ⟨hcheck, rfl⟩, h⟩

/-- A call that succeeds has matched the stored forms of the instances in batches. -/
theorem batches_of_upsertInstances {r : Reconciler}
    (hmake : Reconciler.make m.schema queryFields updateFields? = .ok r)
    (hencode : instances.mapM m.encode = .ok docs)
    (h : m.upsertInstances instances queryFields updateFields? batchSize s =
      (.ok summary, s')) :
    ∃ parts : List (List Document), parts.flatten = docs ∧ r.checkBatch docs = .ok () ∧
      sumUp r.upsertBatch parts s = (.ok summary, s') := by
  obtain ⟨r', docs', hmake', hencode', hcheck, h⟩ := upsertInstances_eq_ok.mp h
  cases hmake.symm.trans hmake'
  cases hencode.symm.trans hencode'
  exact ⟨_, flatten_batches _ docs, hcheck, h⟩

section Calls

variable {r : Reconciler} (hs : m.schema.WellFormed)
  (hmake : Reconciler.make m.schema queryFields updateFields? = .ok r)
  (hquery : ∀ name ∈ queryFields,
    ∃ f ∈ m.schema.fields, f.name = name ∧ f.type ∈ FieldType.keyTypes)
  (hupdate : ∀ fields, updateFields? = some fields →
    ∀ name ∈ fields, name ∈ m.schema.fieldNames)
  (hids : ∀ inst ∈ instances, ∀ id, Document.id? inst = some id →
    id = .null ∨ ∃ i : ObjectId, id = .objectId i)
  (hencode : instances.mapM m.encode = .ok docs)

include hs hmake hquery hupdate

theorem regular_of_make : r.Regular := by
  obtain ⟨rfl, -⟩ := Reconciler.make_eq_ok hmake
  refine ⟨hs, hquery, fun name hname => ?_⟩
  unfold Reconciler.writtenFields at hname
  dsimp only at hname
  cases hfields : updateFields? with
  | none =>
    rw [hfields] at hname
    exact hname
  | some fields =>
    rw [hfields] at hname
    exact hupdate fields hfields name hname

include hids hencode

/-- What is stored of the instances can be matched and written. -/
theorem suits_of_encodes : ∀ d ∈ docs, r.Suits d := by
  intro d hd
  have hr := regular_of_make hs hmake hquery hupdate
  have hschema : r.schema = m.schema := by rw [(Reconciler.make_eq_ok hmake).1]
  obtain ⟨inst, hinst, hd'⟩ := exists_of_mem_mapM hencode hd
  exact hr.suits (hschema ▸ describes_of_encode hs hd') fun id hid =>
    id?_of_encode hs hd' (hids inst hinst) hid

end Calls

/-! ## Calls that succeed -/

/-- Updating or creating instances with distinct keys, if it succeeds: every instance is matched
or inserted; stored documents stay in place with their identifiers, and unchanged where no instance
has their key; those of the missing instances follow in order; and for every instance a stored
document with its key has its values in the written fields. -/
theorem upsertInstances_updates_or_creates {draft : SchemaDraft} {schema : Schema}
    (hbuild : draft.build = .ok schema) (required : List String) (policy : SuffixPolicy)
    {r : Reconciler} (hmake : Reconciler.make schema queryFields updateFields? = .ok r)
    (hquery : ∀ name ∈ queryFields,
      ∃ f ∈ schema.fields, f.name = name ∧ f.type ∈ FieldType.keyTypes)
    (hupdate : ∀ fields, updateFields? = some fields → ∀ name ∈ fields, name ∈ schema.fieldNames)
    (hids : ∀ inst ∈ instances, ∀ id, Document.id? inst = some id →
      id = .null ∨ ∃ i : ObjectId, id = .objectId i)
    (hencode : instances.mapM (encode { schema, required, policy }) = .ok docs)
    (hkeys : (docs.map r.key?).Nodup) (hs : Document.Identified s.documents)
    (hrun : upsertInstances { schema, required, policy } instances queryFields updateFields?
      batchSize s = (.ok summary, s')) :
    summary.matched + summary.insertedIds.length = instances.length ∧
    (∃ old created, s'.documents = old ++ created ∧
      List.Forall₂ (fun d d' => Document.id? d' = Document.id? d ∧
        ((∀ inst ∈ docs, r.key? inst ≠ r.key? d) → d' = d)) s.documents old ∧
      List.Forall₂ Document.Stores (r.missing docs s.documents) created ∧
      created.map Document.id? = summary.insertedIds.map some) ∧
    ∀ inst ∈ docs, ∃ d ∈ s'.documents, r.key? d = r.key? inst ∧
      ∀ name ∈ r.writtenFields, Document.get? d name = Document.get? inst name := by
  have hwf := SchemaDraft.build_wellFormed hbuild
  have hr : r.Regular :=
    regular_of_make (m := { schema, required, policy }) hwf hmake hquery hupdate
  have hall : ∀ d ∈ docs, r.Suits d := suits_of_encodes hwf hmake hquery hupdate hids hencode
  obtain ⟨parts, rfl, hcheck, hsum⟩ := batches_of_upsertInstances hmake hencode hrun
  have hupserted := Reconciler.upserted_of_sumUp hr.ownFields hall hcheck hs hkeys hsum
  refine ⟨?_, ?_, fun inst hinst => ?_⟩
  · -- every instance is counted once, as an update or as an insertion
    rw [hupserted.count]
    exact (forall₂_of_mapM_eq_ok hencode).length_eq.symm
  · obtain ⟨old, created, hdocs, hkept, hstores, hnew⟩ := hupserted.documents
    refine ⟨old, created, hdocs, hkept.imp fun d d' h => ⟨h.id, fun hothers => h.others ?_⟩,
      hstores, hnew⟩
    -- the batches speak of the stored key; for an instance that suits the schema it is its own key
    intro inst hinst hfound
    exact hothers inst hinst ((hall inst hinst).key?_eq_of_foundKey? hfound.symm).symm
  · obtain ⟨d, hd, hkey, hholds⟩ := hupserted.holds hkeys inst hinst
    -- a written value is read back as the instance has it, since the schema describes the encoding
    have hdescribes : r.schema.Describes inst := by
      rw [(Reconciler.make_eq_ok hmake).1]
      exact describes_of_encodes (m := { schema, required, policy }) hwf hencode inst hinst
    exact ⟨d, hd, (hall inst hinst).key?_eq_of_foundKey? hkey,
      fun name hname => hr.get?_of_holds hdescribes hholds hname⟩

/-- Texts under a key that is a text. -/
def keyedTexts : Schema :=
  ⟨⟨"t"⟩, [{ name := "k", type := .string }, { name := "v", type := .string }]⟩

theorem build_keyedTexts : SchemaDraft.build
    { collection := "t"
      fields := [{ name := "k", type := .string }, { name := "v", type := .string }] } =
    .ok keyedTexts := rfl

theorem keyedTexts_query : ∀ name ∈ ["k"],
    ∃ f ∈ keyedTexts.fields, f.name = name ∧ f.type ∈ FieldType.keyTypes := by
  intro name hname
  rw [List.mem_singleton.mp hname]
  exact ⟨{ name := "k", type := .string }, List.mem_cons_self, rfl, List.mem_cons_self⟩

/-- The theorem at a call in two batches, of which the first updates and the second inserts. -/
theorem upsertInstances_updates_or_creates_in_two_batches :
    ∃ (r : Reconciler) (docs : List Document) (s s' : Store),
      Reconciler.make keyedTexts ["k"] none = .ok r ∧
      docs = [[("k", .string "a"), ("v", .string "x")], [("k", .string "b"), ("v", .string "y")]] ∧
      s.documents = [[("_id", .objectId ⟨0⟩), ("k", .string "c"), ("v", .string "z")],
        [("_id", .objectId ⟨1⟩), ("k", .string "a"), ("v", .string "z")]] ∧
      upsertInstances { schema := keyedTexts } docs ["k"] none (some 1) s =
        (.ok { matched := 1, modified := 1, insertedIds := [.objectId ⟨2⟩] }, s') ∧
      s'.documents = [[("_id", .objectId ⟨0⟩), ("k", .string "c"), ("v", .string "z")],
        [("_id", .objectId ⟨1⟩), ("k", .string "a"), ("v", .string "x")],
        [("_id", .objectId ⟨2⟩), ("k", .string "b"), ("v", .string "y")]] ∧
      ∀ inst ∈ docs, ∃ d ∈ s'.documents, r.key? d = r.key? inst ∧
        ∀ name ∈ r.writtenFields, Document.get? d name = Document.get? inst name := by
  let r : Reconciler := { schema := keyedTexts, queryFields := ["k"] }
  let a : Document := [("k", .string "a"), ("v", .string "x")]
  let b : Document := [("k", .string "b"), ("v", .string "y")]
  let s : Store :=
    { documents := [[("_id", .objectId ⟨0⟩), ("k", .string "c"), ("v", .string "z")],
        [("_id", .objectId ⟨1⟩), ("k", .string "a"), ("v", .string "z")]]
      ids := ⟨fun _ => ⟨2⟩, 0⟩ }
  let t : Store :=
    { documents := [[("_id", .objectId ⟨0⟩), ("k", .string "c"), ("v", .string "z")],
        [("_id", .objectId ⟨1⟩), ("k", .string "a"), ("v", .string "x")]]
      ids := ⟨fun _ => ⟨2⟩, 0⟩ }
  let s' : Store :=
    { documents := [[("_id", .objectId ⟨0⟩), ("k", .string "c"), ("v", .string "z")],
        [("_id", .objectId ⟨1⟩), ("k", .string "a"), ("v", .string "x")],
        [("_id", .objectId ⟨2⟩), ("k", .string "b"), ("v", .string "y")]]
      ids := ⟨fun _ => ⟨2⟩, 1⟩ }
  have hmake : Reconciler.make keyedTexts ["k"] none = .ok r := rfl
  have hupdate : ∀ fields, (none : Option (List String)) = some fields →
      ∀ name ∈ fields, name ∈ keyedTexts.fieldNames := fun _ h => by cases h
  have hencode : [a, b].mapM (encode { schema := keyedTexts }) = .ok [a, b] := rfl
  have hids : ∀ inst ∈ [a, b], ∀ id, Document.id? inst = some id →
      id = .null ∨ ∃ i : ObjectId, id = .objectId i :=
    List.forall_mem_cons.mpr ⟨fun _ h => (by cases h),
      List.forall_mem_singleton.mpr fun _ h => (by cases h)⟩
  have hkeys : ([a, b].map r.key?).Nodup := by decide
  have hs : Document.Identified s.documents := by
    constructor
    · exact List.forall_mem_cons.mpr ⟨⟨_, rfl⟩, List.forall_mem_singleton.mpr ⟨_, rfl⟩⟩
    · refine List.nodup_cons.mpr ⟨fun h => ?_, List.nodup_singleton _⟩
      have hid := Option.some.inj (List.mem_singleton.mp h)
      exact absurd (Value.objectId.inj hid) (by decide)
  -- one instance a batch: `a` is updated by the first, `b` is inserted by the second
  have hrun : upsertInstances { schema := keyedTexts } [a, b] ["k"] none (some 1) s =
      (.ok { matched := 1, modified := 1, insertedIds := [.objectId ⟨2⟩] }, s') := by
    have hwf := SchemaDraft.build_wellFormed build_keyedTexts
    have hr : r.Regular :=
      regular_of_make (m := { schema := keyedTexts }) hwf hmake keyedTexts_query hupdate
    have hall := suits_of_encodes hwf hmake keyedTexts_query hupdate hids hencode
    have hbatch := fun inst (hinst : inst ∈ [a, b]) => Reconciler.upsertBatch_eq_perform
      hr.ownFields (List.forall_mem_singleton.mpr (hall inst hinst))
    have hfirst : r.upsertBatch [a] s = (.ok { matched := 1, modified := 1 }, t) :=
      (hbatch a (by simp) rfl s).trans (by dsimp only [r, a, s, t]; rfl)
    have hsecond : r.upsertBatch [b] t = (.ok { insertedIds := [.objectId ⟨2⟩] }, s') :=
      (hbatch b (by simp) rfl t).trans (by dsimp only [r, b, t, s']; rfl)
    have hparts : batchesOf 1 [a, b] = [[a], [b]] := by simp [batchesOf, batches]
    refine upsertInstances_eq_ok.mpr ⟨r, [a, b], hmake, hencode, rfl, ?_⟩
    rw [Option.getD_some, hparts]
    exact sumUp_cons_eq_ok.mpr ⟨_, t, _, hfirst,
      sumUp_cons_eq_ok.mpr ⟨_, s', {}, hsecond, rfl, rfl⟩, rfl⟩
  have hupsert := upsertInstances_updates_or_creates build_keyedTexts [] .reject hmake
    keyedTexts_query hupdate hids hencode hkeys hs hrun
  exact ⟨r, [a, b], s, s', hmake, rfl, rfl, hrun, rfl, hupsert.2.2⟩

/-- A call that succeeds can be repeated in batches of any size: it succeeds again, matches every
instance and inserts none, and afterwards the store holds the same documents, by their identifiers
and in their order. -/
theorem upsertInstances_idempotent {draft : SchemaDraft} {schema : Schema}
    (hbuild : draft.build = .ok schema) (required : List String) (policy : SuffixPolicy)
    (hquery : ∀ name ∈ queryFields,
      ∃ f ∈ schema.fields, f.name = name ∧ f.type ∈ FieldType.keyTypes)
    (hupdate : ∀ fields, updateFields? = some fields → ∀ name ∈ fields, name ∈ schema.fieldNames)
    (hids : ∀ inst ∈ instances, ∀ id, Document.id? inst = some id →
      id = .null ∨ ∃ i : ObjectId, id = .objectId i)
    (hs : Document.Identified s.documents)
    (hrun : upsertInstances { schema, required, policy } instances queryFields updateFields?
      batchSize s = (.ok summary, s')) (batchSize' : Option Nat) :
    ∃ modified s'',
      upsertInstances { schema, required, policy } instances queryFields updateFields? batchSize'
        s' = (.ok { matched := instances.length, modified, insertedIds := [] }, s'') ∧
      s''.documents.map Document.id? = s'.documents.map Document.id? := by
  obtain ⟨r, docs, hmake, hencode, hcheck, -⟩ := upsertInstances_eq_ok.mp hrun
  have hwf := SchemaDraft.build_wellFormed hbuild
  have hr : r.Regular :=
    regular_of_make (m := { schema, required, policy }) hwf hmake hquery hupdate
  have hall : ∀ d ∈ docs, r.Suits d := suits_of_encodes hwf hmake hquery hupdate hids hencode
  obtain ⟨parts, rfl, -, hsum⟩ := batches_of_upsertInstances hmake hencode hrun
  obtain ⟨hs', -, hfound⟩ := Reconciler.found_of_sumUp hr.ownFields hall hcheck hs hsum
  -- the second call cuts the instances into parts of its own
  let parts' := batchesOf (batchSize'.getD defaultBatchSize) parts.flatten
  have hparts' : parts'.flatten = parts.flatten := flatten_batches _ _
  have hall' : ∀ d ∈ parts'.flatten, r.Suits d := hparts' ▸ hall
  have hcheck' : r.checkBatch parts'.flatten = .ok () := hparts' ▸ hcheck
  obtain ⟨modified, s'', hsum', hkept⟩ :=
    Reconciler.sumUp_of_found hr.ownFields hall' hcheck' hs' (hparts' ▸ hfound)
  have hlength : parts'.flatten.length = instances.length :=
    hparts' ▸ (forall₂_of_mapM_eq_ok hencode).length_eq.symm
  rw [hlength] at hsum'
  exact ⟨modified, s'', upsertInstances_eq_ok.mpr ⟨r, _, hmake, hencode, hcheck, hsum'⟩,
    (map_eq_of_forall₂ hkept fun _ _ _ h => h.id.symm).symm⟩

/-- The theorem at two instances with one key: the first call inserts both, and afterwards both
are matched, in one batch or in two, and the two documents are all there are. -/
theorem upsertInstances_idempotent_at_shared_key :
    ∃ (instances : List Document) (s s' : Store),
      instances = [[("k", .string "a"), ("v", .string "x")],
        [("k", .string "a"), ("v", .string "y")]] ∧
      s.documents = [] ∧
      upsertInstances { schema := keyedTexts } instances ["k"] none none s =
        (.ok { insertedIds := [.objectId ⟨0⟩, .objectId ⟨1⟩] }, s') ∧
      ∃ modified s'', upsertInstances { schema := keyedTexts } instances ["k"] none (some 1) s' =
          (.ok { matched := 2, modified, insertedIds := [] }, s'') ∧
        s''.documents.map Document.id? = [some (.objectId ⟨0⟩), some (.objectId ⟨1⟩)] := by
  let a : Document := [("k", .string "a"), ("v", .string "x")]
  let b : Document := [("k", .string "a"), ("v", .string "y")]
  let s : Store := { ids := ⟨fun n => ⟨.ofNat 96 n⟩, 0⟩ }
  let s' : Store :=
    { documents := [[("_id", .objectId ⟨0⟩), ("k", .string "a"), ("v", .string "x")],
        [("_id", .objectId ⟨1⟩), ("k", .string "a"), ("v", .string "y")]]
      ids := ⟨fun n => ⟨.ofNat 96 n⟩, 2⟩ }
  have hupdate : ∀ fields, (none : Option (List String)) = some fields →
      ∀ name ∈ fields, name ∈ keyedTexts.fieldNames := fun _ h => by cases h
  have hids : ∀ inst ∈ [a, b], ∀ id, Document.id? inst = some id →
      id = .null ∨ ∃ i : ObjectId, id = .objectId i :=
    List.forall_mem_cons.mpr ⟨fun _ h => (by cases h),
      List.forall_mem_singleton.mpr fun _ h => (by cases h)⟩
  have hs : Document.Identified s.documents := ⟨fun _ hd => absurd hd List.not_mem_nil, .nil⟩
  -- the first call finds neither instance stored, so it inserts both under the key they share
  have hrun : upsertInstances { schema := keyedTexts } [a, b] ["k"] none none s =
      (.ok { insertedIds := [.objectId ⟨0⟩, .objectId ⟨1⟩] }, s') := by
    have hparts : batchesOf defaultBatchSize [a, b] = [[a, b]] := by
      simp [batchesOf, batches, defaultBatchSize]
    refine upsertInstances_eq_ok.mpr ⟨⟨keyedTexts, ["k"], none⟩, [a, b], rfl, rfl, rfl, ?_⟩
    rw [Option.getD_none, hparts]
    dsimp only [a, b, s, s']
    rfl
  exact ⟨[a, b], s, s', rfl, rfl, hrun, upsertInstances_idempotent build_keyedTexts [] .reject
    keyedTexts_query hupdate hids hs hrun (some 1)⟩

end Model

end DocMapper
