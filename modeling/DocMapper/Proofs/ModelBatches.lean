import DocMapper.Proofs.BatchSizes

namespace DocMapper

/-! # Calls with other batch sizes

A call that updates or creates instances may be made with batches of another size. Where filters
tell documents apart as keys do, the two calls end alike exactly when both sizes put equally many
instances with a new key into the first batch that has one.
-/

namespace Reconciler

variable {r : Reconciler} {instances : List Document}

/-! ## What filters tell apart -/

/-- An identifier that documents may come to have: of what is stored, of instances, as they give it
or as it is read, or generated. -/
def MayIdentify (instances stored : List Document) (id : Value) : Prop :=
  (∃ d ∈ stored ++ instances ++ instances.map Document.readId, Document.id? d = some id) ∨
    ∃ i : ObjectId, id = .objectId i

/-- Filters find what keys and identifiers stand for: an instance asks for whatever is stored or
inserted under its key, no value for several query fields is carried out as operators, and a filter
by an identifier compares. -/
structure Discerns (r : Reconciler) (instances stored : List Document) : Prop where
  plain : r.queryFields.length ≠ 1 → ∀ inst ∈ instances, r.Plain inst
  asks : ∀ inst ∈ instances, ∀ d ∈ stored ++ instances.map Document.readId,
    r.key? d = r.key? inst → r.asks inst d = true
  meets : ∀ v w, MayIdentify instances stored v → MayIdentify instances stored w →
    Value.meets (some v) w = .ok (v.equals w)
  keys : ∀ v, MayIdentify instances stored v → v.DistinctKeys

section Discerning

variable {schema : Schema} (hs : schema.WellFormed) {queryFields : List String}
  {updateFields? : Option (List String)} {stored : List Document}
  (hmake : make schema queryFields updateFields? = .ok r)
  (hdescribed : ∀ inst ∈ instances, schema.Describes inst)
  (hcheck : r.checkBatch instances = .ok ())

include hs hmake hdescribed hcheck

/-- What is stored of an instance can be written. -/
theorem writable_of_describes {inst : Document} (hinst : inst ∈ instances) : r.Writable inst := by
  have hd := hdescribed inst hinst
  obtain ⟨rfl, -⟩ := make_eq_ok hmake
  refine ⟨exists_key?_of_checkBatch hcheck hinst, fun entry hentry => ?_,
    hd.nodup_keys_written hs _, fun _ => hd.get?_of_mem_written hs⟩
  have hkey := Document.mem_keys_of_mem hentry
  unfold written at hkey
  split at hkey
  · -- the update fields are known, and the identifier may be among them
    rename_i fields hfields
    have hdeclared := (checkBatch_eq_ok.mp hcheck).2 fields hfields
    obtain ⟨f, hf, -⟩ := bind_eq_ok.mp
      (forM_eq_ok.mp hdeclared entry.1 (Document.mem_keys_pick.mp hkey).1)
    have hfield := Schema.declared_eq_ok.mp hf
    rw [← (Schema.field?_eq_some hfield).1]
    exact hs.legal_of_field? hfield
  · rw [hd.names] at hkey
    obtain ⟨f, hf, hname⟩ := List.mem_map.mp hkey
    exact hname ▸ hs.legal f hf

theorem Discerns.faithful (h : r.Discerns instances stored) :
    r.Faithful instances (MayIdentify instances stored) where
  legal := legalName_of_make hs hmake
  check := hcheck
  plain := h.plain
  writable := fun _ => writable_of_describes hs hmake hdescribed hcheck
  asks := fun inst hinst other hother hkey => h.asks inst hinst _
    (List.mem_append_right _ (List.mem_map_of_mem hother)) ((key?_readId other).trans hkey)
  given := by
    intro inst hinst id hid
    refine ⟨Or.inl ⟨inst, by simp [hinst], hid⟩, Or.inl ⟨Document.readId inst, ?_, ?_⟩⟩
    · exact List.mem_append_right _ (List.mem_map_of_mem hinst)
    · rw [Document.id?_readId, hid, Option.map_some]
  fresh := fun i => Or.inr ⟨i, rfl⟩
  meets := h.meets
  keys := h.keys

/-- Keys of types that are found by their identities, with object identifiers, are told apart. -/
theorem discerns_of_isFindable
    (hfindable : ∀ name ∈ queryFields, ∀ f, schema.field? name = some f → f.type.isFindable = true)
    (hstored : ∀ d ∈ stored, schema.Describes d)
    (hids : ∀ d ∈ stored ++ instances, ∀ id, Document.id? d = some id →
      ∃ i : ObjectId, id = .objectId i) : r.Discerns instances stored := by
  obtain ⟨rfl, hknown⟩ := make_eq_ok hmake
  -- all identifiers are object identifiers, and equal ones of these are the same
  have hid : ∀ v, MayIdentify instances stored v → ∃ i : ObjectId, v = .objectId i := by
    rintro v (⟨d, hd, hv⟩ | hv)
    · rcases List.mem_append.mp hd with hd | hd
      · exact hids d hd v hv
      · obtain ⟨inst, hinst, rfl⟩ := List.mem_map.mp hd
        rw [Document.id?_readId, Option.map_eq_some_iff] at hv
        obtain ⟨id, hinstid, rfl⟩ := hv
        obtain ⟨i, rfl⟩ := hids inst (List.mem_append_right _ hinst) id hinstid
        exact ⟨i, rfl⟩
    · exact hv
  refine ⟨fun _ inst hinst name hname v hv => ?_, fun inst hinst d hd hkey => ?_,
    fun v w hv hw => ?_, fun v hv => ?_⟩
  · -- no value is read as operators
    obtain ⟨f, hf⟩ := hknown name hname
    have htype := hfindable name hname f hf
    obtain ⟨rfl, rfl | hmem⟩ := Schema.field?_eq_some hf
    · cases htype
    · exact FieldType.isOperators_of_isFindable htype
        ((hdescribed inst hinst).values f hmem v hv)
  · -- what has the key of an instance is found by its clause, stored or inserted by then
    obtain ⟨key, hinstkey⟩ := exists_key?_of_checkBatch hcheck hinst
    refine asks_of_describes hs hmake hfindable (hdescribed inst hinst) ?_ hinstkey
      (hkey.trans hinstkey)
    rcases List.mem_append.mp hd with hd | hd
    · exact hstored d hd
    · obtain ⟨other, hother, rfl⟩ := List.mem_map.mp hd
      exact (hdescribed other hother).readId hs
  · obtain ⟨i, rfl⟩ := hid v hv
    obtain ⟨j, rfl⟩ := hid w hw
    rfl
  · obtain ⟨i, rfl⟩ := hid v hv
    trivial

end Discerning

theorem Discerns.tame {s : Store} (h : r.Discerns instances s.documents) (hs : s.Sound) :
    r.Tame instances (MayIdentify instances s.documents) s.documents where
  known := by
    intro d hd
    obtain ⟨id, rest, hstarts⟩ := hs.starts d hd
    have hid : Document.id? d = some id := hstarts ▸ Document.get?_cons_self _ _ _
    exact ⟨id, hid, Or.inl ⟨d, List.mem_append_left _ (List.mem_append_left _ hd), hid⟩⟩
  distinct := List.pairwise_map.mp hs.distinctIds
  asked := fun inst hinst d hd => h.asks inst hinst d (List.mem_append_left _ hd)

end Reconciler

/-! ## Two calls -/

namespace Model

open Reconciler (EndAlike)

variable {queryFields : List String} {updateFields? : Option (List String)}
  {instances docs : List Document} {batchSize₁ batchSize₂ : Option Nat} {s₁ s₂ s₁' s₂' : Store}
  {a₁ a₂ : BatchSummary}

/-- A batch with one query field, as it works out. -/
theorem upsertBatch_one_field {schema : Schema} (hs : schema.WellFormed) {r : Reconciler}
    {name : String} (hmake : Reconciler.make schema [name] none = .ok r) {batch : List Document}
    (hcheck : r.checkBatch batch = .ok ()) (s : Store) :
    r.upsertBatch batch s = (r.batchPlan batch s.documents).perform s := by
  refine Reconciler.upsertBatch_apply_of_plain (Reconciler.legalName_of_make hs hmake) hcheck
    (fun hlength => absurd ?_ hlength) s
  rw [(Reconciler.make_eq_ok hmake).1]
  rfl

/-- Two calls with the same instances on the same documents, in batches of two sizes, end alike
exactly when for every key that is not stored the first batches with it have equally many of its
instances. So they do if no two instances share a key that is not stored. -/
theorem upsertInstances_end_alike_iff {draft : SchemaDraft} {schema : Schema}
    (hbuild : draft.build = .ok schema) (required : List String) (policy : SuffixPolicy)
    {r : Reconciler} (hmake : Reconciler.make schema queryFields updateFields? = .ok r)
    (hencode : instances.mapM (encode { schema, required, policy }) = .ok docs)
    (hs : s₁.Sound) (hsame : s₂.documents = s₁.documents)
    (hdiscerns : r.Discerns docs s₁.documents)
    (hrun₁ : upsertInstances { schema, required, policy } instances queryFields updateFields?
      batchSize₁ s₁ = (.ok a₁, s₁'))
    (hrun₂ : upsertInstances { schema, required, policy } instances queryFields updateFields?
      batchSize₂ s₂ = (.ok a₂, s₂')) :
    (EndAlike s₁ s₂ a₁ a₂ s₁' s₂' ↔
      ∀ inst ∈ docs, r.key? inst ∉ s₁.documents.map r.key? →
        r.leading (r.key? inst) (batchesOf (batchSize₁.getD defaultBatchSize) docs) =
          r.leading (r.key? inst) (batchesOf (batchSize₂.getD defaultBatchSize) docs)) ∧
    ((∀ inst ∈ docs, r.key? inst ∉ s₁.documents.map r.key? →
        docs.countP (r.key? · = r.key? inst) = 1) →
      EndAlike s₁ s₂ a₁ a₂ s₁' s₂') := by
  have hwf := SchemaDraft.build_wellFormed hbuild
  -- both calls match the same stored forms with the same reconciler
  obtain ⟨r₁, docs₁, hmake₁, hencode₁, hcheck, hsum₁⟩ := upsertInstances_eq_ok.mp hrun₁
  obtain ⟨r₂, docs₂, hmake₂, hencode₂, -, hsum₂⟩ := upsertInstances_eq_ok.mp hrun₂
  cases hmake.symm.trans hmake₁
  cases hencode.symm.trans hencode₁
  cases hmake.symm.trans hmake₂
  cases hencode.symm.trans hencode₂
  have hr := hdiscerns.faithful hwf hmake
    (describes_of_encodes (m := { schema, required, policy }) hwf hencode) hcheck
  have hflatten : ∀ size, (batchesOf size docs).flatten = docs := fun size =>
    flatten_batches (size - 1) docs
  have hiff := Reconciler.endAlike_iff hr (hdiscerns.tame hs) hsame (hflatten _) (hflatten _)
    hsum₁ hsum₂
  refine ⟨hiff, fun hsingle => hiff.mpr fun inst hinst hkey => ?_⟩
  have hleading : ∀ size, r.leading (r.key? inst) (batchesOf size docs) = 1 := fun size => by
    rw [Reconciler.leading_eq_countP] <;> rw [hflatten, hsingle inst hinst hkey]
  rw [hleading, hleading]

/-- The theorem at two instances with one new key, which batches of two and of three do not part.
The supplies of identifiers differ. -/
theorem upsertInstances_end_alike_iff_unparted :
    ∃ (instances : List Document) (s₁ s₂ s₁' s₂' : Store) (a₁ a₂ : BatchSummary),
      instances = [[("k", .string "b"), ("v", .string "x")],
        [("k", .string "b"), ("v", .string "y")], [("k", .string "a"), ("v", .string "w")]] ∧
      s₁.documents = [[("_id", .objectId ⟨0⟩), ("k", .string "a"), ("v", .string "z")]] ∧
      upsertInstances { schema := keyedTexts } instances ["k"] none (some 2) s₁ = (.ok a₁, s₁') ∧
      upsertInstances { schema := keyedTexts } instances ["k"] none (some 3) s₂ = (.ok a₂, s₂') ∧
      s₁'.documents = [[("_id", .objectId ⟨0⟩), ("k", .string "a"), ("v", .string "w")],
        [("_id", .objectId ⟨1⟩), ("k", .string "b"), ("v", .string "x")],
        [("_id", .objectId ⟨2⟩), ("k", .string "b"), ("v", .string "y")]] ∧
      s₂'.documents = [[("_id", .objectId ⟨0⟩), ("k", .string "a"), ("v", .string "w")],
        [("_id", .objectId ⟨11⟩), ("k", .string "b"), ("v", .string "x")],
        [("_id", .objectId ⟨12⟩), ("k", .string "b"), ("v", .string "y")]] ∧
      EndAlike s₁ s₂ a₁ a₂ s₁' s₂' := by
  let r : Reconciler := { schema := keyedTexts, queryFields := ["k"] }
  let x : Document := [("k", .string "b"), ("v", .string "x")]
  let y : Document := [("k", .string "b"), ("v", .string "y")]
  let w : Document := [("k", .string "a"), ("v", .string "w")]
  let z : Document := [("_id", .objectId ⟨0⟩), ("k", .string "a"), ("v", .string "z")]
  let first : IdSource := ⟨fun n => ⟨.ofNat 96 (n + 1)⟩, 0⟩
  let second : IdSource := ⟨fun n => ⟨.ofNat 96 (n + 11)⟩, 0⟩
  let s₁ : Store := { documents := [z], ids := first }
  let s₂ : Store := { documents := [z], ids := second }
  let t : Store :=
    { documents := [z, ("_id", .objectId ⟨1⟩) :: x, ("_id", .objectId ⟨2⟩) :: y]
      ids := { first with drawn := 2 } }
  let s₁' : Store :=
    { documents := [("_id", .objectId ⟨0⟩) :: w, ("_id", .objectId ⟨1⟩) :: x,
        ("_id", .objectId ⟨2⟩) :: y]
      ids := { first with drawn := 2 } }
  let s₂' : Store :=
    { documents := [("_id", .objectId ⟨0⟩) :: w, ("_id", .objectId ⟨11⟩) :: x,
        ("_id", .objectId ⟨12⟩) :: y]
      ids := { second with drawn := 2 } }
  let a₁ : BatchSummary :=
    { matched := 1, modified := 1, insertedIds := [.objectId ⟨1⟩, .objectId ⟨2⟩] }
  let a₂ : BatchSummary :=
    { matched := 1, modified := 1, insertedIds := [.objectId ⟨11⟩, .objectId ⟨12⟩] }
  have hwf := SchemaDraft.build_wellFormed build_keyedTexts
  have hmake : Reconciler.make keyedTexts ["k"] none = .ok r := rfl
  have hencode : [x, y, w].mapM (encode { schema := keyedTexts }) = .ok [x, y, w] := rfl
  have hcheck : r.checkBatch [x, y, w] = .ok () := rfl
  have hparts₁ : batchesOf 2 [x, y, w] = [[x, y], [w]] := by simp [batchesOf, batches]
  have hparts₂ : batchesOf 3 [x, y, w] = [[x, y, w]] := by simp [batchesOf, batches]
  -- in two batches, the first creates both instances of one key, and the second updates
  have hrun₁ : upsertInstances { schema := keyedTexts } [x, y, w] ["k"] none (some 2) s₁ =
      (.ok a₁, s₁') := by
    have hcreate : r.upsertBatch [x, y] s₁ =
        (.ok { insertedIds := [.objectId ⟨1⟩, .objectId ⟨2⟩] }, t) :=
      (upsertBatch_one_field hwf hmake rfl s₁).trans
        (by dsimp only [r, x, y, s₁, t, z, first]; rfl)
    have hupdate : r.upsertBatch [w] t = (.ok { matched := 1, modified := 1 }, s₁') :=
      (upsertBatch_one_field hwf hmake rfl t).trans
        (by dsimp only [r, x, y, w, z, t, s₁', first]; rfl)
    refine upsertInstances_eq_ok.mpr ⟨r, [x, y, w], hmake, hencode, hcheck, ?_⟩
    rw [Option.getD_some, hparts₁]
    exact sumUp_pair hcreate hupdate
  -- in one batch, all of this happens at once
  have hrun₂ : upsertInstances { schema := keyedTexts } [x, y, w] ["k"] none (some 3) s₂ =
      (.ok a₂, s₂') := by
    have hboth : r.upsertBatch [x, y, w] s₂ = (.ok a₂, s₂') :=
      (upsertBatch_one_field hwf hmake rfl s₂).trans
        (by dsimp only [r, x, y, w, z, s₂, s₂', a₂, second]; rfl)
    refine upsertInstances_eq_ok.mpr ⟨r, [x, y, w], hmake, hencode, hcheck, ?_⟩
    rw [Option.getD_some, hparts₂]
    exact sumUp_singleton hboth
  have hs : s₁.Sound := ⟨List.forall_mem_singleton.mpr ⟨_, _, rfl⟩, List.pairwise_singleton _ _,
    ⟨[], rfl⟩, List.nodup_singleton _⟩
  -- texts are found by their keys, so the sizes of batches only matter for what leads a key
  have hdiscerns : r.Discerns [x, y, w] s₁.documents := by
    have hnoId : ∀ inst ∈ [x, y, w], Document.id? inst = none :=
      List.forall_mem_cons.mpr ⟨rfl, List.forall_mem_cons.mpr
        ⟨rfl, List.forall_mem_singleton.mpr rfl⟩⟩
    refine Reconciler.discerns_of_isFindable hwf hmake
      (describes_of_encodes (m := { schema := keyedTexts }) hwf hencode) hcheck ?_ ?_ ?_
    · intro name hname f hf
      rw [List.mem_singleton.mp hname] at hf
      cases hf
      rfl
    · have hz : encode { schema := keyedTexts } z = .ok z := rfl
      exact List.forall_mem_singleton.mpr (describes_of_encode hwf hz)
    · intro d hd id hid
      rcases List.mem_cons.mp hd with rfl | hd
      · cases hid
        exact ⟨_, rfl⟩
      · rw [hnoId d hd] at hid
        cases hid
  have hleading : ∀ inst ∈ [x, y, w],
      r.leading (r.key? inst) [[x, y], [w]] = r.leading (r.key? inst) [[x, y, w]] := by decide
  have hsame : s₂.documents = s₁.documents := rfl
  have halike := (upsertInstances_end_alike_iff build_keyedTexts [] .reject hmake hencode hs hsame
    hdiscerns hrun₁ hrun₂).1.mpr fun inst hinst _ => by
      rw [Option.getD_some, Option.getD_some, hparts₁, hparts₂]
      exact hleading inst hinst
  exact ⟨[x, y, w], s₁, s₂, s₁', s₂', a₁, a₂, rfl, rfl, hrun₁, hrun₂, rfl, rfl, halike⟩

/-- Of two instances with one new key, a batch of two inserts both, and batches of one insert the
first and update it for the second. Of two instances with the key of a stored document, a batch of
two finds that for both if the first asks for it, and batches of one insert the other. -/
theorem batch_size_decides :
    (∃ (instances : List Document) (s s₁ s₂ : Store) (a₁ a₂ : BatchSummary),
      instances = [[("k", .string "b"), ("v", .string "x")],
        [("k", .string "b"), ("v", .string "y")]] ∧ s.documents = [] ∧
      upsertInstances { schema := keyedTexts } instances ["k"] none (some 2) s = (.ok a₁, s₁) ∧
      upsertInstances { schema := keyedTexts } instances ["k"] none (some 1) s = (.ok a₂, s₂) ∧
      s₁.documents = [[("_id", .objectId ⟨1⟩), ("k", .string "b"), ("v", .string "x")],
        [("_id", .objectId ⟨2⟩), ("k", .string "b"), ("v", .string "y")]] ∧
      s₂.documents = [[("_id", .objectId ⟨1⟩), ("k", .string "b"), ("v", .string "y")]] ∧
      a₁.matched = 0 ∧ a₂.matched = 1 ∧ ¬ EndAlike s s a₁ a₂ s₁ s₂) ∧
    ∃ (schema : Schema) (instances : List Document) (s s₁ s₂ : Store) (a₁ a₂ : BatchSummary),
      schema.fields = [{ name := "tags", type := .array .int }] ∧
      instances = [[("tags", .array [.int32 1])], [("tags", .array [.int64 1])]] ∧
      s.documents = [[("_id", .objectId ⟨0⟩), ("tags", .array [.int32 1])]] ∧
      upsertInstances { schema } instances ["tags"] none (some 2) s = (.ok a₁, s₁) ∧
      upsertInstances { schema } instances ["tags"] none (some 1) s = (.ok a₂, s₂) ∧
      a₁.matched = 2 ∧ a₂.matched = 1 ∧ ¬ EndAlike s s a₁ a₂ s₁ s₂ := by
  constructor
  · let r : Reconciler := { schema := keyedTexts, queryFields := ["k"] }
    let x : Document := [("k", .string "b"), ("v", .string "x")]
    let y : Document := [("k", .string "b"), ("v", .string "y")]
    let ids : IdSource := ⟨fun n => ⟨.ofNat 96 (n + 1)⟩, 0⟩
    let s : Store := { ids }
    let s₁ : Store :=
      { documents := [("_id", .objectId ⟨1⟩) :: x, ("_id", .objectId ⟨2⟩) :: y]
        ids := { ids with drawn := 2 } }
    let t : Store :=
      { documents := [("_id", .objectId ⟨1⟩) :: x], ids := { ids with drawn := 1 } }
    let s₂ : Store :=
      { documents := [("_id", .objectId ⟨1⟩) :: y], ids := { ids with drawn := 1 } }
    have hwf := SchemaDraft.build_wellFormed build_keyedTexts
    have hmake : Reconciler.make keyedTexts ["k"] none = .ok r := rfl
    have hparts₁ : batchesOf 2 [x, y] = [[x, y]] := by simp [batchesOf, batches]
    have hparts₂ : batchesOf 1 [x, y] = [[x], [y]] := by simp [batchesOf, batches]
    -- together both are new, and both are inserted
    have hboth : r.upsertBatch [x, y] s =
        (.ok { insertedIds := [.objectId ⟨1⟩, .objectId ⟨2⟩] }, s₁) :=
      (upsertBatch_one_field hwf hmake rfl s).trans
        (by dsimp only [r, x, y, s, s₁, ids]; rfl)
    -- one after the other, the second finds the first and updates it
    have hfirst : r.upsertBatch [x] s =
        (.ok { insertedIds := [.objectId ⟨1⟩] }, t) :=
      (upsertBatch_one_field hwf hmake rfl s).trans
        (by dsimp only [r, x, s, t, ids]; rfl)
    have hsecond : r.upsertBatch [y] t =
        (.ok { matched := 1, modified := 1 }, s₂) :=
      (upsertBatch_one_field hwf hmake rfl t).trans
        (by dsimp only [r, x, y, t, s₂, ids]; rfl)
    refine ⟨[x, y], s, s₁, s₂, { insertedIds := [.objectId ⟨1⟩, .objectId ⟨2⟩] },
      { matched := 1, modified := 1, insertedIds := [.objectId ⟨1⟩] }, rfl, rfl, ?_, ?_, rfl, rfl,
      rfl, rfl, fun h => absurd h.matched (by decide)⟩
    · refine upsertInstances_eq_ok.mpr ⟨_, [x, y], rfl, rfl, rfl, ?_⟩
      rw [Option.getD_some, hparts₁]
      exact sumUp_singleton hboth
    · refine upsertInstances_eq_ok.mpr ⟨_, [x, y], rfl, rfl, rfl, ?_⟩
      rw [Option.getD_some, hparts₂]
      exact sumUp_pair hfirst hsecond
  · let schema : Schema := ⟨⟨"t"⟩, [{ name := "tags", type := .array .int }]⟩
    let r : Reconciler := { schema, queryFields := ["tags"] }
    have hbuild : SchemaDraft.build
        { collection := "t", fields := [{ name := "tags", type := .array .int }] } =
        .ok schema := rfl
    have hwf := SchemaDraft.build_wellFormed hbuild
    have hmake : Reconciler.make schema ["tags"] none = .ok r := rfl
    let x : Document := [("tags", .array [.int32 1])]
    let y : Document := [("tags", .array [.int64 1])]
    let ids : IdSource := ⟨fun n => ⟨.ofNat 96 (n + 1)⟩, 0⟩
    let s : Store := { documents := [("_id", .objectId ⟨0⟩) :: x], ids }
    let s₁ : Store := { documents := [("_id", .objectId ⟨0⟩) :: y], ids }
    let s₂ : Store :=
      { documents := [("_id", .objectId ⟨0⟩) :: x, ("_id", .objectId ⟨1⟩) :: y]
        ids := { ids with drawn := 1 } }
    have hparts₁ : batchesOf 2 [x, y] = [[x, y]] := by simp [batchesOf, batches]
    have hparts₂ : batchesOf 1 [x, y] = [[x], [y]] := by simp [batchesOf, batches]
    -- the candidates of both instances hold the document, for it is found by the first
    have hboth : r.upsertBatch [x, y] s = (.ok { matched := 2, modified := 1 }, s₁) :=
      (upsertBatch_one_field hwf hmake rfl s).trans
        (by dsimp only [r, schema, x, y, s, s₁, ids]; rfl)
    have hfirst : r.upsertBatch [x] s = (.ok { matched := 1 }, s) :=
      (upsertBatch_one_field hwf hmake rfl s).trans (by dsimp only [r, schema, x, s, ids]; rfl)
    -- alone, the second does not find it, though they share a key
    have hsecond : r.upsertBatch [y] s = (.ok { insertedIds := [.objectId ⟨1⟩] }, s₂) :=
      (upsertBatch_one_field hwf hmake rfl s).trans
        (by dsimp only [r, schema, x, y, s, s₂, ids]; rfl)
    refine ⟨schema, [x, y], s, s₁, s₂, { matched := 2, modified := 1 },
      { matched := 1, insertedIds := [.objectId ⟨1⟩] }, rfl, rfl, rfl, ?_, ?_, rfl, rfl,
      fun h => absurd h.matched (by decide)⟩
    · refine upsertInstances_eq_ok.mpr ⟨r, [x, y], rfl, rfl, rfl, ?_⟩
      rw [Option.getD_some, hparts₁]
      exact sumUp_singleton hboth
    · refine upsertInstances_eq_ok.mpr ⟨r, [x, y], rfl, rfl, rfl, ?_⟩
      rw [Option.getD_some, hparts₂]
      exact sumUp_pair hfirst hsecond

end Model

end DocMapper
