import DocMapper.Model.Batch
import DocMapper.Proofs.Fetching
import DocMapper.Proofs.Identities
import DocMapper.Proofs.Plans

namespace DocMapper

/-! # Plans by identifiers

Updates by identifiers can be planned without a read, with the identifiers as the instances give
them, or through a reconciler over the identifier, with the identifiers as they are stored. The two
plans differ where an instance gives the hexadecimal digits of an object identifier: the reconciler
reads them as the identifier, and the plan without a read looks for the text.
-/

/-- A value gives an object identifier: it is the identifier, or the text of its 24 hexadecimal
digits. -/
inductive Value.Gives (i : ObjectId) : Value → Prop
  | itself : Gives i (.objectId i)
  | digits {text : String} (h : ObjectId.ofHex? text = some i) : Gives i (.string text)

namespace Value.Gives

variable {v : Value} {i j : ObjectId}

theorem readId (h : v.Gives i) : v.readId = .objectId i := by
  cases h with
  | itself => rfl
  | digits h => rw [Value.readId, h]

theorem ne_null (h : v.Gives i) : v ≠ .null := by
  rintro rfl
  cases h

/-- An object identifier gives no other. -/
theorem eq_of_objectId (h : (Value.objectId j).Gives i) : j = i := by
  cases h
  rfl

end Value.Gives

namespace Document

variable {d : Document} {v : Value} {i : ObjectId}

/-- The filter of an update by the text of an identifier spares the document that is stored under
it; by the identifier itself it selects it. -/
theorem satisfies_setting_given {index : Nat} {fields : Document} (hgives : v.Gives i)
    (hd : id? d = some (.objectId i)) :
    (v = .objectId i → satisfies d (PlannedUpdate.setting index v fields).filter = .ok true) ∧
    (v ≠ .objectId i → satisfies d (PlannedUpdate.setting index v fields).filter = .ok false) := by
  constructor
  · rintro rfl
    rw [PlannedUpdate.satisfies_setting hd, (hasId_objectId hd).mpr rfl]
  · intro hne
    cases hgives with
    | itself => exact absurd rfl hne
    | digits h =>
      have hget : get? d idKey = some (.objectId i) := hd
      rw [PlannedUpdate.setting, satisfies_singleton rfl, getPath?_of_legalName LegalName.id, hget]
      rfl

/-- The update of an instance that is planned without a read. -/
def update (fields : List String) (entry : Document × Nat) : PlannedUpdate :=
  .setting entry.2 ((id? entry.1).getD .null) (pick entry.1 fields)

/-- Instances with identifiers are all planned without a read. -/
theorem planUpdates_eq {schema : Schema} {fields : List String} {instances : List Document}
    (hfields : fields ≠ []) (hdeclared : schema.checkDeclared fields = .ok ())
    (hids : ∀ inst ∈ instances, ∃ v, id? inst = some v ∧ v ≠ .null) :
    planUpdates schema fields instances = .ok (instances.zipIdx.map (update fields)) := by
  have hempty : fields.isEmpty = false := by simpa using hfields
  rw [planUpdates, hempty, if_neg Bool.false_ne_true, hdeclared, ok_bind]
  refine mapM_eq_ok_of_forall₂ ?_
  rw [List.forall₂_map_right_iff]
  refine List.forall₂_same.mpr fun entry hentry => ?_
  obtain ⟨inst, index⟩ := entry
  obtain ⟨v, hv, hnull⟩ := hids inst (List.fst_mem_of_mem_zipIdx hentry)
  simp only [hv, update, Option.getD_some]

end Document

namespace Reconciler

variable {r : Reconciler} {inst d : Document} {instances persisted : List Document} {v id : Value}
  {i : ObjectId}

/-! ## Partners by the identifier -/

/-- Over the identifier alone, the key is the identity of what the identifier is read as. -/
theorem key?_of_id (hr : r.queryFields = [Document.idKey]) (hv : Document.id? d = some v)
    (hnull : v ≠ .null) : r.key? d = some [v.readId.identity] := by
  have hidentity : identity? Document.idKey d = some v.readId.identity :=
    identity?_eq_some.mpr ⟨v, hv, hnull, by rw [comparand, if_pos rfl]⟩
  rw [key?_eq_mapM, hr, mapM_eq_some, List.map_singleton, hidentity]
  rfl

/-- An instance that gives an object identifier has the key of what is stored under it. -/
theorem key?_of_gives (hr : r.queryFields = [Document.idKey]) (hv : Document.id? d = some v)
    (hgives : v.Gives i) : r.key? d = some [(Value.objectId i).identity] := by
  rw [key?_of_id hr hv hgives.ne_null, hgives.readId]

/-- The partner is a stored document with the key of the instance. -/
theorem exists_of_partner? (h : r.partner? persisted inst = some id) :
    ∃ d ∈ persisted, r.key? d = r.key? inst ∧ Document.id? d = some id := by
  rw [partner?] at h
  obtain ⟨key, hkey, hstored⟩ := Option.bind_eq_some_iff.mp h
  obtain ⟨d, hd, hid⟩ := List.exists_of_findSome?_eq_some hstored
  split at hid
  · rename_i hdkey
    exact ⟨d, hd, hdkey.trans hkey.symm, hid⟩
  · cases hid

/-- A stored document with an identifier and the key of the instance makes a partner. -/
theorem exists_partner? {key : List Identity} (hinst : r.key? inst = some key)
    (hd : d ∈ persisted) (hkey : r.key? d = some key) (hid : Document.id? d = some v) :
    ∃ id, r.partner? persisted inst = some id := by
  rw [← Option.isSome_iff_exists, partner?, hinst, Option.bind_some, stored?,
    List.isSome_findSome?, List.any_eq_true]
  exact ⟨d, hd, by rw [if_pos hkey, hid, Option.isSome_some]⟩

/-- What an instance with an object identifier is matched with: a partner that is itself stored
under an object identifier is stored under this one. -/
theorem partner?_eq_of_gives (hr : r.queryFields = [Document.idKey])
    (hv : Document.id? inst = some v) (hgives : v.Gives i)
    (hstored : ∀ d ∈ persisted, r.key? d = r.key? inst →
      ∃ j : ObjectId, Document.id? d = some (.objectId j))
    (hpartner : r.partner? persisted inst = some id) : id = .objectId i := by
  obtain ⟨d, hd, hkey, hid⟩ := exists_of_partner? hpartner
  obtain ⟨j, hj⟩ := hstored d hd hkey
  cases hid.symm.trans hj
  rw [key?_of_gives hr hv hgives, key?_of_gives hr hj .itself, Option.some.injEq,
    List.cons.injEq] at hkey
  exact Value.eq_objectId_of_identity hkey.1 fun fields => by simp

/-! ## The plans -/

/-- When every instance has a partner, the plan updates the partners and inserts nothing. -/
theorem plan_of_partners (h : ∀ inst ∈ instances, ∃ id, r.partner? persisted inst = some id) :
    r.plan instances persisted =
      { updates := instances.zipIdx.map fun entry =>
          .setting entry.2 ((r.partner? persisted entry.1).getD .null) (r.written entry.1) } := by
  have hupdates : instances.zipIdx.filterMap (r.update? persisted) =
      instances.zipIdx.map fun entry =>
        .setting entry.2 ((r.partner? persisted entry.1).getD .null) (r.written entry.1) := by
    rw [← List.filterMap_eq_map]
    refine List.filterMap_congr fun entry hentry => ?_
    obtain ⟨id, hid⟩ := h entry.1 (List.fst_mem_of_mem_zipIdx hentry)
    simp only [update?, hid, Option.map_some, Option.getD_some, Function.comp_apply]
  have hinserts : instances.zipIdx.filterMap (r.insert? persisted) = [] := by
    refine List.filterMap_eq_nil_iff.mpr fun entry hentry => ?_
    obtain ⟨id, hid⟩ := h entry.1 (List.fst_mem_of_mem_zipIdx hentry)
    rw [insert?, hid]
  rw [plan_eq, hupdates, hinserts]

/-- Every schema has a reconciler over the identifier. -/
theorem make_byId (schema : Schema) (updateFields? : Option (List String)) :
    make schema [Document.idKey] updateFields? =
      .ok { schema, queryFields := [Document.idKey], updateFields? } := by
  have hdeclared : schema.checkDeclared [Document.idKey] = .ok () := by
    refine forM_eq_ok.mpr fun name hname => ?_
    cases List.mem_singleton.mp hname
    rw [Schema.declared, Schema.field?, if_pos rfl]
    rfl
  rw [make, hdeclared]
  rfl

/-- The updates of both plans are the same when every partner is stored under the identifier that
the instance gives. -/
theorem plan_updates_eq_iff {fields : List String} (hwritten : r.updateFields? = some fields)
    (hids : ∀ inst ∈ instances, ∃ v, Document.id? inst = some v)
    (hpartners : ∀ inst ∈ instances, ∃ id, r.partner? persisted inst = some id) :
    (r.plan instances persisted).updates = instances.zipIdx.map (Document.update fields) ↔
      ∀ inst ∈ instances, r.partner? persisted inst = Document.id? inst := by
  rw [plan_of_partners hpartners]
  dsimp only
  rw [List.map_inj_left]
  constructor
  · -- the plan at an instance has the identifier of its partner, the other list its own
    intro h inst hinst
    obtain ⟨index, hindex⟩ := List.getElem?_of_mem hinst
    have hsame := congrArg PlannedUpdate.id
      (h (inst, index) (List.mk_mem_zipIdx_iff_getElem?.mpr hindex))
    obtain ⟨id, hid⟩ := hpartners inst hinst
    obtain ⟨v, hv⟩ := hids inst hinst
    simp only [hid, hv, Document.update, PlannedUpdate.setting, Option.getD_some] at hsame
    rw [hid, hv, hsame]
  · intro h entry hentry
    rw [h entry.1 (List.fst_mem_of_mem_zipIdx hentry), written, hwritten]
    rfl

/-- The plan without a read and the plan of the reconciler over the identifier. Let every instance
give an object identifier, itself or as a text of 24 hexadecimal digits, under which a document is
stored. Both plans are made and insert nothing. They are the same exactly when every instance gives
the identifier of its partner as it is stored. Where partners are stored under object identifiers,
that is when every instance gives the object identifier itself: the update of one that gives the
digits is planned with the text, and its filter spares the document that is stored under the object
identifier, which the reconciler updates. -/
theorem planUpdates_agrees_iff (schema : Schema) {fields : List String} (hfields : fields ≠ [])
    (hdeclared : schema.checkDeclared fields = .ok ())
    (hids : ∀ inst ∈ instances, ∃ (v : Value) (i : ObjectId), Document.id? inst = some v ∧
      v.Gives i ∧ ∃ d ∈ persisted, Document.id? d = some (.objectId i)) :
    ∃ r updates, make schema [Document.idKey] (some fields) = .ok r ∧
      Document.planUpdates schema fields instances = .ok updates ∧
      (r.plan instances persisted).inserts = [] ∧
      ((r.plan instances persisted).updates = updates ↔
        ∀ inst ∈ instances, r.partner? persisted inst = Document.id? inst) ∧
      ((∀ inst ∈ instances, ∀ d ∈ persisted, r.key? d = r.key? inst →
          ∃ i : ObjectId, Document.id? d = some (.objectId i)) →
        ((r.plan instances persisted).updates = updates ↔
          ∀ inst ∈ instances, ∃ i : ObjectId, Document.id? inst = some (.objectId i))) ∧
      ∀ u ∈ updates, ∀ i d, u.id.Gives i → Document.id? d = some (.objectId i) →
        (u.id = .objectId i → Document.satisfies d u.filter = .ok true) ∧
        (u.id ≠ .objectId i → Document.satisfies d u.filter = .ok false) := by
  let r : Reconciler :=
    { schema, queryFields := [Document.idKey], updateFields? := some fields }
  -- Every instance has a partner: the stored document with the identifier that it gives.
  have hpartners : ∀ inst ∈ instances, ∃ id, r.partner? persisted inst = some id := by
    intro inst hinst
    obtain ⟨v, i, hv, hgives, d, hd, hid⟩ := hids inst hinst
    exact exists_partner? (key?_of_gives rfl hv hgives) hd (key?_of_gives rfl hid .itself) hid
  -- So both plan an update of every instance, in order; the identifiers may differ.
  have hplan : Document.planUpdates schema fields instances =
      .ok (instances.zipIdx.map (Document.update fields)) := by
    refine Document.planUpdates_eq hfields hdeclared fun inst hinst => ?_
    obtain ⟨v, i, hv, hgives, -⟩ := hids inst hinst
    exact ⟨v, hv, hgives.ne_null⟩
  -- The plans agree when the partners have the identifiers as the instances give them.
  have hagree := plan_updates_eq_iff (r := r) rfl
    (fun inst hinst => by
      obtain ⟨v, i, hv, -⟩ := hids inst hinst
      exact ⟨v, hv⟩) hpartners
  refine ⟨r, _, make_byId schema _, hplan, by rw [plan_of_partners hpartners], hagree, ?_, ?_⟩
  · -- stored identifiers are no texts, so an instance must not give a text either
    intro hstored
    rw [hagree]
    refine forall₂_congr fun inst hinst => ?_
    obtain ⟨v, i, hv, hgives, -⟩ := hids inst hinst
    obtain ⟨id, hid⟩ := hpartners inst hinst
    cases partner?_eq_of_gives rfl hv hgives (hstored inst hinst) hid
    rw [hid, hv]
    constructor
    · intro h
      exact ⟨i, h.symm⟩
    · rintro ⟨j, hj⟩
      cases hj
      rw [hgives.eq_of_objectId]
  · -- a filter by the text of an identifier finds no document with the identifier
    intro u hu i d hgives hd
    obtain ⟨⟨inst, index⟩, -, rfl⟩ := List.mem_map.mp hu
    exact Document.satisfies_setting_given hgives hd

/-- The theorem at two instances with object identifiers, stored in the other order. -/
theorem planUpdates_agrees_objectIds :
    ∃ r updates, make Model.nameModel.schema ["_id"] (some ["name"]) = .ok r ∧
      Document.planUpdates Model.nameModel.schema ["name"]
        [[("_id", .objectId ⟨2⟩), ("name", .string "b")],
          [("_id", .objectId ⟨1⟩), ("name", .string "a")]] = .ok updates ∧
      updates.map (·.id) = [.objectId ⟨2⟩, .objectId ⟨1⟩] ∧
      (r.plan [[("_id", .objectId ⟨2⟩), ("name", .string "b")],
          [("_id", .objectId ⟨1⟩), ("name", .string "a")]]
        [[("_id", .objectId ⟨1⟩)], [("_id", .objectId ⟨2⟩)]]).updates = updates := by
  let instances : List Document := [[("_id", .objectId ⟨2⟩), ("name", .string "b")],
    [("_id", .objectId ⟨1⟩), ("name", .string "a")]]
  let persisted : List Document := [[("_id", .objectId ⟨1⟩)], [("_id", .objectId ⟨2⟩)]]
  have hids : ∀ inst ∈ instances, ∃ (v : Value) (i : ObjectId), Document.id? inst = some v ∧
      v.Gives i ∧ ∃ d ∈ persisted, Document.id? d = some (.objectId i) :=
    List.forall_mem_cons.mpr
      ⟨⟨_, ⟨2⟩, rfl, .itself, [("_id", .objectId ⟨2⟩)], by simp [persisted], rfl⟩,
        List.forall_mem_singleton.mpr
          ⟨_, ⟨1⟩, rfl, .itself, [("_id", .objectId ⟨1⟩)], by simp [persisted], rfl⟩⟩
  have hstored : ∀ d ∈ persisted, ∃ i : ObjectId, Document.id? d = some (.objectId i) :=
    List.forall_mem_cons.mpr ⟨⟨_, rfl⟩, List.forall_mem_singleton.mpr ⟨_, rfl⟩⟩
  have hgiven : ∀ inst ∈ instances, ∃ i : ObjectId, Document.id? inst = some (.objectId i) :=
    List.forall_mem_cons.mpr ⟨⟨_, rfl⟩, List.forall_mem_singleton.mpr ⟨_, rfl⟩⟩
  obtain ⟨r, updates, hmake, hupdates, -, -, hagree, -⟩ :=
    planUpdates_agrees_iff Model.nameModel.schema (List.cons_ne_nil "name" []) rfl hids
  have hsame := (hagree fun _ _ d hd _ => hstored d hd).mpr hgiven
  have hshown : updates.map (·.id) = [.objectId ⟨2⟩, .objectId ⟨1⟩] := by
    cases hupdates
    rfl
  exact ⟨r, updates, hmake, hupdates, hshown, hsame⟩

/-- An instance that gives the digits of an object identifier is planned with the digits, although
the reconciler over the identifier finds the stored document, and the call for the updates misses
it. -/
theorem digits_are_not_found :
    ∃ s : Store,
      s.documents =
        [[("_id", .objectId ⟨0x0123456789abcdef01234567⟩), ("name", .string "a")]] ∧
      (Reconciler.plan ⟨Model.nameModel.schema, ["_id"], some ["name"]⟩
          [[("_id", .string "0123456789abcdef01234567"), ("name", .string "b")]]
          s.documents).updates =
        [.setting 0 (.objectId ⟨0x0123456789abcdef01234567⟩) [("name", .string "b")]] ∧
      Document.planUpdates Model.nameModel.schema ["name"]
          [[("_id", .string "0123456789abcdef01234567"), ("name", .string "b")]] =
        .ok [.setting 0 (.string "0123456789abcdef01234567") [("name", .string "b")]] ∧
      Model.nameModel.updateInstances
          [[("_id", .string "0123456789abcdef01234567"), ("name", .string "b")]] ["name"] none s =
        (.ok {}, s) := by
  let inst : Document := [("_id", .string "0123456789abcdef01234567"), ("name", .string "b")]
  let s : Store :=
    { documents :=
        [[("_id", .objectId ⟨0x0123456789abcdef01234567⟩), ("name", .string "a")]]
      ids := ⟨fun _ => ⟨0⟩, 0⟩ }
  let r : Reconciler := ⟨Model.nameModel.schema, ["_id"], some ["name"]⟩
  let u : PlannedUpdate :=
    .setting 0 (.string "0123456789abcdef01234567") [("name", .string "b")]
  -- the key reads the text, so the stored document is a partner of the instance
  have hhex : ObjectId.ofHex? "0123456789abcdef01234567" =
      some ⟨0x0123456789abcdef01234567⟩ := by decide +kernel
  have hkey : r.key? inst =
      some [(Value.objectId ⟨0x0123456789abcdef01234567⟩).identity] :=
    key?_of_gives rfl rfl (.digits hhex)
  have hstored : r.key? [("_id", .objectId ⟨0x0123456789abcdef01234567⟩), ("name", .string "a")] =
      some [(Value.objectId ⟨0x0123456789abcdef01234567⟩).identity] :=
    key?_of_gives rfl rfl .itself
  have hpartner : r.partner? s.documents inst =
      some (.objectId ⟨0x0123456789abcdef01234567⟩) := by
    rw [partner?, hkey, Option.bind_some, stored?, List.findSome?_cons, if_pos hstored]
    rfl
  refine ⟨s, rfl, ?_, rfl, ?_⟩
  · have hall : ∀ inst' ∈ [inst], ∃ id, r.partner? s.documents inst' = some id := by
      intro inst' hinst
      cases List.mem_singleton.mp hinst
      exact ⟨_, hpartner⟩
    rw [plan_of_partners hall]
    change [PlannedUpdate.setting 0 ((r.partner? s.documents inst).getD .null) _] = _
    rw [hpartner]
    rfl
  · -- the other call filters by the text, which no stored identifier equals
    have hencode : [inst].mapM Model.nameModel.encode = .ok [inst] := rfl
    have hbatches : Model.batchesOf 1 [u] = [[u]] := by simp [Model.batchesOf, batches]
    rw [Model.updateInstances, Action.bind_apply, Action.check, hencode]
    change Model.sumUp _ (Model.batchesOf 1 [u]) s = _
    rw [hbatches]
    rfl

end Reconciler

end DocMapper
