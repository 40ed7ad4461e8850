import DocMapper.Proofs.Candidates
import DocMapper.Proofs.StoreInvariant

namespace DocMapper

/-! # Carrying out plans

A plan addresses its updates by identifiers. Where the stored documents have object identifiers
that are pairwise distinct, such an update succeeds, sets its fields in one document and touches no
other. What a plan inserts comes after the documents that are there, in the order of the plan.
-/

namespace Document

variable {d : Document} {docs : List Document} {i j : ObjectId}

/-! ## Object identifiers -/

/-- Documents under object identifiers of their own. -/
structure Identified (docs : List Document) : Prop where
  objectIds : ∀ d ∈ docs, ∃ i : ObjectId, id? d = some (.objectId i)
  distinct : (docs.map id?).Nodup

theorem hasId_objectId (hd : id? d = some (.objectId j)) :
    hasId (.objectId i) d = true ↔ j = i := by
  rw [hasId, hd, Option.any_some, Value.equals_eq_beq rfl, Value.beq, beq_iff_eq]

namespace Identified

/-- Documents that keep their identifiers. -/
theorem map (h : Identified docs) {f : Document → Document}
    (hf : ∀ d ∈ docs, id? (f d) = id? d) : Identified (docs.map f) where
  objectIds := by
    intro d' hd'
    obtain ⟨d, hd, rfl⟩ := List.mem_map.mp hd'
    rw [hf d hd]
    exact h.objectIds d hd
  distinct := by
    have hids : (docs.map f).map id? = docs.map id? := by
      rw [List.map_map]
      exact List.map_congr_left hf
    exact hids ▸ h.distinct

/-- A document under an identifier that is not in use. -/
theorem append_singleton (h : Identified docs) (hd : id? d = some (.objectId i))
    (hunused : ∀ e ∈ docs, hasId (.objectId i) e = false) : Identified (docs ++ [d]) where
  objectIds := by
    intro e he
    rcases List.mem_append.mp he with he | he
    · exact h.objectIds e he
    · rw [List.mem_singleton.mp he]
      exact ⟨i, hd⟩
  distinct := by
    rw [List.map_append, List.nodup_append]
    refine ⟨h.distinct, List.nodup_singleton _, ?_⟩
    rintro a ha b hb rfl
    obtain ⟨e, he, hea⟩ := List.mem_map.mp ha
    rw [List.map_singleton, List.mem_singleton, hd] at hb
    have hused := (hasId_objectId (i := i) (hea.trans hb)).mpr rfl
    rw [hunused e he] at hused
    cases hused

/-- An identifier belongs to one document. -/
theorem eq_of_id?_eq (h : Identified docs) {e : Document} (hd : d ∈ docs) (he : e ∈ docs)
    (hid : id? d = id? e) : d = e :=
  List.inj_on_of_nodup_map h.distinct hd he hid

end Identified

/-! ## Setting fields -/

/-- Fields that an update can set: they have names, and the identifier is not among them. -/
def Settable (fields : Document) : Prop :=
  ∀ entry ∈ fields, LegalName entry.1 ∧ entry.1 ≠ idKey

theorem updated_set {fields : Document} (h : Settable fields) (d : Document) :
    updated d [("$set", .document fields)] = .ok (insertAll d fields) := by
  have hfold : fields.foldlM (applyAt "$set") d = .ok (insertAll d fields) := by
    induction fields generalizing d with
    | nil => rfl
    | cons entry rest ih =>
      obtain ⟨hlegal, hne⟩ := h entry List.mem_cons_self
      have hwrite : applyAt "$set" d entry = .ok (insert d entry.1 entry.2) := by
        simp only [applyAt, hne, decide_false, Bool.false_and, Bool.false_eq_true, if_false,
          write_of_dotless hlegal.dotless]
      rw [List.foldlM_cons, hwrite, ok_bind, insertAll_cons]
      exact ih (fun e he => h e (List.mem_cons_of_mem _ he)) _
  rw [updated, List.foldlM_cons]
  change fields.foldlM (applyAt "$set") d >>= _ = _
  rw [hfold]
  rfl

theorem id?_insertAll {fields : Document} (h : Settable fields) (d : Document) :
    id? (insertAll d fields) = id? d := by
  induction fields generalizing d with
  | nil => rfl
  | cons entry rest ih =>
    rw [insertAll_cons, ih (fun e he => h e (List.mem_cons_of_mem _ he)), id?,
      get?_insert_of_ne (h entry List.mem_cons_self).2]
    rfl

end Document

/-- In a store that satisfies the invariant, documents under object identifiers have identifiers of
their own. -/
theorem Store.Sound.identified {s : Store} (hs : s.Sound)
    (h : ∀ d ∈ s.documents, ∃ i : ObjectId, Document.id? d = some (.objectId i)) :
    Document.Identified s.documents where
  objectIds := h
  distinct := by
    refine hs.distinctIds.imp_of_mem fun {a b} ha _ hne => ?_
    rintro rfl
    obtain ⟨d, hd, rfl⟩ := List.mem_map.mp ha
    obtain ⟨i, hi⟩ := h d hd
    have hequals := (Document.hasId_objectId (i := i) hi).mpr rfl
    rw [Document.hasId, hi, Option.any_some, hne _ _ hi hi] at hequals
    cases hequals

/-! ## Updates -/

namespace PlannedUpdate

variable {d : Document} {index : Nat} {i : ObjectId} {fields : Document}

/-- The document after the update, which changes the one with its identifier. -/
def appliedTo (u : PlannedUpdate) (d : Document) : Document :=
  if Document.hasId u.id d then (Document.updated d u.update).toOption.getD d else d

theorem appliedTo_setting (h : Document.Settable fields) (id : Value) (d : Document) :
    (setting index id fields).appliedTo d =
      if Document.hasId id d then Document.insertAll d fields else d := by
  rw [appliedTo, setting]
  simp only [Document.updated_set h]
  rfl

theorem id?_appliedTo_setting (h : Document.Settable fields) (id : Value) (d : Document) :
    Document.id? ((setting index id fields).appliedTo d) = Document.id? d := by
  rw [appliedTo_setting h]
  split
  · exact Document.id?_insertAll h d
  · rfl

/-- Documents under other identifiers stay as they are. -/
theorem map_appliedTo_of_hasId_eq_false (h : Document.Settable fields) {id : Value}
    {docs : List Document} (hother : ∀ d ∈ docs, Document.hasId id d = false) :
    docs.map (setting index id fields).appliedTo = docs := by
  have hsame : ∀ d ∈ docs, (setting index id fields).appliedTo d = d := by
    intro d hd
    rw [appliedTo_setting h, hother d hd]
    rfl
  rw [List.map_congr_left hsame, List.map_id']

/-- The filter of an update selects by the identifier. -/
theorem satisfies_setting {j : ObjectId} (hd : Document.id? d = some (.objectId j)) :
    Document.satisfies d (setting index (.objectId i) fields).filter =
      .ok (Document.hasId (.objectId i) d) := by
  have hget : Document.get? d Document.idKey = some (.objectId j) := hd
  rw [setting, Document.satisfies_singleton rfl, Document.getPath?_of_legalName LegalName.id, hget,
    Document.hasId, hd]
  rfl

/-- Setting fields by an object identifier changes the document that has it, and no other. -/
theorem updateEach_setting (index : Nat) (h : Document.Settable fields) {docs : List Document}
    (hdocs : Document.Identified docs) (hd : d ∈ docs)
    (hid : Document.id? d = some (.objectId i)) :
    ∃ modified, Document.updateEach (setting index (.objectId i) fields).filter
        (setting index (.objectId i) fields).update false docs =
      (.ok { matched := 1, modified },
        docs.map (setting index (.objectId i) fields).appliedTo) := by
  induction docs with
  | nil => exact absurd hd List.not_mem_nil
  | cons e rest ih =>
    obtain ⟨j, hj⟩ := hdocs.objectIds e List.mem_cons_self
    have hdistinct := hdocs.distinct
    rw [List.map_cons, List.nodup_cons] at hdistinct
    rw [Document.updateEach, satisfies_setting hj, List.map_cons, appliedTo_setting h]
    cases hhas : Document.hasId (.objectId i) e with
    | true =>
      -- no document after it has the identifier
      have hother : ∀ c ∈ rest, Document.hasId (.objectId i) c = false := by
        intro c hc
        obtain ⟨k, hk⟩ := hdocs.objectIds c (List.mem_cons_of_mem _ hc)
        rw [← Bool.not_eq_true, Document.hasId_objectId hk]
        rintro rfl
        rw [(Document.hasId_objectId hj).mp hhas] at hj
        exact hdistinct.1 (List.mem_map.mpr ⟨c, hc, hk.trans hj.symm⟩)
      rw [map_appliedTo_of_hasId_eq_false h hother]
      simp only [setting, Document.updated_set h]
      exact ⟨_, rfl⟩
    | false =>
      have hmem : d ∈ rest := by
        refine List.mem_of_ne_of_mem ?_ hd
        rintro rfl
        rw [(Document.hasId_objectId hid).mpr rfl] at hhas
        cases hhas
      obtain ⟨modified, hrest⟩ := ih ⟨fun c hc => hdocs.objectIds c (List.mem_cons_of_mem _ hc),
        hdistinct.2⟩ hmem
      exact ⟨modified, by simp [hrest]⟩

/-- The update sets fields of a stored document, found by its object identifier. -/
def Addresses (u : PlannedUpdate) (docs : List Document) : Prop :=
  ∃ index i fields, u = setting index (.objectId i) fields ∧ Document.Settable fields ∧
    ∃ d ∈ docs, Document.id? d = some (.objectId i)

theorem id?_appliedTo {u : PlannedUpdate} {docs : List Document} (h : u.Addresses docs)
    (d : Document) : Document.id? (u.appliedTo d) = Document.id? d := by
  obtain ⟨index, i, fields, rfl, hfields, -⟩ := h
  exact id?_appliedTo_setting hfields _ d

/-- The document after updates in order. -/
def appliedAll (us : List PlannedUpdate) (d : Document) : Document :=
  us.foldl (fun d u => u.appliedTo d) d

@[simp] theorem appliedAll_cons (u : PlannedUpdate) (us : List PlannedUpdate) (d : Document) :
    appliedAll (u :: us) d = appliedAll us (u.appliedTo d) := rfl

end PlannedUpdate

namespace Plan

/-- Updates that address stored documents all succeed, and match one document each. -/
theorem performUpdates_apply {us : List PlannedUpdate} {s : Store}
    (hdocs : Document.Identified s.documents) (h : ∀ u ∈ us, u.Addresses s.documents)
    (summary : BatchSummary) :
    ∃ modified, performUpdates summary us s =
      (.ok { summary with matched := summary.matched + us.length, modified },
        { s with documents := s.documents.map (PlannedUpdate.appliedAll us) }) := by
  -- On the updates. Each keeps every identifier, so the ones after it still address a stored
  -- document of the collection it leaves.
  induction us generalizing s summary with
  | nil =>
    refine ⟨summary.modified, ?_⟩
    have hnone : s.documents.map (PlannedUpdate.appliedAll []) = s.documents :=
      List.map_id' s.documents
    rw [hnone]
    rfl
  | cons u rest ih =>
    obtain ⟨index, i, fields, hu, hfields, d, hd, hid⟩ := h u List.mem_cons_self
    obtain ⟨modified, heach⟩ := PlannedUpdate.updateEach_setting index hfields hdocs hd hid
    have hupdate : Action.updateOne u.filter u.update false s =
        (.ok { matched := 1, modified }, { s with documents := s.documents.map u.appliedTo }) := by
      have hrequire : Document.requireOperators u.update = .ok () := by
        have hset : isOperatorKey "$set" = true := by decide
        simp [hu, PlannedUpdate.setting, Document.requireOperators, Document.keys, hset]
      rw [Action.updateOne, Action.update_false_apply hrequire, hu, heach]
    have hdocs' : Document.Identified (s.documents.map u.appliedTo) :=
      hdocs.map fun e _ => PlannedUpdate.id?_appliedTo (h u List.mem_cons_self) e
    have hrest : ∀ v ∈ rest, v.Addresses (s.documents.map u.appliedTo) := by
      intro v hv
      obtain ⟨index', j, fields', hv', hfields', e, he, hj⟩ := h v (List.mem_cons_of_mem _ hv)
      refine ⟨index', j, fields', hv', hfields', u.appliedTo e, List.mem_map_of_mem he, ?_⟩
      rw [PlannedUpdate.id?_appliedTo (h u List.mem_cons_self), hj]
    obtain ⟨modified', hperform⟩ := ih (s := { s with documents := s.documents.map u.appliedTo })
      hdocs' hrest (summary.add ⟨1, modified, []⟩)
    refine ⟨modified', ?_⟩
    rw [performUpdates, Action.bind_apply, hupdate]
    dsimp only
    rw [hperform]
    have hcount : summary.matched + 1 + rest.length = summary.matched + (u :: rest).length := by
      rw [List.length_cons]
      omega
    have hafter : (s.documents.map u.appliedTo).map (PlannedUpdate.appliedAll rest) =
        s.documents.map (PlannedUpdate.appliedAll (u :: rest)) := List.map_map
    simp only [BatchSummary.add, List.append_nil, hcount, hafter]

end Plan

/-! ## Making plans -/

namespace Reconciler

variable {r : Reconciler} {instances docs : List Document}

/-- The update of an instance that has a partner. -/
def update? (r : Reconciler) (docs : List Document) (entry : Document × Nat) :
    Option PlannedUpdate :=
  (r.partner? docs entry.1).map fun id => .setting entry.2 id (r.written entry.1)

/-- The insert of an instance that has none. -/
def insert? (r : Reconciler) (docs : List Document) (entry : Document × Nat) :
    Option PlannedInsert :=
  match r.partner? docs entry.1 with
  | some _ => none
  | none => some ⟨entry.2, Document.readId entry.1⟩

/-- Each instance becomes an update or an insert, on its own account. -/
theorem plan_eq (r : Reconciler) (instances docs : List Document) :
    r.plan instances docs =
      { updates := instances.zipIdx.filterMap (r.update? docs)
        inserts := instances.zipIdx.filterMap (r.insert? docs) } := by
  -- the fold may start from any plan
  have hfold : ∀ (entries : List (Document × Nat)) (p : Plan),
      entries.foldl (r.assign docs) p =
        { updates := p.updates ++ entries.filterMap (r.update? docs)
          inserts := p.inserts ++ entries.filterMap (r.insert? docs) } := by
    intro entries
    induction entries with
    | nil => simp
    | cons entry rest ih =>
      intro p
      rw [List.foldl_cons, ih, assign]
      cases hpartner : r.partner? docs entry.1 <;> simp [update?, insert?, hpartner]
  exact (hfold _ {}).trans (by simp)

theorem mem_plan_updates {u : PlannedUpdate} : u ∈ (r.plan instances docs).updates ↔
    ∃ inst index, (inst, index) ∈ instances.zipIdx ∧
      ∃ id, r.partner? docs inst = some id ∧ u = .setting index id (r.written inst) := by
  rw [plan_eq, List.mem_filterMap, Prod.exists]
  refine exists_congr fun inst => exists_congr fun index => and_congr_right fun _ => ?_
  rw [update?, Option.map_eq_some_iff]
  exact exists_congr fun id => and_congr_right fun _ => eq_comm

theorem length_plan_updates : (r.plan instances docs).updates.length =
    (instances.filter fun inst => (r.partner? docs inst).isSome).length := by
  rw [plan_eq]
  dsimp only
  generalize 0 = index
  induction instances generalizing index with
  | nil => rfl
  | cons inst rest ih =>
    rw [List.zipIdx_cons, List.filterMap_cons, List.filter_cons]
    cases hpartner : r.partner? docs inst <;> simp [update?, hpartner, ih]

theorem plan_inserts : (r.plan instances docs).inserts.map (·.document) =
    (instances.filter fun inst => (r.partner? docs inst).isNone).map Document.readId := by
  rw [plan_eq]
  dsimp only
  generalize 0 = index
  induction instances generalizing index with
  | nil => rfl
  | cons inst rest ih =>
    rw [List.zipIdx_cons, List.filterMap_cons, List.filter_cons]
    cases hpartner : r.partner? docs inst <;> simp [insert?, hpartner, ih]

end Reconciler

/-! ## Inserts -/

/-- A stored document that was inserted: an identifier and the other fields. -/
def Document.Stores (d stored : Document) : Prop :=
  ∃ id, stored = (idKey, id) :: erase d idKey

/-- A batch of inserts that succeeds leaves its documents at the end, in order, each under its
identifier or a fresh one. -/
theorem Action.insertMany_eq_ok {docs : List Document} {s s' : Store} {ids : List Value}
    (hs : Document.Identified s.documents)
    (hdocs : ∀ d ∈ docs, ∀ id, Document.id? d = some id → ∃ i : ObjectId, id = .objectId i)
    (h : insertMany docs s = (.ok ids, s')) :
    ∃ created, s'.documents = s.documents ++ created ∧
      List.Forall₂ Document.Stores docs created ∧ created.map Document.id? = ids.map some ∧
      Document.Identified s'.documents := by
  unfold insertMany at h
  -- one insertion at a time, the store keeping its identifiers apart after each
  induction docs generalizing s ids with
  | nil =>
    cases h
    exact ⟨[], (List.append_nil _).symm, .nil, rfl, hs⟩
  | cons d rest ih =>
    rw [List.mapM_cons, bind_apply_eq_ok] at h
    obtain ⟨id, t, hinsert, h⟩ := h
    obtain ⟨ids', t', hrest, h⟩ := bind_apply_eq_ok.mp h
    cases h
    have hinserted := Store.insert_eq_ok (atomic_apply_eq_ok.mp hinsert)
    -- the identifier is the one given or a fresh one, an object identifier either way
    obtain ⟨i, rfl⟩ : ∃ i : ObjectId, id = .objectId i := by
      cases hid : Document.id? d with
      | none => exact ⟨_, hinserted.fresh hid⟩
      | some given =>
        obtain ⟨i, hi⟩ := hdocs d List.mem_cons_self given hid
        exact ⟨i, (hinserted.given given hid).trans hi⟩
    have ht : Document.Identified t.documents := by
      rw [hinserted.documents]
      exact hs.append_singleton (Document.get?_cons_self _ _ _) hinserted.unused
    obtain ⟨created, hcreated, hstores, hids, hs'⟩ :=
      ih ht (fun e he => hdocs e (List.mem_cons_of_mem _ he)) hrest
    refine ⟨((Document.idKey, .objectId i) :: Document.erase d Document.idKey) :: created, ?_,
      .cons ⟨_, rfl⟩ hstores, ?_, hs'⟩
    · rw [hcreated, hinserted.documents, List.append_assoc, List.singleton_append]
    · rw [List.map_cons, List.map_cons, hids]
      rfl

namespace Plan

/-- Carrying out a plan whose updates address stored documents: they all succeed, and then it
succeeds when its inserts do. -/
theorem perform_apply {p : Plan} {s : Store} (hdocs : Document.Identified s.documents)
    (h : ∀ u ∈ p.updates, u.Addresses s.documents) :
    ∃ modified, p.perform s =
      (do
        let ids ← Action.insertMany (p.inserts.map (·.document))
        return { matched := p.updates.length, modified, insertedIds := ids } :
        Action BatchSummary)
      { s with documents := s.documents.map (PlannedUpdate.appliedAll p.updates) } := by
  obtain ⟨modified, hperform⟩ := performUpdates_apply hdocs h {}
  refine ⟨modified, ?_⟩
  rw [perform, Action.bind_apply, hperform]
  dsimp only
  rw [Nat.zero_add]
  cases hinserts : p.inserts with
  | nil => rfl
  | cons i rest => rfl

end Plan

end DocMapper
