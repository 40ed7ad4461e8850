import DocMapper.Proofs.Amendments
import DocMapper.Proofs.ExactTypes

namespace DocMapper

/-! # Runs in batches

A batch updates what it finds and then inserts the rest. Whether an instance is found depends on the
store as the batch starts, but what updates do to a document does not depend on the documents after
it. So a run in batches comes to the same as inserting all that it ever inserts, and only then
updating for all that it ever finds.
-/

namespace IdSource

variable {ids : IdSource}

/-- A document as it is stored: its identifier first, a fresh one if it has none. -/
def stamp (ids : IdSource) (d : Document) : Document :=
  (Document.idKey, (Document.id? d).getD (.objectId ids.fresh)) ::
    Document.erase d Document.idKey

/-- The supply after a document was stored, which takes an identifier if it has none. -/
def past (ids : IdSource) (d : Document) : IdSource :=
  if (Document.id? d).isSome then ids else ids.advance

/-- Documents as they are stored one after the other. -/
def stampAll (ids : IdSource) : List Document → List Document
  | [] => []
  | d :: rest => ids.stamp d :: (ids.past d).stampAll rest

/-- The supply after documents were stored. -/
def pastAll (ids : IdSource) (docs : List Document) : IdSource := docs.foldl past ids

theorem stampAll_append (docs more : List Document) :
    ids.stampAll (docs ++ more) = ids.stampAll docs ++ (ids.pastAll docs).stampAll more := by
  induction docs generalizing ids with
  | nil => rfl
  | cons d rest ih =>
    rw [List.cons_append, stampAll, stampAll, ih, List.cons_append]
    rfl

theorem pastAll_append (docs more : List Document) :
    ids.pastAll (docs ++ more) = (ids.pastAll docs).pastAll more :=
  List.foldl_append

end IdSource

/-- An insertion that succeeds stamps the document and puts it at the end. -/
theorem Store.insert_eq_ok_stamp {s s' : Store} {d : Document} {id : Value}
    (h : s.insert d = .ok (id, s')) :
    s' = { s with documents := s.documents ++ [s.ids.stamp d], ids := s.ids.past d } := by
  unfold Store.insert at h
  cases hid : Document.id? d with
  | some given =>
    simp only [hid] at h
    split at h
    · cases h
    · cases h
      simp only [IdSource.stamp, IdSource.past, hid, Option.getD_some, Option.isSome_some, if_true]
  | none =>
    simp only [hid] at h
    split at h
    · cases h
    · cases h
      simp only [IdSource.stamp, IdSource.past, hid, Option.getD_none, Option.isSome_none,
        Bool.false_eq_true, if_false]

namespace Reconciler

variable {r : Reconciler} {instances docs more found : List Document} {inst d : Document}

/-! ## Amendments and what comes after -/

theorem amendAll_append_of_mem (hw : ∀ inst ∈ found, r.Writable inst)
    (h : ∀ inst ∈ found, r.key? inst ∈ docs.map r.key?) :
    r.amendAll found (docs ++ more) = r.amendAll found docs ++ more := by
  induction found generalizing docs with
  | nil => rfl
  | cons inst rest ih =>
    rw [amendAll, amendAll, List.foldl_cons, List.foldl_cons,
      amend_append_of_mem (h inst List.mem_cons_self)]
    refine ih (fun i hi => hw i (List.mem_cons_of_mem _ hi)) fun i hi => ?_
    rw [map_key?_amend (hw inst List.mem_cons_self)]
    exact h i (List.mem_cons_of_mem _ hi)

theorem countP_reaches_append_of_mem (h : ∀ inst ∈ found, r.key? inst ∈ docs.map r.key?) :
    found.countP (r.reaches (docs ++ more)) = found.countP (r.reaches docs) :=
  List.countP_congr fun inst hinst => by rw [reaches_append_of_mem (h inst hinst)]

/-! ## Inserts -/

theorem asks_congr {d' : Document}
    (h : ∀ field ∈ r.queryFields, Document.get? d field = Document.get? d' field) :
    r.asks inst d = r.asks inst d' := by
  rw [Bool.eq_iff_iff, asks_eq_true, asks_eq_true]
  exact forall₂_congr fun field hfield => by rw [h field hfield]

section Inserts

variable {Known : Value → Prop} (hr : r.Faithful instances Known)

include hr

/-- A stored instance has in the query fields what it was inserted with. -/
theorem get?_stamp (ids : IdSource) (hinst : inst ∈ instances) {field : String}
    (hfield : field ∈ r.queryFields) :
    Document.get? (ids.stamp (Document.readId inst)) field =
      Document.get? (Document.readId inst) field := by
  by_cases hid : field = Document.idKey
  · subst hid
    obtain ⟨v, hv, -⟩ := (checkBatch_eq_ok.mp hr.check).1 inst hinst _ hfield
    have hread : Document.id? (Document.readId inst) = some v.readId := by
      rw [Document.id?_readId, Document.id?, hv, Option.map_some]
    rw [IdSource.stamp, Document.get?_cons_self, hread, Option.getD_some]
    exact hread.symm
  · rw [IdSource.stamp, Document.get?_cons_of_ne (Ne.symm hid), Document.get?_erase_of_ne hid]

theorem key?_stamp (ids : IdSource) (hinst : inst ∈ instances) :
    r.key? (ids.stamp (Document.readId inst)) = r.key? inst := by
  rw [← key?_readId inst]
  exact key?_congr fun field hfield => by rw [identity?, identity?, get?_stamp hr ids hinst hfield]

theorem map_key?_stampAll (ids : IdSource) {new : List Document}
    (hnew : ∀ inst ∈ new, inst ∈ instances) :
    (ids.stampAll (new.map Document.readId)).map r.key? = new.map r.key? := by
  induction new generalizing ids with
  | nil => rfl
  | cons inst rest ih =>
    rw [List.map_cons, IdSource.stampAll, List.map_cons, List.map_cons,
      key?_stamp hr ids (hnew inst List.mem_cons_self),
      ih _ fun i hi => hnew i (List.mem_cons_of_mem _ hi)]

/-- Inserting an instance under an identifier that is not in use leaves tame documents. -/
theorem Tame.insert {s s' : Store} (hs : r.Tame instances Known s.documents)
    (hinst : inst ∈ instances) {id : Value}
    (h : s.insert (Document.readId inst) = .ok (id, s')) : r.Tame instances Known s'.documents := by
  have hinserted := Store.insert_eq_ok h
  have hid : Document.id? (s.ids.stamp (Document.readId inst)) = some id := by
    rw [Document.id?, IdSource.stamp, Document.get?_cons_self]
    cases hgiven : Document.id? (Document.readId inst) with
    | none => rw [hinserted.fresh hgiven, Option.getD_none]
    | some given => rw [hinserted.given given hgiven, Option.getD_some]
  have hknown : Known id := by
    cases hgiven : Document.id? inst with
    | none =>
      rw [hinserted.fresh (by rw [Document.id?_readId, hgiven, Option.map_none])]
      exact hr.fresh _
    | some given =>
      rw [hinserted.given given.readId (by rw [Document.id?_readId, hgiven, Option.map_some])]
      exact (hr.given inst hinst given hgiven).2
  rw [Store.insert_eq_ok_stamp h]
  refine ⟨fun d hd => ?_, List.pairwise_append.mpr ⟨hs.distinct, List.pairwise_singleton _ _,
    fun e he c hc x y hx hy => ?_⟩, fun other hother d hd hkey => ?_⟩
  · rcases List.mem_append.mp hd with hd | hd
    · exact hs.known d hd
    · rw [List.mem_singleton.mp hd]
      exact ⟨id, hid, hknown⟩
  · -- the identifier was compared with every one in use
    rw [List.mem_singleton.mp hc, hid, Option.some.injEq] at hy
    subst hy
    simpa [Document.hasId, hx] using hinserted.unused e he
  · rcases List.mem_append.mp hd with hd | hd
    · exact hs.asked other hother d hd hkey
    · rw [List.mem_singleton.mp hd] at hkey ⊢
      rw [asks_congr fun field hfield => get?_stamp hr s.ids hinst hfield]
      exact hr.asks other hother inst hinst ((key?_stamp hr s.ids hinst).symm.trans hkey)

/-- Inserts that succeed put the instances at the end. -/
theorem insertMany_eq_ok {s s' : Store} {new : List Document} {ids : List Value}
    (hs : r.Tame instances Known s.documents) (hnew : ∀ inst ∈ new, inst ∈ instances)
    (h : Action.insertMany (new.map Document.readId) s = (.ok ids, s')) :
    s' = { s with
        documents := s.documents ++ s.ids.stampAll (new.map Document.readId)
        ids := s.ids.pastAll (new.map Document.readId) } ∧
      ids.length = new.length ∧ r.Tame instances Known s'.documents := by
  unfold Action.insertMany at h
  -- each insert draws from the identifiers that those before it left, and keeps the store tame
  induction new generalizing s ids with
  | nil =>
    cases h
    exact ⟨by simp [IdSource.stampAll, IdSource.pastAll], rfl, hs⟩
  | cons inst rest ih =>
    rw [List.map_cons, List.mapM_cons, Action.bind_apply_eq_ok] at h
    obtain ⟨id, t, hinsert, h⟩ := h
    obtain ⟨ids', t', hrest, h⟩ := Action.bind_apply_eq_ok.mp h
    cases h
    have hinsert' := Action.atomic_apply_eq_ok.mp hinsert
    have ht := Store.insert_eq_ok_stamp hinsert'
    obtain ⟨hs', hlength, htame⟩ := ih (hs.insert hr (hnew inst List.mem_cons_self) hinsert')
      (fun i hi => hnew i (List.mem_cons_of_mem _ hi)) hrest
    refine ⟨?_, by rw [List.length_cons, List.length_cons, hlength], htame⟩
    rw [hs', ht]
    simp only [List.map_cons, IdSource.stampAll, List.append_assoc, List.singleton_append]
    rfl

/-! ## One batch -/

/-- What a run does to a store that finds some instances and creates documents for others: it comes
to the same as creating all of them and then amending for what is found. -/
structure Outcome (r : Reconciler) (instances : List Document) (Known : Value → Prop) (s : Store)
    (found new : List Document) (summary : BatchSummary) (s' : Store) : Prop where
  documents : s'.documents =
    r.amendAll found (s.documents ++ s.ids.stampAll (new.map Document.readId))
  ids : s'.ids = s.ids.pastAll (new.map Document.readId)
  matched : summary.matched =
    found.countP (r.reaches (s.documents ++ s.ids.stampAll (new.map Document.readId)))
  inserted : summary.insertedIds.length = new.length
  tame : r.Tame instances Known s'.documents
  stands : List.Forall₂ r.StandsFor
    (s.documents ++ s.ids.stampAll (new.map Document.readId)) s'.documents
  foundKeys : ∀ inst ∈ found, inst ∈ instances ∧
    r.key? inst ∈ (s.documents ++ s.ids.stampAll (new.map Document.readId)).map r.key?

omit hr in
/-- The updates of a plan are those of the instances that have a partner, in order. -/
theorem forall₂_plan_updates (batch docs : List Document) :
    List.Forall₂ (fun inst u => ∃ index id, r.partner? docs inst = some id ∧
        u = .setting index id (r.written inst))
      (batch.filter fun inst => (r.partner? docs inst).isSome) (r.plan batch docs).updates := by
  rw [plan_eq]
  dsimp only
  generalize 0 = index
  induction batch generalizing index with
  | nil => exact .nil
  | cons inst rest ih =>
    rw [List.zipIdx_cons, List.filterMap_cons, List.filter_cons]
    cases hpartner : r.partner? docs inst with
    | none => simpa [update?, hpartner] using ih (index + 1)
    | some id =>
      simp only [update?, hpartner, Option.map_some, Option.isSome_some, if_true]
      exact .cons ⟨index, id, hpartner, rfl⟩ (ih (index + 1))

/-- A batch finds the instances whose keys are stored, and creates documents for the others. -/
theorem outcome_of_upsertBatch {s s' : Store} {batch : List Document} {summary : BatchSummary}
    (hs : r.Tame instances Known s.documents) (hbatch : ∀ inst ∈ batch, inst ∈ instances)
    (h : r.upsertBatch batch s = (.ok summary, s')) :
    r.Outcome instances Known s
      (batch.filter fun inst => r.key? inst ∈ s.documents.map r.key?)
      (batch.filter fun inst => r.key? inst ∉ s.documents.map r.key?) summary s' := by
  have hcheck : r.checkBatch batch = .ok () := checkBatch_of_subset hr.check hbatch
  have hreconcile : r.reconcile batch s = (.ok (r.plan batch s.documents), s) :=
    reconcile_eq_plan hr.legal hcheck (fun hlength inst hinst => hr.plain hlength inst
      (hbatch inst hinst)) fun inst hinst => hs.asked inst (hbatch inst hinst)
  -- a partner is found exactly where the key is stored, which parts the batch in two
  have hsome : ∀ inst ∈ batch, (r.partner? s.documents inst).isSome =
      decide (r.key? inst ∈ s.documents.map r.key?) := fun inst hinst => by
    rw [Bool.eq_iff_iff, isSome_partner? hr hs (hbatch inst hinst), decide_eq_true_iff]
  let found := batch.filter fun inst => r.key? inst ∈ s.documents.map r.key?
  let new := batch.filter fun inst => r.key? inst ∉ s.documents.map r.key?
  have hfound : ∀ inst ∈ found, inst ∈ instances ∧ r.key? inst ∈ s.documents.map r.key? :=
    fun inst hinst => ⟨hbatch inst (List.mem_of_mem_filter hinst),
      by simpa using (List.mem_filter.mp hinst).2⟩
  have hnew : ∀ inst ∈ new, inst ∈ instances := fun inst hinst =>
    hbatch inst (List.mem_of_mem_filter hinst)
  have hus := forall₂_plan_updates (r := r) batch s.documents
  rw [List.filter_congr hsome] at hus
  have hinserts : (r.plan batch s.documents).inserts.map (·.document) =
      new.map Document.readId := by
    rw [plan_inserts]
    refine congrArg _ (List.filter_congr fun inst hinst => ?_)
    rw [← Option.not_isSome, hsome inst hinst, decide_not]
  -- the updates come first and leave the keys, and then what is new is inserted
  rw [upsertBatch, Action.bind_apply, hreconcile] at h
  dsimp only at h
  rw [Plan.perform, Action.bind_apply_eq_ok] at h
  obtain ⟨updates, t, hupdates, h⟩ := h
  obtain ⟨rfl, ht, hstands, hmatched, hnone⟩ := performUpdates_eq_ok hr hs hs
    (List.forall₂_same.mpr fun d _ => StandsFor.refl r d) (fun inst hinst => (hfound inst hinst).1)
    hus hupdates
  obtain ⟨ids, hinsert, hcount, hids⟩ : ∃ ids,
      Action.insertMany (new.map Document.readId)
        { s with documents := r.amendAll found s.documents } = (.ok ids, s') ∧
      summary.matched = updates.matched ∧ summary.insertedIds = ids := by
    rw [← hinserts]
    split at h
    · rename_i hempty
      cases h
      rw [List.isEmpty_iff.mp hempty]
      exact ⟨[], rfl, rfl, hnone⟩
    · obtain ⟨ids, t, hinsert, h⟩ := Action.bind_apply_eq_ok.mp h
      cases h
      exact ⟨ids, hinsert, rfl, rfl⟩
  obtain ⟨rfl, hlength, htame⟩ := insertMany_eq_ok hr ht hnew hinsert
  have hmem := fun inst hinst => (hfound inst hinst).2
  refine ⟨?_, rfl, ?_, ?_, htame, ?_, fun inst hinst => ⟨(hfound inst hinst).1, ?_⟩⟩
  · rw [amendAll_append_of_mem (fun inst hinst => hr.writable inst (hfound inst hinst).1) hmem]
  · rw [countP_reaches_append_of_mem hmem, hcount, hmatched]
    exact Nat.zero_add _
  · rw [hids, hlength]
  · exact List.rel_append hstands (List.forall₂_same.mpr fun d _ => StandsFor.refl r d)
  · rw [List.map_append]
    exact List.mem_append_left _ (hmem inst hinst)

/-! ## Batches one after the other -/

omit hr in
theorem Outcome.nil {s : Store} (hs : r.Tame instances Known s.documents) :
    r.Outcome instances Known s [] [] {} s := by
  have hnone : s.documents ++ s.ids.stampAll ([].map Document.readId) = s.documents :=
    List.append_nil _
  refine ⟨hnone.symm, rfl, rfl, rfl, hs, ?_, fun inst hinst => absurd hinst List.not_mem_nil⟩
  rw [hnone]
  exact List.forall₂_same.mpr fun d _ => StandsFor.refl r d

/-- What a later batch creates may as well be there when an earlier one amends. -/
theorem Outcome.append {s t s' : Store} {found found' new new' : List Document}
    {a b : BatchSummary} (h : r.Outcome instances Known s found new a t)
    (h' : r.Outcome instances Known t found' new' b s') :
    r.Outcome instances Known s (found ++ found') (new ++ new') (a.add b) s' := by
  have hstamps : s.documents ++ s.ids.stampAll ((new ++ new').map Document.readId) =
      s.documents ++ s.ids.stampAll (new.map Document.readId) ++
        t.ids.stampAll (new'.map Document.readId) := by
    rw [List.map_append, IdSource.stampAll_append, h.ids, List.append_assoc]
  have hkeys : ∀ inst ∈ found, r.key? inst ∈
      (s.documents ++ s.ids.stampAll (new.map Document.readId)).map r.key? :=
    fun inst hinst => (h.foundKeys inst hinst).2
  -- the earlier amendments with the later documents already there
  have hearlier : r.amendAll found
      (s.documents ++ s.ids.stampAll ((new ++ new').map Document.readId)) =
      t.documents ++ t.ids.stampAll (new'.map Document.readId) := by
    rw [hstamps, amendAll_append_of_mem
      (fun inst hinst => hr.writable inst (h.foundKeys inst hinst).1) hkeys, ← h.documents]
  have hstands : List.Forall₂ r.StandsFor
      (s.documents ++ s.ids.stampAll ((new ++ new').map Document.readId))
      (t.documents ++ t.ids.stampAll (new'.map Document.readId)) := by
    rw [hstamps]
    exact List.rel_append h.stands (List.forall₂_same.mpr fun d _ => StandsFor.refl r d)
  refine ⟨?_, ?_, ?_, ?_, h'.tame,
    forall₂_trans (fun h h' => h.trans h') hstands h'.stands, fun inst hinst => ?_⟩
  · rw [amendAll, List.foldl_append, ← amendAll, ← amendAll, hearlier, h'.documents]
  · rw [h'.ids, h.ids, List.map_append, IdSource.pastAll_append]
  · have hfound : found.countP (r.reaches
          (s.documents ++ s.ids.stampAll ((new ++ new').map Document.readId))) = a.matched := by
      rw [hstamps, countP_reaches_append_of_mem hkeys, ← h.matched]
    have hfound' : found'.countP (r.reaches
          (s.documents ++ s.ids.stampAll ((new ++ new').map Document.readId))) = b.matched := by
      rw [h'.matched]
      exact List.countP_congr fun inst _ => by rw [reaches_of_standsFor hstands]
    rw [List.countP_append, hfound, hfound']
    rfl
  · rw [BatchSummary.add, List.length_append, h.inserted, h'.inserted, List.length_append]
  · rcases List.mem_append.mp hinst with hinst | hinst
    · refine ⟨(h.foundKeys inst hinst).1, ?_⟩
      rw [hstamps, List.map_append]
      exact List.mem_append_left _ (hkeys inst hinst)
    · rw [← map_key?_of_standsFor hstands]
      exact h'.foundKeys inst hinst

end Inserts

/-- Of instances in parts, the new ones or the others. An instance is new if its key is neither
among the given ones nor that of an instance in an earlier part. -/
def siftParts (r : Reconciler) (new : Bool) (keys : List (Option (List Identity))) :
    List (List Document) → List Document
  | [] => []
  | part :: rest =>
    (part.filter fun inst => decide (r.key? inst ∉ keys) = new) ++
      siftParts r new (keys ++ part.map r.key?) rest

/-- A run finds the instances whose keys are stored or come in an earlier batch. -/
theorem outcome_of_sumUp {Known : Value → Prop} (hr : r.Faithful instances Known)
    {keys : List (Option (List Identity))} {parts : List (List Document)} {s s' : Store}
    {summary : BatchSummary} (hs : r.Tame instances Known s.documents)
    (hkeys : ∀ key, key ∈ keys ↔ key ∈ s.documents.map r.key?)
    (hparts : ∀ part ∈ parts, ∀ inst ∈ part, inst ∈ instances)
    (h : Model.sumUp r.upsertBatch parts s = (.ok summary, s')) :
    r.Outcome instances Known s (r.siftParts false keys parts) (r.siftParts true keys parts)
      summary s' := by
  -- the induction is on the batches: those after the first start from the store that it leaves,
  -- whose keys are the stored ones and its own
  induction parts generalizing keys s summary with
  | nil =>
    cases h
    exact Outcome.nil hs
  | cons part rest ih =>
    obtain ⟨a, t, b, hpart, hrest, rfl⟩ := Model.sumUp_cons_eq_ok.mp h
    have hfirst := outcome_of_upsertBatch hr hs (hparts part List.mem_cons_self) hpart
    simp only [← hkeys] at hfirst
    have hfound : (part.filter fun inst => r.key? inst ∈ keys) =
        part.filter fun inst => decide (r.key? inst ∉ keys) = false := by simp
    have hnew : (part.filter fun inst => r.key? inst ∉ keys) =
        part.filter fun inst => decide (r.key? inst ∉ keys) = true := by simp
    rw [siftParts, siftParts, ← hfound, ← hnew]
    refine hfirst.append hr (ih hfirst.tame (fun key => ?_)
      (fun p hp => hparts p (List.mem_cons_of_mem _ hp)) hrest)
    rw [map_key?_of_standsFor hfirst.stands, List.map_append, map_key?_stampAll hr s.ids
      fun inst hinst => hparts part List.mem_cons_self inst (List.mem_of_mem_filter hinst),
      List.mem_append, List.mem_append, hkeys]
    constructor
    · rintro (hkey | hkey)
      · exact Or.inl hkey
      · by_cases hstored : key ∈ s.documents.map r.key?
        · exact Or.inl hstored
        · obtain ⟨inst, hinst, rfl⟩ := List.mem_map.mp hkey
          refine Or.inr (List.mem_map.mpr ⟨inst, List.mem_filter.mpr ⟨hinst, ?_⟩, rfl⟩)
          simpa [hkeys] using hstored
    · rintro (hkey | hkey)
      · exact Or.inl hkey
      · obtain ⟨inst, hinst, rfl⟩ := List.mem_map.mp hkey
        exact Or.inr (List.mem_map_of_mem (List.mem_of_mem_filter hinst))

end Reconciler

end DocMapper
