import DocMapper.Proofs.FoundKeys
import DocMapper.Proofs.ModelWrites

namespace DocMapper

/-! # Updating or creating in batches

Instances are matched batch by batch, each batch with the store that the one before it left. A
batch changes only documents with the keys of its instances, keeps the keys by which documents are
found, and adds the keys of its other instances. So batches compose: what one of them leaves for an
instance the later ones do not disturb, and once all keys are there nothing is inserted.
-/

/-- A list related with two lists one after the other is cut like them. -/
theorem forall₂_append_left {α β : Type} {R : α → β → Prop} {l₁ l₂ : List α} {l : List β}
    (h : List.Forall₂ R (l₁ ++ l₂) l) :
    ∃ m₁ m₂, l = m₁ ++ m₂ ∧ List.Forall₂ R l₁ m₁ ∧ List.Forall₂ R l₂ m₂ := by
  induction l₁ generalizing l with
  | nil => exact ⟨[], l, rfl, .nil, h⟩
  | cons a rest ih =>
    cases h with
    | cons hab hrest =>
      obtain ⟨m₁, m₂, rfl, h₁, h₂⟩ := ih hrest
      exact ⟨_ :: m₁, m₂, rfl, .cons hab h₁, h₂⟩

/-- Lists related element by element have equal images if related elements do. -/
theorem map_eq_of_forall₂ {α β γ : Type} {R : α → β → Prop} {f : α → γ} {g : β → γ} {l : List α}
    {l' : List β} (h : List.Forall₂ R l l') (hR : ∀ a ∈ l, ∀ b, R a b → f a = g b) :
    l.map f = l'.map g := by
  induction h with
  | nil => rfl
  | cons hab _ ih =>
    rw [List.map_cons, List.map_cons, hR _ List.mem_cons_self _ hab,
      ih fun a ha => hR a (List.mem_cons_of_mem _ ha)]

/-- The parts of a list that was cut make up the list. -/
theorem flatten_batches {α : Type} (size : Nat) (xs : List α) :
    (batches size xs).flatten = xs := by
  fun_induction batches size xs with
  | case1 => rfl
  | case2 x rest ih => rw [List.flatten_cons, ih, List.cons_append, List.take_append_drop]

namespace BatchSummary

theorem add_assoc (a b c : BatchSummary) : (a.add b).add c = a.add (b.add c) := by
  simp only [add, Nat.add_assoc, List.append_assoc]

theorem empty_add (a : BatchSummary) : ({} : BatchSummary).add a = a := by
  simp only [add, Nat.zero_add, List.nil_append]

theorem add_empty (a : BatchSummary) : a.add {} = a := by
  simp only [add, Nat.add_zero, List.append_nil]

end BatchSummary

namespace Model

variable {α : Type} {run : α → Action BatchSummary} {s s' : Store} {summary : BatchSummary}

/-- What was added up before comes in front. -/
theorem foldlM_add (run : α → Action BatchSummary) (parts : List α) (before : BatchSummary) :
    parts.foldlM (fun summary part => return summary.add (← run part)) before =
      (do return before.add (← sumUp run parts) : Action BatchSummary) := by
  induction parts generalizing before with
  | nil => rw [sumUp, List.foldlM_nil, List.foldlM_nil, pure_bind, BatchSummary.add_empty]
  | cons part rest ih =>
    rw [sumUp, List.foldlM_cons, List.foldlM_cons]
    simp only [bind_assoc, pure_bind, ih, BatchSummary.empty_add, BatchSummary.add_assoc]

/-- Adding up over parts succeeds when the first part does, and then the others. -/
theorem sumUp_cons_eq_ok {part : α} {parts : List α} :
    sumUp run (part :: parts) s = (.ok summary, s') ↔
      ∃ a t b, run part s = (.ok a, t) ∧ sumUp run parts t = (.ok b, s') ∧
        summary = a.add b := by
  have hcons : sumUp run (part :: parts) =
      (do
        let a ← run part
        let b ← sumUp run parts
        return a.add b : Action BatchSummary) := by
    rw [sumUp, List.foldlM_cons]
    simp only [bind_assoc, pure_bind, foldlM_add, BatchSummary.empty_add]
  simp only [hcons, Action.bind_apply_eq_ok]
  constructor
  · rintro ⟨a, t, ha, b, t', hb, h⟩
    cases h
    exact ⟨a, t, b, ha, hb, rfl⟩
  · rintro ⟨a, t, b, ha, hb, rfl⟩
    exact ⟨a, t, ha, b, s', hb, rfl⟩

theorem sumUp_singleton {part : α} (h : run part s = (.ok summary, s')) :
    sumUp run [part] s = (.ok summary, s') :=
  sumUp_cons_eq_ok.mpr ⟨summary, s', {}, h, rfl, (BatchSummary.add_empty summary).symm⟩

theorem sumUp_pair {first second : α} {t : Store} {a b : BatchSummary}
    (h : run first s = (.ok a, t)) (h' : run second t = (.ok b, s')) :
    sumUp run [first, second] s = (.ok (a.add b), s') :=
  sumUp_cons_eq_ok.mpr ⟨a, t, b, h, sumUp_singleton h', rfl⟩

end Model

namespace Document

variable {d stored : Document}

theorem stores_readId : Stores (readId d) stored ↔ Stores d stored := by
  rw [Stores, Stores, erase_readId]

/-- A stored document has the fields that were inserted. -/
theorem Stores.get?_of_ne (h : Stores d stored) {key : String} (hkey : key ≠ idKey) :
    get? stored key = get? d key := by
  obtain ⟨id, rfl⟩ := h
  rw [get?_cons_of_ne hkey.symm, get?_erase_of_ne hkey]

end Document

namespace Reconciler

variable {r : Reconciler} {inst d : Document} {instances docs : List Document}

/-! ## Created documents -/

/-- Documents with one value in every query field are found by one key. -/
theorem foundKey?_congr {d' : Document}
    (h : ∀ field ∈ r.queryFields, Document.get? d field = Document.get? d' field) :
    r.foundKey? d = r.foundKey? d' := by
  have hkey : r.key? d = r.key? d' := key?_congr fun field hfield => by
    rw [identity?, identity?, h field hfield]
  ext key
  rw [foundKey?_eq_some, foundKey?_eq_some, hkey]
  refine and_congr_right fun _ => forall₂_congr fun field hfield => ?_
  rw [h field hfield]

/-- What is inserted for an instance is found by its key. -/
theorem Suits.foundKey?_of_stores (hr : r.OwnFields) (h : r.Suits inst)
    (hd : Document.Stores inst d) : r.foundKey? d = r.key? inst := by
  rw [← h.foundKey?_eq]
  exact foundKey?_congr fun field hfield => hd.get?_of_ne (hr field hfield).2

/-- What is inserted for an instance has its values. -/
theorem Suits.holds_of_stores (h : r.Suits inst) (hd : Document.Stores inst d) :
    r.Holds inst d := by
  intro entry hentry
  rw [hd.get?_of_ne (h.settable entry hentry).2]
  exact h.own entry hentry

/-! ## One batch -/

/-- One batch: a plan for the store as it is, carried out. -/
def upsertBatch (r : Reconciler) (instances : List Document) : Action BatchSummary := do
  (← r.reconcile instances).perform

/-- The instances for which nothing is found. -/
def missing (r : Reconciler) (instances docs : List Document) : List Document :=
  instances.filter fun inst => r.key? inst ∉ docs.map r.foundKey?

theorem mem_missing : inst ∈ r.missing instances docs ↔
    inst ∈ instances ∧ r.key? inst ∉ docs.map r.foundKey? := by
  rw [missing, List.mem_filter, decide_eq_true_iff]

/-- The stored documents after the updates of a batch. -/
def afterUpdates (r : Reconciler) (instances docs : List Document) : List Document :=
  docs.map (PlannedUpdate.appliedAll (r.batchPlan instances docs).updates)

/-- What an upsert of instances leaves of stored documents: it counts every instance once, the
documents that were there are kept and those of the missing instances come after them. -/
structure Upserted (r : Reconciler) (instances docs : List Document) (summary : BatchSummary)
    (docs' : List Document) : Prop where
  count : summary.matched + summary.insertedIds.length = instances.length
  identified : Document.Identified docs'
  documents : ∃ old created, docs' = old ++ created ∧ List.Forall₂ (r.Kept instances) docs old ∧
    List.Forall₂ Document.Stores (r.missing instances docs) created ∧
    created.map Document.id? = summary.insertedIds.map some
  holds : (instances.map r.key?).Nodup → ∀ inst ∈ instances,
    ∃ d ∈ docs', r.foundKey? d = r.key? inst ∧ r.Holds inst d

/-- What can be matched can be matched in part. -/
theorem checkBatch_of_subset {instances' : List Document} (h : r.checkBatch instances = .ok ())
    (hsub : instances' ⊆ instances) : r.checkBatch instances' = .ok () := by
  rw [checkBatch_eq_ok] at h ⊢
  exact ⟨fun inst hinst => h.1 inst (hsub hinst), h.2⟩

/-- A batch carries out the plan for the stored documents that its instances ask for. -/
theorem upsertBatch_apply_of_plain (hr : ∀ field ∈ r.queryFields, LegalName field)
    (hcheck : r.checkBatch instances = .ok ())
    (hplain : r.queryFields.length ≠ 1 → ∀ inst ∈ instances, r.Plain inst) (s : Store) :
    r.upsertBatch instances s = (r.batchPlan instances s.documents).perform s := by
  rw [upsertBatch, Action.bind_apply, reconcile_apply hr hcheck hplain]
  rfl

section Batch

variable (hr : r.OwnFields) (hall : ∀ inst ∈ instances, r.Suits inst)

include hr hall

theorem upsertBatch_eq_perform (hcheck : r.checkBatch instances = .ok ()) (s : Store) :
    r.upsertBatch instances s = (r.batchPlan instances s.documents).perform s :=
  upsertBatch_apply_of_plain (fun field hfield => (hr field hfield).1) hcheck
    (fun _ inst hinst => (hall inst hinst).plain) s

/-- A batch updates what is found, which always succeeds, and then inserts the other instances. -/
theorem upsertBatch_apply (hcheck : r.checkBatch instances = .ok ()) {s : Store}
    (hs : Document.Identified s.documents) :
    ∃ matched modified, matched + (r.missing instances s.documents).length = instances.length ∧
      r.upsertBatch instances s =
        (do
          let ids ← Action.insertMany ((r.missing instances s.documents).map Document.readId)
          return { matched, modified, insertedIds := ids } :
          Action BatchSummary)
        { s with documents := r.afterUpdates instances s.documents } := by
  -- an instance has a partner among the candidates exactly when its key is in the store
  have hsome : ∀ inst ∈ instances,
      (r.partner? (s.documents.filter (r.selects instances)) inst).isSome =
        decide (r.key? inst ∈ s.documents.map r.foundKey?) := by
    intro inst hinst
    rw [partner?_selects hr hall hinst, Bool.eq_iff_iff, isSome_found? hs, decide_eq_true_iff]
  -- so the inserts are the missing instances, in their order,
  have hinserts : (r.batchPlan instances s.documents).inserts.map (·.document) =
      (r.missing instances s.documents).map Document.readId := by
    rw [batchPlan, plan_inserts, missing]
    refine congrArg _ (List.filter_congr fun inst hinst => ?_)
    rw [← Option.not_isSome, hsome inst hinst, decide_not]
  -- and each of the others is updated
  have hupdates : (r.batchPlan instances s.documents).updates.length +
      (r.missing instances s.documents).length = instances.length := by
    rw [batchPlan, length_plan_updates, List.filter_congr hsome, missing]
    simp only [decide_not]
    exact (List.length_eq_length_filter_add _).symm
  obtain ⟨modified, hperform⟩ := Plan.perform_apply hs
    fun u hu => addresses_of_mem_batchPlan hr hall hs hu
  refine ⟨_, modified, hupdates, ?_⟩
  rw [upsertBatch_eq_perform hr hall hcheck, hperform, hinserts]
  rfl

/-- A batch that finds all its instances succeeds, and inserts nothing. -/
theorem upsertBatch_of_found (hcheck : r.checkBatch instances = .ok ()) {s : Store}
    (hs : Document.Identified s.documents)
    (hfound : ∀ inst ∈ instances, r.key? inst ∈ s.documents.map r.foundKey?) :
    ∃ modified, r.upsertBatch instances s =
      (.ok { matched := instances.length, modified },
        { s with documents := r.afterUpdates instances s.documents }) := by
  obtain ⟨matched, modified, hcount, happly⟩ := upsertBatch_apply hr hall hcheck hs
  have hmissing : r.missing instances s.documents = [] :=
    List.filter_eq_nil_iff.mpr fun inst hinst => by simpa using hfound inst hinst
  rw [hmissing] at happly hcount
  rw [List.length_nil, Nat.add_zero] at hcount
  exact ⟨modified, hcount ▸ happly⟩

theorem kept_afterUpdates (hdocs : Document.Identified docs) :
    List.Forall₂ (r.Kept instances) docs (r.afterUpdates instances docs) := by
  rw [afterUpdates, List.forall₂_map_right_iff, List.forall₂_same]
  exact fun d hd => kept_appliedAll hr hall hdocs (fun _ hu => hu) hd (Kept.refl d)

theorem identified_afterUpdates (hdocs : Document.Identified docs) :
    Document.Identified (r.afterUpdates instances docs) :=
  hdocs.map fun d hd => (kept_appliedAll hr hall hdocs (fun _ hu => hu) hd (Kept.refl d)).id

/-- The update of an instance that is found addresses a document with its key. -/
theorem exists_update_of_found (hdocs : Document.Identified docs) (hinst : inst ∈ instances)
    (hfound : r.key? inst ∈ docs.map r.foundKey?) :
    ∃ d ∈ docs, r.foundKey? d = r.key? inst ∧
      ∃ u ∈ (r.batchPlan instances docs).updates, Document.hasId u.id d = true := by
  obtain ⟨id, hid⟩ := Option.isSome_iff_exists.mp ((isSome_found? hdocs).mpr hfound)
  obtain ⟨d, hd, hdid, hkey⟩ := found?_eq_some hid
  obtain ⟨index, hindex⟩ := List.getElem?_of_mem hinst
  refine ⟨d, hd, hkey, .setting index id (r.written inst), mem_plan_updates.mpr
    ⟨inst, index, List.mk_mem_zipIdx_iff_getElem?.mpr hindex, id, ?_, rfl⟩, ?_⟩
  · rw [partner?_selects hr hall hinst, hid]
  · obtain ⟨i, hi⟩ := hdocs.objectIds d hd
    cases hdid.symm.trans hi
    exact (Document.hasId_objectId hi).mpr rfl

/-- A batch that succeeds has upserted its instances. -/
theorem upsertBatch_eq_ok (hcheck : r.checkBatch instances = .ok ()) {s s' : Store}
    {summary : BatchSummary} (hs : Document.Identified s.documents)
    (h : r.upsertBatch instances s = (.ok summary, s')) :
    r.Upserted instances s.documents summary s'.documents := by
  obtain ⟨matched, modified, hcount, happly⟩ := upsertBatch_apply hr hall hcheck hs
  rw [happly, Action.bind_apply_eq_ok] at h
  obtain ⟨ids, t, hinsert, h⟩ := h
  cases h
  have hkept := kept_afterUpdates hr hall hs
  have hids : ∀ d ∈ (r.missing instances s.documents).map Document.readId, ∀ id,
      Document.id? d = some id → ∃ i : ObjectId, id = .objectId i := by
    rintro _ hd id hid
    obtain ⟨inst, hinst, rfl⟩ := List.mem_map.mp hd
    rw [Document.id?_readId, Option.map_eq_some_iff] at hid
    obtain ⟨given, hgiven, rfl⟩ := hid
    obtain ⟨i, rfl⟩ := (hall inst (mem_missing.mp hinst).1).objectId given hgiven
    exact ⟨i, rfl⟩
  obtain ⟨created, hcreated, hstores, hnew, hidentified'⟩ :=
    Action.insertMany_eq_ok (identified_afterUpdates hr hall hs) hids hinsert
  rw [List.forall₂_map_left_iff] at hstores
  simp only [Document.stores_readId] at hstores
  have hlength : ids.length = (r.missing instances s.documents).length := by
    rw [hstores.length_eq, ← List.length_map some, ← hnew, List.length_map]
  refine ⟨hlength ▸ hcount, hidentified', ⟨_, created, hcreated, hkept, hstores, hnew⟩,
    fun hkeys inst hinst => ?_⟩
  rw [hcreated]
  -- An instance ends up in the document that had its key, or else in the one created for it.
  by_cases hfound : r.key? inst ∈ s.documents.map r.foundKey?
  · obtain ⟨d, hd, hkey, hupdate⟩ := exists_update_of_found hr hall hs hinst hfound
    refine ⟨_, List.mem_append_left _ (List.mem_map_of_mem hd), ?_, ?_⟩
    · rw [(kept_appliedAll hr hall hs (fun _ hu => hu) hd (Kept.refl d)).key, hkey]
    · exact holds_appliedAll hr hall hs (fun _ hu => hu) hkeys hd hinst hkey (Kept.refl d)
        (Or.inr hupdate)
  · obtain ⟨d, hd, hstored⟩ :=
      forall₂_exists_of_mem hstores.flip (mem_missing.mpr ⟨hinst, hfound⟩)
    exact ⟨d, List.mem_append_right _ hd, (hall inst hinst).foundKey?_of_stores hr hstored,
      (hall inst hinst).holds_of_stores hstored⟩

end Batch

/-! ## Batches one after the other -/

theorem Kept.trans {first second : List Document} {d' d'' : Document} (h : r.Kept first d d')
    (h' : r.Kept second d' d'') : r.Kept (first ++ second) d d'' where
  id := h'.id.trans h.id
  key := h'.key.trans h.key
  others := by
    intro hothers
    obtain rfl := h.others fun inst hinst => hothers inst (List.mem_append_left _ hinst)
    exact h'.others fun inst hinst => hothers inst (List.mem_append_right _ hinst)

namespace Upserted

variable {first second docs' docs'' : List Document} {summary a b : BatchSummary}

theorem nil (hdocs : Document.Identified docs) : r.Upserted [] docs {} docs where
  count := rfl
  identified := hdocs
  documents := ⟨docs, [], (List.append_nil _).symm,
    (List.forall₂_same).mpr fun d _ => Kept.refl d, .nil, rfl⟩
  holds := fun _ _ hinst => absurd hinst List.not_mem_nil

/-- The keys by which documents are found stay, and those of the missing instances are new. -/
theorem foundKeys (hr : r.OwnFields) (hall : ∀ inst ∈ instances, r.Suits inst)
    (h : r.Upserted instances docs summary docs') :
    docs'.map r.foundKey? = docs.map r.foundKey? ++ (r.missing instances docs).map r.key? := by
  obtain ⟨old, created, rfl, hkept, hstores, -⟩ := h.documents
  rw [List.map_append, map_eq_of_forall₂ hkept fun _ _ _ h => h.key.symm,
    map_eq_of_forall₂ hstores fun inst hinst _ h =>
      ((hall inst (mem_missing.mp hinst).1).foundKey?_of_stores hr h).symm]

/-- Afterwards every instance is found. -/
theorem found (hr : r.OwnFields) (hall : ∀ inst ∈ instances, r.Suits inst)
    (h : r.Upserted instances docs summary docs') (hinst : inst ∈ instances) :
    r.key? inst ∈ docs'.map r.foundKey? := by
  rw [h.foundKeys hr hall, List.mem_append]
  by_cases hfound : r.key? inst ∈ docs.map r.foundKey?
  · exact Or.inl hfound
  · exact Or.inr (List.mem_map_of_mem (mem_missing.mpr ⟨hinst, hfound⟩))

/-- A document is still there if no instance has its key. -/
theorem mem_of_others (h : r.Upserted instances docs summary docs') (hd : d ∈ docs)
    (hothers : ∀ inst ∈ instances, r.key? inst ≠ r.foundKey? d) : d ∈ docs' := by
  obtain ⟨old, created, rfl, hkept, -, -⟩ := h.documents
  obtain ⟨d', hd', h'⟩ := forall₂_exists_of_mem hkept.flip hd
  obtain rfl := Kept.others h' hothers
  exact List.mem_append_left _ hd'

/-- Upserts of instances with keys of their own make up one. -/
theorem append (hr : r.OwnFields) (hfirst : ∀ inst ∈ first, r.Suits inst)
    (hkeys : ((first ++ second).map r.key?).Nodup) (h : r.Upserted first docs a docs')
    (h' : r.Upserted second docs' b docs'') :
    r.Upserted (first ++ second) docs (a.add b) docs'' := by
  rw [List.map_append, List.nodup_append] at hkeys
  obtain ⟨hkeys₁, hkeys₂, hdisjoint⟩ := hkeys
  have hother : ∀ inst ∈ first, ∀ inst' ∈ second, r.key? inst' ≠ r.key? inst :=
    fun inst hinst inst' hinst' =>
      (hdisjoint _ (List.mem_map_of_mem hinst) _ (List.mem_map_of_mem hinst')).symm
  have hmissing : r.missing (first ++ second) docs =
      r.missing first docs ++ r.missing second docs' := by
    rw [missing, List.filter_append, ← missing, missing, missing]
    refine congrArg _ (List.filter_congr fun inst' hinst' => ?_)
    have hnew : r.key? inst' ∉ (r.missing first docs).map r.key? := by
      intro hmem
      obtain ⟨inst, hinst, hkey⟩ := List.mem_map.mp hmem
      exact hother inst (mem_missing.mp hinst).1 inst' hinst' hkey.symm
    simp only [h.foundKeys hr hfirst, List.mem_append, hnew, or_false]
  have hmem : ∀ d ∈ docs', ∀ inst ∈ first, r.foundKey? d = r.key? inst → d ∈ docs'' :=
    fun d hd inst hinst hkey => h'.mem_of_others hd fun inst' hinst' =>
      hkey ▸ hother inst hinst inst' hinst'
  refine ⟨?_, h'.identified, ?_, fun _ inst hinst => ?_⟩
  · have hcount := h.count
    have hcount' := h'.count
    simp only [BatchSummary.add, List.length_append]
    omega
  · obtain ⟨old, created, rfl, hkept, hstores, hids⟩ := h.documents
    obtain ⟨after, created', rfl, hkept', hstores', hids'⟩ := h'.documents
    obtain ⟨old', same, rfl, hold, hcreated⟩ := forall₂_append_left hkept'
    -- what the first created has keys of its instances, so the second leaves it alone
    have hsame : created.map id = same.map id := by
      refine map_eq_of_forall₂ hcreated fun d hd d' hd' => (hd'.others fun inst' hinst' => ?_).symm
      obtain ⟨inst, hinst, hstored⟩ := forall₂_exists_of_mem hstores hd
      have hinst := (mem_missing.mp hinst).1
      rw [(hfirst inst hinst).foundKey?_of_stores hr hstored]
      exact hother inst hinst inst' hinst'
    rw [List.map_id, List.map_id] at hsame
    rw [← hsame]
    refine ⟨old', created ++ created', List.append_assoc _ _ _,
      forall₂_trans (fun h h' => h.trans h') hkept hold, ?_, ?_⟩
    · rw [hmissing]
      exact List.rel_append hstores hstores'
    · rw [List.map_append, hids, hids', BatchSummary.add, List.map_append]
  · rcases List.mem_append.mp hinst with hinst | hinst
    · obtain ⟨d, hd, hkey, hholds⟩ := h.holds hkeys₁ inst hinst
      exact ⟨d, hmem d hd inst hinst hkey, hkey, hholds⟩
    · exact h'.holds hkeys₂ inst hinst

end Upserted

section Runs

variable {parts : List (List Document)} {s s' : Store} {summary : BatchSummary}
  (hr : r.OwnFields) (hall : ∀ inst ∈ parts.flatten, r.Suits inst)
  (hcheck : r.checkBatch parts.flatten = .ok ()) (hs : Document.Identified s.documents)

include hr hall hcheck hs

/-- Batches of instances with keys of their own upsert all of them. -/
theorem upserted_of_sumUp (hkeys : (parts.flatten.map r.key?).Nodup)
    (h : Model.sumUp r.upsertBatch parts s = (.ok summary, s')) :
    r.Upserted parts.flatten s.documents summary s'.documents := by
  induction parts generalizing s summary with
  | nil =>
    cases h
    exact Upserted.nil hs
  | cons part rest ih =>
    rw [List.flatten_cons] at hall hcheck hkeys ⊢
    obtain ⟨hpart, hrest⟩ := List.forall_mem_append.mp hall
    obtain ⟨a, t, b, ha, hb, rfl⟩ := Model.sumUp_cons_eq_ok.mp h
    have hfirst := upsertBatch_eq_ok hr hpart
      (checkBatch_of_subset hcheck (List.subset_append_left _ _)) hs ha
    refine hfirst.append hr hpart hkeys (ih hrest
      (checkBatch_of_subset hcheck (List.subset_append_right _ _)) hfirst.identified ?_ hb)
    rw [List.map_append, List.nodup_append] at hkeys
    exact hkeys.2.1

/-- After batches that succeed every instance is found, and what was found still is. -/
theorem found_of_sumUp (h : Model.sumUp r.upsertBatch parts s = (.ok summary, s')) :
    Document.Identified s'.documents ∧
      s.documents.map r.foundKey? ⊆ s'.documents.map r.foundKey? ∧
      ∀ inst ∈ parts.flatten, r.key? inst ∈ s'.documents.map r.foundKey? := by
  induction parts generalizing s summary with
  | nil =>
    cases h
    exact ⟨hs, fun _ hkey => hkey, fun _ hinst => absurd hinst List.not_mem_nil⟩
  | cons part rest ih =>
    rw [List.flatten_cons] at hall hcheck ⊢
    obtain ⟨hpart, hrest⟩ := List.forall_mem_append.mp hall
    -- the first batch, and the others on the store that it left
    obtain ⟨a, t, b, ha, hb, rfl⟩ := Model.sumUp_cons_eq_ok.mp h
    have hfirst := upsertBatch_eq_ok hr hpart
      (checkBatch_of_subset hcheck (List.subset_append_left _ _)) hs ha
    obtain ⟨hs', hstay, hfound⟩ := ih hrest
      (checkBatch_of_subset hcheck (List.subset_append_right _ _)) hfirst.identified hb
    refine ⟨hs', fun key hkey => hstay ?_,
      List.forall_mem_append.mpr ⟨fun inst hinst => ?_, hfound⟩⟩
    · rw [hfirst.foundKeys hr hpart]
      exact List.mem_append_left _ hkey
    · exact hstay (hfirst.found hr hpart hinst)

/-- Batches that find all their instances succeed, and insert nothing: every document is kept, in
its place. -/
theorem sumUp_of_found
    (hfound : ∀ inst ∈ parts.flatten, r.key? inst ∈ s.documents.map r.foundKey?) :
    ∃ modified s', Model.sumUp r.upsertBatch parts s =
        (.ok { matched := parts.flatten.length, modified }, s') ∧
      List.Forall₂ (r.Kept parts.flatten) s.documents s'.documents := by
  induction parts generalizing s with
  | nil => exact ⟨0, s, rfl, List.forall₂_same.mpr fun d _ => Kept.refl d⟩
  | cons part rest ih =>
    rw [List.flatten_cons] at hall hcheck hfound ⊢
    obtain ⟨hpart, hrest⟩ := List.forall_mem_append.mp hall
    obtain ⟨hfirst, hlater⟩ := List.forall_mem_append.mp hfound
    obtain ⟨modified, ha⟩ := upsertBatch_of_found hr hpart
      (checkBatch_of_subset hcheck (List.subset_append_left _ _)) hs hfirst
    -- the updates of the first part leave the keys, so the other parts find their instances too
    have hkept := kept_afterUpdates hr hpart hs
    have hkeys : (r.afterUpdates part s.documents).map r.foundKey? =
        s.documents.map r.foundKey? :=
      (map_eq_of_forall₂ hkept fun _ _ _ h => h.key.symm).symm
    have hs' : Document.Identified (r.afterUpdates part s.documents) :=
      identified_afterUpdates hr hpart hs
    obtain ⟨modified', s', hb, hkept'⟩ :=
      ih (s := { s with documents := r.afterUpdates part s.documents })
        hrest (checkBatch_of_subset hcheck (List.subset_append_right _ _)) hs' (hkeys ▸ hlater)
    refine ⟨modified + modified', s', Model.sumUp_cons_eq_ok.mpr ⟨_, _, _, ha, hb, ?_⟩,
      forall₂_trans (fun h h' => h.trans h') hkept hkept'⟩
    rw [List.length_append]
    rfl

end Runs

end Reconciler

end DocMapper
