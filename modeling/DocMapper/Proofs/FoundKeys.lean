import DocMapper.Proofs.ConformingStore
import DocMapper.Proofs.Identities
import DocMapper.Proofs.Plans

namespace DocMapper

/-! # The keys by which documents are found

Instances have simple values in the query fields, but a store may hold anything. A stored document
with the key of an instance is selected for the batch, unless it has a document in a query field
that only spells the identity out. So stored documents have keys by which they are found. The
updates of a batch leave them alone, and what a batch inserts has the key of its instance.
-/

namespace Value

/-- The value is a document. -/
def isDocument : Value → Bool
  | .document _ => true
  | _ => false

variable {v : Value}

theorem isDocument_of_isKey (h : v.isKey = true) : v.isDocument = false := by
  cases v <;> first | rfl | cases h

theorem isOperators_of_isKey (h : v.isKey = true) : v.isOperators = false := by
  cases v <;> first | rfl | cases h

/-- A document equals no simple value. -/
theorem document_equals_of_isKey (h : v.isKey = true) (fields : Document) :
    (document fields).equals v = false := by
  rw [equals_eq_beq rfl]
  cases v <;> first | rfl | cases h

end Value

namespace Reconciler

variable {r : Reconciler} {inst d : Document} {instances docs : List Document}
  {key : List Identity}

/-- The query fields are names, and the identifier is not among them. -/
def OwnFields (r : Reconciler) : Prop :=
  ∀ field ∈ r.queryFields, LegalName field ∧ field ≠ Document.idKey

/-- What batches use of an instance: it has simple values in the query fields, the fields that it
writes are its own, and its identifier, if there is one, is an object identifier. -/
structure Suits (r : Reconciler) (inst : Document) : Prop where
  simple : ∀ field ∈ r.queryFields, ∃ v, Document.get? inst field = some v ∧ v.isKey = true
  settable : Document.Settable (r.written inst)
  distinct : (Document.keys (r.written inst)).Nodup
  own : ∀ entry ∈ r.written inst, Document.get? inst entry.1 = some entry.2
  objectId : ∀ id, Document.id? inst = some id → ∃ i : ObjectId, id = .objectId i

/-- The key by which a document is found: none if a query field has a document. -/
def foundKey? (r : Reconciler) (d : Document) : Option (List Identity) :=
  if r.queryFields.any fun field => (Document.get? d field).any Value.isDocument then none
  else r.key? d

/-! ## Found keys and what filters ask for -/

theorem foundKey?_eq_some : r.foundKey? d = some key ↔ r.key? d = some key ∧
    ∀ field ∈ r.queryFields, ∀ v, Document.get? d field = some v → v.isDocument = false := by
  have hany : (r.queryFields.any fun field => (Document.get? d field).any Value.isDocument) =
      false ↔ ∀ field ∈ r.queryFields, ∀ v, Document.get? d field = some v →
        v.isDocument = false := by
    rw [List.any_eq_false]
    refine forall₂_congr fun field _ => ?_
    cases Document.get? d field <;> simp
  rw [foundKey?, ← hany]
  cases r.queryFields.any fun field => (Document.get? d field).any Value.isDocument <;> simp

theorem comparand_eq (hr : r.OwnFields) {field : String} (h : field ∈ r.queryFields) (v : Value) :
    comparand field v = v :=
  if_neg (hr field h).2

namespace Suits

theorem not_null (h : r.Suits inst) {field : String} (hfield : field ∈ r.queryFields) :
    ∃ v, Document.get? inst field = some v ∧ v ≠ .null := by
  obtain ⟨v, hv, hkey⟩ := h.simple field hfield
  refine ⟨v, hv, ?_⟩
  rintro rfl
  cases hkey

theorem plain (h : r.Suits inst) : r.Plain inst := by
  intro field hfield v hv
  obtain ⟨w, hw, hkey⟩ := h.simple field hfield
  cases hv.symm.trans hw
  exact Value.isOperators_of_isKey hkey

/-- An instance has a key. -/
theorem exists_key? (h : r.Suits inst) : ∃ key, r.key? inst = some key :=
  exists_key?_of_values fun _ => h.not_null

/-- The key of an instance is one by which documents are found. -/
theorem foundKey?_eq (h : r.Suits inst) : r.foundKey? inst = r.key? inst := by
  obtain ⟨key, hkey⟩ := h.exists_key?
  rw [hkey]
  refine foundKey?_eq_some.mpr ⟨hkey, fun field hfield v hv => ?_⟩
  obtain ⟨w, hw, hsimple⟩ := h.simple field hfield
  cases hv.symm.trans hw
  exact Value.isDocument_of_isKey hsimple

/-- What is found by the key of an instance has the key. -/
theorem key?_eq_of_foundKey? (h : r.Suits inst) (hd : r.foundKey? d = r.key? inst) :
    r.key? d = r.key? inst := by
  obtain ⟨key, hkey⟩ := h.exists_key?
  rw [hkey] at hd ⊢
  exact (foundKey?_eq_some.mp hd).1

/-- An instance asks for what is found by its key. -/
theorem asks_of_foundKey? (hr : r.OwnFields) (h : r.Suits inst) (hinst : r.key? inst = some key)
    (hd : r.foundKey? d = some key) : r.asks inst d = true := by
  obtain ⟨hkey, hdocument⟩ := foundKey?_eq_some.mp hd
  refine asks_eq_true.mpr fun field hfield v hv => ?_
  obtain ⟨v', hv', hsimple⟩ := h.simple field hfield
  cases hv.symm.trans hv'
  obtain ⟨w, hw, hnull⟩ := exists_value_of_key? hkey hfield
  have hidentity := (key?_eq_iff hinst).mp hkey field hfield
  rw [identity?_eq_some.mpr ⟨w, hw, hnull, rfl⟩, eq_comm, identity?_eq_some] at hidentity
  obtain ⟨u, hu, -, hidentity⟩ := hidentity
  cases hv.symm.trans hu
  rw [comparand_eq hr hfield, comparand_eq hr hfield] at hidentity
  rw [hw, comparand_eq hr hfield]
  refine Value.equalsOperand_of_equals (Value.equals_of_identity hsimple hidentity.symm ?_)
  rintro fields rfl
  cases hdocument field hfield _ hw

/-- What an instance asks for has no document in a query field. -/
theorem foundKey?_of_asks (hr : r.OwnFields) (h : r.Suits inst) (hasks : r.asks inst d = true)
    (hkey : r.key? d = some key) : r.foundKey? d = some key := by
  refine foundKey?_eq_some.mpr ⟨hkey, fun field hfield w hw => ?_⟩
  obtain ⟨v, hv, hsimple⟩ := h.simple field hfield
  have hequals := asks_eq_true.mp hasks field hfield v hv
  rw [comparand_eq hr hfield, hw] at hequals
  cases w with
  | document fields =>
    rw [Value.equalsOperand_document, Value.document_equals_of_isKey hsimple] at hequals
    cases hequals
  | _ => rfl

end Suits

/-! ## Partners -/

/-- The identifier of the first stored document that is found by the key of an instance. -/
def found? (r : Reconciler) (docs : List Document) (inst : Document) : Option Value :=
  docs.findSome? fun d => if r.foundKey? d = r.key? inst then Document.id? d else none

/-- The partner of an instance among the selected documents is the one that is found. -/
theorem partner?_selects (hr : r.OwnFields) (hall : ∀ inst ∈ instances, r.Suits inst)
    (hinst : inst ∈ instances) (docs : List Document) :
    r.partner? (docs.filter (r.selects instances)) inst = r.found? docs inst := by
  obtain ⟨key, hkey⟩ := (hall inst hinst).exists_key?
  obtain ⟨other, hother, hotherkey⟩ := exists_mem_distinctKeys hinst hkey List.not_mem_nil
  have hsuits := hall other (mem_of_mem_distinctKeys hother).1
  -- what is selected is found by the key that it has, and what is found by the key is selected
  have hselected : ∀ d, r.selects instances d = true → r.key? d = some key →
      r.foundKey? d = some key := by
    intro d hd hdkey
    obtain ⟨asking, hasking, hasks⟩ := List.any_eq_true.mp hd
    exact (hall asking (mem_of_mem_distinctKeys hasking).1).foundKey?_of_asks hr hasks hdkey
  have hselects : ∀ d, r.foundKey? d = some key → r.selects instances d = true := fun d hd =>
    List.any_eq_true.mpr ⟨other, hother, hsuits.asks_of_foundKey? hr hotherkey hd⟩
  rw [partner?, hkey, Option.bind_some, stored?, found?, hkey]
  refine findSome?_filter_eq fun d _ => ⟨fun hd => ?_, fun hd => if_neg fun hfound => ?_⟩
  · by_cases hdkey : r.key? d = some key
    · rw [if_pos hdkey, if_pos (hselected d hd hdkey)]
    · rw [if_neg hdkey, if_neg fun hfound => hdkey (foundKey?_eq_some.mp hfound).1]
  · rw [hselects d hfound] at hd
    cases hd

theorem found?_eq_some {id : Value} (h : r.found? docs inst = some id) :
    ∃ d ∈ docs, Document.id? d = some id ∧ r.foundKey? d = r.key? inst := by
  obtain ⟨d, hd, hid⟩ := List.exists_of_findSome?_eq_some h
  split at hid
  · rename_i hkey
    exact ⟨d, hd, hid, hkey⟩
  · cases hid

/-- A document is found for an instance when one is found by its key. -/
theorem isSome_found? (hdocs : Document.Identified docs) :
    (r.found? docs inst).isSome = true ↔ r.key? inst ∈ docs.map r.foundKey? := by
  rw [found?, List.isSome_findSome?, List.any_eq_true, List.mem_map]
  refine exists_congr fun d => and_congr_right fun hd => ?_
  obtain ⟨i, hi⟩ := hdocs.objectIds d hd
  rw [hi]
  split <;> simp_all

/-! ## What updates leave -/

/-- The plan of a batch: for the stored documents that its instances ask for. -/
def batchPlan (r : Reconciler) (instances docs : List Document) : Plan :=
  r.plan instances (docs.filter (r.selects instances))

/-- The document has the values that updates for the instance write. -/
def Holds (r : Reconciler) (inst d : Document) : Prop :=
  ∀ entry ∈ r.written inst, Document.get? d entry.1 = some entry.2

/-- What a batch leaves of a stored document: its identifier and the key by which it is found, and
all of it, unless an instance has the key. -/
structure Kept (r : Reconciler) (instances : List Document) (d d' : Document) : Prop where
  id : Document.id? d' = Document.id? d
  key : r.foundKey? d' = r.foundKey? d
  others : (∀ inst ∈ instances, r.key? inst ≠ r.foundKey? d) → d' = d

theorem Kept.refl (d : Document) : r.Kept instances d d := ⟨rfl, rfl, fun _ => rfl⟩

theorem Suits.holds_insertAll (h : r.Suits inst) (d : Document) :
    r.Holds inst (Document.insertAll d (r.written inst)) := by
  intro entry hentry
  rw [Document.get?_insertAll h.distinct, (Document.get?_eq_some_iff h.distinct).mpr hentry]
  rfl

/-- A document that takes values over from an instance with its key keeps the key. -/
theorem Suits.foundKey?_insertAll (h : r.Suits inst) (hkey : r.key? inst = some key)
    (hd : r.foundKey? d = some key) :
    r.foundKey? (Document.insertAll d (r.written inst)) = some key := by
  have hinst := foundKey?_eq_some.mp (h.foundKey?_eq.trans hkey)
  have hd' := foundKey?_eq_some.mp hd
  have hget := Document.get?_insertAll_of_own h.distinct h.own d
  refine foundKey?_eq_some.mpr ⟨(key?_eq_iff hkey).mpr fun field hfield => ?_,
    fun field hfield v hv => ?_⟩
  · rcases hget field with heq | heq
    · rw [identity?, identity?, heq]
    · rw [← (key?_eq_iff hkey).mp hd'.1 field hfield, identity?, identity?, heq]
  · rcases hget field with heq | heq
    · exact hinst.2 field hfield v (heq ▸ hv)
    · exact hd'.2 field hfield v (heq ▸ hv)

section Updates

variable (hr : r.OwnFields) (hall : ∀ inst ∈ instances, r.Suits inst)
  (hdocs : Document.Identified docs)

include hr hall

/-- An update of a batch sets fields of the document that was found for an instance. -/
theorem mem_batchPlan_updates {u : PlannedUpdate} (hu : u ∈ (r.batchPlan instances docs).updates) :
    ∃ inst ∈ instances, ∃ index id, r.found? docs inst = some id ∧
      u = .setting index id (r.written inst) := by
  obtain ⟨inst, index, hentry, id, hid, rfl⟩ := mem_plan_updates.mp hu
  have hinst := List.fst_mem_of_mem_zipIdx hentry
  rw [partner?_selects hr hall hinst] at hid
  exact ⟨inst, hinst, index, id, hid, rfl⟩

include hdocs

theorem addresses_of_mem_batchPlan {u : PlannedUpdate}
    (hu : u ∈ (r.batchPlan instances docs).updates) : u.Addresses docs := by
  obtain ⟨inst, hinst, index, id, hfound, rfl⟩ := mem_batchPlan_updates hr hall hu
  obtain ⟨d, hd, hid, -⟩ := found?_eq_some hfound
  obtain ⟨i, hi⟩ := hdocs.objectIds d hd
  cases hid.symm.trans hi
  exact ⟨index, i, r.written inst, rfl, (hall inst hinst).settable, d, hd, hi⟩

/-- An update of a batch that changes a document comes from an instance with its key. -/
theorem appliedTo_of_mem_batchPlan {u : PlannedUpdate}
    (hu : u ∈ (r.batchPlan instances docs).updates) (hd : d ∈ docs) {c : Document}
    (hc : Document.id? c = Document.id? d) :
    (Document.hasId u.id d = false ∧ u.appliedTo c = c) ∨
    Document.hasId u.id d = true ∧ ∃ inst ∈ instances, r.key? inst = r.foundKey? d ∧
      u.appliedTo c = Document.insertAll c (r.written inst) := by
  obtain ⟨inst, hinst, index, id, hfound, rfl⟩ := mem_batchPlan_updates hr hall hu
  obtain ⟨e, he, hid, hkey⟩ := found?_eq_some hfound
  -- updates look at the identifier only, which the two documents share
  have hsame : Document.hasId id c = Document.hasId id d := by
    rw [Document.hasId, Document.hasId, hc]
  rw [PlannedUpdate.appliedTo_setting (hall inst hinst).settable, hsame]
  cases hhas : Document.hasId id d with
  | false => exact Or.inl ⟨hhas, rfl⟩
  | true =>
    -- identifiers tell the stored documents apart, so the update was planned for this one
    obtain ⟨i, hi⟩ := hdocs.objectIds d hd
    obtain ⟨j, hj⟩ := hdocs.objectIds e he
    cases hid.symm.trans hj
    have hij := (Document.hasId_objectId hi).mp hhas
    have hde : d = e := hdocs.eq_of_id?_eq hd he (by rw [hi, hj, hij])
    exact Or.inr ⟨hhas, inst, hinst, hde ▸ hkey.symm, rfl⟩

/-- The updates of a batch keep the key by which a document is found. -/
theorem kept_appliedAll {us : List PlannedUpdate}
    (hus : ∀ u ∈ us, u ∈ (r.batchPlan instances docs).updates) (hd : d ∈ docs) {c : Document}
    (hc : r.Kept instances d c) : r.Kept instances d (PlannedUpdate.appliedAll us c) := by
  induction us generalizing c with
  | nil => exact hc
  | cons u rest ih =>
    rw [PlannedUpdate.appliedAll_cons]
    refine ih (fun v hv => hus v (List.mem_cons_of_mem _ hv)) ?_
    have hu := hus u List.mem_cons_self
    rcases appliedTo_of_mem_batchPlan hr hall hdocs hu hd hc.id with
      ⟨-, hsame⟩ | ⟨-, inst, hinst, hkey, hset⟩
    · rw [hsame]
      exact hc
    · obtain ⟨key, hinstkey⟩ := (hall inst hinst).exists_key?
      have hckey : r.foundKey? c = some key := by rw [hc.key, ← hkey, hinstkey]
      rw [hset]
      refine ⟨?_, ?_, fun hothers => absurd hkey (hothers inst hinst)⟩
      · rw [Document.id?_insertAll (hall inst hinst).settable, hc.id]
      · rw [(hall inst hinst).foundKey?_insertAll hinstkey hckey, ← hckey, hc.key]

/-- If no two instances have one key, the document found for an instance ends with its values. -/
theorem holds_appliedAll {us : List PlannedUpdate}
    (hus : ∀ u ∈ us, u ∈ (r.batchPlan instances docs).updates)
    (hkeys : (instances.map r.key?).Nodup) (hd : d ∈ docs) (hinst : inst ∈ instances)
    (hkey : r.foundKey? d = r.key? inst) {c : Document} (hc : r.Kept instances d c)
    (h : r.Holds inst c ∨ ∃ u ∈ us, Document.hasId u.id d = true) :
    r.Holds inst (PlannedUpdate.appliedAll us c) := by
  induction us generalizing c with
  | nil => exact h.resolve_right fun ⟨u, hu, _⟩ => absurd hu List.not_mem_nil
  | cons u rest ih =>
    rw [PlannedUpdate.appliedAll_cons]
    have hu := hus u List.mem_cons_self
    have hrest := fun v hv => hus v (List.mem_cons_of_mem u hv)
    have hc' : r.Kept instances d (u.appliedTo c) :=
      kept_appliedAll hr hall hdocs (fun v hv => List.mem_singleton.mp hv ▸ hu) hd hc
    refine ih hrest hc' ?_
    -- an update of another document leaves this one alone
    rcases appliedTo_of_mem_batchPlan hr hall hdocs hu hd hc.id with
      ⟨hother, hsame⟩ | ⟨-, inst', hinst', hkey', hset⟩
    · rw [hsame]
      refine h.imp_right fun ⟨v, hv, hhas⟩ => ⟨v, ?_, hhas⟩
      refine List.mem_of_ne_of_mem ?_ hv
      rintro rfl
      rw [hother] at hhas
      cases hhas
    · -- keys differ between instances, so the one whose update this is has the key
      have heq : inst' = inst :=
        List.inj_on_of_nodup_map hkeys hinst' hinst (hkey'.trans hkey)
      rw [hset, heq]
      exact Or.inl ((hall inst hinst).holds_insertAll c)

end Updates

end Reconciler

end DocMapper
