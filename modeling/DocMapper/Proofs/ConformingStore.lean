import DocMapper.Model.Batch
import DocMapper.Proofs.PermittedUpdates
import DocMapper.Proofs.Stores

namespace DocMapper

/-! # Stores whose documents conform to a schema

Every write of a model inserts or puts in place what the schema describes, or updates as the schema
permits, or removes documents. None of this leaves a document that does not conform, wherever it
fails.
-/

/-- Every document of the store conforms to the schema. -/
def Store.Conforms (schema : Schema) (s : Store) : Prop :=
  ∀ d ∈ s.documents, schema.Conforms d

namespace Store

variable {schema : Schema} {filter : Document} {s s' : Store}

theorem Conforms.insert (hs : schema.WellFormed) (h : s.Conforms schema) {d : Document}
    (hd : schema.Describes d) {id : Value} (hinsert : s.insert d = .ok (id, s')) :
    s'.Conforms schema := by
  intro d' hd'
  rw [(Store.insert_eq_ok hinsert).documents, List.mem_append, List.mem_singleton] at hd'
  rcases hd' with hd' | rfl
  · exact h d' hd'
  · exact hd.conforms hs id

/-- Changing one document keeps the schema when the change does, and what an upsert creates is
described. -/
theorem Conforms.modifyOne (hs : schema.WellFormed) (h : s.Conforms schema)
    {options : ReadOptions} {upsert : Bool} {change : Document → Except Error Document}
    {create : Except Error Document}
    (hchange : ∀ d d', schema.Conforms d → change d = .ok d' → schema.Conforms d')
    (hcreate : upsert = true → ∀ d, create = .ok d → schema.Describes d)
    {answer : Option Document}
    (hmodify : s.modifyOne filter options upsert change create = .ok (answer, s')) :
    s'.Conforms schema := by
  rcases Store.modifyOne_eq_ok hmodify with
    ⟨i, d, next, hd, hnext, rfl⟩ | ⟨hupsert, d, id, hd, hinsert⟩ | ⟨-, rfl⟩
  · intro d' hd'
    rcases List.mem_or_eq_of_mem_set hd' with hd' | rfl
    · exact h d' hd'
    · exact hchange d d' (h d (List.mem_of_getElem? hd)) hnext
  · exact h.insert hs (hcreate hupsert d hd) hinsert
  · exact h

end Store

namespace Action

variable {schema : Schema} {filter changes replacement : Document}

/-- An action leaves a store that conforms to the schema, if it finds one. -/
abbrev KeepsSchema {α : Type} (schema : Schema) (a : Action α) : Prop :=
  Preserves (Store.Conforms schema) a fun _ => True

/-! ## Operations of the store -/

theorem insertOne_keepsSchema (hs : schema.WellFormed) {d : Document} (hd : schema.Describes d) :
    KeepsSchema schema (insertOne d) :=
  Preserves.atomic fun _ _ _ h hinsert => Store.Conforms.insert hs h hd hinsert

theorem insertMany_keepsSchema (hs : schema.WellFormed) {docs : List Document}
    (h : ∀ d ∈ docs, schema.Describes d) : KeepsSchema schema (insertMany docs) :=
  insertMany_preserves fun d hd => insertOne_keepsSchema hs (h d hd)

theorem update_keepsSchema (hs : schema.WellFormed) (hp : schema.PermitsAll changes)
    (many : Bool) : KeepsSchema schema (update filter changes false many) := by
  refine update_preserves (fun _ s h => ?_) fun h => by cases h
  have hforall := Document.updateEach_forall₂
    (R := fun d d' => schema.Conforms d → schema.Conforms d') (fun _ h => h)
    (fun _ _ hupdated hd => Schema.updated_conforms hs hp hd hupdated) filter many s.documents
  intro d' hd'
  obtain ⟨d, hd, himp⟩ := forall₂_exists_of_mem hforall hd'
  exact himp (h d hd)

theorem findOneAndUpdate_keepsSchema (hs : schema.WellFormed) (hp : schema.PermitsAll changes)
    (options : ReadOptions) :
    KeepsSchema schema (.atomic (·.findOneAndUpdate filter changes options false)) := by
  refine Preserves.atomic fun s answer s' h hrun => ?_
  obtain ⟨-, -, hmodify⟩ := bind_eq_ok.mp hrun
  exact h.modifyOne hs (fun _ _ hd hnext => Schema.updated_conforms hs hp hd hnext)
    (fun h => by cases h) hmodify

theorem findOneAndReplace_keepsSchema (hs : schema.WellFormed)
    (hr : schema.Describes replacement) (options : ReadOptions) (upsert : Bool) :
    KeepsSchema schema (.atomic (·.findOneAndReplace filter replacement options upsert)) := by
  refine Preserves.atomic fun s answer s' h hrun => ?_
  obtain ⟨-, -, hmodify⟩ := bind_eq_ok.mp hrun
  exact h.modifyOne hs (fun _ _ hd hnext => hd.replace hs hr hnext)
    (fun _ _ hd => Schema.describes_of_upsertedReplacement hs hr hd) hmodify

theorem replaceOne_keepsSchema (hs : schema.WellFormed) (hr : schema.Describes replacement)
    (upsert : Bool) : KeepsSchema schema (.atomic (·.replaceOne filter replacement upsert)) := by
  refine Preserves.atomic fun s answer s' h hrun => ?_
  obtain ⟨-, -, hrun⟩ := bind_eq_ok.mp hrun
  obtain ⟨⟨outcome, documents⟩, hreplace, hrun⟩ := bind_eq_ok.mp hrun
  dsimp only at hrun
  -- a document was replaced, or none was and an upsert adds one, or nothing happens
  split at hrun
  · cases pure_eq_ok.mp hrun
    intro d' hd'
    rcases Document.mem_of_replaceFirst hreplace hd' with hmem | ⟨d, hd, hnext⟩
    · exact h d' hmem
    · exact (h d hd).replace hs hr hnext
  · split at hrun
    · obtain ⟨d, hd, hrun⟩ := bind_eq_ok.mp hrun
      obtain ⟨⟨id, t⟩, hinsert, hrun⟩ := bind_eq_ok.mp hrun
      cases pure_eq_ok.mp hrun
      exact h.insert hs (Schema.describes_of_upsertedReplacement hs hr hd) hinsert
    · cases pure_eq_ok.mp hrun
      exact h

theorem deleteOne_keepsSchema (filter : Document) :
    KeepsSchema schema (.atomic (·.deleteOne filter)) := by
  refine Preserves.atomic fun s count s' h hrun => ?_
  obtain ⟨⟨n, documents⟩, hremove, hrun⟩ := bind_eq_ok.mp hrun
  cases pure_eq_ok.mp hrun
  exact fun d hd => h d ((Document.removeFirst_sublist hremove).subset hd)

theorem deleteMany_keepsSchema (filter : Document) :
    KeepsSchema schema (.atomic (·.deleteMany filter)) := by
  refine Preserves.atomic fun s count s' h hrun => ?_
  obtain ⟨⟨n, documents⟩, hremove, hrun⟩ := bind_eq_ok.mp hrun
  cases pure_eq_ok.mp hrun
  exact fun d hd => h d ((Document.removeAll_sublist hremove).subset hd)

theorem drop_keepsSchema : KeepsSchema schema drop :=
  fun _ _ => ⟨fun _ hd => absurd hd List.not_mem_nil, fun _ _ => trivial⟩

end Action

/-! ## Plans -/

namespace Document

theorem readId_cons (k : String) (v : Value) (d : Document) :
    readId ((k, v) :: d) = (k, if k = idKey then v.readId else v) :: readId d := by
  simp only [readId, List.map_cons]
  split <;> rfl

theorem get?_readId_of_ne {key : String} (h : key ≠ idKey) (d : Document) :
    get? (readId d) key = get? d key := by
  induction d with
  | nil => rfl
  | cons entry rest ih =>
    obtain ⟨k, v⟩ := entry
    rw [readId_cons, get?_cons, get?_cons, ih]
    by_cases hk : k = key
    · have hid : k ≠ idKey := fun he => h (hk.symm.trans he)
      rw [if_pos hk, if_pos hk, if_neg hid]
    · rw [if_neg hk, if_neg hk]

theorem id?_readId (d : Document) : id? (readId d) = (id? d).map Value.readId := by
  rw [id?, id?]
  induction d with
  | nil => rfl
  | cons entry rest ih =>
    obtain ⟨k, v⟩ := entry
    rw [readId_cons, get?_cons, get?_cons, ih]
    by_cases hk : k = idKey
    · rw [if_pos hk, if_pos hk, if_pos hk, Option.map_some]
    · rw [if_neg hk, if_neg hk]

theorem erase_readId (d : Document) : erase (readId d) idKey = erase d idKey := by
  induction d with
  | nil => rfl
  | cons entry rest ih =>
    obtain ⟨k, v⟩ := entry
    rw [readId_cons, erase_cons, erase_cons, ih]
    by_cases hk : k = idKey
    · rw [if_pos hk, if_pos hk]
    · rw [if_neg hk, if_neg hk, if_neg hk]

end Document

theorem Schema.Describes.readId {schema : Schema} (hs : schema.WellFormed) {d : Document}
    (hd : schema.Describes d) : schema.Describes (Document.readId d) where
  names := by rw [Document.erase_readId, hd.names]
  values := by
    intro f hf v hv
    rw [Document.get?_readId_of_ne (hs.name_ne_id hf)] at hv
    exact hd.values f hf v hv

namespace Plan

variable {schema : Schema}

/-- What a plan updates is permitted, and what it inserts is described. -/
structure Permitted (schema : Schema) (p : Plan) : Prop where
  updates : ∀ u ∈ p.updates, schema.PermitsAll u.update
  inserts : ∀ i ∈ p.inserts, schema.Describes i.document

theorem permitted_empty : Permitted schema {} :=
  ⟨fun _ h => absurd h List.not_mem_nil, fun _ h => absurd h List.not_mem_nil⟩

theorem performUpdates_keepsSchema (hs : schema.WellFormed) {updates : List PlannedUpdate}
    (h : ∀ u ∈ updates, schema.PermitsAll u.update) (summary : BatchSummary) :
    Action.KeepsSchema schema (performUpdates summary updates) := by
  induction updates generalizing summary with
  | nil => exact Action.Preserves.pure trivial
  | cons u rest ih =>
    rw [performUpdates]
    refine (Action.update_keepsSchema hs (h u List.mem_cons_self) false).bind fun _ _ => ?_
    exact ih (fun u hu => h u (List.mem_cons_of_mem _ hu)) _

theorem perform_keepsSchema (hs : schema.WellFormed) {p : Plan} (hp : p.Permitted schema) :
    Action.KeepsSchema schema p.perform := by
  unfold perform
  refine (performUpdates_keepsSchema hs hp.updates {}).bind fun summary _ => ?_
  split
  · exact Action.Preserves.pure trivial
  · have hdocs : ∀ d ∈ p.inserts.map (·.document), schema.Describes d := by
      intro d hd
      obtain ⟨i, hi, rfl⟩ := List.mem_map.mp hd
      exact hp.inserts i hi
    refine (Action.insertMany_keepsSchema hs hdocs).bind fun _ _ => ?_
    exact Action.Preserves.pure trivial

end Plan

namespace Reconciler

variable {schema : Schema} {r : Reconciler} {instances persisted : List Document}

theorem assign_permitted (hs : schema.WellFormed) {plan : Plan} (hp : plan.Permitted schema)
    {entry : Document × Nat} (hd : schema.Describes entry.1) :
    (r.assign persisted plan entry).Permitted schema := by
  obtain ⟨d, index⟩ := entry
  unfold assign
  dsimp only
  -- an instance with a partner adds an update to the plan, any other an insertion
  split
  · rename_i id _
    refine ⟨fun u hu => ?_, hp.inserts⟩
    rcases List.mem_append.mp hu with hu | hu
    · exact hp.updates u hu
    · rw [List.mem_singleton.mp hu]
      exact Schema.permitsAll_setting_written hs hd index id r
  · refine ⟨hp.updates, fun i hi => ?_⟩
    rcases List.mem_append.mp hi with hi | hi
    · exact hp.inserts i hi
    · rw [List.mem_singleton.mp hi]
      exact hd.readId hs

/-- A plan for described instances is permitted, whatever is stored. -/
theorem plan_permitted (hs : schema.WellFormed) (h : ∀ d ∈ instances, schema.Describes d) :
    (r.plan instances persisted).Permitted schema := by
  -- the fold may start from any permitted plan
  have hfold : ∀ (entries : List (Document × Nat)) (plan : Plan),
      (∀ entry ∈ entries, schema.Describes entry.1) → plan.Permitted schema →
      (entries.foldl (r.assign persisted) plan).Permitted schema := by
    intro entries
    induction entries with
    | nil => exact fun _ _ hp => hp
    | cons entry rest ih =>
      intro plan hall hp
      exact ih _ (fun entry hentry => hall entry (List.mem_cons_of_mem _ hentry))
        (assign_permitted hs hp (hall entry List.mem_cons_self))
  exact hfold _ _ (fun entry hentry => h entry.1 (List.fst_mem_of_mem_zipIdx hentry))
    Plan.permitted_empty

theorem reconcile_permitted (hs : schema.WellFormed) (h : ∀ d ∈ instances, schema.Describes d) :
    Action.Preserves (Store.Conforms schema) (r.reconcile instances)
      (Plan.Permitted schema) := by
  unfold reconcile
  refine (Action.Preserves.check fun _ h => h).bind fun _ _ => ?_
  split
  · exact Action.Preserves.pure Plan.permitted_empty
  · refine (Action.Preserves.read _).bind fun persisted _ => ?_
    exact Action.Preserves.pure (plan_permitted hs h)

end Reconciler

end DocMapper
