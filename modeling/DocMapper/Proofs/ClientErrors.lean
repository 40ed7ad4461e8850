import DocMapper.Database
import DocMapper.Model.Summary
import DocMapper.Proofs.Blame
import DocMapper.Proofs.BatchUpserts

namespace DocMapper

/-! # Errors in the caller's input

An error that the caller's input is to blame for is found before the first write: whichever call of
a model fails with one, no collection changes.
-/

/-! ## Batches -/

theorem Plan.performUpdates_neverBlames (summary : BatchSummary) (us : List PlannedUpdate) :
    Action.NeverBlames (performUpdates summary us) := by
  induction us generalizing summary with
  | nil => exact Action.NeverBlames.pure _
  | cons u rest ih =>
    rw [performUpdates]
    exact (Action.update_neverBlames _ _ _ _).bind fun _ => ih _

theorem Plan.perform_neverBlames (p : Plan) : Action.NeverBlames p.perform := by
  unfold perform
  refine (performUpdates_neverBlames _ _).bind fun summary => ?_
  split
  · exact Action.NeverBlames.pure _
  · exact (Action.insertMany_neverBlames _).bind fun _ => Action.NeverBlames.pure _

namespace Reconciler

variable {r : Reconciler} {instances : List Document}

/-- A batch that was checked is matched and written without another check failing. -/
theorem upsertBatch_neverBlames (hcheck : r.checkBatch instances = .ok ()) :
    Action.NeverBlames (r.upsertBatch instances) := by
  unfold upsertBatch
  -- the plan is made of what was read, and to carry it out blames nobody
  refine Action.NeverBlames.bind ?_ fun _ => Plan.perform_neverBlames _
  unfold reconcile
  rw [hcheck]
  refine (Action.NeverBlames.check (Blameless.ok ())).bind fun _ => ?_
  split
  · exact Action.NeverBlames.pure _
  · refine Action.NeverBlames.bind ?_ fun _ => Action.NeverBlames.pure _
    refine Action.NeverBlames.read fun s => ?_
    refine Blameless.bind ?_ fun _ => Blameless.ok _
    exact (Document.blameless_select _ _).bind fun _ => Blameless.ok _

end Reconciler

namespace Model

variable (m : Model)

theorem blameless_decode (d : Document) : Blameless (m.decode d) := by
  unfold decode
  split
  · exact Blameless.error rfl
  · exact Blameless.ok _

theorem all_readsOnly (filter : Document) (options : ReadOptions) :
    Action.ReadsOnly (m.all filter options) :=
  (Action.ReadsOnly.read _).bind fun _ => Action.ReadsOnly.check _

theorem first_readsOnly (filter : Document) (options : ReadOptions) :
    Action.ReadsOnly (m.first filter options) := by
  refine (Action.ReadsOnly.read _).bind fun found => ?_
  cases found with
  | none => exact Action.ReadsOnly.pure _
  | some d => exact (Action.ReadsOnly.check _).bind fun _ => Action.ReadsOnly.pure _

theorem decodeOption_neverBlames (found : Option Document) :
    Action.NeverBlames (m.decodeOption found) := by
  cases found with
  | none => exact Action.NeverBlames.pure _
  | some d =>
    exact (Action.NeverBlames.check (blameless_decode m d)).bind fun _ =>
      Action.NeverBlames.pure _

theorem sumUp_neverBlames {α : Type} {run : α → Action BatchSummary} {parts : List α}
    (h : ∀ part ∈ parts, Action.NeverBlames (run part)) :
    Action.NeverBlames (sumUp run parts) :=
  Action.NeverBlames.foldlM
    (fun _ part hpart => (h part hpart).bind fun _ => Action.NeverBlames.pure _) _

theorem getOrCreate_checksFirst (kwargs defaults : Document) :
    Action.ChecksFirst (m.getOrCreate kwargs defaults) := by
  -- every check stands before the insertion, which is the one write
  refine Action.ChecksFirst.check_bind fun filter _ => ?_
  refine (first_readsOnly m filter {}).bind_checksFirst fun found => ?_
  cases found with
  | some d => exact (Action.ReadsOnly.pure _).checksFirst
  | none =>
    refine Action.ChecksFirst.check_bind fun seed _ => ?_
    refine Action.ChecksFirst.check_bind fun d _ => ?_
    refine Action.ChecksFirst.check_bind fun inst _ => ?_
    exact (Action.insertOne_neverBlames d).checksFirst.bind fun _ => Action.NeverBlames.pure _

theorem updateInstances_checksFirst (instances : List Document) (fields : List String)
    (batchSize : Option Nat) :
    Action.ChecksFirst (m.updateInstances instances fields batchSize) := by
  refine Action.ChecksFirst.check_bind fun docs _ => ?_
  refine Action.ChecksFirst.check_bind fun updates _ => ?_
  exact (sumUp_neverBlames fun part _ => Plan.perform_neverBlames _).checksFirst

theorem upsertInstances_checksFirst (instances : List Document) (queryFields : List String)
    (updateFields? : Option (List String)) (batchSize : Option Nat) :
    Action.ChecksFirst (m.upsertInstances instances queryFields updateFields? batchSize) := by
  refine Action.ChecksFirst.check_bind fun r _ => ?_
  refine Action.ChecksFirst.check_bind fun docs _ => ?_
  refine Action.ChecksFirst.check_bind fun _ hcheck => ?_
  refine (sumUp_neverBlames fun part hpart => ?_).checksFirst
  -- every batch is checked again, as a part of what was checked
  refine Reconciler.upsertBatch_neverBlames (Reconciler.checkBatch_of_subset hcheck ?_)
  exact fun d hd => mem_of_mem_batches hpart hd

theorem addIndex_checksFirst (field : String) (direction : SortDirection) (unique sparse : Bool) :
    Action.ChecksFirst (m.addIndex field direction unique sparse) := by
  refine Action.ChecksFirst.check_bind fun _ _ => ?_
  refine Action.ReadsOnly.bind_checksFirst (fun _ => rfl) fun indexes => ?_
  split
  · exact (Action.ReadsOnly.throw _).checksFirst
  · exact Action.ChecksFirst.atomic _

theorem dropIndex_checksFirst (field : String) : Action.ChecksFirst (m.dropIndex field) := by
  refine Action.ReadsOnly.bind_checksFirst (fun _ => rfl) fun indexes => ?_
  dsimp only
  split
  · exact (Action.ReadsOnly.throw _).checksFirst
  · refine (Action.NeverBlames.bind ?_ fun _ => Action.NeverBlames.pure _).checksFirst
    exact Action.NeverBlames.forM fun name =>
      Action.NeverBlames.atomic fun s => Store.blameless_dropIndex s name

end Model

theorem StoreCall.perform_checksFirst (collection : String → List Document) (call : StoreCall) :
    Action.ChecksFirst (call.perform collection) := by
  cases call with
  | find | findOne | count | distinct | aggregate =>
    exact ((Action.ReadsOnly.read _).bind fun _ => Action.ReadsOnly.pure _).checksFirst
  | insertOne document =>
    exact (Action.insertOne_neverBlames _).checksFirst.bind fun _ => Action.NeverBlames.pure _
  | insertMany documents =>
    exact (Action.insertMany_neverBlames _).checksFirst.bind fun _ => Action.NeverBlames.pure _
  | updateOne | updateMany =>
    exact (Action.update_neverBlames _ _ _ _).checksFirst.bind fun _ => Action.NeverBlames.pure _
  | replaceOne | deleteOne | deleteMany =>
    exact (Action.ChecksFirst.atomic _).bind fun _ => Action.NeverBlames.pure _

/-! ## Calls -/

/-- A call of a model. -/
inductive ModelCall where
  | find (kwargs : Document) (options : ReadOptions)
  | findOne (kwargs : Document) (options : ReadOptions)
  | findAndCount (kwargs : Document) (options : ReadOptions)
  | get (kwargs : Document)
  | count (kwargs : Document)
  | distinct (field : String) (kwargs : Document)
  | findQuery (query : Query) (options : ReadOptions)
  | countQuery (query : Query)
  | deleteQuery (query : Query)
  | insertOne (inst : Document)
  | insertMany (instances : List Document)
  | updateOne (kwargs : Document)
  | updateMany (kwargs : Document)
  | deleteOne (kwargs : Document)
  | deleteMany (kwargs : Document)
  | findOneAndUpdate (kwargs : Document) (options : ReadOptions) (upsert : Bool)
  | replaceOne (kwargs inst : Document) (upsert : Bool)
  | findOneAndReplace (kwargs inst : Document) (options : ReadOptions) (upsert : Bool)
  | getOrCreate (kwargs defaults : Document)
  | updateInstances (instances : List Document) (fields : List String) (batchSize : Option Nat)
  | upsertInstances (instances : List Document) (queryFields : List String)
      (updateFields? : Option (List String)) (batchSize : Option Nat)
  | countBy (field : String) (kwargs : Document)
  | total (t : Total) (kwargs : Document)
  | countByAll (fields : List String) (kwargs : Document)
  | totals (ts : List Total) (kwargs : Document)
  | join (related : Model) (j : Join) (kwargs : Document) (options : ReadOptions)
  | indexes
  | addIndex (field : String) (direction : SortDirection) (unique sparse : Bool)
  | dropIndex (field : String)
  | dropCollection
  | store (call : StoreCall)

namespace ModelCall

/-- Makes the call, leaving its answer aside. `collection` gives the documents of the other
collections. -/
def make (m : Model) (collection : String → List Document) : ModelCall → Action Unit
  | find kwargs options => do let _ ← m.find kwargs options
  | findOne kwargs options => do let _ ← m.findOne kwargs options
  | findAndCount kwargs options => do let _ ← m.findAndCount kwargs options
  | get kwargs => do let _ ← m.get kwargs
  | count kwargs => do let _ ← m.count kwargs
  | distinct field kwargs => do let _ ← m.distinct field kwargs
  | findQuery query options => do let _ ← m.findQuery query options
  | countQuery query => do let _ ← m.countQuery query
  | deleteQuery query => do let _ ← m.deleteQuery query
  | insertOne inst => do let _ ← m.insertOne inst
  | insertMany instances => do let _ ← m.insertMany instances
  | updateOne kwargs => do let _ ← m.updateOne kwargs
  | updateMany kwargs => do let _ ← m.updateMany kwargs
  | deleteOne kwargs => do let _ ← m.deleteOne kwargs
  | deleteMany kwargs => do let _ ← m.deleteMany kwargs
  | findOneAndUpdate kwargs options upsert => do
    let _ ← m.findOneAndUpdate kwargs options upsert
  | replaceOne kwargs inst upsert => do let _ ← m.replaceOne kwargs inst upsert
  | findOneAndReplace kwargs inst options upsert => do
    let _ ← m.findOneAndReplace kwargs inst options upsert
  | getOrCreate kwargs defaults => do let _ ← m.getOrCreate kwargs defaults
  | updateInstances instances fields batchSize => do
    let _ ← m.updateInstances instances fields batchSize
  | upsertInstances instances queryFields updateFields? batchSize => do
    let _ ← m.upsertInstances instances queryFields updateFields? batchSize
  | countBy field kwargs => do let _ ← m.countBy collection field kwargs
  | total t kwargs => do let _ ← m.total collection t kwargs
  | countByAll fields kwargs => do let _ ← m.countByAll collection fields kwargs
  | totals ts kwargs => do let _ ← m.totals collection ts kwargs
  | join related j kwargs options => do let _ ← m.join collection related j kwargs options
  | indexes => do let _ ← Action.indexes
  | addIndex field direction unique sparse => do
    let _ ← m.addIndex field direction unique sparse
  | dropIndex field => do let _ ← m.dropIndex field
  | dropCollection => Action.drop
  | store call => do let _ ← m.call collection call

/-- Every call checks before it writes. -/
theorem make_checksFirst (m : Model) (collection : String → List Document) (call : ModelCall) :
    Action.ChecksFirst (call.make m collection) := by
  -- every call checks before it reads or writes, and what follows a write blames nobody
  cases call with
  | find kwargs options | findQuery query options =>
    exact (Action.ChecksFirst.check_bind fun _ _ =>
      (Model.all_readsOnly m _ _).checksFirst).discard
  | findOne kwargs options =>
    exact (Action.ChecksFirst.check_bind fun _ _ =>
      (Model.first_readsOnly m _ _).checksFirst).discard
  | findAndCount kwargs options =>
    refine (Action.ChecksFirst.check_bind fun filter _ => ?_).discard
    refine (Action.ReadsOnly.bind (Action.ReadsOnly.read _) fun n => ?_).checksFirst
    exact (Model.all_readsOnly m filter options).bind fun _ => Action.ReadsOnly.pure _
  | get kwargs =>
    refine (Action.ChecksFirst.check_bind fun filter _ => ?_).discard
    refine (Model.first_readsOnly m filter {}).bind_checksFirst fun found => ?_
    cases found with
    | none => exact (Action.ReadsOnly.throw _).checksFirst
    | some d => exact (Action.ReadsOnly.pure _).checksFirst
  | count kwargs | countQuery query =>
    exact (Action.ChecksFirst.check_bind fun _ _ => (Action.ReadsOnly.read _).checksFirst).discard
  | distinct field kwargs =>
    refine (Action.ChecksFirst.check_bind fun _ _ => ?_).discard
    exact Action.ChecksFirst.check_bind fun _ _ => (Action.ReadsOnly.read _).checksFirst
  | deleteQuery query | deleteOne kwargs | deleteMany kwargs =>
    exact (Action.ChecksFirst.check_bind fun _ _ => Action.ChecksFirst.atomic _).discard
  | insertOne inst =>
    refine (Action.ChecksFirst.check_bind fun d _ => ?_).discard
    exact (Action.insertOne_neverBlames d).checksFirst.bind fun _ => Action.NeverBlames.pure _
  | insertMany instances =>
    refine (Action.ChecksFirst.check_bind fun docs _ => ?_).discard
    exact (Action.insertMany_neverBlames docs).checksFirst.bind fun _ => Action.NeverBlames.pure _
  | updateOne kwargs | updateMany kwargs =>
    exact (Action.ChecksFirst.check_bind fun _ _ =>
      (Action.update_neverBlames _ _ _ _).checksFirst).discard
  | findOneAndUpdate kwargs options upsert =>
    refine (Action.ChecksFirst.check_bind fun change _ => ?_).discard
    exact (Action.ChecksFirst.atomic _).bind fun _ => Model.decodeOption_neverBlames m _
  | replaceOne kwargs inst upsert =>
    refine (Action.ChecksFirst.check_bind fun filter _ => ?_).discard
    exact Action.ChecksFirst.check_bind fun _ _ => Action.ChecksFirst.atomic _
  | findOneAndReplace kwargs inst options upsert =>
    refine (Action.ChecksFirst.check_bind fun filter _ => ?_).discard
    refine Action.ChecksFirst.check_bind fun replacement _ => ?_
    exact (Action.ChecksFirst.atomic _).bind fun _ => Model.decodeOption_neverBlames m _
  | getOrCreate kwargs defaults => exact (Model.getOrCreate_checksFirst m _ _).discard
  | updateInstances instances fields batchSize =>
    exact (Model.updateInstances_checksFirst m _ _ _).discard
  | upsertInstances instances queryFields updateFields? batchSize =>
    exact (Model.upsertInstances_checksFirst m _ _ _ _).discard
  | countBy field kwargs | total t kwargs | countByAll fields kwargs | totals ts kwargs =>
    refine (Action.ChecksFirst.check_bind fun _ _ => ?_).discard
    refine Action.ChecksFirst.check_bind fun filter _ => ?_
    exact ((Action.ReadsOnly.read _).bind fun _ => Action.ReadsOnly.pure _).checksFirst
  | join related j kwargs options =>
    refine (Action.ChecksFirst.check_bind fun _ _ => ?_).discard
    refine Action.ChecksFirst.check_bind fun _ _ => ?_
    refine Action.ChecksFirst.check_bind fun _ _ => ?_
    refine Action.ChecksFirst.check_bind fun filter _ => ?_
    exact ((Action.ReadsOnly.read _).bind fun _ => Action.ReadsOnly.check _).checksFirst
  | indexes => exact Action.ChecksFirst.discard fun _ _ _ h _ => by cases h
  | addIndex field direction unique sparse => exact (Model.addIndex_checksFirst m _ _ _ _).discard
  | dropIndex field => exact (Model.dropIndex_checksFirst m _).discard
  | dropCollection =>
    intro s e s' h
    cases h
  | store call =>
    exact (Action.ChecksFirst.check_bind fun call _ =>
      StoreCall.perform_checksFirst collection call).discard

end ModelCall

namespace Database

theorem lookup_put (name : String) (c : Collection) (collections : List (String × Collection))
    (n : String) :
    (put name c collections).lookup n = if n = name then some c else collections.lookup n := by
  induction collections with
  | nil =>
    rw [put]
    by_cases hn : n = name
    · rw [hn, List.lookup_cons_self, if_pos rfl]
    · rw [List.lookup_cons, beq_false_of_ne hn, if_neg hn]
  | cons entry rest ih =>
    obtain ⟨other, old⟩ := entry
    rw [put]
    split
    · subst other
      by_cases hn : n = name
      · rw [hn, List.lookup_cons_self, if_pos rfl]
      · rw [List.lookup_cons, List.lookup_cons, beq_false_of_ne hn, if_neg hn]
    · rename_i hother
      by_cases hn : n = other
      · rw [hn, List.lookup_cons_self, List.lookup_cons_self, if_neg hother]
      · rw [List.lookup_cons, List.lookup_cons, beq_false_of_ne hn, ih]

/-- An action that checks first, and finds the caller at fault, leaves every collection as it
is. -/
theorem collection_run {α : Type} {action : Action α} (haction : action.ChecksFirst)
    {db db' : Database} {name : String} {e : Error} (h : db.run name action = (.error e, db'))
    (hclient : e.isClient = true) (n : String) : db'.collection n = db.collection n := by
  let s : Store := { toCollection := db.collection name, ids := db.ids }
  rcases hs : action s with ⟨answer, s'⟩
  have hrun : db.run name action =
      (answer, { collections := put name s'.toCollection db.collections, ids := s'.ids }) := by
    rw [run, hs]
  rw [hrun] at h
  cases h
  -- the action failed before it wrote, so the collection is put back as it was
  have hsame : s' = s := haction s e s' hs hclient
  rw [hsame, collection, lookup_put]
  split
  · subst n
    rfl
  · rfl

end Database

namespace ModelCall

/-- A call that fails because the caller's input is at fault leaves the documents and the indexes of
every collection as they are. -/
theorem client_errors_change_nothing (m : Model) (call : ModelCall) {db db' : Database}
    {name : String} {e : Error}
    (h : db.run name (call.make m db.documents) = (.error e, db')) (hclient : e.isClient = true) :
    ∀ n, db'.documents n = db.documents n ∧
      (db'.collection n).indexes = (db.collection n).indexes := by
  intro n
  have hn := Database.collection_run (make_checksFirst m db.documents call) h hclient n
  exact ⟨congrArg Collection.documents hn, congrArg Collection.indexes hn⟩

/-- The theorem at a batch of which the second instance has no value to match by. In batches of
one, the first would have been inserted before the second is reached. -/
theorem client_errors_change_nothing_unmatchable :
    ∃ (m : Model) (call : ModelCall) (db db' : Database) (e : Error),
      call = .upsertInstances [[("n", .int32 1)], [("n", .null)]] ["n"] none (some 1) ∧
      db.run "t" (call.make m db.documents) = (.error e, db') ∧ e.isClient = true ∧
      ∀ n, db'.documents n = db.documents n ∧
        (db'.collection n).indexes = (db.collection n).indexes := by
  let m : Model := { schema := ⟨⟨"t"⟩, [{ name := "n", type := .optional .int }]⟩ }
  let call : ModelCall :=
    .upsertInstances [[("n", .int32 1)], [("n", .null)]] ["n"] none (some 1)
  let db : Database :=
    { collections := [("t", { documents := [[("_id", .int32 7), ("n", .int32 2)]] })]
      ids := ⟨fun _ => ⟨0⟩, 0⟩ }
  have hrun : db.run "t" (call.make m db.documents) =
      (.error (.reconciliation (.noValue 1 "n")), db) := rfl
  exact ⟨m, call, db, db, _, rfl, hrun, rfl, client_errors_change_nothing m call hrun rfl⟩

end ModelCall

end DocMapper
