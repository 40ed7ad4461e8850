import DocMapper.Proofs.ConformingStore

namespace DocMapper

/-! # Writes of a model

The calls of a model that write, and runs of them. A call that fails leaves what it did before,
and the run goes on with that. Whatever the calls, the documents that a run leaves conform to the
schema of the model.
-/

/-- A part of a list that was cut has members of the list only. -/
theorem mem_of_mem_batches {α : Type} {size : Nat} {xs part : List α}
    (hpart : part ∈ batches size xs) {x : α} (hx : x ∈ part) : x ∈ xs := by
  fun_induction batches size xs with
  | case1 => exact absurd hpart List.not_mem_nil
  | case2 y rest ih =>
    rcases List.mem_cons.mp hpart with rfl | hpart
    · rcases List.mem_cons.mp hx with rfl | hx
      · exact List.mem_cons_self
      · exact List.mem_cons_of_mem _ (List.mem_of_mem_take hx)
    · exact List.mem_cons_of_mem _ (List.mem_of_mem_drop (ih hpart))

namespace Model

open DocMapper.Action (KeepsSchema Preserves)

variable {m : Model}

/-! ## Each call -/

theorem describes_of_encode (hs : m.schema.WellFormed) {inst d : Document}
    (h : m.encode inst = .ok d) : m.schema.Describes d :=
  Schema.describes_of_normalize hs h

/-- Storing an instance keeps its identifier, of which null is none. -/
theorem id?_encoded (hs : m.schema.WellFormed) {inst d : Document} (h : m.encode inst = .ok d) :
    Document.id? d = (Document.id? inst).filter (!·.isNull) := by
  unfold encode at h
  rw [Schema.id?_of_normalize hs h]
  split
  · rename_i hnull
    rw [hnull, Document.id?, Document.get?_eq_none_iff.mpr (Document.not_mem_keys_erase inst _)]
    rfl
  · rename_i hother
    cases hid : Document.id? inst with
    | none => rfl
    | some v =>
      cases v with
      | null => exact absurd hid hother
      | _ => rfl

theorem describes_of_encodes (hs : m.schema.WellFormed) {instances docs : List Document}
    (h : instances.mapM m.encode = .ok docs) : ∀ d ∈ docs, m.schema.Describes d := by
  intro d hd
  obtain ⟨inst, -, hencode⟩ := exists_of_mem_mapM h hd
  exact describes_of_encode hs hencode

theorem describes_of_replacement (hs : m.schema.WellFormed) {inst d : Document}
    (h : m.replacement inst = .ok d) : m.schema.Describes d := by
  obtain ⟨encoded, hencoded, h⟩ := bind_eq_ok.mp h
  cases pure_eq_ok.mp h
  exact (describes_of_encode hs hencoded).erase hs

theorem insertOne_keepsSchema (hs : m.schema.WellFormed) (inst : Document) :
    KeepsSchema m.schema (m.insertOne inst) := by
  refine (Preserves.check fun _ h => describes_of_encode hs h).bind fun d hd => ?_
  refine (Action.insertOne_keepsSchema hs hd).bind fun _ _ => ?_
  exact Preserves.pure trivial

theorem insertMany_keepsSchema (hs : m.schema.WellFormed) (instances : List Document) :
    KeepsSchema m.schema (m.insertMany instances) := by
  refine (Preserves.check fun _ h => describes_of_encodes hs h).bind fun docs hdocs => ?_
  refine (Action.insertMany_keepsSchema hs hdocs).bind fun _ _ => ?_
  exact Preserves.pure trivial

theorem updateOne_keepsSchema (hs : m.schema.WellFormed) (kwargs : Document) :
    KeepsSchema m.schema (m.updateOne kwargs) := by
  refine (Preserves.check fun _ h => Lowering.update_permitted rfl hs h).bind fun _ hp => ?_
  exact Action.update_keepsSchema hs hp false

theorem updateMany_keepsSchema (hs : m.schema.WellFormed) (kwargs : Document) :
    KeepsSchema m.schema (m.updateMany kwargs) := by
  refine (Preserves.check fun _ h => Lowering.update_permitted rfl hs h).bind fun _ hp => ?_
  exact Action.update_keepsSchema hs hp true

theorem decodeOption_keepsSchema (found : Option Document) :
    KeepsSchema m.schema (m.decodeOption found) := by
  cases found with
  | none => exact Preserves.pure trivial
  | some d =>
    refine (Preserves.check fun _ h => h).bind fun _ _ => ?_
    exact Preserves.pure trivial

theorem findOneAndUpdate_keepsSchema (hs : m.schema.WellFormed) (kwargs : Document)
    (options : ReadOptions) : KeepsSchema m.schema (m.findOneAndUpdate kwargs options false) := by
  refine (Preserves.check fun _ h => Lowering.update_permitted rfl hs h).bind fun _ hp => ?_
  refine (Action.findOneAndUpdate_keepsSchema hs hp options.ordered).bind fun found _ => ?_
  exact decodeOption_keepsSchema found

theorem replaceOne_keepsSchema (hs : m.schema.WellFormed) (kwargs inst : Document)
    (upsert : Bool) : KeepsSchema m.schema (m.replaceOne kwargs inst upsert) := by
  refine (Preserves.check fun _ h => h).bind fun filter _ => ?_
  refine (Preserves.check fun _ h => describes_of_replacement hs h).bind fun _ hr => ?_
  exact Action.replaceOne_keepsSchema hs hr upsert

theorem findOneAndReplace_keepsSchema (hs : m.schema.WellFormed) (kwargs inst : Document)
    (options : ReadOptions) (upsert : Bool) :
    KeepsSchema m.schema (m.findOneAndReplace kwargs inst options upsert) := by
  refine (Preserves.check fun _ h => h).bind fun filter _ => ?_
  refine (Preserves.check fun _ h => describes_of_replacement hs h).bind fun _ hr => ?_
  refine (Action.findOneAndReplace_keepsSchema hs hr options.ordered upsert).bind fun found _ => ?_
  exact decodeOption_keepsSchema found

theorem first_keepsSchema (filter : Document) (options : ReadOptions) :
    KeepsSchema m.schema (m.first filter options) := by
  refine (Preserves.read _).bind fun found _ => ?_
  cases found with
  | none => exact Preserves.pure trivial
  | some d =>
    refine (Preserves.check fun _ h => h).bind fun _ _ => ?_
    exact Preserves.pure trivial

theorem getOrCreate_keepsSchema (hs : m.schema.WellFormed) (kwargs defaults : Document) :
    KeepsSchema m.schema (m.getOrCreate kwargs defaults) := by
  refine (Preserves.check fun _ h => h).bind fun filter _ => ?_
  refine (first_keepsSchema filter {}).bind fun found _ => ?_
  cases found with
  | some d => exact Preserves.pure trivial
  | none =>
    refine (Preserves.check fun _ h => h).bind fun seed _ => ?_
    refine (Preserves.check fun _ h => Schema.describes_of_normalize hs h).bind fun d hd => ?_
    refine (Preserves.check fun _ h => h).bind fun inst _ => ?_
    refine (Action.insertOne_keepsSchema hs hd).bind fun _ _ => ?_
    exact Preserves.pure trivial

theorem sumUp_keepsSchema {α : Type} {run : α → Action BatchSummary} {parts : List α}
    (h : ∀ part ∈ parts, KeepsSchema m.schema (run part)) :
    KeepsSchema m.schema (sumUp run parts) := by
  refine Preserves.foldlM (fun part hpart summary => ?_) _
  refine (h part hpart).bind fun _ _ => ?_
  exact Preserves.pure trivial

/-- Updates planned for described instances are permitted. -/
theorem permitsAll_of_planUpdates {fields : List String} {docs : List Document}
    (hdocs : ∀ d ∈ docs, m.schema.Describes d) {updates : List PlannedUpdate}
    (h : Document.planUpdates m.schema fields docs = .ok updates) :
    ∀ u ∈ updates, m.schema.PermitsAll u.update := by
  unfold Document.planUpdates at h
  split at h
  · cases h
  obtain ⟨-, -, h⟩ := bind_eq_ok.mp h
  intro u hu
  obtain ⟨⟨d, index⟩, hentry, hplan⟩ := exists_of_mem_mapM h hu
  dsimp only at hplan
  split at hplan
  · cases hplan
  · cases hplan
  · cases hplan
    have hd := hdocs d (List.fst_mem_of_mem_zipIdx hentry)
    exact Schema.permitsAll_setting_pick hd index _ fields

theorem updateInstances_keepsSchema (hs : m.schema.WellFormed) (instances : List Document)
    (fields : List String) (batchSize : Option Nat) :
    KeepsSchema m.schema (m.updateInstances instances fields batchSize) := by
  refine (Preserves.check fun _ h => describes_of_encodes hs h).bind fun docs hdocs => ?_
  refine (Preserves.check fun _ h => permitsAll_of_planUpdates hdocs h).bind
    fun updates hupdates => ?_
  refine sumUp_keepsSchema fun part hpart => ?_
  refine Plan.perform_keepsSchema hs ⟨fun u hu => ?_, fun _ h => absurd h List.not_mem_nil⟩
  exact hupdates u (mem_of_mem_batches hpart hu)

theorem upsertInstances_keepsSchema (hs : m.schema.WellFormed) (instances : List Document)
    (queryFields : List String) (updateFields? : Option (List String)) (batchSize : Option Nat) :
    KeepsSchema m.schema (m.upsertInstances instances queryFields updateFields? batchSize) := by
  refine (Preserves.check fun _ h => h).bind fun reconciler _ => ?_
  refine (Preserves.check fun _ h => describes_of_encodes hs h).bind fun docs hdocs => ?_
  refine (Preserves.check fun _ h => h).bind fun _ _ => ?_
  refine sumUp_keepsSchema fun part hpart => ?_
  have hpart' : ∀ d ∈ part, m.schema.Describes d :=
    fun d hd => hdocs d (mem_of_mem_batches hpart hd)
  refine (Reconciler.reconcile_permitted hs hpart').bind fun plan hplan => ?_
  exact Plan.perform_keepsSchema hs hplan

/-- Inserting documents as they are given puts their normal forms into the store. -/
theorem call_insertOne_keepsSchema (hs : m.schema.WellFormed)
    (collection : String → List Document) (d : Document) :
    KeepsSchema m.schema (m.call collection (.insertOne d)) := by
  refine (Preserves.check (Q := fun call => ∃ d', call = .insertOne d' ∧ m.schema.Describes d')
    fun call h => ?_).bind ?_
  · obtain ⟨d', hd', h⟩ := bind_eq_ok.mp h
    exact ⟨d', (pure_eq_ok.mp h).symm, Schema.describes_of_normalize hs hd'⟩
  · rintro _ ⟨d', rfl, hd'⟩
    refine (Action.insertOne_keepsSchema hs hd').bind fun _ _ => ?_
    exact Preserves.pure trivial

theorem call_insertMany_keepsSchema (hs : m.schema.WellFormed)
    (collection : String → List Document) (docs : List Document) :
    KeepsSchema m.schema (m.call collection (.insertMany docs)) := by
  refine (Preserves.check (Q := fun call => ∃ docs', call = .insertMany docs' ∧
    ∀ d ∈ docs', m.schema.Describes d) fun call h => ?_).bind ?_
  · obtain ⟨docs', hdocs', h⟩ := bind_eq_ok.mp h
    refine ⟨docs', (pure_eq_ok.mp h).symm, fun d hd => ?_⟩
    obtain ⟨given, -, hnormalize⟩ := exists_of_mem_mapM hdocs' hd
    exact Schema.describes_of_normalize hs hnormalize
  · rintro _ ⟨docs', rfl, hdocs'⟩
    refine (Action.insertMany_keepsSchema hs hdocs').bind fun _ _ => ?_
    exact Preserves.pure trivial

theorem call_replaceOne_keepsSchema (hs : m.schema.WellFormed)
    (collection : String → List Document) (filter replacement : Document) (upsert : Bool) :
    KeepsSchema m.schema (m.call collection (.replaceOne filter replacement upsert)) := by
  refine (Preserves.check (Q := fun call => ∃ r, call = .replaceOne filter r upsert ∧
    m.schema.Describes r) fun call h => ?_).bind ?_
  · obtain ⟨⟨⟩, -, h⟩ := bind_eq_ok.mp h
    obtain ⟨r, hr, h⟩ := bind_eq_ok.mp h
    exact ⟨r, (pure_eq_ok.mp h).symm, Schema.describes_of_normalize hs hr⟩
  · rintro _ ⟨r, rfl, hr⟩
    refine (Action.replaceOne_keepsSchema hs hr upsert).bind fun _ _ => ?_
    exact Preserves.pure trivial

theorem deleteOne_keepsSchema (kwargs : Document) :
    KeepsSchema m.schema (m.deleteOne kwargs) := by
  refine (Preserves.check fun _ h => h).bind fun filter _ => ?_
  exact Action.deleteOne_keepsSchema filter

theorem deleteMany_keepsSchema (kwargs : Document) :
    KeepsSchema m.schema (m.deleteMany kwargs) := by
  refine (Preserves.check fun _ h => h).bind fun filter _ => ?_
  exact Action.deleteMany_keepsSchema filter

end Model

/-! ## Runs -/

/-- A call of a model that writes. -/
inductive WriteCall where
  | insertOne (inst : Document)
  | insertMany (instances : List Document)
  | updateOne (kwargs : Document)
  | updateMany (kwargs : Document)
  | findOneAndUpdate (kwargs : Document) (options : ReadOptions)
  | replaceOne (kwargs inst : Document) (upsert : Bool)
  | findOneAndReplace (kwargs inst : Document) (options : ReadOptions) (upsert : Bool)
  | getOrCreate (kwargs defaults : Document)
  | updateInstances (instances : List Document) (fields : List String) (batchSize : Option Nat)
  | upsertInstances (instances : List Document) (queryFields : List String)
      (updateFields? : Option (List String)) (batchSize : Option Nat)
  | deleteOne (kwargs : Document)
  | deleteMany (kwargs : Document)
  | dropCollection
  /-- Inserts a document as it is given, checked. -/
  | rawInsertOne (document : Document)
  | rawInsertMany (documents : List Document)
  | rawReplaceOne (filter replacement : Document) (upsert : Bool)

namespace WriteCall

/-- Makes the call, leaving its answer aside. `collection` gives the documents of the other
collections. -/
def make (m : Model) (collection : String → List Document) : WriteCall → Action Unit
  | insertOne inst => do let _ ← m.insertOne inst
  | insertMany instances => do let _ ← m.insertMany instances
  | updateOne kwargs => do let _ ← m.updateOne kwargs
  | updateMany kwargs => do let _ ← m.updateMany kwargs
  | findOneAndUpdate kwargs options => do let _ ← m.findOneAndUpdate kwargs options false
  | replaceOne kwargs inst upsert => do let _ ← m.replaceOne kwargs inst upsert
  | findOneAndReplace kwargs inst options upsert => do
    let _ ← m.findOneAndReplace kwargs inst options upsert
  | getOrCreate kwargs defaults => do let _ ← m.getOrCreate kwargs defaults
  | updateInstances instances fields batchSize => do
    let _ ← m.updateInstances instances fields batchSize
  | upsertInstances instances queryFields updateFields? batchSize => do
    let _ ← m.upsertInstances instances queryFields updateFields? batchSize
  | deleteOne kwargs => do let _ ← m.deleteOne kwargs
  | deleteMany kwargs => do let _ ← m.deleteMany kwargs
  | dropCollection => Action.drop
  | rawInsertOne document => do let _ ← m.call collection (.insertOne document)
  | rawInsertMany documents => do let _ ← m.call collection (.insertMany documents)
  | rawReplaceOne filter replacement upsert => do
    let _ ← m.call collection (.replaceOne filter replacement upsert)

/-- The store after a run of calls, of which each starts where the one before it ended, whether
that succeeded or failed. -/
def run (m : Model) (collection : String → List Document) (calls : List WriteCall)
    (s : Store) : Store :=
  calls.foldl (fun s call => (call.make m collection s).2) s

variable {m : Model} {collection : String → List Document}

/-- One call keeps the schema, whether it succeeds or fails half way. -/
theorem make_keepsSchema (hs : m.schema.WellFormed) (call : WriteCall) :
    Action.KeepsSchema m.schema (call.make m collection) := by
  -- what a call answers is dropped from the run, and a store does not depend on it
  have hdiscard : ∀ {α : Type} {a : Action α}, Action.KeepsSchema m.schema a →
      Action.KeepsSchema m.schema (do let _ ← a) :=
    fun ha => ha.bind fun _ _ => Action.Preserves.pure trivial
  cases call with
  | insertOne inst => exact hdiscard (Model.insertOne_keepsSchema hs inst)
  | insertMany instances => exact hdiscard (Model.insertMany_keepsSchema hs instances)
  | updateOne kwargs => exact hdiscard (Model.updateOne_keepsSchema hs kwargs)
  | updateMany kwargs => exact hdiscard (Model.updateMany_keepsSchema hs kwargs)
  | findOneAndUpdate kwargs options =>
    exact hdiscard (Model.findOneAndUpdate_keepsSchema hs kwargs options)
  | replaceOne kwargs inst upsert =>
    exact hdiscard (Model.replaceOne_keepsSchema hs kwargs inst upsert)
  | findOneAndReplace kwargs inst options upsert =>
    exact hdiscard (Model.findOneAndReplace_keepsSchema hs kwargs inst options upsert)
  | getOrCreate kwargs defaults =>
    exact hdiscard (Model.getOrCreate_keepsSchema hs kwargs defaults)
  | updateInstances instances fields batchSize =>
    exact hdiscard (Model.updateInstances_keepsSchema hs instances fields batchSize)
  | upsertInstances instances queryFields updateFields? batchSize =>
    exact hdiscard
      (Model.upsertInstances_keepsSchema hs instances queryFields updateFields? batchSize)
  | deleteOne kwargs => exact hdiscard (Model.deleteOne_keepsSchema kwargs)
  | deleteMany kwargs => exact hdiscard (Model.deleteMany_keepsSchema kwargs)
  | dropCollection => exact Action.drop_keepsSchema
  | rawInsertOne document =>
    exact hdiscard (Model.call_insertOne_keepsSchema hs collection document)
  | rawInsertMany documents =>
    exact hdiscard (Model.call_insertMany_keepsSchema hs collection documents)
  | rawReplaceOne filter replacement upsert =>
    exact hdiscard (Model.call_replaceOne_keepsSchema hs collection filter replacement upsert)

/-- A run keeps the schema. -/
theorem run_conforms (hs : m.schema.WellFormed) (calls : List WriteCall) {s : Store}
    (h : s.Conforms m.schema) : (run m collection calls s).Conforms m.schema := by
  induction calls generalizing s with
  | nil => exact h
  | cons call rest ih => exact ih (make_keepsSchema hs call s h).1

/-- Whatever a model writes into an empty collection, by calls that succeed or fail, every stored
document is in normal form: the identifier first and then every declared field in order, each with
a value of its type. -/
theorem stored_documents_conform {draft : SchemaDraft} {schema : Schema}
    (hbuild : draft.build = .ok schema) (required : List String) (policy : SuffixPolicy)
    (collection : String → List Document) (calls : List WriteCall) {s : Store}
    (hempty : s.documents = []) :
    ∀ d ∈ (run { schema, required, policy } collection calls s).documents,
      schema.normalize d = .ok d ∧
      Document.keys d = Document.idKey :: schema.fieldNames ∧
      ∀ f ∈ schema.fields, ∃ v, Document.get? d f.name = some v ∧
        ∀ path, f.type.check path v = .ok () := by
  have hs := SchemaDraft.build_wellFormed hbuild
  -- the empty collection conforms, and every call keeps it so
  have hstart : s.Conforms schema := by
    intro d hd
    rw [hempty] at hd
    exact absurd hd List.not_mem_nil
  have hend : (run { schema, required, policy } collection calls s).Conforms schema :=
    run_conforms (m := { schema, required, policy }) hs calls hstart
  intro d hd
  have hd' := hend d hd
  refine ⟨hd'.normalize hs, hd'.keys, fun f hf => ?_⟩
  obtain ⟨v, hv⟩ := hd'.exists_value hf
  exact ⟨v, hv, hd'.values f hf v hv⟩

/-- The theorem at a run that inserts an instance, fails to set its field to a text, and
increments the field. -/
theorem stored_documents_conform_counter :
    (run { schema := ⟨⟨"t"⟩, [{ name := "n", type := .int }]⟩ } (fun _ => [])
        [.insertOne [("n", .int32 1)], .updateOne [("n__set", .string "x")],
          .updateOne [("n__inc", .int32 2)]]
        { ids := ⟨fun _ => ⟨0⟩, 0⟩ }).documents =
      [[("_id", .objectId ⟨0⟩), ("n", .int32 3)]] ∧
    Schema.normalize ⟨⟨"t"⟩, [{ name := "n", type := .int }]⟩
        [("_id", .objectId ⟨0⟩), ("n", .int32 3)] =
      .ok [("_id", .objectId ⟨0⟩), ("n", .int32 3)] := by
  have hbuild : SchemaDraft.build
      { collection := "t", fields := [{ name := "n", type := .int }] } =
      .ok { collection := ⟨"t"⟩, fields := [{ name := "n", type := .int }] } :=
    SchemaDraft.build_one_field rfl rfl (by decide) rfl
  have hrun : (run { schema := ⟨⟨"t"⟩, [{ name := "n", type := .int }]⟩ } (fun _ => [])
      [.insertOne [("n", .int32 1)], .updateOne [("n__set", .string "x")],
        .updateOne [("n__inc", .int32 2)]]
      { ids := ⟨fun _ => ⟨0⟩, 0⟩ }).documents =
      [[("_id", .objectId ⟨0⟩), ("n", .int32 3)]] := by rfl
  have hconform := stored_documents_conform hbuild [] .reject (fun _ => [])
    [.insertOne [("n", .int32 1)], .updateOne [("n__set", .string "x")],
      .updateOne [("n__inc", .int32 2)]] (s := { ids := ⟨fun _ => ⟨0⟩, 0⟩ }) rfl
  refine ⟨hrun, (hconform _ ?_).1⟩
  rw [hrun]
  exact List.mem_singleton_self _

end WriteCall

end DocMapper
