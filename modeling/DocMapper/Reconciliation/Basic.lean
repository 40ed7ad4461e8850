import DocMapper.ReadOptions
import DocMapper.Schema.Basic
import DocMapper.Value.Identity

namespace DocMapper

/-! # Reconciling instances with stored documents

A batch of instances is matched with stored documents by the values of chosen fields. Instances
with a match become updates of the matching document, the others become inserts. One read finds
the stored documents; everything else happens here.
-/

/-- The update of one stored document. -/
structure PlannedUpdate where
  /-- The place of the instance in the batch. -/
  index : Nat
  id : Value
  filter : Document
  update : Document

/-- The insertion of an instance without a match. -/
structure PlannedInsert where
  index : Nat
  document : Document

/-- What is to be done for a batch. Both lists keep the order of the instances. -/
structure Plan where
  updates : List PlannedUpdate := []
  inserts : List PlannedInsert := []

namespace Plan

/-- Nothing is to be done. -/
def isEmpty (p : Plan) : Bool := p.updates.isEmpty && p.inserts.isEmpty

end Plan

/-- What a batch did. -/
structure BatchSummary where
  matched : Nat := 0
  modified : Nat := 0
  insertedIds : List Value := []

namespace BatchSummary

/-- Adds the counts of a later batch. -/
def add (a b : BatchSummary) : BatchSummary where
  matched := a.matched + b.matched
  modified := a.modified + b.modified
  insertedIds := a.insertedIds ++ b.insertedIds

end BatchSummary

namespace PlannedUpdate

/-- Sets fields of the document with an identifier. -/
def setting (index : Nat) (id : Value) (fields : Document) : PlannedUpdate where
  index := index
  id := id
  filter := [(Document.idKey, id)]
  update := [("$set", .document fields)]

end PlannedUpdate

namespace Document

/-- The entries of the given keys, in their order; absent keys are left out. -/
def pick (d : Document) (keys : List String) : Document :=
  ofEntries (keys.filterMap fun key => (get? d key).map fun value => (key, value))

/-- An identifier of 24 hexadecimal digits becomes an object identifier. -/
def readId (d : Document) : Document :=
  d.map fun (key, value) => if key = idKey then (key, value.readId) else (key, value)

/-- Updates the given fields of every instance, found by its identifier. -/
def planUpdates (schema : Schema) (fields : List String) (instances : List Document) :
    Except Error (List PlannedUpdate) := do
  if fields.isEmpty then .error (.validation .noUpdatedFields)
  else
    schema.checkDeclared fields
    instances.zipIdx.mapM fun (d, index) =>
      match id? d with
      | none | some .null => .error (.reconciliation (.noId index))
      | some id => .ok (.setting index id (pick d fields))

end Document

/-- Matches instances with stored documents by their values of the query fields. -/
structure Reconciler where
  schema : Schema
  queryFields : List String
  /-- The fields that updates set: all but the identifier unless given. -/
  updateFields? : Option (List String) := none

namespace Reconciler

/-- A reconciler needs declared query fields, and at least one. -/
def make (schema : Schema) (queryFields : List String) (updateFields? : Option (List String)) :
    Except Error Reconciler := do
  if queryFields.isEmpty then .error (.validation .noQueryFields)
  else
    schema.checkDeclared queryFields
    return { schema, queryFields, updateFields? }

/-- An instance has a value other than null for every query field. -/
def checkInstance (r : Reconciler) (d : Document) (index : Nat) : Except Error Unit :=
  r.queryFields.forM fun field =>
    match Document.get? d field with
    | none | some .null => .error (.reconciliation (.noValue index field))
    | some _ => .ok ()

/-- All instances can be matched, and the update fields are declared. -/
def checkBatch (r : Reconciler) (instances : List Document) : Except Error Unit := do
  instances.zipIdx.forM fun (d, index) => r.checkInstance d index
  match r.updateFields? with
  | some fields => r.schema.checkDeclared fields
  | none => .ok ()

/-- The value that is looked for in a field: identifiers are parsed. -/
def comparand (field : String) (value : Value) : Value :=
  if field = Document.idKey then value.readId else value

/-- The identities of the query fields. Without a value in one of them there are none. -/
def key? (r : Reconciler) (d : Document) : Option (List Identity) :=
  r.queryFields.mapM fun field =>
    match Document.get? d field with
    | none | some .null => none
    | some value => some (comparand field value).identity

/-- The instances without those whose key occurs before, and without those that have no key. -/
def distinctKeys (r : Reconciler) (seen : List (List Identity)) : List Document → List Document
  | [] => []
  | d :: rest =>
    match r.key? d with
    | none => distinctKeys r seen rest
    | some key =>
      if key ∈ seen then distinctKeys r seen rest else d :: distinctKeys r (key :: seen) rest

/-- The entries of the query fields with what is looked for in them. -/
def clause (r : Reconciler) (d : Document) : Document :=
  Document.ofEntries (r.queryFields.filterMap fun field =>
    (Document.get? d field).map fun value => (field, comparand field value))

/-- Selects every stored document that may match an instance (`match_filter`). -/
def candidateFilter (r : Reconciler) (instances : List Document) : Document :=
  let distinct := r.distinctKeys [] instances
  match r.queryFields with
  | [field] =>
    let values := distinct.filterMap fun d => (Document.get? d field).map (comparand field)
    [(field, .document [("$in", .array values)])]
  | _ => [("$or", .array (distinct.map fun d => .document (r.clause d)))]

/-- Reads the identifier and the query fields only. -/
def projection (r : Reconciler) : ReadOptions := ({} : ReadOptions).project r.queryFields

/-- The fields that an update sets. -/
def written (r : Reconciler) (d : Document) : Document :=
  match r.updateFields? with
  | some fields => Document.pick d fields
  | none => Document.erase d Document.idKey

/-- The identifier of the first stored document with a key. -/
def stored? (r : Reconciler) (persisted : List Document) (key : List Identity) : Option Value :=
  persisted.findSome? fun d => if r.key? d = some key then Document.id? d else none

/-- The identifier of the stored document that an instance matches. -/
def partner? (r : Reconciler) (persisted : List Document) (d : Document) : Option Value :=
  (r.key? d).bind (r.stored? persisted)

/-- Puts an instance into the plan. -/
def assign (r : Reconciler) (persisted : List Document) (plan : Plan) (entry : Document × Nat) :
    Plan :=
  let (d, index) := entry
  match r.partner? persisted d with
  | some id => { plan with updates := plan.updates ++ [.setting index id (r.written d)] }
  | none => { plan with inserts := plan.inserts ++ [⟨index, Document.readId d⟩] }

/-- Splits instances into updates and inserts, given the stored documents (`partition`). Of stored
documents with one key the first counts; instances that share a key without a match are all
inserted. -/
def plan (r : Reconciler) (instances persisted : List Document) : Plan :=
  instances.zipIdx.foldl (r.assign persisted) {}

end Reconciler

end DocMapper
