import DocMapper.Schema.Basic
import DocMapper.Store.Basic

namespace DocMapper

/-! # Calls of the store

Calls bypass the keyword vocabulary. Filters, updates and pipelines go to the
store as they are written, once they are checked for dangerous operators; what is inserted is
checked against the schema, and updates may only name declared fields.
-/

/-- A call of the store. -/
inductive StoreCall where
  | find (filter : Document) (options : ReadOptions)
  | findOne (filter : Document) (options : ReadOptions)
  | count (filter : Document)
  | distinct (field : String) (filter : Document)
  | aggregate (pipeline : List Document)
  | insertOne (document : Document)
  | insertMany (documents : List Document)
  | updateOne (filter update : Document) (upsert : Bool)
  | updateMany (filter update : Document) (upsert : Bool)
  | replaceOne (filter replacement : Document) (upsert : Bool)
  | deleteOne (filter : Document)
  | deleteMany (filter : Document)

/-- The answer to a call. -/
inductive StoreAnswer where
  | documents (docs : List Document)
  | document (doc : Option Document)
  | count (n : Nat)
  | values (values : List Value)
  | insertedIds (ids : List Value)
  | updated (outcome : UpdateReport)
  | deleted (n : Nat)

namespace StoreAnswer

/-- The documents of an answer that consists of documents. -/
def documents? : StoreAnswer → Option (List Document)
  | documents docs => some docs
  | document doc => some doc.toList
  | _ => none

end StoreAnswer

namespace StoreCall

/-- The name of the call. -/
def name : StoreCall → String
  | find _ _ => "find"
  | findOne _ _ => "find_one"
  | count _ => "count"
  | distinct _ _ => "distinct"
  | aggregate _ => "aggregate"
  | insertOne _ => "insert_one"
  | insertMany _ => "insert_many"
  | updateOne _ _ _ => "update_one"
  | updateMany _ _ _ => "update_many"
  | replaceOne _ _ _ => "replace_one"
  | deleteOne _ => "delete_one"
  | deleteMany _ => "delete_many"

/-- An operator of an update is one by its key, applies to paths, and its paths start at declared
fields. -/
def checkOperator (schema : Schema) (entry : String × Value) : Except Error Unit :=
  let (key, fields) := entry
  if isOperatorKey key then
    match fields with
    | .document fields =>
      schema.checkDeclared ((Document.keys fields).map fun path => (Path.ofString path).head)
    | _ => .error (.validation (.operandNotDocument key))
  else .error (.validation (.notUpdateOperator key))

/-- Checks an update: it is safe, it is not empty, and its operators are well formed. -/
def checkChanges (schema : Schema) (update : Document) : Except Error Unit := do
  update.rejectDangerous
  if update.isEmpty then .error (.validation .emptyUpdate)
  else update.forM (checkOperator schema)

/-- Checks a call against the schema; what is inserted comes back in normal form. Callers know this
step as `prepare`. -/
def accept (schema : Schema) (call : StoreCall) : Except Error StoreCall :=
  match call with
  | find filter _ | findOne filter _ | count filter | deleteOne filter | deleteMany filter => do
    filter.rejectDangerous
    return call
  | distinct field filter => do
    let _ ← schema.declared field
    filter.rejectDangerous
    return call
  | aggregate pipeline => do
    pipeline.forM Document.rejectDangerous
    return call
  | insertOne document => do return insertOne (← schema.normalize document)
  | insertMany documents => do return insertMany (← documents.mapM schema.normalize)
  | updateOne filter update _ | updateMany filter update _ => do
    filter.rejectDangerous
    checkChanges schema update
    return call
  | replaceOne filter replacement upsert => do
    filter.rejectDangerous
    let replacement ← schema.normalize (Document.erase replacement Document.idKey)
    return replaceOne filter replacement upsert

/-- Makes the call (`execute`). `collection` gives the documents of the other collections. -/
def perform (collection : String → List Document) : StoreCall → Action StoreAnswer
  | find filter options => do return .documents (← .read (·.find filter options))
  | findOne filter options => do return .document (← .read (·.findOne filter options))
  | count filter => do return .count (← .read (·.count filter))
  | distinct field filter => do return .values (← .read (·.distinct field filter))
  | aggregate pipeline => do return .documents (← Action.aggregate collection pipeline)
  | insertOne document => do return .insertedIds [← Action.insertOne document]
  | insertMany documents => do return .insertedIds (← Action.insertMany documents)
  | updateOne filter update upsert => do return .updated (← Action.updateOne filter update upsert)
  | updateMany filter update upsert => do
    return .updated (← Action.updateMany filter update upsert)
  | replaceOne filter replacement upsert => do
    return .updated (← .atomic (·.replaceOne filter replacement upsert))
  | deleteOne filter => do return .deleted (← .atomic (·.deleteOne filter))
  | deleteMany filter => do return .deleted (← .atomic (·.deleteMany filter))

end StoreCall

end DocMapper
