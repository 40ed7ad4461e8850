import DocMapper.Query
import DocMapper.Store.Basic

namespace DocMapper

/-! # Models

A model is a kind of instances, and works on the collection that stores them. Callers say what
they want in keyword arguments, and every call is lowered and checked before the store is touched.
-/

/-- A kind of instances: a schema, the fields without which a document is no instance, and what
unknown operators mean. -/
structure Model where
  schema : Schema
  required : List String := []
  policy : SuffixPolicy := .reject

namespace Model

/-- Reads a document as an instance. This is the reading that a model has unless it brings its own,
on instances that keep every value they are given: it can only miss a required field, and any error
of it is one of deserialization. -/
def decode (m : Model) (d : Document) : Except Error Document :=
  match m.required.find? fun field => !Document.hasKey d field with
  | some field => .error (.deserialization (.missingField field))
  | none => .ok d

/-- The document that stores an instance, written as a model writes it unless it brings its own
writing: every value is kept, an identifier of null is none, and the schema checks the rest. -/
def encode (m : Model) (inst : Document) : Except Error Document :=
  let d := match Document.id? inst with
    | some .null => Document.erase inst Document.idKey
    | _ => inst
  m.schema.normalize d

/-- The lowering of the model's keyword arguments. -/
def lowering (m : Model) : Lowering := { schema? := some m.schema, policy := m.policy }

/-- An instance with the identifier that the store gave it. Only object identifiers are put into
instances. -/
def withId (d : Document) (id : Value) : Document :=
  match id with
  | .objectId _ => Document.insert d Document.idKey id
  | _ => d

/-- The filter of keyword arguments. -/
def filter (m : Model) (kwargs : Document) : Except Error Document := m.lowering.filter kwargs

/-- The first matching instance in the order of the options. -/
def first (m : Model) (filter : Document) (options : ReadOptions) : Action (Option Document) := do
  match ← Action.read (·.findOne filter options.ordered) with
  | some d => return some (← .check (m.decode d))
  | none => return none

/-- The matching instances in the order of the options. -/
def all (m : Model) (filter : Document) (options : ReadOptions) : Action (List Document) := do
  .check ((← Action.read (·.find filter options.ordered)).mapM m.decode)

/-! ## Reading -/

/-- The matching instances, by identifier unless the options sort. -/
def find (m : Model) (kwargs : Document) (options : ReadOptions) : Action (List Document) := do
  m.all (← .check (m.filter kwargs)) options

/-- The first matching instance, by identifier unless the options sort. -/
def findOne (m : Model) (kwargs : Document) (options : ReadOptions) :
    Action (Option Document) := do
  m.first (← .check (m.filter kwargs)) options

/-- How many instances match, and one page of them. -/
def findAndCount (m : Model) (kwargs : Document) (options : ReadOptions) :
    Action (Nat × List Document) := do
  let filter ← .check (m.filter kwargs)
  let count ← Action.read (·.count filter)
  return (count, ← m.all filter options)

/-- The first matching instance by identifier. It is an error that there is none. -/
def get (m : Model) (kwargs : Document) : Action Document := do
  let filter ← .check (m.filter kwargs)
  match ← m.first filter {} with
  | some d => return d
  | none => throw (.doesNotExist m.schema.name filter)

/-- How many instances match. -/
def count (m : Model) (kwargs : Document) : Action Nat := do
  let filter ← .check (m.filter kwargs)
  .read (·.count filter)

/-- The distinct values of a declared field. -/
def distinct (m : Model) (field : String) (kwargs : Document) : Action (List Value) := do
  let _ ← .check (m.schema.declared field)
  let filter ← .check (m.filter kwargs)
  .read (·.distinct field filter)

/-- The instances that a combined query selects. -/
def findQuery (m : Model) (query : Query) (options : ReadOptions) : Action (List Document) := do
  m.all (← .check (query.toFilter m.lowering)) options

/-- How many instances a combined query selects. -/
def countQuery (m : Model) (query : Query) : Action Nat := do
  let filter ← .check (query.toFilter m.lowering)
  .read (·.count filter)

/-- Removes the instances that a combined query selects. -/
def deleteQuery (m : Model) (query : Query) : Action Nat := do
  let filter ← .check (query.toFilter m.lowering)
  .atomic (·.deleteMany filter)

/-! ## Writing -/

/-- Inserts an instance. The answer is its identifier, and the instance with it. -/
def insertOne (m : Model) (inst : Document) : Action (Value × Document) := do
  let id ← Action.insertOne (← .check (m.encode inst))
  return (id, withId inst id)

/-- Inserts instances in order. The answer is their identifiers, and the instances with them. -/
def insertMany (m : Model) (instances : List Document) :
    Action (List Value × List Document) := do
  let ids ← Action.insertMany (← .check (instances.mapM m.encode))
  return (ids, instances.zipWith withId ids)

/-- Updates the first matching document. -/
def updateOne (m : Model) (kwargs : Document) : Action UpdateReport := do
  let change ← .check (m.lowering.update kwargs)
  Action.updateOne change.filter change.update false

/-- Updates all matching documents. -/
def updateMany (m : Model) (kwargs : Document) : Action UpdateReport := do
  let change ← .check (m.lowering.update kwargs)
  Action.updateMany change.filter change.update false

/-- Removes the first matching document. -/
def deleteOne (m : Model) (kwargs : Document) : Action Nat := do
  let filter ← .check (m.filter kwargs)
  .atomic (·.deleteOne filter)

/-- Removes all matching documents. -/
def deleteMany (m : Model) (kwargs : Document) : Action Nat := do
  let filter ← .check (m.filter kwargs)
  .atomic (·.deleteMany filter)

/-- Reads the document that a call answers, if there is one. -/
def decodeOption (m : Model) : Option Document → Action (Option Document)
  | some d => do return some (← .check (m.decode d))
  | none => return none

/-- Updates the first matching document in the order of the options, and gives the instance as it
is afterwards. -/
def findOneAndUpdate (m : Model) (kwargs : Document) (options : ReadOptions) (upsert : Bool) :
    Action (Option Document) := do
  let change ← .check (m.lowering.update kwargs)
  m.decodeOption
    (← .atomic (·.findOneAndUpdate change.filter change.update options.ordered upsert))

/-- The filter of a replacement (`replacement_filter`), which must not be left out. -/
def givenFilter (m : Model) (kwargs : Document) : Except Error Document :=
  if kwargs.isEmpty then .error (.validation .replacingWithoutFilter) else m.filter kwargs

/-- What replaces a document: an instance without its identifier. -/
def replacement (m : Model) (inst : Document) : Except Error Document := do
  return Document.erase (← m.encode inst) Document.idKey

/-- Replaces the first matching document in the order of storage. -/
def replaceOne (m : Model) (kwargs inst : Document) (upsert : Bool) :
    Action UpdateReport := do
  let filter ← .check (m.givenFilter kwargs)
  let replacement ← .check (m.replacement inst)
  .atomic (·.replaceOne filter replacement upsert)

/-- Replaces the first matching document in the order of the options, and gives the instance as it
is afterwards. -/
def findOneAndReplace (m : Model) (kwargs inst : Document) (options : ReadOptions)
    (upsert : Bool) : Action (Option Document) := do
  let filter ← .check (m.givenFilter kwargs)
  let replacement ← .check (m.replacement inst)
  m.decodeOption
    (← .atomic (·.findOneAndReplace filter replacement options.ordered upsert))

/-- What keyword arguments say about a new instance: the values of plain equality keys. -/
def seedOf (kwargs : Document) : Except Error Document :=
  kwargs.foldlM (fun seed (key, value) => do
    let k ← Keyword.parse key
    if k.operator = .filter .eq ∧ !k.isNested then
      return Document.insert seed key (if key = Document.idKey then value.readId else value)
    else return seed) []

/-- Adds the values of absent keys. -/
def completed (seed defaults : Document) : Document :=
  defaults.foldl (fun seed (key, value) =>
    if Document.hasKey seed key then seed else Document.insert seed key value) seed

/-- The first matching instance, or a new one made of the equality keys and the defaults. The
answer says whether the instance is new. -/
def getOrCreate (m : Model) (kwargs defaults : Document) : Action (Document × Bool) := do
  let filter ← .check (m.filter kwargs)
  match ← m.first filter {} with
  | some d => return (d, false)
  | none =>
    let seed ← .check (seedOf kwargs)
    let d ← .check (m.schema.normalize (completed seed defaults))
    let inst ← .check (m.decode d)
    let id ← Action.insertOne d
    return (withId inst id, true)

/-! ## Indexes and the collection -/

/-- Creates an index on one declared field. It is an error that its name exists. -/
def addIndex (m : Model) (field : String) (direction : SortDirection) (unique sparse : Bool) :
    Action String := do
  let _ ← .check (m.schema.declared field)
  let draft := { IndexDraft.single field direction with unique, sparse }
  if (← Action.indexes).any (·.name = draft.name) then throw (.index (.present draft.name))
  else .atomic (·.createIndex draft)

/-- The names of indexes that start with the name of a field and an underscore. -/
def indexNames (field : String) (indexes : List Index) : List String :=
  let head := (field ++ "_").toList
  (indexes.map (·.name)).filter fun name =>
    head.isPrefixOf name.toList && name != Index.primaryName

/-- Drops the indexes whose names start with the name of a field and an underscore, except the
index on identifiers. It is an error that there are none. -/
def dropIndex (_ : Model) (field : String) : Action (List String) := do
  let names := indexNames field (← Action.indexes)
  if names.isEmpty then throw (.index (.noneOfField field))
  else
    names.forM fun name => .atomic (·.dropIndex name)
    return names

end Model

end DocMapper
