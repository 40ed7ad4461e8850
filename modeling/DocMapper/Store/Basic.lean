import DocMapper.Index
import DocMapper.Pipeline.Stage

namespace DocMapper

/-! # The store

A collection in memory: its documents in the order in which they were inserted, its indexes, and
the source of fresh identifiers. An operation answers or fails, and in both cases says what the
store holds afterwards: a batch that fails half way leaves what it did before.
-/

/-- A supply of identifiers, and how many of them are used up. -/
structure IdSource where
  stream : Nat → ObjectId
  drawn : Nat := 0

namespace IdSource

/-- A fresh identifier. -/
def fresh (ids : IdSource) : ObjectId := ids.stream ids.drawn

/-- The supply without its next identifier. -/
def advance (ids : IdSource) : IdSource := { ids with drawn := ids.drawn + 1 }

end IdSource

/-- What a collection holds. -/
structure Collection where
  documents : List Document := []
  indexes : List Index := [Index.primary]

/-- A collection with a supply of identifiers. -/
structure Store extends Collection where
  ids : IdSource

/-- An operation: an answer or an error, and the store afterwards. -/
abbrev Action := ExceptT Error (StateM Store)

namespace Action

/-- An operation that changes nothing when it fails. -/
def atomic {α : Type} (run : Store → Except Error (α × Store)) : Action α := fun s =>
  match run s with
  | .ok (a, s) => (.ok a, s)
  | .error e => (.error e, s)

/-- An operation that only reads. -/
def read {α : Type} (answer : Store → Except Error α) : Action α := fun s => (answer s, s)

/-- A check that needs no store. -/
def check {α : Type} (result : Except Error α) : Action α := fun s => (result, s)

end Action

/-- What an update did. -/
structure UpdateReport where
  matched : Nat := 0
  modified : Nat := 0
  /-- The identifier of the document that an upsert created. -/
  upsertedId? : Option Value := none

namespace UpdateReport

/-- Counts one more document. -/
def count (o : UpdateReport) (changed : Bool) : UpdateReport :=
  { o with matched := o.matched + 1, modified := o.modified + changed.toNat }

end UpdateReport

namespace Document

/-- A document has an identifier equal to the given one. -/
def hasId (id : Value) (d : Document) : Bool := (id? d).any (·.equals id)

/-- Reads documents: those that the filter selects, sorted and paged. -/
def find (filter : Document) (options : ReadOptions) (docs : List Document) :
    Except Error (List Document) := do
  let selected ← select filter docs
  let sorted := match options.sort? with
    | some sort => sortBy sort selected
    | none => selected
  return page options sorted

/-- The fields of a document that the options ask for. -/
def shaped (options : ReadOptions) (d : Document) : Document :=
  match options.projection? with
  | some projection => project projection d
  | none => d

/-- Where the first document stands that reading would give. It is found again by its
identifier. -/
def target (filter : Document) (options : ReadOptions) (docs : List Document) :
    Except Error (Option Nat) := do
  let found ← find filter options.single docs
  return do
    let id ← id? (← found.head?)
    docs.findIdx? (hasId id)

/-- Updates the selected documents in place, all or the first. It stops at the first document that
fails, and keeps what was done before. -/
def updateEach (filter update : Document) (many : Bool) :
    List Document → Except Error UpdateReport × List Document
  | [] => (.ok {}, [])
  | d :: rest =>
    match satisfies d filter with
    | .error e => (.error e, d :: rest)
    | .ok false =>
      let (outcome, after) := updateEach filter update many rest
      (outcome, d :: after)
    | .ok true =>
      match updated d update with
      | .error e => (.error e, d :: rest)
      | .ok next =>
        let changed := !beq next d
        if many then
          let (outcome, after) := updateEach filter update many rest
          (outcome.map (·.count changed), next :: after)
        else (.ok (UpdateReport.count {} changed), next :: rest)

/-- Replaces the first selected document in place. Without one there is nothing to say. -/
def replaceFirst (filter replacement : Document) :
    List Document → Except Error (Option UpdateReport × List Document)
  | [] => .ok (none, [])
  | d :: rest => do
    if ← satisfies d filter then
      let next ← replace d replacement
      return (some (UpdateReport.count {} (!beq next d)), next :: rest)
    else
      let (outcome, after) ← replaceFirst filter replacement rest
      return (outcome, d :: after)

/-- Takes the first selected document out of a list. -/
def removeFirst (filter : Document) : List Document → Except Error (Nat × List Document)
  | [] => .ok (0, [])
  | d :: rest => do
    if ← satisfies d filter then return (1, rest)
    else
      let (count, after) ← removeFirst filter rest
      return (count, d :: after)

/-- Takes all selected documents out of a list. -/
def removeAll (filter : Document) : List Document → Except Error (Nat × List Document)
  | [] => .ok (0, [])
  | d :: rest => do
    let selected ← satisfies d filter
    let (count, after) ← removeAll filter rest
    return if selected then (count + 1, after) else (count, d :: after)

/-- The values that a document adds to the distinct ones of a path: the items of a list, or the
value alone. -/
def valuesAt (path : String) (d : Document) : List Value :=
  match getPath? d path with
  | some (.array items) => items
  | some value => [value]
  | none => []

/-- Values without those that equal an earlier one. -/
def distinctValues (values : List Value) : List Value :=
  values.foldl (fun out v => if out.any (·.equals v) then out else out ++ [v]) []

end Document

namespace Store

/-- Adds a document at the end, its identifier first. Without an identifier it gets a fresh one;
an identifier in use is refused. -/
def insert (s : Store) (d : Document) : Except Error (Value × Store) :=
  let (id, ids) := match Document.id? d with
    | some id => (id, s.ids)
    | none => (Value.objectId s.ids.fresh, s.ids.advance)
  if s.documents.any (Document.hasId id) then .error (.driver (.duplicateId id))
  else
    let stored : Document := (Document.idKey, id) :: Document.erase d Document.idKey
    .ok (id, { s with documents := s.documents ++ [stored], ids })

/-- The matching documents, as the options ask for them. -/
def find (s : Store) (filter : Document) (options : ReadOptions) :
    Except Error (List Document) := do
  return (← Document.find filter options s.documents).map (Document.shaped options)

/-- The first matching document. -/
def findOne (s : Store) (filter : Document) (options : ReadOptions) :
    Except Error (Option Document) := do
  return (← s.find filter options.single).head?

/-- How many documents match. -/
def count (s : Store) (filter : Document) : Except Error Nat := do
  return (← Document.select filter s.documents).length

/-- The distinct values at a path of the matching documents, in order of first occurrence. -/
def distinct (s : Store) (path : String) (filter : Document) : Except Error (List Value) := do
  let selected ← Document.select filter s.documents
  return Document.distinctValues (selected.flatMap (Document.valuesAt path))

/-- Replaces the document at a position, or creates one; `change` and `create` say how. The answer
is the document afterwards, as the options ask for it. -/
def modifyOne (s : Store) (filter : Document) (options : ReadOptions) (upsert : Bool)
    (change : Document → Except Error Document) (create : Except Error Document) :
    Except Error (Option Document × Store) := do
  let position ← Document.target filter options s.documents
  match position.bind fun i => s.documents[i]?.map (i, ·) with
  | some (i, d) =>
    let next ← change d
    return (some (Document.shaped options next), { s with documents := s.documents.set i next })
  | none =>
    if upsert then
      let (id, s) ← s.insert (← create)
      return ((s.documents.find? (Document.hasId id)).map (Document.shaped options), s)
    else return (none, s)

/-- Updates the first matching document in the order of the options. -/
def findOneAndUpdate (s : Store) (filter update : Document) (options : ReadOptions)
    (upsert : Bool) : Except Error (Option Document × Store) := do
  Document.requireOperators update
  s.modifyOne filter options upsert (Document.updated · update)
    (Document.upserted filter update)

/-- Replaces the first matching document in the order of the options. -/
def findOneAndReplace (s : Store) (filter replacement : Document) (options : ReadOptions)
    (upsert : Bool) : Except Error (Option Document × Store) := do
  Document.refuseOperators replacement
  s.modifyOne filter options upsert (Document.replace · replacement)
    (Document.upsertedReplacement filter replacement)

/-- Replaces the first matching document in the order of storage. -/
def replaceOne (s : Store) (filter replacement : Document) (upsert : Bool) :
    Except Error (UpdateReport × Store) := do
  Document.refuseOperators replacement
  let (outcome, documents) ← Document.replaceFirst filter replacement s.documents
  match outcome with
  | some outcome => return (outcome, { s with documents })
  | none =>
    if upsert then
      let (id, s) ← s.insert (← Document.upsertedReplacement filter replacement)
      return ({ upsertedId? := some id }, s)
    else return ({}, s)

/-- Removes the first matching document. -/
def deleteOne (s : Store) (filter : Document) : Except Error (Nat × Store) := do
  let (count, documents) ← Document.removeFirst filter s.documents
  return (count, { s with documents })

/-- Removes all matching documents. -/
def deleteMany (s : Store) (filter : Document) : Except Error (Nat × Store) := do
  let (count, documents) ← Document.removeAll filter s.documents
  return (count, { s with documents })

/-- Creates an index and gives its name. Creating one that exists changes nothing, unless another
index has the name. -/
def createIndex (s : Store) (draft : IndexDraft) : Except Error (String × Store) :=
  let index := draft.toIndex
  if draft.keys.isEmpty then .error (.driver .emptyIndexKeys)
  else
    match s.indexes.find? (·.name = index.name) with
    | some other =>
      if other.same index then .ok (index.name, s)
      else .error (.driver (.indexConflict index.name))
    | none => .ok (index.name, { s with indexes := s.indexes ++ [index] })

/-- Drops the index with a name; the index on identifiers stays. -/
def dropIndex (s : Store) (name : String) : Except Error (Unit × Store) :=
  if name = Index.primaryName then .error (.driver .primaryIndex)
  else if s.indexes.any (·.name = name) then
    .ok ((), { s with indexes := s.indexes.filter (·.name ≠ name) })
  else .error (.driver (.noIndex name))

end Store

namespace Action

/-- Inserts a document and gives its identifier. -/
def insertOne (d : Document) : Action Value := atomic (·.insert d)

/-- Inserts documents in order. It stops at the first that is refused, and keeps those before. -/
def insertMany (docs : List Document) : Action (List Value) := docs.mapM insertOne

/-- Updates matching documents, all or the first; an upsert creates one when there is none. -/
def update (filter update : Document) (upsert many : Bool) : Action UpdateReport := do
  check (Document.requireOperators update)
  let outcome ← (fun s =>
    let (outcome, documents) := Document.updateEach filter update many s.documents
    (outcome, { s with documents }) : Action UpdateReport)
  if outcome.matched = 0 ∧ upsert then
    let id ← insertOne (← check (Document.upserted filter update))
    return { outcome with upsertedId? := some id }
  else return outcome

/-- Updates the first matching document in the order of storage. -/
def updateOne (filter changes : Document) (upsert : Bool) : Action UpdateReport :=
  update filter changes upsert false

/-- Updates all matching documents. -/
def updateMany (filter changes : Document) (upsert : Bool) : Action UpdateReport :=
  update filter changes upsert true

/-- The indexes. -/
def indexes : Action (List Index) := fun s => (.ok s.indexes, s)

/-- Removes all documents and keeps the indexes. -/
def clear : Action Unit := fun s => (.ok (), { s with documents := [] })

/-- Removes all documents and all indexes but the one on identifiers. -/
def drop : Action Unit := fun s =>
  (.ok (), { s with documents := [], indexes := [Index.primary] })

/-- The answer of a pipeline. `collection` gives the documents of the other collections. -/
def aggregate (collection : String → List Document) (pipeline : List Document) :
    Action (List Document) :=
  read fun s => Stage.runAll collection pipeline s.documents

end Action

end DocMapper
