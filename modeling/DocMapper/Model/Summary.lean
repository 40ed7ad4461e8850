import DocMapper.Pipeline.Join
import DocMapper.Model.Basic

namespace DocMapper

/-! # Models: summaries and joins

Counts and totals of declared fields, and the join of a related model. `collection` gives the
documents of the other collections.
-/

/-- An instance with the related instances that were joined to it. -/
structure JoinedRow where
  inst : Document
  related : List Document

namespace Model

/-- How many matching documents there are for each value of a field (`aggregate_count`). -/
def countBy (m : Model) (collection : String → List Document) (field : String)
    (kwargs : Document) : Action (List (Value × Nat)) := do
  let _ ← .check (m.schema.declared field)
  let filter ← .check (m.filter kwargs)
  return Pipeline.countsOf (← Action.aggregate collection (Pipeline.countBy field filter))

/-- The total of a field over the matching documents: `aggregate_sum` and the others of its kind. -/
def total (m : Model) (collection : String → List Document) (t : Total) (kwargs : Document) :
    Action Value := do
  let _ ← .check (m.schema.declared t.field)
  let filter ← .check (m.filter kwargs)
  return Pipeline.totalOf t (← Action.aggregate collection (Pipeline.total t filter))

/-- Fields to summarize are declared, and there is at least one. -/
def requireSome (m : Model) (fields : List String) : Except Error Unit := do
  m.schema.checkDeclared fields
  if fields.isEmpty then .error (.validation .aggregatingWithoutField)

/-- How many matching documents there are for each combination of values
(`aggregate_multiply_count`). -/
def countByAll (m : Model) (collection : String → List Document) (fields : List String)
    (kwargs : Document) : Action (List (Document × Nat)) := do
  .check (m.requireSome fields)
  let filter ← .check (m.filter kwargs)
  return Pipeline.countsByAllOf
    (← Action.aggregate collection (Pipeline.countByAll fields filter))

/-- Several totals over the matching documents (`aggregate_multiply_math`), each under its own
key. -/
def totals (m : Model) (collection : String → List Document) (ts : List Total)
    (kwargs : Document) : Action Document := do
  .check (m.requireSome (ts.map (·.field)))
  let filter ← .check (m.filter kwargs)
  return Pipeline.totalsOf ts (← Action.aggregate collection (Pipeline.totals ts filter))

/-- The output field of a join is no field of the model. -/
def checkOutput (m : Model) (output : String) : Except Error Unit :=
  if (m.schema.field? output).isSome then
    .error (.validation (.lookupCollision output m.schema.name))
  else .ok ()

/-- Reads the documents joined under the output field. -/
def readJoined (related : Model) (output : String) : Option Value → Except Error (List Document)
  | some (.array items) =>
    items.mapM fun item =>
      match item with
      | .document d => related.decode d
      | _ => .error (.deserialization (.joinedNotDocument output item))
  | some (.document d) => return [← related.decode d]
  | _ => .ok []

/-- Reads a row of a join. -/
def readRow (m related : Model) (output : String) (row : Document) : Except Error JoinedRow := do
  let joined ← readJoined related output (Document.get? row output)
  return { inst := ← m.decode (Document.erase row output), related := joined }

/-- Joins a related model to the matching instances (`aggregate_lookup`). The options sort, skip and
limit the rows. -/
def join (m : Model) (collection : String → List Document) (related : Model) (j : Join)
    (kwargs : Document) (options : ReadOptions) : Action (List JoinedRow) := do
  let _ ← .check (m.schema.declared j.localField)
  .check (related.schema.checkDeclared j.foreignField?.toList)
  let source := related.schema.name
  let output := j.output source
  .check (m.checkOutput output)
  let filter ← .check (m.filter kwargs)
  let pipeline := j.pipeline source m.schema.fieldNames filter options
  .check ((← Action.aggregate collection pipeline).mapM (m.readRow related output))

end Model

end DocMapper
