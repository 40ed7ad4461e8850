import DocMapper.Pipeline.Summary
import DocMapper.ReadOptions

namespace DocMapper

/-! # Joins

The pipeline that attaches the documents of another collection to the matching documents.
-/

/-- Where a join takes related documents from, and how it attaches them. -/
structure Join where
  localField : String
  /-- The field of the related collection, its identifier unless given. -/
  foreignField? : Option String := none
  /-- The output field, named like the related collection unless given. -/
  output? : Option String := none
  /-- One row for each related document. -/
  unwind : Bool := false

namespace Join

/-- The output field of a join with the given collection. -/
def output (j : Join) (source : String) : String := j.output?.getD source

/-- The stage that attaches the related documents as a list. -/
def attaching (j : Join) (source : String) : Document :=
  [("$lookup", .document [
    ("from", .string source),
    ("localField", .string j.localField),
    ("foreignField", .string (j.foreignField?.getD Document.idKey)),
    ("as", .string (j.output source))])]

/-- The stages that skip and limit rows. A limit that is not positive is none. -/
def paging (options : ReadOptions) : List Document :=
  (match options.skip? with
    | some n => [[("$skip", .int64 (Int64.ofNat n))]]
    | none => []) ++
  (match options.limit? with
    | some n => if 0 < n then [[("$limit", .int64 (Int64.ofInt n))]] else []
    | none => [])

/-- Joins a collection to the matching documents, keeps the given fields and the related documents,
sorts, and then unwinds and pages as asked. -/
def pipeline (j : Join) (source : String) (fields : List String) (filter : Document)
    (options : ReadOptions) : List Document :=
  let output := j.output source
  let kept := Document.ofEntries ((fields ++ [output]).map fun field => (field, .int32 1))
  let sort := options.sort?.getD ReadOptions.idSort
  [Pipeline.matching filter, j.attaching source, [("$project", .document kept)],
    [("$sort", .document sort)]] ++
    (if j.unwind then [[("$unwind", .ofField output)]] else []) ++ paging options

end Join

end DocMapper
