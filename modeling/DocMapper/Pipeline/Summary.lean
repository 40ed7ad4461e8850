import DocMapper.Pipeline.Group

namespace DocMapper

/-! # Summaries of documents

Pipelines that count documents by the values of fields or that total fields, and the reading of the
rows which they give.
-/

/-- The expression that reads a field. -/
def Value.ofField (field : String) : Value := .string ("$" ++ field)

/-- A total of a field over documents. -/
structure Total where
  field : String
  accumulator : Accumulator
  deriving DecidableEq

namespace Total

/-- The key of the total in a row. -/
def key (t : Total) : String := t.field ++ "__" ++ t.accumulator.name

/-- What accumulates the total in a group. -/
def expression (t : Total) : Value := .document [(t.accumulator.key, .ofField t.field)]

/-- The total of no documents. -/
def ofNone (t : Total) : Value := t.accumulator.total []

end Total

namespace Pipeline

/-- The stage that lets the matching documents through. -/
def matching (filter : Document) : Document := [("$match", .document filter)]

/-- The stage that makes groups by the value of an expression. -/
def grouping (expression : Value) (fields : Document) : Document :=
  [("$group", .document (Document.insertAll [(Document.idKey, expression)] fields))]

/-- The key of the number of documents of a group. -/
def countKey : String := "count"

/-- The key of a total that stands alone in its row. -/
def totalKey : String := "total"

/-- The field of a group that counts its documents. -/
def counting : Document := [(countKey, .document [(Accumulator.sum.key, .int32 1)])]

/-- Counts the matching documents by the values of a field. -/
def countBy (field : String) (filter : Document) : List Document :=
  [matching filter, grouping (.ofField field) counting]

/-- Counts the matching documents by the combined values of several fields. -/
def countByAll (fields : List String) (filter : Document) : List Document :=
  let key := Document.ofEntries (fields.map fun field => (field, Value.ofField field))
  [matching filter, grouping (.document key) counting]

/-- One total of all matching documents. -/
def total (t : Total) (filter : Document) : List Document :=
  [matching filter, grouping .null [(totalKey, t.expression)]]

/-- Several totals of all matching documents, each under its own key. -/
def totals (ts : List Total) (filter : Document) : List Document :=
  [matching filter, grouping .null (ts.map fun t => (t.key, t.expression))]

/-- The bits of a count word. -/
def countWidth : Nat := 64

/-- A count as an unsigned word: negative integers wrap, doubles are cut toward zero and held to
the range. -/
def readCount : Option Value → Nat
  | some (.int32 n) => n.toInt64.toUInt64.toNat
  | some (.int64 n) => n.toUInt64.toNat
  | some (.double x) => x.toUnsigned countWidth
  | _ => 0

/-- The value and the count of each group. -/
def countsOf (rows : List Document) : List (Value × Nat) :=
  rows.map fun row => ((Document.id? row).getD .null, readCount (Document.get? row countKey))

/-- The combined values and the count of each group. -/
def countsByAllOf (rows : List Document) : List (Document × Nat) :=
  (countsOf rows).map fun (key, count) =>
    match key with
    | .document key => (key, count)
    | _ => ([], count)

/-- The total of the only row; without a row, the total of no documents. -/
def totalOf (t : Total) (rows : List Document) : Value :=
  (rows.head?.bind (Document.get? · totalKey)).getD t.ofNone

/-- Takes totals out of a row one by one; a total that is gone, or never was there, is the total of
no documents. -/
def takeTotals (out row : Document) : List Total → Document
  | [] => out
  | t :: rest =>
    let value := (Document.get? row t.key).getD t.ofNone
    takeTotals (Document.insert out t.key value) (Document.erase row t.key) rest

/-- The totals under their keys, in order. -/
def totalsOf (ts : List Total) (rows : List Document) : Document :=
  takeTotals [] (rows.head?.getD []) ts

end Pipeline

end DocMapper
