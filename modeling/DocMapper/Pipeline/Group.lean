import DocMapper.Filter

namespace DocMapper

/-! # Grouping

Documents are grouped by the value of an expression, and each group is summed up by accumulators.
Groups stand in the order in which their values first occur.
-/

mutual

/-- The value of an expression in a document: a text that starts with `$` reads a path, a plain
document evaluates each of its values and leaves out missing ones, and anything else stands for
itself. -/
def Value.evalIn (d : Document) : (expression : Value) → Option Value
  | .string s =>
    match s.toList with
    | '$' :: path => Document.getPath? d (String.ofList path)
    | _ => some (.string s)
  | .document fields =>
    if Value.isOperators (.document fields) then some (.document fields)
    else some (.document (evalFieldsIn d fields))
  | v => some v

/-- Evaluates the values of a document. -/
def Value.evalFieldsIn (d : Document) : (fields : List (String × Value)) → Document
  | [] => []
  | (key, expression) :: rest =>
    match expression.evalIn d with
    | some value => (key, value) :: evalFieldsIn d rest
    | none => evalFieldsIn d rest

end

/-- A way to sum up values. -/
inductive Accumulator where
  | sum
  | max
  | min
  | avg
  deriving DecidableEq

namespace Accumulator

/-- The name of the accumulator. -/
def name : Accumulator → String
  | sum => "sum"
  | max => "max"
  | min => "min"
  | avg => "avg"

/-- The operator that stands for the accumulator in pipelines. -/
def key (a : Accumulator) : String := "$" ++ a.name

/-- The accumulator that an operator stands for. -/
def ofKey? (key : String) : Option Accumulator :=
  [sum, max, min, avg].find? (·.key = key)

/-- Adds a value to a sum; what cannot be added is left out. -/
def addTo (total value : Value) : Value := (total.add? value).getD total

/-- The first value that no other value surpasses on the given side. -/
def extreme (side : Ordering) (values : List Value) : Value :=
  let best := values.foldl (fun best value =>
    match best with
    | none => some value
    | some b => if Value.order (some value) (some b) = side then some value else some b) none
  best.getD .null

/-- The mean of the numbers among the values, null when there are none. -/
def mean (values : List Value) : Value :=
  let numbers := values.filterMap (·.toDouble?)
  if numbers.isEmpty then .null
  else .double ((numbers.foldl Double.add (.zero false)).divideBy numbers.length)

/-- Sums up values. -/
def total (accumulator : Accumulator) (values : List Value) : Value :=
  match accumulator with
  | sum => values.foldl addTo (.int32 0)
  | max => extreme .gt values
  | min => extreme .lt values
  | avg => mean values

/-- The values that an expression has in documents, missing ones and nulls left out. -/
def valuesOf (expression : Value) (docs : List Document) : List Value :=
  docs.filterMap fun d => (expression.evalIn d).filter fun v => !v.isNull

end Accumulator

/-- A field of the result of grouping: its name, the operator of its accumulator, and what is
accumulated. -/
structure GroupField where
  name : String
  operator : String
  expression : Value

namespace GroupField

/-- The field of a group of documents. An unknown accumulator is an error. -/
def entry (f : GroupField) (docs : List Document) : Except Error (String × Value) :=
  match Accumulator.ofKey? f.operator with
  | some accumulator => .ok (f.name, accumulator.total (Accumulator.valuesOf f.expression docs))
  | none => .error (.driver (.accumulator f.operator))

end GroupField

namespace Document

/-- Adds a document to the group of its value, or starts a group with it. -/
def addToGroup (value : Value) (d : Document) :
    List (Value × List Document) → List (Value × List Document)
  | [] => [(value, [d])]
  | (v, docs) :: rest =>
    if v.equals value then (v, docs ++ [d]) :: rest else (v, docs) :: addToGroup value d rest

/-- The groups of documents with equal values of an expression. A missing value groups as null. -/
def groupsBy (expression : Value) (docs : List Document) : List (Value × List Document) :=
  docs.foldl (fun groups d => addToGroup ((expression.evalIn d).getD .null) d groups) []

/-- One document for each group: its value, and its fields. -/
def group (expression : Value) (fields : List GroupField) (docs : List Document) :
    Except Error (List Document) :=
  (groupsBy expression docs).mapM fun (value, members) => do
    return (idKey, value) :: (← fields.mapM (·.entry members))

end Document

end DocMapper
