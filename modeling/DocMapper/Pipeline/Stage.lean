import DocMapper.ReadOptions
import DocMapper.Pipeline.Group
import DocMapper.Update

namespace DocMapper

/-! # Aggregation pipelines

A pipeline sends the documents of a collection through stages. A stage is written as a document
with the name of the stage as its first key; it is read when the documents reach it.
-/

/-- A stage of a pipeline. -/
inductive Stage where
  | filter (filter : Document)
  | group (expression : Value) (fields : List GroupField)
  /-- Joins the documents of another collection whose foreign field equals the local field. -/
  | lookup (source localField foreignField output : String)
  | project (projection : Document)
  /-- One document for each item of a list. Documents without items are dropped, or kept without
  the list. -/
  | unwind (path : String) (keepsEmpty : Bool)
  | sort (sort : Document)
  | skip (count : Nat)
  | limit (count : Nat)

namespace Stage

/-- Reads the count of a stage. -/
def readCount (name : String) (v : Value) : Except Error Nat :=
  match v.toInt? with
  | some (.ofNat n) => .ok n
  | _ => .error (.driver (.stageCount name))

/-- Reads a text among the arguments of a stage. -/
def readText (name : String) (arguments : Document) (key : String) : Except Error String :=
  match Document.get? arguments key with
  | some (.string s) => .ok s
  | _ => .error (.driver (.stageText name key))

/-- Reads the fields of a group, all entries but the identifier. -/
def readGroupFields (arguments : Document) : Except Error (List GroupField) :=
  (Document.erase arguments Document.idKey).mapM fun (name, accumulator) =>
    match accumulator with
    | .document ((operator, expression) :: _) => .ok { name, operator, expression }
    | _ => .error (.driver (.groupWithoutAccumulator name))

/-- Reads the arguments of a group. -/
def readGroup (arguments : Document) : Except Error Stage :=
  match Document.id? arguments with
  | some expression => do return group expression (← readGroupFields arguments)
  | none => .error (.driver .groupWithoutId)

/-- Reads the arguments of a lookup. -/
def readLookup (name : String) (arguments : Document) : Except Error Stage := do
  let source ← readText name arguments "from"
  let localField ← readText name arguments "localField"
  let foreignField ← readText name arguments "foreignField"
  let output ← readText name arguments "as"
  return lookup source localField foreignField output

/-- Reads a path with a dollar sign before it. -/
def readUnwindPath (text : String) (keepsEmpty : Bool) : Except Error Stage :=
  match text.toList with
  | '$' :: path => .ok (unwind (String.ofList path) keepsEmpty)
  | _ => .error (.driver .unwindPathDollar)

/-- Reads the arguments of an unwinding. -/
def readUnwind (name : String) (arguments : Value) : Except Error Stage :=
  match arguments with
  | .string text => readUnwindPath text false
  | .document options => do
    let text ← readText name options "path"
    let keepsEmpty := match Document.get? options "preserveNullAndEmptyArrays" with
      | some (.bool b) => b
      | _ => false
    readUnwindPath text keepsEmpty
  | _ => .error (.driver .unwindPath)

/-- Reads a stage from its document. -/
def ofDocument (stage : Document) : Except Error Stage :=
  match stage with
  | [] => .error (.driver .emptyStage)
  | (name, arguments) :: _ =>
    match name, arguments with
    | "$match", .document d => .ok (filter d)
    | "$group", .document d => readGroup d
    | "$lookup", .document d => readLookup name d
    | "$project", .document d => .ok (project d)
    | "$unwind", v => readUnwind name v
    | "$sort", .document d => .ok (sort d)
    | "$skip", v => (readCount name v).map skip
    | "$limit", v => (readCount name v).map limit
    | _, _ => .error (.driver (.stage name))

/-- The values that a lookup looks for: the items of a list, the value alone, or null when it is
missing. -/
def localValues (d : Document) (path : String) : List Value :=
  match Document.getPath? d path with
  | some (.array items) => items
  | some value => [value]
  | none => [.null]

/-- The foreign documents whose field equals one of the values. -/
def joined (values : List Value) (path : String) (foreign : List Document) : List Document :=
  foreign.filter fun d => values.any (Value.equalsOperand (Document.getPath? d path))

/-- The documents that unwinding makes of one. -/
def unwound (path : String) (keepsEmpty : Bool) (d : Document) : Except Error (List Document) :=
  match Document.getPath? d path with
  | some (.array []) => .ok (if keepsEmpty then [Document.erasePath d path] else [])
  | some (.array items) => items.mapM (Document.write d path)
  | some .null | none => .ok (if keepsEmpty then [d] else [])
  | some _ => .ok [d]

/-- Sends documents through a stage. `collection` gives the documents of the other collections;
one that does not exist has none. -/
def run (collection : String → List Document) (docs : List Document) : Stage →
    Except Error (List Document)
  | filter d => Document.select d docs
  | group expression fields => Document.group expression fields docs
  | lookup source localField foreignField output =>
    let foreign := collection source
    docs.mapM fun d =>
      let found := joined (localValues d localField) foreignField foreign
      Document.write d output (.array (found.map Value.document))
  | project d => .ok (docs.map (Document.project d))
  | unwind path keepsEmpty => do return (← docs.mapM (unwound path keepsEmpty)).flatten
  | sort d => .ok (Document.sortBy d docs)
  | skip count => .ok (docs.drop count)
  | limit count => .ok (docs.take count)

/-- Sends documents through a stage that is still to be read. -/
def runDocument (collection : String → List Document) (docs : List Document) (stage : Document) :
    Except Error (List Document) := do
  (← ofDocument stage).run collection docs

/-- Sends documents through all stages of a pipeline. -/
def runAll (collection : String → List Document) (pipeline docs : List Document) :
    Except Error (List Document) :=
  pipeline.foldlM (runDocument collection) docs

end Stage

end DocMapper
