import DocMapper.Keyword
import DocMapper.Pattern.Parser
import DocMapper.Schema.Basic

namespace DocMapper

/-! # From keywords to filters and updates

A document of keyword arguments becomes a filter document, or a filter and an update. All checks
against the schema happen here, before the store is touched.

The constraints of all keys on one path are gathered before they are written, so that no key
replaces another: an equality alone is written as its value, and anything else as a document of
operators.
-/

/-- What a nested keyword means on a field without nested paths, when its last segment is no
operator. -/
inductive SuffixPolicy where
  /-- It is an error. -/
  | reject
  /-- The whole keyword is the name of a field. -/
  | literal
  deriving DecidableEq

/-- The constraints on one path. -/
structure Conditions where
  equal? : Option Value := none
  /-- Operators with their operands. -/
  operators : Document := []

namespace Conditions

/-- The condition that a filter document holds for the path. -/
def toValue (c : Conditions) : Value :=
  match c.equal? with
  | none => .document c.operators
  | some value =>
    if c.operators.isEmpty then value
    else .document (Document.insertAll [("$eq", value)] c.operators)

end Conditions

/-- Constraints by path, in the order in which the paths first occur. -/
abbrev FilterDraft := List (String × Conditions)

namespace FilterDraft

/-- Changes the constraints on a path. -/
def modify (draft : FilterDraft) (path : String) (change : Conditions → Conditions) : FilterDraft :=
  match draft with
  | [] => [(path, change {})]
  | (p, c) :: rest =>
    if p = path then (p, change c) :: rest else (p, c) :: modify rest path change

/-- Asks for equality. -/
def setEqual (draft : FilterDraft) (path : String) (value : Value) : FilterDraft :=
  modify draft path fun c => { c with equal? := some value }

/-- Adds an operator. -/
def addOperator (draft : FilterDraft) (path key : String) (operand : Value) : FilterDraft :=
  modify draft path fun c => { c with operators := Document.insert c.operators key operand }

/-- The filter document. -/
def toDocument (draft : FilterDraft) : Document := draft.map fun (path, c) => (path, c.toValue)

end FilterDraft

/-- A filter, and the changes for the documents that it selects. -/
structure ScopedUpdate where
  filter : Document
  update : Document

/-- What a keyword addresses. -/
structure Subject where
  path : String
  /-- The declared type, where it applies to the whole path. -/
  type? : Option FieldType
  isId : Bool
  queryable : Bool

namespace Subject

/-- Normalizes an operand and checks it against the declared type. -/
def accept (s : Subject) (check : String → Value → FieldType → Except Error Unit)
    (value : Value) : Except Error Value := do
  value.rejectDangerous
  let value := if s.isId then value.readId else value
  match s.type? with
  | some type => check s.path value type
  | none => .ok ()
  return value

/-- Checks an operand of a comparison. -/
def comparand (s : Subject) (value : Value) : Except Error Value :=
  s.accept FieldType.checkOperand value

/-- Checks a value to be stored. -/
def stored (s : Subject) (value : Value) : Except Error Value := s.accept FieldType.check value

/-- The pattern that a text operator searches for. -/
def patternText (operator : FilterOperator) (text : String) : String :=
  match operator with
  | .startsWith => String.ofList ('^' :: Pattern.escape text.toList)
  | .endsWith => String.ofList (Pattern.escape text.toList ++ ['$'])
  | _ => text

/-- Adds the condition of one keyword to a filter. -/
def constrain (s : Subject) (operator : FilterOperator) (value : Value) (draft : FilterDraft) :
    Except Error FilterDraft :=
  let invalid (cause : Invalid) : Except Error FilterDraft := .error (.validation cause)
  let compareWith (key : String) : Except Error FilterDraft := do
    return draft.addOperator s.path key (← s.comparand value)
  let member (key : String) : Except Error FilterDraft :=
    match value with
    | .array items => do
      return draft.addOperator s.path key (.array (← items.mapM s.comparand))
    | _ => invalid (.membershipNotList s.path value)
  match operator with
  | .eq => do return draft.setEqual s.path (← s.comparand value)
  | .ne => compareWith "$ne"
  | .gt => compareWith "$gt"
  | .gte => compareWith "$gte"
  | .lt => compareWith "$lt"
  | .lte => compareWith "$lte"
  | .inList => member "$in"
  | .notIn => member "$nin"
  | .range =>
    match value with
    | .array [low, high] => do
      let low ← s.comparand low
      let high ← s.comparand high
      return (draft.addOperator s.path "$gte" low).addOperator s.path "$lte" high
    | .array items => invalid (.rangeNotPair s.path items.length)
    | _ => invalid (.rangeNotList s.path value)
  | .present =>
    match value with
    | .bool _ => .ok (draft.addOperator s.path "$exists" value)
    | _ => invalid (.flagNotBool s.path value)
  | .regex | .iregex | .startsWith | .endsWith =>
    match value with
    | .string text =>
      let draft := draft.addOperator s.path "$regex" (.string (patternText operator text))
      .ok (if operator = .iregex then draft.addOperator s.path "$options" (.string "i") else draft)
    | _ => invalid (.patternNotString s.path value)

/-- Checks the amount of an increment, which is an integer. -/
def increment (s : Subject) (key : String) (value : Value) : Except Error Value :=
  if value.isInteger then
    match s.type? with
    | some type => do
      type.check s.path value
      return value
    | none => .ok value
  else .error (.validation (.incrementNotInteger key value))

end Subject

/-- Turns keyword arguments into filters and updates. Without a schema, operators are understood
but fields and values are not checked. -/
structure Lowering where
  schema? : Option Schema := none
  policy : SuffixPolicy := .reject

namespace Lowering

/-- The error that a nested keyword ends in no operator. -/
def unknownOperator (key : String) (k : Keyword) : Error :=
  .query (.unknownOperator k.lastSegment key)

/-- The field that a keyword addresses: its first segment, or the whole of it where the policy
takes nested keywords literally. -/
def fieldOf (l : Lowering) (schema : Schema) (key : String) (k : Keyword) : Except Error Field :=
  if k.isNested then
    match schema.field? k.field with
    | some field =>
      if field.type.isMapping then .ok field
      else if l.policy = .literal then schema.declared k.literal
      else .error (unknownOperator key k)
    | none =>
      if l.policy = .literal then schema.declared k.literal
      else .error (schema.undeclared k.field)
  else
    schema.declared k.field

/-- Finds what a keyword addresses, or resolves it, in the words of the translator (`resolve`). -/
def subject (l : Lowering) (key : String) (k : Keyword) : Except Error Subject :=
  match l.schema? with
  | none =>
    if k.isNested ∧ l.policy = .reject then .error (unknownOperator key k)
    else
      let path := k.literal
      .ok { path, type? := none, isId := path = Document.idKey, queryable := true }
  | some schema => do
    let field ← l.fieldOf schema key k
    let nested := k.isNested && field.name != k.literal
    return {
      path := if nested then k.dotted else field.name
      type? := if nested then none else some field.type
      isId := field.name = Document.idKey
      queryable := field.queryable }

/-- Adds one keyword argument to a filter. -/
def addFilter (l : Lowering) (draft : FilterDraft) (entry : String × Value) :
    Except Error FilterDraft := do
  let (key, value) := entry
  let k ← Keyword.parse key
  let subject ← l.subject key k
  match k.operator with
  | .update _ => .error (.query (.updateInFilter key))
  | .filter operator =>
    if subject.queryable then subject.constrain operator value draft else .ok draft

/-- The filter document of keyword arguments, none of which may write. -/
def filter (l : Lowering) (kwargs : Document) : Except Error Document := do
  return (← kwargs.foldlM l.addFilter []).toDocument

/-- A filter and the changes of an update, as far as they are read. -/
structure UpdateDraft where
  filter : FilterDraft := []
  set : Document := []
  inc : Document := []

/-- Adds one keyword argument to an update. -/
def addUpdate (l : Lowering) (draft : UpdateDraft) (entry : String × Value) :
    Except Error UpdateDraft := do
  let (key, value) := entry
  let k ← Keyword.parse key
  let subject ← l.subject key k
  match k.operator with
  | .update .set =>
    let value ← subject.stored value
    return { draft with set := Document.insert draft.set subject.path value }
  | .update .inc =>
    let value ← subject.increment key value
    return { draft with inc := Document.insert draft.inc subject.path value }
  | .filter operator =>
    if subject.queryable then
      let filter ← subject.constrain operator value draft.filter
      return { draft with filter }
    else return draft

/-- The changes as an update document, which has only the operators in use. -/
def UpdateDraft.changes (draft : UpdateDraft) : Document :=
  (if draft.set.isEmpty then [] else [("$set", .document draft.set)]) ++
    (if draft.inc.isEmpty then [] else [("$inc", .document draft.inc)])

/-- The filter and the update of keyword arguments, at least one of which must write. -/
def update (l : Lowering) (kwargs : Document) : Except Error ScopedUpdate := do
  let draft ← kwargs.foldlM l.addUpdate {}
  if draft.changes.isEmpty then .error (.validation .nothingToUpdate)
  else return { filter := draft.filter.toDocument, update := draft.changes }

end Lowering

end DocMapper
